/-!
# Tables in order of insertion

A table maps keys to values and keeps its keys in the order in which they first came in:
writing to a key that is present changes the value and leaves the key in its place.  The
view of a table is its list of entries; each operation has a lemma about its keys and one
about what `get?` finds afterwards.
-/

namespace Muster

/-- A finite map from texts that remembers the order in which its keys came in. -/
structure Table (α : Type u) where
  entries : List (String × α)
  nodup : (entries.map Prod.fst).Nodup := by simp

namespace Table

variable {α : Type u} {β : Type v}

/-- The keys, oldest first. -/
def keys (t : Table α) : List String :=
  t.entries.map Prod.fst

/-- The values in the order of their keys. -/
def values (t : Table α) : List α :=
  t.entries.map Prod.snd

/-- The table without entries. -/
def empty : Table α where
  entries := []

instance : EmptyCollection (Table α) := ⟨empty⟩

instance : Inhabited (Table α) := ⟨empty⟩

theorem eq_of_entries {t u : Table α} (same : t.entries = u.entries) :
  t = u
  := by
  cases t
  cases u
  cases same
  rfl

theorem nodup_keys (t : Table α) :
  t.keys.Nodup
  := t.nodup

/-- The value found in a list of entries. -/
def lookup (key : String) : List (String × α) → Option α
  | [] => none
  | (k, v) :: r => if k = key then some v else lookup key r

/-- The value of a key. -/
def get? (t : Table α) (key : String) : Option α :=
  lookup key t.entries

/-- Whether a key is present. -/
def contains (t : Table α) (key : String) : Bool :=
  (t.get? key).isSome

/-- Writes to a key of a list of entries, at its place or at the end. -/
def write (key : String) (value : α) : List (String × α) → List (String × α)
  | [] => [(key, value)]
  | (k, v) :: r => if k = key then (k, value) :: r else (k, v) :: write key value r

theorem keys_write (key : String) (value : α) (es : List (String × α)) :
  (write key value es).map Prod.fst
    = if key ∈ es.map Prod.fst then es.map Prod.fst else es.map Prod.fst ++ [key]
  := by
  induction es with
  | nil => simp [write]
  | cons e r ih =>
    obtain ⟨k, v⟩ := e
    rw [write]
    by_cases h : k = key
    · simp [h]
    · simp only [if_neg h, List.map_cons, ih, List.mem_cons, Ne.symm h, false_or]
      split <;> simp

theorem nodup_write {key : String} {value : α} {es : List (String × α)}
    (h : (es.map Prod.fst).Nodup) :
  ((write key value es).map Prod.fst).Nodup
  := by
  rw [keys_write]
  split
  · exact h
  · next hk =>
    rw [List.nodup_append]
    refine ⟨h, by simp, ?_⟩
    intro a ha b hb hab
    simp only [List.mem_singleton] at hb
    subst hb hab
    exact hk ha

theorem lookup_write (key : String) (value : α) (es : List (String × α)) (k : String) :
  lookup k (write key value es) = if k = key then some value else lookup k es
  := by
  induction es with
  | nil => simp only [write, lookup, eq_comm]
  | cons e r ih =>
    obtain ⟨k', v⟩ := e
    simp only [write]
    split
    · next h => subst h; by_cases h : k = k' <;> simp [lookup, h, eq_comm]
    · next h =>
      simp only [lookup, ih]
      by_cases h' : k' = k
      · subst h'; simp [h]
      · simp [h']

/-- Writes to a key: a present key keeps its place, a new one comes last. -/
def insert (t : Table α) (key : String) (value : α) : Table α :=
  ⟨write key value t.entries, nodup_write t.nodup⟩

/-- The keys after a write. -/
theorem keys_insert (t : Table α) (key : String) (value : α) :
  (t.insert key value).keys = if key ∈ t.keys then t.keys else t.keys ++ [key]
  := keys_write key value t.entries

theorem mem_keys_insert {t : Table α} {key : String} {value : α} {k : String} :
  k ∈ (t.insert key value).keys ↔ k = key ∨ k ∈ t.keys
  := by
  rw [keys_insert]
  split
  · next there =>
    refine ⟨.inr, ?_⟩
    rintro (rfl | old)
    · exact there
    · exact old
  · rw [List.mem_append, List.mem_singleton, or_comm]

@[simp]
theorem get?_insert (t : Table α) (key : String) (value : α) (k : String) :
  (t.insert key value).get? k = if k = key then some value else t.get? k
  := lookup_write key value t.entries k

@[simp]
theorem get?_empty (k : String) :
  (empty : Table α).get? k = none
  := rfl

theorem lookup_isSome_iff {key : String} {es : List (String × α)} :
  (lookup key es).isSome ↔ key ∈ es.map Prod.fst
  := by
  induction es with
  | nil => simp [lookup]
  | cons e r ih =>
    obtain ⟨k, v⟩ := e
    by_cases h : k = key
    · simp [lookup, h]
    · simp only [lookup, if_neg h, ih, List.map_cons, List.mem_cons, Ne.symm h, false_or]

/-- A key is present exactly when it stands among the keys. -/
theorem contains_iff {t : Table α} {key : String} :
  t.contains key = true ↔ key ∈ t.keys
  := lookup_isSome_iff

theorem mem_of_lookup {key : String} {value : α} {es : List (String × α)}
    (h : lookup key es = some value) :
  (key, value) ∈ es
  := by
  induction es with
  | nil => simp [lookup] at h
  | cons e r ih =>
    obtain ⟨k, v⟩ := e
    simp only [lookup] at h
    split at h
    · next hk => subst hk; simp_all
    · exact List.mem_cons_of_mem _ (ih h)

theorem lookup_of_mem {key : String} {value : α} {es : List (String × α)}
    (nodup : (es.map Prod.fst).Nodup) (h : (key, value) ∈ es) :
  lookup key es = some value
  := by
  induction es with
  | nil => simp at h
  | cons e r ih =>
    obtain ⟨k, v⟩ := e
    simp only [List.map_cons, List.nodup_cons] at nodup
    rcases List.mem_cons.mp h with heq | h
    · cases heq
      simp [lookup]
    · have hk : k ≠ key := by
        rintro rfl
        exact nodup.1 (List.mem_map.mpr ⟨_, h, rfl⟩)
      simp [lookup, hk, ih nodup.2 h]

/-- What `get?` finds are the entries. -/
theorem get?_eq_some_iff {t : Table α} {key : String} {value : α} :
  t.get? key = some value ↔ (key, value) ∈ t.entries
  := ⟨mem_of_lookup, lookup_of_mem t.nodup⟩

theorem nodup_filter {p : String × α → Bool} {es : List (String × α)}
    (h : (es.map Prod.fst).Nodup) :
  ((es.filter p).map Prod.fst).Nodup
  := h.sublist (List.filter_sublist.map Prod.fst)

/-- The entries that satisfy a test. -/
def filter (p : String → α → Bool) (t : Table α) : Table α :=
  ⟨t.entries.filter fun e => p e.1 e.2, nodup_filter t.nodup⟩

/-- A table without a key. -/
def erase (t : Table α) (key : String) : Table α :=
  t.filter fun k _ => k != key

theorem lookup_filter_ne (key : String) (es : List (String × α)) (k : String) :
  lookup k (es.filter fun e => e.1 != key) = if k = key then none else lookup k es
  := by
  induction es with
  | nil => simp [lookup]
  | cons e r ih =>
    obtain ⟨k', v⟩ := e
    by_cases h : k' = key
    · subst h
      have : (((k', v) :: r).filter fun e => e.1 != k') = r.filter fun e => e.1 != k' := by simp
      rw [this, ih]
      by_cases hk : k = k' <;> simp [lookup, hk, eq_comm]
    · have : (((k', v) :: r).filter fun e => e.1 != key)
          = (k', v) :: r.filter fun e => e.1 != key := by simp [h]
      rw [this, lookup, ih, lookup]
      by_cases hk : k' = k
      · subst hk; simp [h]
      · simp [hk]

@[simp]
theorem get?_erase (t : Table α) (key k : String) :
  (t.erase key).get? k = if k = key then none else t.get? k
  := lookup_filter_ne key t.entries k

theorem keys_erase (t : Table α) (key : String) :
  (t.erase key).keys = t.keys.filter (· != key)
  := by
  simp only [keys, erase, filter, List.filter_map]
  rfl

theorem mem_keys_erase {t : Table α} {key k : String} :
  k ∈ (t.erase key).keys ↔ k ∈ t.keys ∧ k ≠ key
  := by
  rw [keys_erase, List.mem_filter, bne_iff_ne]

/-- The entries of `later` written over a table, one after the other. -/
def insertAll (t : Table α) (later : List (String × α)) : Table α :=
  later.foldl (fun t e => t.insert e.1 e.2) t

/-- The table of a list of entries: of several with one key the last counts. -/
def ofList (es : List (String × α)) : Table α :=
  empty.insertAll es

theorem write_of_not_mem {key : String} {value : α} {es : List (String × α)}
    (new : key ∉ es.map Prod.fst) :
  write key value es = es ++ [(key, value)]
  := by
  induction es with
  | nil => rfl
  | cons e r ih =>
    obtain ⟨k, v⟩ := e
    simp only [List.map_cons, List.mem_cons, not_or] at new
    rw [write, if_neg (Ne.symm new.1), ih new.2]
    rfl

/-- New entries come behind the old ones. -/
theorem entries_insertAll {t : Table α} {later : List (String × α)}
    (nodup : ((t.entries ++ later).map Prod.fst).Nodup) :
  (t.insertAll later).entries = t.entries ++ later
  := by
  induction later generalizing t with
  | nil => simp [insertAll]
  | cons e r ih =>
    have new : e.1 ∉ t.entries.map Prod.fst := by
      rw [List.map_append, List.nodup_append] at nodup
      intro old
      exact nodup.2.2 e.1 old e.1 (by simp) rfl
    have first : (t.insert e.1 e.2).entries = t.entries ++ [e] := write_of_not_mem new
    have rest := ih (t := t.insert e.1 e.2) (by simpa [first] using nodup)
    rw [first, List.append_assoc] at rest
    exact rest

/-- A list in which no key comes twice is the list of entries of its table. -/
theorem entries_ofList {es : List (String × α)} (nodup : (es.map Prod.fst).Nodup) :
  (ofList es).entries = es
  := entries_insertAll nodup

/-- The value of a key changed by a function; an absent key stays absent. -/
def modify (t : Table α) (key : String) (f : α → α) : Table α :=
  match t.get? key with
  | some v => t.insert key (f v)
  | none => t

@[simp]
theorem get?_modify (t : Table α) (key : String) (f : α → α) (k : String) :
  (t.modify key f).get? k = if k = key then (t.get? key).map f else t.get? k
  := by
  unfold modify
  split
  · next h => simp [h]
  · next h => by_cases hk : k = key <;> simp [hk, h]

/-- A table with a function applied to its values. -/
def map (f : α → β) (t : Table α) : Table β where
  entries := t.entries.map fun e => (e.1, f e.2)
  nodup := by
    have : (t.entries.map fun e => (e.1, f e.2)).map Prod.fst = t.keys := by
      simp [keys, Function.comp_def]
    rw [this]
    exact t.nodup

@[simp]
theorem keys_map (f : α → β) (t : Table α) :
  (t.map f).keys = t.keys
  := by
  simp [keys, map, Function.comp_def]

theorem lookup_map (f : α → β) (es : List (String × α)) (key : String) :
  lookup key (es.map fun e => (e.1, f e.2)) = (lookup key es).map f
  := by
  induction es with
  | nil => rfl
  | cons e r ih =>
    simp only [List.map_cons, lookup, ih]
    split <;> rfl

@[simp]
theorem get?_map (f : α → β) (t : Table α) (key : String) :
  (t.map f).get? key = (t.get? key).map f
  := lookup_map f t.entries key

theorem write_map (f : α → β) (key : String) (value : α) (es : List (String × α)) :
  write key (f value) (es.map fun e => (e.1, f e.2))
    = (write key value es).map fun e => (e.1, f e.2)
  := by
  induction es with
  | nil => rfl
  | cons e r ih =>
    rw [List.map_cons, write.eq_def, write.eq_def]
    by_cases same : e.1 = key
    · simp [same]
    · simp [same, ih]

theorem map_insert (f : α → β) (t : Table α) (key : String) (value : α) :
  (t.insert key value).map f = (t.map f).insert key (f value)
  := by
  simp only [map, insert, write_map]

theorem map_insertAll (f : α → β) (t : Table α) (later : List (String × α)) :
  (t.insertAll later).map f = (t.map f).insertAll (later.map fun e => (e.1, f e.2))
  := by
  induction later generalizing t with
  | nil => rfl
  | cons e r ih =>
    rw [List.map_cons, insertAll, List.foldl_cons, ← insertAll, ih, map_insert]
    rfl

/-- A function may be applied before or after a table is made. -/
theorem map_ofList (f : α → β) (es : List (String × α)) :
  (ofList es).map f = ofList (es.map fun e => (e.1, f e.2))
  := map_insertAll f empty es

/-- The number of entries. -/
def size (t : Table α) : Nat :=
  t.entries.length

end Table

end Muster
