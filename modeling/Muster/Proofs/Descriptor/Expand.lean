import Mathlib.Data.List.Forall2
import Mathlib.Data.List.Perm.Subperm
import Muster.Counting
import Muster.Descriptor.Normal
import Muster.Descriptor.Expand
import Muster.Proofs.Interpolation
/-!
# What becomes of a document when variables are put in

The texts of a document are expanded one by one, and its shape stays as it is, but for keys that
have become equal.  A document with inert texts and distinct keys stays as it is.
-/

namespace Muster

namespace Value

open Interpolation

theorem bind_eq_ok_iff {ε α β : Type} {x : Except ε α} {f : α → Except ε β} {b : β} :
  x >>= f = .ok b ↔ ∃ a, x = .ok a ∧ f a = .ok b
  := by
  cases x with
  | error e =>
    constructor
    · intro same
      cases same
    · rintro ⟨_, same, _⟩
      cases same
  | ok a =>
    constructor
    · exact fun same => ⟨a, rfl, same⟩
    · rintro ⟨_, same, ok⟩
      cases same
      exact ok

/-! ### Keys -/

@[simp]
theorem sameKey_str (s t : String) :
  (str s).sameKey (str t) = (s == t)
  := rfl

theorem writeKey_of_distinct {key value : Value} {entries : List (Value × Value)}
    (new : ∀ e ∈ entries, e.1.sameKey key = false) :
  writeKey key value entries = entries ++ [(key, value)]
  := by
  induction entries with
  | nil => rfl
  | cons e r ih =>
    obtain ⟨first, others⟩ := List.forall_mem_cons.mp new
    rw [writeKey, if_neg (by simp [first]), ih others, List.cons_append]

/-- Entries whose keys differ from each other are those of their mapping. -/
theorem ofEntries_of_distinct {entries : List (Value × Value)}
    (distinct : entries.Pairwise fun a b => a.1.sameKey b.1 = false) :
  ofEntries entries = map entries
  := by
  have written (later earlier : List (Value × Value))
      (distinct : (earlier ++ later).Pairwise fun a b => a.1.sameKey b.1 = false) :
      later.foldl (fun acc e => writeKey e.1 e.2 acc) earlier = earlier ++ later := by
    induction later generalizing earlier with
    | nil => simp
    | cons e r ih =>
      have new : ∀ a ∈ earlier, a.1.sameKey e.1 = false :=
        fun a member => (List.pairwise_append.mp distinct).2.2 a member e (by simp)
      rw [List.foldl_cons, writeKey_of_distinct new, ih (earlier ++ [e]) (by simpa using distinct)]
      simp
  rw [ofEntries, written entries [] distinct, List.nil_append]

/-! ### Inert documents -/

mutual

/-- A document whose texts are inert and whose keys are distinct. -/
def IsInert : Value → Prop
  | str s => Inert s
  | list items => AllInert items
  | map entries => EntriesInert entries ∧ entries.Pairwise fun a b => a.1.sameKey b.1 = false
  | loop _ => False
  | _ => True

/-- The items of a list are inert. -/
def AllInert : List Value → Prop
  | [] => True
  | v :: r => IsInert v ∧ AllInert r

/-- The keys and the values of a mapping are inert. -/
def EntriesInert : List (Value × Value) → Prop
  | [] => True
  | (k, v) :: r => IsInert k ∧ IsInert v ∧ EntriesInert r

end

mutual

/-- An inert document stays as it is. -/
theorem expand_of_isInert {v : Value} (inert : IsInert v) (context : Table String) :
  v.expand context = .ok (v, [])
  := by
  cases v with
  | str s =>
    rw [expand, expandText, interpolate_of_inert inert]
    rfl
  | list items =>
    rw [IsInert] at inert
    rw [expand, expandItems_of_allInert inert]
    rfl
  | map entries =>
    rw [IsInert] at inert
    rw [expand, expandEntries_of_entriesInert inert.1]
    exact congrArg (fun v => Except.ok (v, [])) (ofEntries_of_distinct inert.2)
  | loop => exact inert.elim
  | _ => rfl

theorem expandItems_of_allInert {items : List Value} (inert : AllInert items)
    (context : Table String) :
  expandItems context items = .ok (items, [])
  := by
  cases items with
  | nil => rfl
  | cons v r =>
    rw [AllInert] at inert
    rw [expandItems, expand_of_isInert inert.1, expandItems_of_allInert inert.2]
    rfl

theorem expandEntries_of_entriesInert {entries : List (Value × Value)}
    (inert : EntriesInert entries) (context : Table String) :
  expandEntries context entries = .ok (entries, [])
  := by
  cases entries with
  | nil => rfl
  | cons e r =>
    obtain ⟨k, v⟩ := e
    rw [EntriesInert] at inert
    rw [expandEntries, expand_of_isInert inert.1, expand_of_isInert inert.2.1,
      expandEntries_of_entriesInert inert.2.2]
    rfl

end

/-! ### What values become -/

/-- What a text turns into under the variables of a context. -/
def Turns (context : Table String) (s t : String) : Prop :=
  ∃ unset, interpolate context s = .ok ⟨t, unset⟩

/-- What a value becomes under the variables of a context. -/
def Becomes (context : Table String) (v w : Value) : Prop :=
  ∃ unset, v.expand context = .ok (w, unset)

variable {context : Table String} {s t : String} {v w : Value}

theorem Turns.eq (turns : Turns context s t) (inert : Inert s) :
  t = s
  := by
  obtain ⟨unset, ok⟩ := turns
  rw [interpolate_of_inert inert] at ok
  cases ok
  rfl

theorem Becomes.eq (becomes : Becomes context v w) (inert : IsInert v) :
  w = v
  := by
  obtain ⟨unset, ok⟩ := becomes
  rw [expand_of_isInert inert] at ok
  cases ok
  rfl

theorem Becomes.of_str (becomes : Becomes context (str s) w) :
  ∃ t, w = str t ∧ Turns context s t
  := by
  obtain ⟨unset, ok⟩ := becomes
  rw [expand, expandText] at ok
  split at ok
  · next e expanded =>
    cases ok
    exact ⟨e.text, rfl, e.unset, expanded⟩
  · cases ok

theorem Becomes.of_list {items : List Value} (becomes : Becomes context (list items) w) :
  ∃ others, w = list others ∧ List.Forall₂ (Becomes context) items others
  := by
  have items_become {items others : List Value} {unset : List String}
      (ok : expandItems context items = .ok (others, unset)) :
      List.Forall₂ (Becomes context) items others := by
    induction items generalizing others unset with
    | nil =>
      cases ok
      exact .nil
    | cons v r ih =>
      simp only [expandItems, bind_eq_ok_iff, Prod.exists] at ok
      obtain ⟨w, first, here, ws, others, there, same⟩ := ok
      cases same
      exact .cons ⟨first, here⟩ (ih there)
  obtain ⟨unset, ok⟩ := becomes
  simp only [expand, bind_eq_ok_iff, Prod.exists] at ok
  obtain ⟨others, unset, expanded, same⟩ := ok
  cases same
  exact ⟨others, rfl, items_become expanded⟩

theorem Becomes.of_map {entries : List (Value × Value)}
    (becomes : Becomes context (map entries) w) :
  ∃ others, w = ofEntries others ∧ List.Forall₂
    (fun e f => Becomes context e.1 f.1 ∧ Becomes context e.2 f.2) entries others
  := by
  have entries_become {entries others : List (Value × Value)} {unset : List String}
      (ok : expandEntries context entries = .ok (others, unset)) :
      List.Forall₂ (fun e f => Becomes context e.1 f.1 ∧ Becomes context e.2 f.2)
        entries others := by
    induction entries generalizing others unset with
    | nil =>
      cases ok
      exact .nil
    | cons e r ih =>
      simp only [expandEntries, bind_eq_ok_iff, Prod.exists] at ok
      obtain ⟨k, first, key, v, second, value, ws, others, there, same⟩ := ok
      cases same
      exact .cons ⟨⟨first, key⟩, second, value⟩ (ih there)
  obtain ⟨unset, ok⟩ := becomes
  simp only [expand, bind_eq_ok_iff, Prod.exists] at ok
  obtain ⟨others, unset, expanded, same⟩ := ok
  cases same
  exact ⟨others, rfl, entries_become expanded⟩

theorem exists_of_forall₂ {α β : Type} {R : α → β → Prop} {as : List α} {bs : List β}
    (related : List.Forall₂ R as bs) {a : α} (mem : a ∈ as) :
  ∃ b ∈ bs, R a b
  := by
  induction related with
  | nil => cases mem
  | @cons _ b _ _ here _ ih =>
    rcases List.mem_cons.mp mem with rfl | later
    · exact ⟨b, by simp, here⟩
    · obtain ⟨b', mem', found⟩ := ih later
      exact ⟨b', by simp [mem'], found⟩

/-! ### Nesting -/

/-- More than a number of lists and mappings are nested in one another. -/
def IsNested : Nat → Value → Prop
  | 0, list _ => True
  | 0, map _ => True
  | n + 1, list items => ∃ v ∈ items, IsNested n v
  | n + 1, map entries => ∃ e ∈ entries, IsNested n e.1 ∨ IsNested n e.2
  | _, _ => False

theorem isNested_of_le {m n : Nat} {v : Value} (nested : IsNested n v) (le : m ≤ n) :
  IsNested m v
  := by
  induction m generalizing n v with
  | zero => cases n <;> cases v <;> trivial
  | succ m ih =>
    obtain ⟨n, rfl⟩ := Nat.exists_eq_add_of_le' (Nat.zero_lt_of_lt le)
    cases v with
    | list items =>
      obtain ⟨v, mem, nested⟩ := nested
      exact ⟨v, mem, ih nested (Nat.le_of_succ_le_succ le)⟩
    | map entries =>
      obtain ⟨e, mem, nested⟩ := nested
      exact ⟨e, mem, nested.imp (ih · (Nat.le_of_succ_le_succ le)) (ih · (Nat.le_of_succ_le_succ le))⟩
    | _ => exact nested.elim

/-- A value is cut only where it is nested too deeply. -/
theorem cut_of_not_isNested {n : Nat} {v : Value} (flat : ¬ IsNested n v) :
  v.cut n = v
  := by
  induction n generalizing v with
  | zero => cases v <;> first | rfl | exact (flat trivial).elim
  | succ n ih =>
    cases v with
    | list items =>
      have kept : items.map (cut n) = items.map id :=
        List.map_congr_left fun v mem => ih fun nested => flat ⟨v, mem, nested⟩
      rw [cut, kept, List.map_id]
    | map entries =>
      have kept : (entries.map fun e => (cut n e.1, cut n e.2)) = entries.map id := by
        apply List.map_congr_left
        intro e mem
        exact Prod.ext (ih fun nested => flat ⟨e, mem, .inl nested⟩)
          (ih fun nested => flat ⟨e, mem, .inr nested⟩)
      rw [cut, kept, List.map_id]
    | _ => rfl

theorem not_becomes_loop {isMap : Bool} :
  ¬ Becomes context (loop isMap) w
  := by
  rintro ⟨_, ok⟩
  cases ok

/-- Nothing becomes of a value that is nested too deeply. -/
theorem Becomes.not_isNested {n : Nat} (becomes : Becomes context (v.cut n) w) :
  ¬ IsNested n v
  := by
  induction n generalizing v w with
  | zero =>
    intro nested
    cases v with
    | list | map => exact not_becomes_loop becomes
    | _ => exact nested
  | succ n ih =>
    intro nested
    cases v with
    | list items =>
      obtain ⟨v, mem, nested⟩ := nested
      obtain ⟨others, -, became⟩ := becomes.of_list
      obtain ⟨_, -, becomes⟩ := exists_of_forall₂ became (List.mem_map_of_mem mem)
      exact ih becomes nested
    | map entries =>
      obtain ⟨e, mem, nested⟩ := nested
      obtain ⟨others, -, became⟩ := becomes.of_map
      obtain ⟨_, -, key, value⟩ := exists_of_forall₂ became (List.mem_map_of_mem mem)
      exact nested.elim (ih key) (ih value)
    | _ => exact nested

/-- If all that is related has a form, the lists that are related member by member have it. -/
theorem forall₂_image {α β γ : Type} {R : α → β → Prop} {S : α → γ → Prop} {g : γ → β}
    (image : ∀ a b, R a b → ∃ c, b = g c ∧ S a c) {as : List α} {bs : List β}
    (related : List.Forall₂ R as bs) :
  ∃ cs, bs = cs.map g ∧ List.Forall₂ S as cs
  := by
  induction related with
  | nil => exact ⟨[], rfl, .nil⟩
  | cons here _ ih =>
    obtain ⟨c, rfl, first⟩ := image _ _ here
    obtain ⟨cs, rfl, others⟩ := ih
    exact ⟨c :: cs, rfl, .cons first others⟩

theorem Becomes.of_textList {l : List String} (becomes : Becomes context (textList l) w) :
  ∃ l', w = textList l' ∧ List.Forall₂ (Turns context) l l'
  := by
  obtain ⟨items, rfl, became⟩ := becomes.of_list
  rw [List.forall₂_map_left_iff] at became
  obtain ⟨l', rfl, turned⟩ := forall₂_image (fun _ _ here => here.of_str) became
  exact ⟨l', rfl, turned⟩

/-! ### Mappings from texts -/

/-- An entry whose key is a text. -/
def keyed (e : String × Value) : Value × Value :=
  (str e.1, e.2)

theorem writeKey_keyed (key : String) (value : Value) (es : List (String × Value)) :
  writeKey (str key) value (es.map keyed) = (Table.write key value es).map keyed
  := by
  induction es with
  | nil => rfl
  | cons e r ih =>
    rw [List.map_cons, writeKey.eq_def, Table.write.eq_def]
    by_cases same : e.1 = key
    · simp [keyed, same]
    · simp [keyed, same, ih]

/-- Of several entries with one text as their key the last counts, as in a table. -/
theorem ofEntries_keyed (es : List (String × Value)) :
  ofEntries (es.map keyed) = map ((Table.ofList es).entries.map keyed)
  := by
  have written (later : List (String × Value)) (t : Table Value) :
      (later.map keyed).foldl (fun acc e => writeKey e.1 e.2 acc) (t.entries.map keyed)
        = (t.insertAll later).entries.map keyed := by
    induction later generalizing t with
    | nil => rfl
    | cons e r ih =>
      rw [List.map_cons, List.foldl_cons, Table.insertAll, List.foldl_cons, ← Table.insertAll, ← ih]
      exact congrArg ((r.map keyed).foldl fun acc e => writeKey e.1 e.2 acc) (writeKey_keyed ..)
  exact congrArg map (written es .empty)

theorem Becomes.of_keyed {es : List (String × Value)}
    (becomes : Becomes context (map (es.map keyed)) w) :
  ∃ fs, w = map ((Table.ofList fs).entries.map keyed) ∧ List.Forall₂
    (fun e f => Turns context e.1 f.1 ∧ Becomes context e.2 f.2) es fs
  := by
  obtain ⟨entries, rfl, became⟩ := becomes.of_map
  rw [List.forall₂_map_left_iff] at became
  have image (e : String × Value) (f : Value × Value)
      (here : Becomes context (keyed e).1 f.1 ∧ Becomes context (keyed e).2 f.2) :
      ∃ g : String × Value, f = keyed g ∧ Turns context e.1 g.1 ∧ Becomes context e.2 g.2 := by
    obtain ⟨t, key, turns⟩ := here.1.of_str
    exact ⟨(t, f.2), Prod.ext key rfl, turns, here.2⟩
  obtain ⟨fs, rfl, turned⟩ := forall₂_image image became
  exact ⟨fs, ofEntries_keyed fs, turned⟩

theorem entries_textTable (t : Table String) :
  textTable t = map ((t.map str).entries.map keyed)
  := by
  simp [textTable, Table.map, keyed]

theorem Becomes.of_textTable {t : Table String} (becomes : Becomes context (textTable t) w) :
  ∃ fs, w = textTable (Table.ofList fs) ∧ List.Forall₂
    (fun e f => Turns context e.1 f.1 ∧ Turns context e.2 f.2) t.entries fs
  := by
  rw [entries_textTable] at becomes
  obtain ⟨values, rfl, became⟩ := becomes.of_keyed
  rw [Table.map, List.forall₂_map_left_iff] at became
  have image (e : String × String) (f : String × Value)
      (here : Turns context e.1 f.1 ∧ Becomes context (str e.2) f.2) :
      ∃ g : String × String,
        f = (g.1, str g.2) ∧ Turns context e.1 g.1 ∧ Turns context e.2 g.2 := by
    obtain ⟨t, value, turns⟩ := here.2.of_str
    exact ⟨(f.1, t), Prod.ext rfl value, here.1, turns⟩
  obtain ⟨fs, rfl, turned⟩ := forall₂_image image became
  refine ⟨fs, ?_, turned⟩
  rw [entries_textTable, Table.map_ofList]

/-! ### Where no variable is set -/

theorem Turns.inert_or_shorter (turns : Turns ∅ s t) :
  (Inert s ∧ t = s) ∨ t.length < s.length
  := by
  obtain ⟨unset, ok⟩ := turns
  rcases Interpolation.inert_or_shorter ok with inert | shorter
  · exact .inl ⟨inert, Turns.eq ⟨unset, ok⟩ inert⟩
  · exact .inr shorter

/-- Where no variable is set, a text that turns into itself is inert. -/
theorem Turns.inert (turns : Turns ∅ s s) :
  Inert s
  := inert_iff.mpr turns

/-- The number of characters of some texts. -/
def totalLength (l : List String) : Nat :=
  total (l.map String.length)

theorem totalLength_of_perm {l l' : List String} (same : l.Perm l') :
  totalLength l = totalLength l'
  := by
  induction same with
  | nil => rfl
  | cons s _ ih => exact congrArg (s.length + ·) ih
  | swap s t l =>
    simp only [totalLength, List.map_cons, total]
    omega
  | trans _ _ first second => exact first.trans second

theorem inert_or_shorter_of_turned {l l' : List String} (turned : List.Forall₂ (Turns ∅) l l') :
  ((∀ s ∈ l, Inert s) ∧ l' = l) ∨ totalLength l' < totalLength l
  := by
  induction turned with
  | nil => exact .inl ⟨by simp, rfl⟩
  | @cons s t l l' here _ ih =>
    simp only [totalLength, List.map_cons, total] at *
    rcases here.inert_or_shorter with ⟨inert, rfl⟩ | shorter
    · rcases ih with ⟨all, rfl⟩ | less
      · exact .inl ⟨List.forall_mem_cons.mpr ⟨inert, all⟩, rfl⟩
      · exact .inr (by omega)
    · have : total (l'.map String.length) ≤ total (l.map String.length) := by
        rcases ih with ⟨_, rfl⟩ | less <;> omega
      exact .inr (by omega)

/-- Where no variable is set, texts that turn into themselves are inert. -/
theorem inert_of_turned {l : List String} (turned : List.Forall₂ (Turns ∅) l l) :
  ∀ s ∈ l, Inert s
  := by
  rcases inert_or_shorter_of_turned turned with ⟨inert, -⟩ | shorter
  · exact inert
  · exact (Nat.lt_irrefl _ shorter).elim

/-- Where no variable is set, distinct texts among those that they turn into are inert: there is
nothing that a shorter one could stand for. -/
theorem inert_of_subset {l l' : List String} (turned : List.Forall₂ (Turns ∅) l l')
    (distinct : l.Nodup) (kept : l ⊆ l') :
  (∀ s ∈ l, Inert s) ∧ l' = l
  := by
  have same : l.Perm l' :=
    (List.subperm_of_subset distinct kept).perm_of_length_le (Nat.le_of_eq turned.length_eq.symm)
  rcases inert_or_shorter_of_turned turned with inert | shorter
  · exact inert
  · have := totalLength_of_perm same
    omega

end Value

namespace Table

open Interpolation Value

theorem mem_of_mem_write {α : Type} {key : String} {value : α} {es : List (String × α)}
    {e : String × α} (mem : e ∈ write key value es) :
  e = (key, value) ∨ e ∈ es
  := by
  induction es with
  | nil => exact .inl (List.mem_singleton.mp mem)
  | cons first r ih =>
    obtain ⟨k, v⟩ := first
    rw [write] at mem
    split at mem
    · next own =>
      rcases List.mem_cons.mp mem with rfl | later
      · exact .inl (Prod.ext own rfl)
      · exact .inr (List.mem_cons_of_mem _ later)
    · rcases List.mem_cons.mp mem with rfl | later
      · exact .inr (by simp)
      · exact (ih later).imp_right (List.mem_cons_of_mem _)

/-- The entries of the table of a list are members of the list. -/
theorem mem_of_mem_ofList {α : Type} {es : List (String × α)} {e : String × α}
    (mem : e ∈ (ofList es).entries) :
  e ∈ es
  := by
  have inserted (later : List (String × α)) (t : Table α) (mem : e ∈ (t.insertAll later).entries) :
      e ∈ t.entries ∨ e ∈ later := by
    induction later generalizing t with
    | nil => exact .inl mem
    | cons first r ih =>
      rcases ih (t.insert first.1 first.2) mem with early | late
      · rcases mem_of_mem_write early with rfl | old
        · exact .inr (by simp)
        · exact .inl old
      · exact .inr (List.mem_cons_of_mem _ late)
  rcases inserted es empty mem with early | late
  · cases early
  · exact late

/-- Where no variable is set, a table whose keys turn into keys that hold them all has inert keys,
and what its values become stands under the same keys. -/
theorem inert_of_turned {α β : Type} {R : α → β → Prop} {t : Table α} {fs : List (String × β)}
    (turned : List.Forall₂ (fun e f => Turns ∅ e.1 f.1 ∧ R e.2 f.2) t.entries fs)
    (kept : ∀ key ∈ t.keys, key ∈ (ofList fs).keys) :
  (∀ key ∈ t.keys, Inert key) ∧ (ofList fs).keys = t.keys
    ∧ ∀ key a b, t.get? key = some a → (ofList fs).get? key = some b → R a b
  := by
  have keys : List.Forall₂ (Turns ∅) t.keys (fs.map Prod.fst) := by
    rw [Table.keys, List.forall₂_map_left_iff, List.forall₂_map_right_iff]
    exact turned.imp fun _ _ here => here.1
  have subset : t.keys ⊆ fs.map Prod.fst := by
    intro key mem
    obtain ⟨f, mem', rfl⟩ := List.mem_map.mp (kept key mem)
    exact List.mem_map_of_mem (mem_of_mem_ofList mem')
  obtain ⟨inert, same⟩ := inert_of_subset keys t.nodup subset
  have entries : (ofList fs).entries = fs := entries_ofList (by rw [same]; exact t.nodup)
  refine ⟨inert, by rw [Table.keys, entries, same], ?_⟩
  intro key a b here there
  have known := get?_eq_some_iff.mp here
  obtain ⟨⟨k, c⟩, mem, turns, becomes⟩ := exists_of_forall₂ turned known
  have own : k = key := turns.eq (inert key (List.mem_map_of_mem known))
  have found : (ofList fs).get? key = some c := get?_eq_some_iff.mpr (by rwa [entries, ← own])
  cases there.symm.trans found
  exact becomes

end Table

end Muster
