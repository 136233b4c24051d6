import Mathlib.Data.List.Basic
import Mathlib.Data.List.Induction
import Muster.Table
/-!
# Tables made of lists

A list of entries in which keys come several times makes a table in which every key stands where it
comes first, with the value that comes last.  A table is known by its keys, in their order, and by
the value of each key.
-/

namespace Muster

/-! ### Names without their repetitions -/

/-- A text that has come before does not count. -/
theorem eraseDups_append_cons {first others : List String} {name : String} (mem : name ∈ first) :
  (first ++ name :: others).eraseDups = (first ++ others).eraseDups
  := by
  rw [List.eraseDups_append, List.eraseDups_append]
  rw [List.cons_removeAll, if_neg (by simpa using mem)]

theorem eraseDups_of_nodup {names : List String} (nodup : names.Nodup) :
  names.eraseDups = names
  := by
  induction names with
  | nil => rfl
  | cons name others ih =>
    obtain ⟨new, nodup⟩ := List.nodup_cons.mp nodup
    have others_kept : others.filter (fun other => !other == name) = others := by
      rw [List.filter_eq_self]
      intro other mem
      have : other ≠ name := by
        rintro rfl
        exact new mem
      simpa using this
    rw [List.eraseDups_cons, others_kept, ih nodup]

namespace Table

variable {α : Type} {t u : Table α}

/-- The entries are the keys with what stands under them. -/
theorem entries_eq_filterMap (t : Table α) :
  t.entries = t.keys.filterMap fun key => (t.get? key).map (key, ·)
  := by
  have each : ∀ e ∈ t.entries, (t.get? e.1).map (e.1, ·) = some e := by
    intro e mem
    have found : t.get? e.1 = some e.2 := get?_eq_some_iff.mpr mem
    simp [found]
  rw [Table.keys, List.filterMap_map]
  apply (List.filterMap_some).symm.trans
  apply List.filterMap_congr
  intro e mem
  apply (each e mem).symm

/-- Tables with the same keys in the same order and the same values are the same. -/
theorem eq_of_keys_of_get? (keys : t.keys = u.keys) (values : ∀ key, t.get? key = u.get? key) :
  t = u
  := by
  apply eq_of_entries
  rw [entries_eq_filterMap t, entries_eq_filterMap u, keys]
  simp only [values]

/-! ### Layers -/

/-- What has been written over a table counts first. -/
theorem get?_insertAll (t later : Table α) (name : String) :
  (t.insertAll later.entries).get? name = (later.get? name).or (t.get? name)
  := by
  suffices inserted : ∀ (es : List (String × α)) (t : Table α), (es.map Prod.fst).Nodup →
      (t.insertAll es).get? name = (lookup name es).or (t.get? name) from
    inserted later.entries t later.nodup
  intro es
  induction es with
  | nil => exact fun _ _ => rfl
  | cons e r ih =>
    intro t nodup
    rw [List.map_cons, List.nodup_cons] at nodup
    rw [insertAll, List.foldl_cons, ← insertAll, ih _ nodup.2, get?_insert, lookup]
    by_cases same : e.1 = name
    · have once : lookup name r = none := by
        rw [← Option.not_isSome_iff_eq_none, lookup_isSome_iff, ← same]
        exact nodup.1
      simp [once, same]
    · simp [same, Ne.symm same]

/-- New keys come behind the old ones, each at its first place. -/
theorem keys_insertAll (t : Table α) (later : List (String × α)) :
  (t.insertAll later).keys = (t.keys ++ later.map Prod.fst).eraseDups
  := by
  induction later generalizing t with
  | nil =>
    rw [List.map_nil, List.append_nil, eraseDups_of_nodup t.nodup_keys]
    rfl
  | cons e r ih =>
    rw [insertAll, List.foldl_cons, ← insertAll, ih, keys_insert, List.map_cons]
    split
    · next old => rw [eraseDups_append_cons old]
    · rw [List.append_assoc, List.singleton_append]

/-! ### Lists -/

/-- The keys of the table of a list are those of the list, each at its first place. -/
theorem keys_ofList (es : List (String × α)) :
  (ofList es).keys = (es.map Prod.fst).eraseDups
  := keys_insertAll empty es

theorem nodup_eraseDups (names : List String) :
  names.eraseDups.Nodup
  := by
  have made := keys_ofList (names.map (·, ()))
  rw [List.map_map, Function.comp_def, List.map_id'] at made
  rw [← made]
  apply nodup_keys

/-- In a table made of a list the last of several entries with one key counts. -/
theorem get?_ofList_map {ι : Type} (items : List ι) (key : ι → String) (value : ι → α)
    (name : String) :
  (ofList (items.map fun i => (key i, value i))).get? name
    = (items.reverse.find? (key · = name)).map value
  := by
  induction items using List.reverseRecOn with
  | nil => rfl
  | append_singleton items item ih =>
    have last : ofList ((items ++ [item]).map fun i => (key i, value i))
        = (ofList (items.map fun i => (key i, value i))).insert (key item) (value item) := by
      simp [ofList, insertAll]
    rw [last, get?_insert, ih, List.reverse_append, List.reverse_singleton, List.singleton_append,
      List.find?_cons]
    by_cases same : key item = name
    · simp [same]
    · simp [same, Ne.symm same]

/-- The value of a key is that of the last entry with it. -/
theorem get?_ofList_of_last {before after : List (String × α)} {e : String × α}
    (last : ∀ later ∈ after, later.1 ≠ e.1) :
  (ofList (before ++ e :: after)).get? e.1 = some e.2
  := by
  have found := get?_ofList_map (before ++ e :: after) Prod.fst Prod.snd e.1
  rw [List.map_id'] at found
  rw [found, List.reverse_append, List.reverse_cons, List.append_assoc, List.find?_append]
  have passed : after.reverse.find? (·.1 = e.1) = none := by
    rw [List.find?_eq_none]
    intro later mem
    simpa using last later (List.mem_reverse.mp mem)
  simp [passed]

/-! ### Lists of one table -/

/-- Some entries sum up others: every key stands once, where it comes first, with the value that
comes last. -/
structure SumsUp (es sums : List (String × α)) : Prop where
  keys : sums.map Prod.fst = (es.map Prod.fst).eraseDups
  last : ∀ e ∈ sums, ∃ before after, es = before ++ e :: after ∧ ∀ later ∈ after, later.1 ≠ e.1

theorem get?_eq_none_of_not_mem {key : String} (absent : key ∉ t.keys) :
  t.get? key = none
  := by
  rwa [← Option.not_isSome_iff_eq_none, ← contains, contains_iff]

/-- Entries make the same table as those that sum them up. -/
theorem SumsUp.ofList_eq {es sums : List (String × α)} (sumsUp : SumsUp es sums) :
  ofList es = ofList sums
  := by
  have nodup : (sums.map Prod.fst).Nodup := by
    rw [sumsUp.keys]
    apply nodup_eraseDups
  have keys : (ofList es).keys = (ofList sums).keys := by
    rw [keys_ofList, keys_ofList, eraseDups_of_nodup nodup, sumsUp.keys]
  apply eq_of_keys_of_get? keys
  intro key
  by_cases there : key ∈ (ofList sums).keys
  · rw [keys_ofList, List.mem_eraseDups] at there
    obtain ⟨e, mem, rfl⟩ := List.mem_map.mp there
    have own : (ofList sums).get? e.1 = some e.2 := by
      rw [get?_eq_some_iff, entries_ofList nodup]
      apply mem
    obtain ⟨before, after, rfl, last⟩ := sumsUp.last e mem
    rw [get?_ofList_of_last last, own]
  · rw [get?_eq_none_of_not_mem there, get?_eq_none_of_not_mem (keys ▸ there)]

theorem get?_ofList_const (names : List String) (value : α) (key : String) :
  (ofList (names.map (·, value))).get? key = if key ∈ names then some value else none
  := by
  rw [get?_ofList_map names (·) fun _ => value]
  split
  · next there =>
    have found : (names.reverse.find? (· = key)).isSome := by simpa using there
    obtain ⟨name, found⟩ := Option.isSome_iff_exists.mp found
    rw [found, Option.map_some]
  · next absent =>
    rw [Option.map_eq_none_iff]
    apply List.find?_eq_none.mpr
    rintro name mem same
    obtain rfl : name = key := by simpa using same
    apply absent (List.mem_reverse.mp mem)

/-- When all keys have one value, it matters only in which order they come first. -/
theorem ofList_const_congr {names others : List String} (same : names.eraseDups = others.eraseDups)
    (value : α) :
  ofList (names.map (·, value)) = ofList (others.map (·, value))
  := by
  apply eq_of_keys_of_get?
  · rw [keys_ofList, keys_ofList, List.map_map, List.map_map]
    simpa [Function.comp_def] using same
  · intro key
    have mem_iff : key ∈ names ↔ key ∈ others := by
      rw [← List.mem_eraseDups, same, List.mem_eraseDups]
    rw [get?_ofList_const, get?_ofList_const, if_congr mem_iff rfl rfl]

end Table

end Muster
