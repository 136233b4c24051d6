import Muster.Environment
/-!
# Tables that agree

Two tables are compared value by value.  A third table has a mark for each key: how close two values
are that stand under the same key depends on the mark there.
-/

namespace Muster.Table

variable {α β : Type}

/-- Two values that are as close as a mark demands. -/
structure Pair (R : Bool → α → α → Prop) where
  mark : Bool
  left : α
  right : α
  related : R mark left right

/-- Two tables with the same keys in the same order, whose values are as close as the marks demand. -/
def Agree (R : Bool → α → α → Prop) (marks : Table Bool) (t u : Table α) : Prop :=
  ∃ pairs : Table (Pair R),
    pairs.map Pair.mark = marks ∧ pairs.map Pair.left = t ∧ pairs.map Pair.right = u

namespace Agree

variable {R : Bool → α → α → Prop} {S : Bool → β → β → Prop} {marks marks' : Table Bool}
  {t t' u u' : Table α}

theorem empty :
  Agree R ∅ ∅ ∅
  := ⟨∅, rfl, rfl, rfl⟩

theorem insert (agree : Agree R marks t u) (key : String) {mark : Bool} {x y : α}
    (related : R mark x y) :
  Agree R (marks.insert key mark) (t.insert key x) (u.insert key y)
  := by
  obtain ⟨pairs, rfl, rfl, rfl⟩ := agree
  exact ⟨pairs.insert key ⟨mark, x, y, related⟩, map_insert .., map_insert .., map_insert ..⟩

theorem insertAll (agree : Agree R marks t u) (later : Agree R marks' t' u') :
  Agree R (marks.insertAll marks'.entries) (t.insertAll t'.entries) (u.insertAll u'.entries)
  := by
  obtain ⟨pairs, rfl, rfl, rfl⟩ := agree
  obtain ⟨more, rfl, rfl, rfl⟩ := later
  exact ⟨pairs.insertAll more.entries, map_insertAll .., map_insertAll .., map_insertAll ..⟩

/-- Layers that agree one by one agree when they are laid over one another. -/
theorem overlay {ι : Type} (layers : List ι) {marks : ι → Table Bool} {t u : ι → Table α}
    (agree : ∀ i ∈ layers, Agree R (marks i) (t i) (u i)) :
  Agree R (Environment.overlay (layers.map marks)) (Environment.overlay (layers.map t))
    (Environment.overlay (layers.map u))
  := by
  have laid (marks' : Table Bool) (t' u' : Table α) (below : Agree R marks' t' u') :
      Agree R ((layers.map marks).foldl (fun t layer => t.insertAll layer.entries) marks')
        ((layers.map t).foldl (fun t layer => t.insertAll layer.entries) t')
        ((layers.map u).foldl (fun t layer => t.insertAll layer.entries) u') := by
    induction layers generalizing marks' t' u' with
    | nil => exact below
    | cons i layers ih =>
      apply ih (fun j mem => agree j (List.mem_cons_of_mem i mem))
      exact below.insertAll (agree i List.mem_cons_self)
  exact laid ∅ ∅ ∅ empty

theorem map (agree : Agree R marks t u) (f : α → β)
    (related : ∀ mark x y, R mark x y → S mark (f x) (f y)) :
  Agree S marks (t.map f) (u.map f)
  := by
  obtain ⟨pairs, rfl, rfl, rfl⟩ := agree
  refine ⟨pairs.map fun p => ⟨p.mark, f p.left, f p.right, related _ _ _ p.related⟩, ?_, ?_, ?_⟩
  all_goals simp [Table.map, Function.comp_def]

/-- What two tables have under a key. -/
theorem get? (agree : Agree R marks t u) (key : String) :
  (marks.get? key = none ∧ t.get? key = none ∧ u.get? key = none)
    ∨ ∃ mark x y, marks.get? key = some mark ∧ t.get? key = some x ∧ u.get? key = some y
      ∧ R mark x y
  := by
  obtain ⟨pairs, rfl, rfl, rfl⟩ := agree
  simp only [get?_map]
  cases pairs.get? key with
  | none => exact .inl ⟨rfl, rfl, rfl⟩
  | some p => exact .inr ⟨p.mark, p.left, p.right, rfl, rfl, rfl, p.related⟩

/-- A table agrees with itself where nothing is marked. -/
theorem refl (same : ∀ x, R false x x) (t : Table α) :
  Agree R (t.map fun _ => false) t t
  := by
  refine ⟨t.map fun x => ⟨false, x, x, same x⟩, ?_, ?_, ?_⟩
  all_goals simp [Table.map, Function.comp_def]

/-- Where nothing is marked that makes a difference, two tables are the same. -/
theorem eq (agree : Agree R marks t u) (same : ∀ x y, R false x y → x = y)
    (unmarked : ∀ key, marks.get? key ≠ some true) :
  t = u
  := by
  obtain ⟨pairs, rfl, rfl, rfl⟩ := agree
  apply eq_of_entries
  apply List.map_congr_left
  rintro ⟨key, p⟩ mem
  have found : (pairs.map Pair.mark).get? key = some p.mark := by
    rw [get?_map, get?_eq_some_iff.mpr mem]
    rfl
  have related := p.related
  cases marked : p.mark with
  | true => exact absurd (marked ▸ found) (unmarked key)
  | false =>
    rw [marked] at related
    exact congrArg (key, ·) (same _ _ related)

end Agree

end Muster.Table
