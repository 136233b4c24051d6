/-!
# Cutting texts at separators

`splitOn` cuts a text at every occurrence of a separator and `cut` at the first one;
`cutLast` cuts at the last.  Putting the parts together again gives the text back.
-/

namespace Muster.Text

/-- The parts of a list between the occurrences of a separator; there is one more part than
there are separators. -/
def splitOn (sep : Char) : List Char → List (List Char)
  | [] => [[]]
  | c :: r =>
    if c = sep then [] :: splitOn sep r
    else
      match splitOn sep r with
      | [] => [[c]]
      | part :: parts => (c :: part) :: parts

theorem splitOn_ne_nil (sep : Char) (cs : List Char) :
  splitOn sep cs ≠ []
  := by
  cases cs with
  | nil => simp [splitOn]
  | cons c r =>
    simp only [splitOn]
    split
    · simp
    · split <;> simp

/-- The parts of a text with the separator between them are the text. -/
theorem intercalate_splitOn (sep : Char) (cs : List Char) :
  [sep].intercalate (splitOn sep cs) = cs
  := by
  induction cs with
  | nil => simp [splitOn, List.intercalate]
  | cons c r ih =>
    rw [splitOn]
    by_cases hc : c = sep
    · rw [if_pos hc]
      cases h : splitOn sep r with
      | nil => exact absurd h (splitOn_ne_nil sep r)
      | cons p ps =>
        rw [h] at ih
        simpa [List.intercalate, List.intersperse, hc] using ih
    · rw [if_neg hc]
      cases h : splitOn sep r with
      | nil => exact absurd h (splitOn_ne_nil sep r)
      | cons p ps =>
        rw [h] at ih
        cases ps <;> simpa [List.intercalate, List.intersperse] using ih

/-- No part of a text holds the separator. -/
theorem not_mem_of_mem_splitOn {sep : Char} {cs part : List Char} (h : part ∈ splitOn sep cs) :
  sep ∉ part
  := by
  induction cs generalizing part with
  | nil => simp_all [splitOn]
  | cons c r ih =>
    rw [splitOn] at h
    split at h
    · rcases List.mem_cons.mp h with rfl | h
      · simp
      · exact ih h
    · next hc =>
      split at h
      · next hn => exact absurd hn (splitOn_ne_nil sep r)
      · next p ps hs =>
        rcases List.mem_cons.mp h with rfl | h
        · have := @ih p (by simp [hs])
          simp_all [eq_comm]
        · exact ih (by simp [hs, h])

/-- What stands before and after the first occurrence of a separator. -/
def cut (sep : Char) : List Char → Option (List Char × List Char)
  | [] => none
  | c :: r => if c = sep then some ([], r) else (cut sep r).map fun (a, b) => (c :: a, b)

/-- What stands before and after the last occurrence of a separator. -/
def cutLast (sep : Char) (cs : List Char) : Option (List Char × List Char) :=
  (cut sep cs.reverse).map fun (a, b) => (b.reverse, a.reverse)

theorem cut_eq_some_iff {sep : Char} {cs a b : List Char} :
  cut sep cs = some (a, b) ↔ cs = a ++ sep :: b ∧ sep ∉ a
  := by
  induction cs generalizing a with
  | nil => simp [cut]
  | cons c r ih =>
    rw [cut]
    by_cases hc : c = sep
    · subst hc
      rw [if_pos rfl]
      cases a with
      | nil => simp [eq_comm]
      | cons d a =>
        simp only [Option.some.injEq, Prod.mk.injEq, List.cons_append, List.cons.injEq]
        constructor
        · rintro ⟨h, _⟩
          cases h
        · rintro ⟨⟨rfl, _⟩, h⟩
          simp at h
    · rw [if_neg hc]
      cases a with
      | nil => simp [hc]
      | cons d a =>
        simp only [Option.map_eq_some_iff, Prod.mk.injEq, List.cons.injEq, Prod.exists]
        constructor
        · rintro ⟨a', b', h, ⟨rfl, rfl⟩, rfl⟩
          have := ih.mp h
          simp [this, Ne.symm hc]
        · rintro ⟨⟨rfl, rfl⟩, h⟩
          exact ⟨a, b, ih.mpr ⟨rfl, by simp_all⟩, by simp⟩

theorem cut_eq_none_iff {sep : Char} {cs : List Char} :
  cut sep cs = none ↔ sep ∉ cs
  := by
  induction cs with
  | nil => simp [cut]
  | cons c r ih =>
    rw [cut]
    by_cases hc : c = sep
    · simp [hc]
    · rw [if_neg hc, Option.map_eq_none_iff, ih]
      simp [Ne.symm hc]

/-- The parts of a text between the occurrences of a separator. -/
def split (sep : Char) (s : String) : List String :=
  (splitOn sep s.toList).map String.ofList

/-- A text cut at the first occurrence of a separator. -/
def cutAt (sep : Char) (s : String) : Option (String × String) :=
  (cut sep s.toList).map fun (a, b) => (String.ofList a, String.ofList b)

/-- A text cut at the last occurrence of a separator. -/
def cutAtLast (sep : Char) (s : String) : Option (String × String) :=
  (cutLast sep s.toList).map fun (a, b) => (String.ofList a, String.ofList b)

/-- The first characters of a text, at most `n` of them. -/
def clip (n : Nat) (s : String) : String :=
  String.ofList (s.toList.take n)

/-- A text filled up with spaces at its end to at least `n` characters. -/
def padEnd (n : Nat) (s : String) : String :=
  String.ofList (s.toList ++ List.replicate (n - s.length) ' ')

end Muster.Text
