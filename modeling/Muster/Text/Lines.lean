/-!
# Line ends

A line ends with a line feed, a carriage return or both; inside the program only the line feed is
left.
-/

namespace Muster.Text

/-- A list with every line end made a line feed. -/
def unifyLineEnds : List Char → List Char
  | '\r' :: '\n' :: r => '\n' :: unifyLineEnds r
  | '\r' :: r => '\n' :: unifyLineEnds r
  | c :: r => c :: unifyLineEnds r
  | [] => []

/-- No carriage return is left. -/
theorem not_mem_unifyLineEnds (cs : List Char) :
  '\r' ∉ unifyLineEnds cs
  := by
  fun_induction unifyLineEnds cs with
  | case1 r ih => simpa using ih
  | case2 r _ ih => simpa using ih
  | case3 c r _ hc ih =>
    simp only [List.mem_cons, not_or]
    exact ⟨fun h => hc h.symm, ih⟩
  | case4 => simp

/-- A text without carriage returns stays as it is. -/
theorem unifyLineEnds_of_not_mem {cs : List Char} (h : '\r' ∉ cs) :
  unifyLineEnds cs = cs
  := by
  fun_induction unifyLineEnds cs with
  | case1 r ih => simp at h
  | case2 r _ ih => simp at h
  | case3 c r _ hc ih =>
    simp only [List.mem_cons, not_or] at h
    rw [ih h.2]
  | case4 => rfl

end Muster.Text
