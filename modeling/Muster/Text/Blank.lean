/-!
# White space

The characters that count as white space in a text, and the removal of white space from
its ends.  The class is wider than the one of `Char.isWhitespace`: it holds every space,
line and paragraph separator, and the separators among the control characters.
-/

namespace Muster.Text

/-- The white space characters. -/
def isBlank (c : Char) : Bool :=
  let n := c.toNat
  (0x09 ≤ n && n ≤ 0x0D) || (0x1C ≤ n && n ≤ 0x20) || n == 0x85 || n == 0xA0 || n == 0x1680
    || (0x2000 ≤ n && n ≤ 0x200A) || n == 0x2028 || n == 0x2029 || n == 0x202F || n == 0x205F
    || n == 0x3000

/-- A list without its leading elements that satisfy `p` and its trailing ones. -/
def trimBy (p : Char → Bool) (cs : List Char) : List Char :=
  (((cs.dropWhile p).reverse).dropWhile p).reverse

/-- A text without the white space at its two ends. -/
def strip (s : String) : String :=
  String.ofList (trimBy isBlank s.toList)

/-- A text without the white space at its end. -/
def stripEnd (s : String) : String :=
  String.ofList ((s.toList.reverse.dropWhile isBlank).reverse)

@[simp]
theorem trimBy_nil (p : Char → Bool) :
  trimBy p [] = []
  := rfl

/-- A text that has no white space at either end is its own trimmed form. -/
theorem trimBy_of_ends {p : Char → Bool} {cs : List Char}
    (first : ∀ c ∈ cs.head?, p c = false) (last : ∀ c ∈ cs.getLast?, p c = false) :
  trimBy p cs = cs
  := by
  cases cs with
  | nil => rfl
  | cons c r =>
    have hc : p c = false := first c rfl
    have hd : (c :: r).dropWhile p = c :: r := by simp [hc]
    have hr : (c :: r).reverse.dropWhile p = (c :: r).reverse := by
      cases h : (c :: r).reverse with
      | nil => rfl
      | cons d t =>
        have hl : (c :: r).getLast? = some d := by
          rw [← List.head?_reverse, h]; rfl
        have hp : p d = false := last d (by simp [hl])
        simp [hp]
    simp only [trimBy, hd, hr, List.reverse_reverse]

end Muster.Text
