/-!
# Similar texts

Two texts are compared by the characters they have in common: those of their longest common run,
and then those to its left and to its right in the same way.
-/

namespace Muster.Text

/-- The length of the common beginning of two lists. -/
def commonLength : List Char → List Char → Nat
  | a :: r, b :: s => if a = b then commonLength r s + 1 else 0
  | _, _ => 0

/-- The longest common run of two lists: where it begins in each of them, and its length.  Of
several the one that begins first in the first list counts, and then in the second. -/
def longestRun (a b : List Char) : Nat × Nat × Nat :=
  let starts := (List.range a.length).flatMap fun i => (List.range b.length).map fun j => (i, j)
  starts.foldl (fun best s =>
    let n := commonLength (a.drop s.1) (b.drop s.2)
    if best.2.2 < n then (s.1, s.2, n) else best) (0, 0, 0)

/-- The number of characters that two lists have in common, with at most `fuel` runs inside each
other. -/
def matchesWithin : (fuel : Nat) → List Char → List Char → Nat
  | 0, _, _ => 0
  | fuel + 1, a, b =>
    let (i, j, n) := longestRun a b
    if n = 0 then 0
    else
      n + matchesWithin fuel (a.take i) (b.take j)
        + matchesWithin fuel (a.drop (i + n)) (b.drop (j + n))

/-- The number of characters that two lists have in common. -/
def commonCount (a b : List Char) : Nat :=
  matchesWithin (a.length + 1) a b

/-- A text is similar to another one if at least three in five of their characters are common. -/
def isSimilar (a b : String) : Bool :=
  let a := a.toList
  let b := b.toList
  3 * (a.length + b.length) ≤ 10 * commonCount a b

/-- Whether a text is more similar to a word than another text, or as similar and later. -/
def isCloser (word a b : String) : Bool :=
  let share (s : String) : Nat × Nat :=
    (commonCount s.toList word.toList, s.length + word.length)
  let (n, m) := share a
  let (k, l) := share b
  k * m < n * l || (k * m == n * l && b ≤ a)

/-- The texts that are most similar to a word, three at most, in the order of their characters. -/
def closest (word : String) (candidates : List String) : List String :=
  let similar := candidates.filter fun c => isSimilar c word
  ((similar.mergeSort (isCloser word)).take 3).mergeSort fun a b => a ≤ b

end Muster.Text
