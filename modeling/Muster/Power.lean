/-!
# Powers

Powers of two and of ten, the bases of doubles and of decimals.
-/

namespace Muster

/-- Two to the power of a number. -/
def twoTo (n : Nat) : Nat :=
  Nat.pow 2 n

/-- Ten to the power of a number. -/
def tenTo (n : Nat) : Nat :=
  Nat.pow 10 n

end Muster
