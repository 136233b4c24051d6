import Muster.Decimal.Double
/-!
# The shortest decimal that reads back

The numbers that round to a given double form an interval around it.  `shortest` looks for
the coarsest decimal grid with a point in that interval, and on that grid for the point
nearest to the double.
-/

namespace Muster.Decimal

/-- The number `digits * 10 ^ exponent`. -/
structure Scientific where
  digits : Nat
  exponent : Int
deriving Repr, DecidableEq

/-- Compares `d * 10 ^ k` with `x * 2 ^ q`, both cleared of negative powers. -/
def compareScaled (d : Nat) (k : Int) (x : Nat) (q : Int) : Ordering :=
  let left := d * tenTo k.toNat * twoTo (-q).toNat
  let right := x * twoTo q.toNat * tenTo (-k).toNat
  compare left right

/-- The interval of numbers that round to a double, in quarters of its unit. -/
structure Rounding where
  low : Nat
  middle : Nat
  high : Nat
  quarter : Int
  closed : Bool
deriving Repr

/-- The interval that rounds to `x`.  Below a power of two the doubles lie twice as dense, so
the lower half of the interval is half as wide there. -/
def Dyadic.rounding (x : Dyadic) : Rounding :=
  let narrow := x.mantissa = twoTo 52 ∧ x.exponent > -1074
  ⟨4 * x.mantissa - (if narrow then 1 else 2), 4 * x.mantissa, 4 * x.mantissa + 2,
    x.exponent - 2, x.mantissa % 2 == 0⟩

/-- Whether `d * 10 ^ k` lies in the interval. -/
def Rounding.covers (r : Rounding) (d : Nat) (k : Int) : Bool :=
  let low := compareScaled d k r.low r.quarter
  let high := compareScaled d k r.high r.quarter
  (low == .gt || (r.closed && low == .eq)) && (high == .lt || (r.closed && high == .eq))

/-- The exponent of the first decimal digit of a positive number. -/
def Dyadic.decade (x : Dyadic) : Int :=
  let guess := Int.fdiv (((Nat.log2 x.mantissa : Int) + x.exponent) * 1233) 4096
  let reached (e : Int) : Bool := compareScaled 1 e x.mantissa x.exponent != .gt
  if reached (guess + 1) then guess + 1
  else if reached guess then guess
  else guess - 1

/-- The whole part of `x / 10 ^ k`. -/
def Dyadic.floorAt (x : Dyadic) (k : Int) : Nat :=
  (x.mantissa * twoTo x.exponent.toNat * tenTo (-k).toNat)
    / (tenTo k.toNat * twoTo (-x.exponent).toNat)

/-- The nearer of the two grid points `d` and `d + 1` around the middle of the interval, the
even one when both are equally far. -/
def Rounding.nearer (r : Rounding) (d : Nat) (k : Int) : Nat :=
  match compareScaled (2 * d + 1) k (2 * r.middle) r.quarter with
  | .gt => d
  | .lt => d + 1
  | .eq => d + d % 2

/-- The point of the grid `10 ^ k` that reads back as the double and is nearest to it. -/
def Rounding.pick? (r : Rounding) (x : Dyadic) (k : Int) : Option Nat :=
  let d := x.floorAt k
  match d != 0 && r.covers d k, r.covers (d + 1) k with
  | true, true => some (r.nearer d k)
  | true, false => some d
  | false, true => some (d + 1)
  | false, false => none

/-- Searches the grids with `count`, `count + 1`, … digits, `left` of them. -/
def Rounding.search (r : Rounding) (x : Dyadic) (decade : Int) : (left count : Nat) → Scientific
  | 0, count => ⟨x.floorAt (decade + 1 - count), decade + 1 - count⟩
  | left + 1, count =>
    let k := decade + 1 - count
    match r.pick? x k with
    | some d => ⟨d, k⟩
    | none => r.search x decade left (count + 1)

/-- The decimal with the fewest digits that reads back as a positive double, and the nearest to
it among those.  Seventeen digits are always enough. -/
def shortest (x : Dyadic) : Scientific :=
  x.rounding.search x x.decade 17 1

end Muster.Decimal
