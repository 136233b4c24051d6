import Muster.Decimal.Shortest
/-!
# Writing doubles

A `Notation` record holds the decisions of a number format.  `Notation.write` writes a double
with the fewest digits that read back, positionally or with an exponent as the record says.
-/

namespace Muster.Decimal

/-- The decisions of a format for doubles. -/
structure Notation where
  /-- The least exponent of the first digit that is written positionally. -/
  firstPositional : Int
  /-- The least exponent of the first digit that is too large to be written positionally. -/
  firstLarge : Int
  /-- Whether a point is written before an exponent even when no digit follows it. -/
  pointBeforeExponent : Bool
  /-- The text of the positive infinity; a minus sign comes in front of it for the other. -/
  infinite : String
  /-- The text of the double that is no number. -/
  notANumber : String

/-- The decimal digits of a number without the zeros at its end, and how many those were. -/
def significant (n : Nat) : List Char × Nat :=
  let ds := Nat.toDigits 10 n
  let zeros := (ds.reverse.takeWhile (· == '0')).length
  (ds.take (ds.length - zeros), zeros)

/-- A run of zeros. -/
def zeros (n : Nat) : List Char :=
  List.replicate n '0'

/-- The digits `ds`, the first of them standing for `10 ^ decade`, in positional notation with at
least one digit on each side of the point. -/
def positional (ds : List Char) (decade : Int) : List Char :=
  if decade < 0 then '0' :: '.' :: (zeros (decade.natAbs - 1) ++ ds)
  else
    let whole := decade.toNat + 1
    if ds.length ≤ whole then ds ++ zeros (whole - ds.length) ++ ['.', '0']
    else ds.take whole ++ '.' :: ds.drop whole

/-- An exponent with its sign and at least two digits. -/
def exponentText (e : Int) : List Char :=
  let ds := Nat.toDigits 10 e.natAbs
  (if e < 0 then '-' else '+') :: (if ds.length < 2 then '0' :: ds else ds)

namespace Notation

/-- The text of a positive decimal. -/
def writeScientific (f : Notation) (s : Scientific) : List Char :=
  let (ds, dropped) := significant s.digits
  let decade : Int := s.exponent + dropped + ds.length - 1
  if f.firstPositional ≤ decade ∧ decade < f.firstLarge then positional ds decade
  else
    let fraction := ds.drop 1
    let point :=
      if fraction = [] then (if f.pointBeforeExponent then ['.', '0'] else []) else '.' :: fraction
    ds.take 1 ++ point ++ 'e' :: exponentText decade

/-- The text of a double given by its parts. -/
def writeParts (f : Notation) : Parts → String
  | .nan => f.notANumber
  | .infinite negative => (if negative then "-" else "") ++ f.infinite
  | .finite negative x =>
    let size := if x.mantissa = 0 then ['0', '.', '0'] else f.writeScientific (shortest x)
    String.ofList (if negative then '-' :: size else size)

/-- The text of a double. -/
def write (f : Notation) (x : Float) : String :=
  f.writeParts (parts x)

end Notation

/-- Doubles in running text: positional from `0.0001` up to sixteen digits before the point. -/
def plain : Notation :=
  ⟨-4, 16, false, "inf", "nan"⟩

end Muster.Decimal
