import Muster.Power
/-!
# Double precision numbers as exact fractions

A finite double is a whole number of units, each unit a power of two.  `Dyadic.ofFloat?`
takes a double apart, and `nearestBits` goes the other way: it rounds an exact fraction to
the nearest double, a tie going to the even neighbour.
-/

namespace Muster.Decimal

/-- The number `mantissa * 2 ^ exponent`. -/
structure Dyadic where
  mantissa : Nat
  exponent : Int
deriving Repr, DecidableEq

/-- The three kinds of double: not a number, an infinity and a finite number with its sign. -/
inductive Parts where
  | nan
  | infinite (negative : Bool)
  | finite (negative : Bool) (size : Dyadic)
deriving Repr, DecidableEq

/-- The parts of the double with the given bits: one for the sign, eleven for the exponent and
fifty-two for the fraction. -/
def partsOfBits (bits : Nat) : Parts :=
  let negative := bits / twoTo 63 % 2 == 1
  let exponent := bits / twoTo 52 % twoTo 11
  let fraction := bits % twoTo 52
  if exponent = 2047 then
    if fraction = 0 then .infinite negative else .nan
  else if exponent = 0 then .finite negative ⟨fraction, -1074⟩
  else .finite negative ⟨twoTo 52 + fraction, Int.ofNat exponent - 1075⟩

/-- The parts of a double. -/
def parts (x : Float) : Parts :=
  partsOfBits x.toBits.toNat

/-- A fraction rounded to the nearest whole number, a tie going to the even one. -/
def roundHalfEven (num den : Nat) : Nat :=
  let q := num / den
  let r := num % den
  if 2 * r < den then q
  else if 2 * r = den then q + q % 2
  else q + 1

/-- The power of two at which `num / den` has fifty-three binary digits, or the smallest one
that a double can have. -/
def unitExponent (num den : Nat) : Int :=
  let guess : Int := (Nat.log2 num : Int) - Nat.log2 den - 52
  let below : Bool :=
    if guess < 0 then num * twoTo guess.natAbs < twoTo 52 * den
    else num < twoTo 52 * den * twoTo guess.natAbs
  max (if below then guess - 1 else guess) (-1074)

/-- The bits of `n` units of `2 ^ q`, an infinity when they are out of range.  The units have
fifty-three binary digits, or fewer if they are the smallest ones. -/
def bitsOfUnits (q : Int) (n : Nat) : Nat :=
  let bits := if n < twoTo 52 then n else (q + 1075).toNat * twoTo 52 + (n - twoTo 52)
  min bits (2047 * twoTo 52)

/-- The bits of the double nearest to `num / den`, an infinity when it is out of range. -/
def nearestBits (num den : Nat) : Nat :=
  if num = 0 then 0
  else
    let q := unitExponent num den
    if q < 0 then bitsOfUnits q (roundHalfEven (num * twoTo q.natAbs) den)
    else bitsOfUnits q (roundHalfEven num (den * twoTo q.natAbs))

/-- The double nearest to `num / den`, with the given sign. -/
def nearest (negative : Bool) (num den : Nat) : Float :=
  Float.ofBits (UInt64.ofNat ((if negative then twoTo 63 else 0) + nearestBits num den))

/-- The double nearest to a whole number, unless the number is out of range. -/
def ofInt? (n : Int) : Option Float :=
  if nearestBits n.natAbs 1 = 2047 * twoTo 52 then none
  else some (nearest (n < 0) n.natAbs 1)

/-- The double nearest to `digits * 10 ^ exponent`.  Exponents beyond the range of doubles are
cut off first, so that no power of ten larger than needed is formed. -/
def ofDecimal (negative : Bool) (digits : Nat) (exponent : Int) : Float :=
  let most := (Nat.log2 digits + 1) * 31 / 100
  let least := Nat.log2 digits * 3 / 10
  if digits = 0 ∨ most + exponent < -400 then nearest negative 0 1
  else if 400 < least + exponent then nearest negative (twoTo 2000) 1
  else if exponent < 0 then nearest negative digits (tenTo exponent.natAbs)
  else nearest negative (digits * tenTo exponent.natAbs) 1

/-- The double that is no number. -/
def notANumber : Float :=
  Float.ofBits 0x7FF8000000000000

/-- The infinite double of the given sign. -/
def infinity (negative : Bool) : Float :=
  nearest negative (twoTo 2000) 1

end Muster.Decimal
