import Muster.Decimal.Double
import Muster.Text.Digit
import Muster.Text.Blank
/-!
# Reading numerals

The numerals accepted where a text stands for a number: whole numbers and decimal fractions
with an optional exponent, in the digits of any script, with single underscores between
digits and white space around.
-/

namespace Muster.Decimal

open Text

/-- The white space allowed around a numeral: the separators among the control characters do
not belong to it. -/
def isNumeralBlank (c : Char) : Bool :=
  if c.toNat < 127 then c == ' ' || (9 ≤ c.toNat && c.toNat ≤ 13) else isBlank c

/-- The values of a run of digits in which single underscores may separate two digits.  The
flag tells whether a digit has just been read. -/
def digitGroup? : (afterDigit : Bool) → List Char → Option (List Nat)
  | afterDigit, [] => if afterDigit then some [] else none
  | true, '_' :: r => digitGroup? false r
  | _, c :: r =>
    match decimalValue? c with
    | some d => (digitGroup? true r).map (d :: ·)
    | none => none

/-- The number with the given decimal digits, most significant first. -/
def ofDigits (ds : List Nat) : Nat :=
  ds.foldl (fun n d => n * 10 + d) 0

/-- The most digits a whole number may have where a text is read as one. -/
def digitLimit : Nat := 4300

/-- Takes an optional sign off a numeral. -/
def takeSign : List Char → Bool × List Char
  | '-' :: r => (true, r)
  | '+' :: r => (false, r)
  | r => (false, r)

/-- A number with a sign. -/
def signed (negative : Bool) (n : Nat) : Int :=
  if negative then -(n : Int) else n

/-- Reads a whole number. -/
def intOfText? (s : String) : Option Int :=
  let (negative, digits) := takeSign (trimBy isNumeralBlank s.toList)
  match digitGroup? false digits with
  | some ds => if ds.length ≤ digitLimit then some (signed negative (ofDigits ds)) else none
  | none => none

/-- The ASCII lower case of a character. -/
def lowerLatin (c : Char) : Char :=
  if 'A' ≤ c ∧ c ≤ 'Z' then Char.ofNat (c.toNat + 32) else c

/-- Reads the part of a decimal numeral after its sign: digits around an optional point, at
least one of them, and an optional exponent. -/
def decimalOfChars? (cs : List Char) : Option (Nat × Int) := do
  let isBreak (c : Char) : Bool := c == 'e' || c == 'E'
  let mantissa := cs.takeWhile (!isBreak ·)
  let exponent ← match cs.dropWhile (!isBreak ·) with
    | [] => some 0
    | _ :: r =>
      let (negative, digits) := takeSign r
      (digitGroup? false digits).map fun ds => signed negative (ofDigits ds)
  let whole := mantissa.takeWhile (· != '.')
  match mantissa.dropWhile (· != '.') with
  | [] => (digitGroup? false whole).map fun ds => (ofDigits ds, exponent)
  | _ :: fraction =>
    if whole = [] ∧ fraction = [] then none
    else
      let before ← if whole = [] then some [] else digitGroup? false whole
      let after ← if fraction = [] then some [] else digitGroup? false fraction
      some (ofDigits (before ++ after), exponent - after.length)

/-- Reads a decimal number, or the name of an infinity or of the double that is no number. -/
def floatOfText? (s : String) : Option Float :=
  let (negative, body) := takeSign (trimBy isNumeralBlank s.toList)
  let word := String.ofList (body.map lowerLatin)
  if word = "inf" ∨ word = "infinity" then some (infinity negative)
  else if word = "nan" then some notANumber
  else (decimalOfChars? body).map fun (digits, exponent) => ofDecimal negative digits exponent

end Muster.Decimal
