import Muster.Decimal.Numeral
import Muster.Text.Split
import Muster.Yaml.Scalar.Binary
import Muster.Yaml.Scalar.Time
import Muster.Yaml.Trouble
/-!
# The values of scalars

`Kind.ofPlain` is the kind that the spelling of a plain scalar belongs to, and `Kind.read` the
value of a scalar of a given kind.
-/

namespace Muster.Yaml

open Decimal

namespace Kind

/-- A text without one line feed at its end. -/
def dropLastBreak (cs : List Char) : List Char :=
  if cs.getLast? = some '\n' then cs.dropLast else cs

/-- The kind that a plain scalar belongs to by its spelling. -/
def ofPlain (s : String) : Kind :=
  let cs := dropLastBreak s.toList
  let word := String.ofList cs
  if s = "" then null
  else if s.toList.head? = some '\n' then text
  else if isBool word then bool
  else if isFloat cs then float
  else if isInt cs then int
  else if word = "<<" then merge
  else if isNull word then null
  else if Time.isTimestamp cs then timestamp
  else if word = "=" then value
  else text

/-- The digits of a whole number in a base, after an optional sign and the letter that names the
base, if the base has one. -/
def digitsIn (base : Nat) (letter : Option Char) (cs : List Char) : Option Int := do
  let (negative, r) := takeSign (Text.trimBy isNumeralBlank cs)
  let r := match r with
    | '0' :: c :: d :: r => if some (lowerLatin c) = letter then d :: r else '0' :: c :: d :: r
    | r => r
  if r.isEmpty then none
  else
    let digit (c : Char) : Option Nat :=
      ((Text.decimalValue? c).or (Text.hexValue? c)).filter (· < base)
    let ds ← r.mapM digit
    some (signed negative (ds.foldl (fun n d => n * base + d) 0))

/-- A number of base sixty with the given digits, the first of the highest order. -/
def inSixties (ds : List Int) : Int :=
  ds.foldl (fun n d => n * 60 + d) 0

/-- The number of seconds of a number of base sixty, added up from its last digit. -/
def inSixtieths (ds : List Float) : Float :=
  let step (acc : Float × Nat) (d : Float) : Float × Nat :=
    (acc.1 + d * (ofInt? acc.2).getD (infinity false), acc.2 * 60)
  (ds.reverse.foldl step (ofDecimal false 0 0, 1)).1

/-- Takes the sign off the text of a number; a text of nothing has no first character. -/
def takeNumberSign (cs : List Char) : Except Fault (Bool × List Char) :=
  match cs with
  | [] => .error .outOfRange
  | c :: _ => .ok (c == '-', dropSign cs)

/-- The value of a whole number. -/
def readInt (s : String) : Except Fault Value := do
  let (negative, cs) ← takeNumberSign (s.toList.filter (· != '_'))
  let size : Option Int :=
    match cs with
    | '0' :: 'b' :: r => digitsIn 2 (some 'b') r
    | '0' :: 'x' :: r => digitsIn 16 (some 'x') r
    | '0' :: _ => digitsIn 8 (some 'o') cs
    | _ =>
      if cs.contains ':' then
        ((Text.splitOn ':' cs).mapM fun p => intOfText? (String.ofList p)).map inSixties
      else intOfText? (String.ofList cs)
  if cs.isEmpty then throw .outOfRange
  match size with
  | some n => return .int (if negative then -n else n)
  | none => throw .badValue

/-- The value of a number with a point. -/
def readFloat (s : String) : Except Fault Value := do
  let (negative, cs) ← takeNumberSign ((s.toList.filter (· != '_')).map lowerLatin)
  let word := String.ofList cs
  let size : Option Float :=
    if word = ".inf" then some (infinity false)
    else if word = ".nan" then some notANumber
    else if cs.contains ':' then
      ((Text.splitOn ':' cs).mapM fun p => floatOfText? (String.ofList p)).map inSixtieths
    else floatOfText? word
  match size with
  | some x => return .float (if negative && !x.isNaN then -x else x)
  | none => throw .badValue

/-- The value of a truth value. -/
def readBool (s : String) : Except Fault Value :=
  let word := String.ofList (s.toList.map lowerLatin)
  if word = "yes" ∨ word = "true" ∨ word = "on" then .ok (.bool true)
  else if word = "no" ∨ word = "false" ∨ word = "off" then .ok (.bool false)
  else .error .missingKey

/-- The value of a scalar of a kind that begins at a mark. -/
def read (kind : Kind) (start : Mark) (s : String) : Except Refusal Value :=
  match kind with
  | null => .ok .null
  | bool => (readBool s).mapError .fault
  | int => (readInt s).mapError .fault
  | float => (readFloat s).mapError .fault
  | binary =>
    match Binary.read s.toList with
    | .ok bs => .ok (.bytes bs)
    | .error bad => .error (.place start (.badBytes bad.message))
  | timestamp => (Time.read (dropLastBreak s.toList)).mapError .fault
  | text => .ok (.str s)
  | kind => .error (.place start (.unknownTag kind.tag))

end Kind

end Muster.Yaml
