import Muster.Decimal.Numeral
import Muster.Fault
/-!
# Values where another type is wanted

Reading a value as a whole number, as a list of values, as a switch or as an optional text,
with the fault that arises when it is none.
-/

namespace Muster.Value

open Decimal

/-- A double without its fraction. -/
def truncate (x : Float) : Except Fault Int :=
  match parts x with
  | .nan => .error .badValue
  | .infinite _ => .error .overflow
  | .finite negative ⟨m, e⟩ => .ok (signed negative (m * twoTo e.toNat / twoTo (-e).toNat))

/-- A value as a whole number. -/
def toInt : Value → Except Fault Int
  | bool b => .ok (if b then 1 else 0)
  | int n => .ok n
  | float x => truncate x
  | str s => (intOfText? s).elim (.error .badValue) .ok
  | bytes bs =>
    if bs.all (· < 128) then
      (intOfText? (String.ofList (bs.map fun b => Char.ofNat b.toNat))).elim (.error .badValue) .ok
    else .error .badValue
  | _ => .error .wrongType

/-- The members of a value: the items of a list, the keys of a mapping, the characters of a
text. -/
def members : Value → Except Fault (List Value)
  | str s => .ok (s.toList.map fun c => str (String.singleton c))
  | bytes bs => .ok (bs.map fun b => int b.toNat)
  | list items => .ok items
  | map entries => .ok (entries.map Prod.fst)
  | pair a b => .ok [a, b]
  | set items => .ok items
  | null | bool _ | int _ | float _ | date _ | moment _ | loop _ => .error .wrongType

/-- A value that stands for a list: nothing, a single text or number, or the members. -/
def toList : Value → Except Fault (List Value)
  | null => .ok []
  | v@(bool _) | v@(int _) | v@(str _) => .ok [v]
  | v => v.members

/-- Whether a value switches something on. -/
def toFlag : Value → Bool
  | str s =>
    let word := String.ofList ((Text.strip s).toList.map lowerLatin)
    word = "true" || word = "yes" || word = "1"
  | v => v.isGiven

/-- Why a value is no text. -/
inductive TextFault where
  | notText
  | notUnicode
deriving Repr, DecidableEq

/-- The name of the fault. -/
def TextFault.kind : TextFault → String
  | notText => "string_type"
  | notUnicode => "string_unicode"

/-- A value as a text: texts, and bytes that encode one. -/
def toText : Value → Except TextFault String
  | str s => .ok s
  | bytes bs =>
    match String.fromUTF8? ⟨bs.toArray⟩ with
    | some s => .ok s
    | none => .error .notUnicode
  | _ => .error .notText

/-- A value as a text that may be missing. -/
def toOptionalText : Value → Except TextFault (Option String)
  | null => .ok none
  | v => v.toText.map some

end Muster.Value
