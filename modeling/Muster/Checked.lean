import Muster.Table
import Muster.Value.Convert
/-!
# Checked fields

Reading a record from a mapping of field names to values.  A field that does not hold a value
of its type leaves a fault with the place where it stands; the faults of all fields are
collected in the order of the fields.
-/

namespace Muster

/-- A result of checking some fields: the value, if there is one, and the faults found. -/
structure Checked (α : Type) where
  value? : Option α
  faults : List FieldFault

namespace Checked

instance : Applicative Checked where
  pure a := ⟨some a, []⟩
  seq f x :=
    let x := x ()
    ⟨f.value?.bind fun g => x.value?.map g, f.faults ++ x.faults⟩

/-- The result of a field with a fault. -/
def fault (kind : String) : Checked α :=
  ⟨none, [⟨[], kind⟩]⟩

/-- A result whose faults lie under a field or at a place of a list. -/
def under (place : String) (c : Checked α) : Checked α :=
  ⟨c.value?, c.faults.map fun f => { f with path := place :: f.path }⟩

/-- The value, unless there are faults. -/
def result (c : Checked α) : Except Fault α :=
  match c.value?, c.faults with
  | some a, [] => .ok a
  | _, faults => .error (.fields faults)

/-- The results of the items of a list, in their order. -/
def all (f : α → Checked β) : List α → Checked (List β)
  | [] => pure []
  | a :: r => (· :: ·) <$> f a <*> all f r

end Checked

namespace Value

open Decimal

/-- The digits of a numeral with single underscores between them, or nothing. -/
def latinDigits? (cs : List Char) : Option (List Nat) :=
  if cs.all fun c => ('0' ≤ c && c ≤ '9') || c == '_' then digitGroup? false cs else none

/-- A whole number read from a text, which may end in a point and zeros. -/
def latinInt? (s : String) : Option Int := do
  let (negative, cs) := takeSign (Text.strip s).toList
  let fraction := cs.dropWhile (· != '.')
  let zeros := fraction.drop 1
  if fraction = [] ∨ (zeros ≠ [] ∧ zeros.all (· == '0')) then do
    let ds ← latinDigits? (cs.takeWhile (· != '.'))
    some (signed negative (ofDigits ds))
  else none

/-- A whole number as a field. -/
def checkInt : Value → Checked Int
  | bool b => pure (if b then 1 else 0)
  | int n => pure n
  | float x =>
    match parts x with
    | .finite negative ⟨m, e⟩ =>
      if m * twoTo e.toNat % twoTo (-e).toNat = 0 then
        let n := m * twoTo e.toNat / twoTo (-e).toNat
        if n ≤ twoTo 63 then pure (signed negative n) else .fault "int_parsing_size"
      else .fault "int_from_float"
    | _ => .fault "finite_number"
  | str s => (latinInt? s).elim (.fault "int_parsing") pure
  | _ => .fault "int_type"

/-- A number as a field. -/
def checkFloat : Value → Checked Float
  | bool b => pure (ofDecimal false (if b then 1 else 0) 0)
  | int n => (ofInt? n).elim (.fault "float_type") pure
  | float x => pure x
  | str s =>
    let text := Text.strip s
    if text.toList.all (·.toNat < 128) then (floatOfText? text).elim (.fault "float_parsing") pure
    else .fault "float_parsing"
  | _ => .fault "float_type"

/-- The truth value that a word names. -/
def truthOfWord? (s : String) : Option Bool :=
  let word := String.ofList (s.toList.map lowerLatin)
  if ["1", "on", "t", "true", "y", "yes"].contains word then some true
  else if ["0", "off", "f", "false", "n", "no"].contains word then some false
  else none

/-- A truth value as a field. -/
def checkBool : Value → Checked Bool
  | bool b => pure b
  | str s => (truthOfWord? s).elim (.fault "bool_parsing") pure
  | int n =>
    if n = 0 then pure false else if n = 1 then pure true else .fault "bool_parsing"
  | v@(float _) =>
    match v.checkInt.value? with
    | some n =>
      if n = 0 then pure false else if n = 1 then pure true else .fault "bool_parsing"
    | none => .fault "bool_type"
  | _ => .fault "bool_type"

/-- A text as a field. -/
def checkText (v : Value) : Checked String :=
  match v.toText with
  | .ok s => pure s
  | .error e => .fault e.kind

/-- An optional field, where null stands for nothing. -/
def checkOptional (f : Value → Checked α) : Value → Checked (Option α)
  | null => pure none
  | v => some <$> f v

/-- A list as a field. -/
def checkList (f : Value → Checked α) : Value → Checked (List α)
  | list items => Checked.all (fun e => (f e.1).under (toString e.2)) items.zipIdx
  | _ => .fault "tuple_type"

/-- A mapping from texts as a field. -/
def checkTable (f : Value → Checked α) : Value → Checked (Table α)
  | map entries =>
    Table.ofList <$> Checked.all
      (fun e => (fun a => (e.1.text, a)) <$> (f e.2).under e.1.text) entries
  | _ => .fault "dict_type"

/-- A value that is named by a text as a field. -/
def checkName (ofName? : String → Option α) : Value → Checked α
  | str s => (ofName? s).elim (.fault "enum") pure
  | _ => .fault "enum"

/-- A record as a field. -/
def checkRecord (f : List (Value × Value) → Checked α) : Value → Checked α
  | map entries => f entries
  | _ => .fault "model_type"

/-- A field that has to be given. -/
def required (entries : List (Value × Value)) (name : String) (f : Value → Checked α) :
    Checked α :=
  match field? name entries with
  | some v => (f v).under name
  | none => Checked.under name (.fault "missing")

/-- A field with a default. -/
def optional (entries : List (Value × Value)) (name : String) (default : α)
    (f : Value → Checked α) : Checked α :=
  match field? name entries with
  | some v => (f v).under name
  | none => pure default

end Value

end Muster
