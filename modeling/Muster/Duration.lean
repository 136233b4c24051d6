import Muster.Decimal.Numeral
import Muster.Fault
/-!
# Durations

A duration is a plain number of seconds, or a sequence of parts such as `1m30s`, each a
decimal number with a unit.  Parts are searched for from where the last one has ended, and they
count only as long as each stands there at once.  `Part.seconds` is the length of one part, and
the length of the whole is the sum over its parts, in numbers of any type with a `Magnitude`.
-/

namespace Muster.Duration

open Text Decimal

/-- The units of time. -/
inductive TimeUnit where
  | nanosecond
  | microsecond
  | millisecond
  | second
  | minute
  | hour
deriving Repr, DecidableEq

/-- Numbers in which lengths of time are counted. -/
class Magnitude (α : Type) where
  /-- The number `digits * 10 ^ exponent`. -/
  ofDecimal : (digits : Nat) → (exponent : Int) → α
  add : α → α → α
  mul : α → α → α

instance : Magnitude Float where
  ofDecimal := Decimal.ofDecimal false
  add a b := a + b
  mul a b := a * b

/-- The length of a unit in seconds. -/
def TimeUnit.seconds {α : Type} [Magnitude α] : TimeUnit → α
  | nanosecond => Magnitude.ofDecimal 1 (-9)
  | microsecond => Magnitude.ofDecimal 1 (-6)
  | millisecond => Magnitude.ofDecimal 1 (-3)
  | second => Magnitude.ofDecimal 1 0
  | minute => Magnitude.ofDecimal 60 0
  | hour => Magnitude.ofDecimal 3600 0

/-- Reads a unit at the head of a text; `ms` is one unit and not `m` before an `s`. -/
def takeUnit? : List Char → Option (TimeUnit × List Char)
  | 'n' :: 's' :: r => some (.nanosecond, r)
  | 'u' :: 's' :: r => some (.microsecond, r)
  | 'µ' :: 's' :: r => some (.microsecond, r)
  | 'm' :: 's' :: r => some (.millisecond, r)
  | 's' :: r => some (.second, r)
  | 'm' :: r => some (.minute, r)
  | 'h' :: r => some (.hour, r)
  | _ => none

theorem length_takeUnit? {cs : List Char} {u : TimeUnit} {r : List Char}
    (h : takeUnit? cs = some (u, r)) :
  r.length < cs.length
  := by
  unfold takeUnit? at h
  split at h <;> cases h <;> simp only [List.length_cons] <;> omega

/-- A decimal number with a unit: its digits before and after the point. -/
structure Part where
  whole : List Char
  fraction : List Char
  unit : TimeUnit
deriving Repr, DecidableEq

/-- The length of a part in seconds. -/
def Part.seconds {α : Type} [Magnitude α] (p : Part) : α :=
  Magnitude.mul
    (Magnitude.ofDecimal (decimalNumber (p.whole ++ p.fraction)) (-(p.fraction.length : Int)))
    p.unit.seconds

/-- Takes digits off the head of a text and goes on with what is left: at least one digit, and as
many as `next` can go on behind. -/
def takeDigits? {β : Type} (next : (digits rest : List Char) → Option β) :
    (before : List Char) → List Char → Option β
  | _, [] => none
  | before, c :: r =>
    if isDecimal c then
      match takeDigits? next (before ++ [c]) r with
      | some b => some b
      | none => next (before ++ [c]) r
    else none

theorem exists_of_takeDigits? {β : Type} {next : List Char → List Char → Option β}
    {before cs : List Char} {b : β} (taken : takeDigits? next before cs = some b) :
  ∃ digits rest, cs = digits ++ rest ∧ digits ≠ [] ∧ (∀ c ∈ digits, isDecimal c = true)
    ∧ next (before ++ digits) rest = some b
  := by
  induction cs generalizing before with
  | nil => cases taken
  | cons c r ih =>
    rw [takeDigits?] at taken
    split at taken
    · next digit =>
      split at taken
      · next b' more =>
        cases taken
        obtain ⟨digits, rest, rfl, -, all, goesOn⟩ := ih more
        exact ⟨c :: digits, rest, rfl, by simp, by simpa using ⟨digit, all⟩, by simpa using goesOn⟩
      · exact ⟨[c], r, rfl, by simp, by simpa using digit, taken⟩
    · cases taken

/-- Takes a point with digits behind it off the head of a text and goes on with what is left, or
goes on without them. -/
def takeFraction? {β : Type} (next : (digits rest : List Char) → Option β) (cs : List Char) :
    Option β :=
  match cs with
  | '.' :: r =>
    match takeDigits? next [] r with
    | some b => some b
    | none => next [] cs
  | _ => next [] cs

/-- The digits of a fraction with the point in front of them; without digits there is none. -/
def pointed (fraction : List Char) : List Char :=
  if fraction = [] then [] else '.' :: fraction

theorem exists_of_takeFraction? {β : Type} {next : List Char → List Char → Option β}
    {cs : List Char} {b : β} (taken : takeFraction? next cs = some b) :
  ∃ fraction rest, cs = pointed fraction ++ rest ∧ (∀ c ∈ fraction, isDecimal c = true)
    ∧ next fraction rest = some b
  := by
  unfold takeFraction? at taken
  split at taken
  · next r =>
    split at taken
    · next b' more =>
      cases taken
      obtain ⟨digits, rest, rfl, some, all, goesOn⟩ := exists_of_takeDigits? more
      exact ⟨digits, rest, by simp [pointed, some], all, goesOn⟩
    · exact ⟨[], _, rfl, by simp, taken⟩
  · exact ⟨[], _, rfl, by simp, taken⟩

/-- Reads a part at the head of a text. -/
def takePart? (cs : List Char) : Option (Part × List Char) :=
  takeDigits? (fun whole r =>
    takeFraction? (fun fraction r =>
      (takeUnit? r).map fun (unit, r) => (⟨whole, fraction, unit⟩, r)) r) [] cs

/-- What stands at the head of a text that a part is read from. -/
theorem exists_of_takePart? {cs : List Char} {p : Part} {r : List Char}
    (taken : takePart? cs = some (p, r)) :
  p.whole ≠ [] ∧ (∀ c ∈ p.whole, isDecimal c = true) ∧ (∀ c ∈ p.fraction, isDecimal c = true)
    ∧ ∃ behind, cs = p.whole ++ pointed p.fraction ++ behind ∧ takeUnit? behind = some (p.unit, r)
  := by
  obtain ⟨whole, rest, rfl, some, digits, taken⟩ := exists_of_takeDigits? taken
  obtain ⟨fraction, behind, rfl, more, taken⟩ := exists_of_takeFraction? taken
  obtain ⟨⟨unit, r'⟩, read, same⟩ := Option.map_eq_some_iff.mp taken
  cases same
  exact ⟨some, digits, more, behind, by simp, read⟩

theorem length_takePart? {cs : List Char} {p : Part} {r : List Char}
    (taken : takePart? cs = some (p, r)) :
  r.length < cs.length
  := by
  obtain ⟨-, -, -, behind, rfl, read⟩ := exists_of_takePart? taken
  have shorter := length_takeUnit? read
  simp only [List.length_append]
  omega

/-- The first part that stands anywhere in a text, with what stands before and behind it. -/
def findPart? : List Char → Option (List Char × Part × List Char)
  | [] => none
  | c :: r =>
    match takePart? (c :: r) with
    | some (p, behind) => some ([], p, behind)
    | none => (findPart? r).map fun (before, found) => (c :: before, found)

theorem findPart?_eq_nil_iff {cs : List Char} {p : Part} {r : List Char} :
  findPart? cs = some ([], p, r) ↔ takePart? cs = some (p, r)
  := by
  cases cs with
  | nil => exact ⟨nofun, nofun⟩
  | cons c cs =>
    rw [findPart?]
    split
    · next taken => simp [taken]
    · next none => simp [none]

/-- The parts that stand at the head of a text, one behind the other, and what is left of it. -/
def takeParts (cs : List Char) : List Part × List Char :=
  match _found : findPart? cs with
  | some ([], p, r) =>
    let (ps, left) := takeParts r
    (p :: ps, left)
  | _ => ([], cs)
termination_by cs.length
decreasing_by exact length_takePart? (findPart?_eq_nil_iff.mp _found)

/-- The sum of the lengths of some parts, taken from the first to the last. -/
def total {α : Type} [Magnitude α] (ps : List Part) : α :=
  ps.foldl (fun sum p => Magnitude.add sum p.seconds) (Magnitude.ofDecimal 0 0)

/-- Reads a text as a number of seconds. -/
def ofText? (s : String) : Option Float :=
  let text := strip s
  match floatOfText? text with
  | some x => some x
  | none =>
    match takeParts text.toList with
    | (p :: ps, []) => some (total (p :: ps))
    | _ => none

/-- The duration that a document value stands for; null stands for the default. -/
def ofValue (default : Float) (v : Value) : Except Fault Float :=
  match v with
  | .null => .ok default
  | .bool _ => .error (.descriptor (.badDuration v))
  | .float x => .ok x
  | .int n =>
    match ofInt? n with
    | some x => .ok x
    | none => .error .overflow
  | _ =>
    match ofText? v.text with
    | some x => .ok x
    | none => .error (.descriptor (.badDuration v))

end Muster.Duration
