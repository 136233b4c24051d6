import Muster.Power
/-!
# Document values

The values a descriptor document is made of.  A mapping keeps its entries in document order
and its keys may be any scalar; two keys are the same when they are equal as numbers or as
texts, so that `1`, `1.0` and `true` are one key.
-/

namespace Muster

/-- A day of the calendar. -/
structure Date where
  year : Nat
  month : Nat
  day : Nat
deriving Repr, DecidableEq

/-- A moment of a day, with its distance from universal time in minutes when that is known. -/
structure Moment where
  date : Date
  hour : Nat
  minute : Nat
  second : Nat
  microsecond : Nat
  offset : Option Int
deriving Repr, DecidableEq

/-- A value of a document. -/
inductive Value where
  | null
  | bool (b : Bool)
  | int (n : Int)
  | float (x : Float)
  | str (s : String)
  | bytes (bs : List UInt8)
  | date (d : Date)
  | moment (m : Moment)
  | list (items : List Value)
  | map (entries : List (Value × Value))
  | pair (first second : Value)
  | set (items : List Value)
  /-- A reference to an enclosing list or mapping. -/
  | loop (isMap : Bool)
deriving Repr, Inhabited

namespace Value

/-- Whether a value counts as given: null, false, zero and everything empty do not. -/
def isGiven : Value → Bool
  | null => false
  | bool b => b
  | int n => n != 0
  | float x => x != 0
  | str s => s != ""
  | bytes bs => !bs.isEmpty
  | date _ | moment _ | pair .. | loop _ => true
  | list items => !items.isEmpty
  | map entries => !entries.isEmpty
  | set items => !items.isEmpty

/-- The number that a numeric key stands for, as an exact fraction of a power of two. -/
def number? : Value → Option (Int × Nat)
  | bool b => some (if b then 1 else 0, 0)
  | int n => some (n, 0)
  | float x =>
    let bits := x.toBits.toNat
    let exponent := bits / twoTo 52 % twoTo 11
    let fraction := bits % twoTo 52
    let size : Nat := if exponent = 0 then fraction * 2 else (twoTo 52 + fraction) * twoTo exponent
    if exponent = 2047 then none
    else some (if bits / twoTo 63 = 1 then -(size : Int) else size, 1075)
  | _ => none

/-- Whether two fractions of powers of two are equal. -/
def sameNumber (a b : Int × Nat) : Bool :=
  a.1 * twoTo b.2 == b.1 * twoTo a.2

/-- Whether two scalars are the same key of a mapping. -/
def sameKey (a b : Value) : Bool :=
  match a.number?, b.number? with
  | some x, some y => sameNumber x y
  | some _, none | none, some _ => false
  | none, none =>
    match a, b with
    | null, null => true
    | float x, float y => x.toBits == y.toBits || (x.isNaN && y.isNaN)
    | str s, str t => s == t
    | bytes s, bytes t => s == t
    | date d, date e => d == e
    | moment m, moment n => m == n
    | _, _ => false

/-- Whether a value can be a key: lists, mappings and sets cannot. -/
def isScalar : Value → Bool
  | list _ | map _ | set _ | loop _ => false
  | _ => true

/-- Writes to a key of a list of entries: a present key keeps its place and its spelling. -/
def writeKey (key value : Value) : List (Value × Value) → List (Value × Value)
  | [] => [(key, value)]
  | (k, v) :: r => if k.sameKey key then (k, value) :: r else (k, v) :: writeKey key value r

/-- The mapping of a list of entries: of several with one key the last value counts, at the
place of the first. -/
def ofEntries (entries : List (Value × Value)) : Value :=
  map (entries.foldl (fun acc e => writeKey e.1 e.2 acc) [])

/-- The value that a list of entries gives to a textual key. -/
def field? (key : String) : List (Value × Value) → Option Value
  | [] => none
  | (.str k, v) :: r => if k = key then some v else field? key r
  | _ :: r => field? key r

/-- The value that a list of entries gives to a textual key, null when there is none. -/
def field (key : String) (entries : List (Value × Value)) : Value :=
  (field? key entries).getD null

end Value

end Muster
