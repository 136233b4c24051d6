import Muster.Text.Digit
import Muster.Fault
import Muster.Yaml.Kind
/-!
# Dates and moments

The spelling of dates, and of moments with the time of day, the fraction of the second and the
distance from universal time.
-/

namespace Muster.Yaml.Time

open Kind (isDigit)

/-- The parts of a spelled moment. -/
structure Spelling where
  date : Date
  /-- Whether the month and the day have two digits each. -/
  wide : Bool
  clock : Option (Nat × Nat × Nat)
  fraction : List Char
  zone : Option Int
deriving Repr

/-- Reads between `least` and `most` digits. -/
def takeDigits (least most : Nat) (cs : List Char) : Option (List Char × List Char) :=
  let ds := (cs.take most).takeWhile isDigit
  if ds.length < least then none else some (ds, cs.drop ds.length)

/-- Reads a given character. -/
def takeSign (c : Char) : List Char → Option (List Char)
  | [] => none
  | d :: r => if d = c then some r else none

/-- Reads the distance from universal time, in minutes. -/
def takeZone : List Char → Option (Option Int × List Char)
  | [] => some (none, [])
  | cs => do
    match cs.dropWhile fun c => c == ' ' || c == '\t' with
    | 'Z' :: r => some (some 0, r)
    | sign :: r =>
      if sign = '+' ∨ sign = '-' then do
        let (hours, r) ← takeDigits 1 2 r
        let (minutes, r) ← match r with
          | ':' :: r => takeDigits 2 2 r
          | r => some ([], r)
        let size : Int := Text.decimalNumber hours * 60 + Text.decimalNumber minutes
        some (some (if sign = '-' then -size else size), r)
      else none
    | [] => none

/-- Reads the time of day and what follows it. -/
def takeClock (cs : List Char) : Option ((Nat × Nat × Nat) × List Char × Option Int) := do
  let (hour, r) ← takeDigits 1 2 cs
  let r ← takeSign ':' r
  let (minute, r) ← takeDigits 2 2 r
  let r ← takeSign ':' r
  let (second, r) ← takeDigits 2 2 r
  let (fraction, r) := match r with
    | '.' :: r => (r.takeWhile isDigit, r.dropWhile isDigit)
    | r => ([], r)
  let (zone, r) ← takeZone r
  if r.isEmpty then
    some ((Text.decimalNumber hour, Text.decimalNumber minute, Text.decimalNumber second),
      fraction, zone)
  else none

/-- Reads a date or a moment. -/
def spelling? (cs : List Char) : Option Spelling := do
  let (year, r) ← takeDigits 4 4 cs
  let r ← takeSign '-' r
  let (month, r) ← takeDigits 1 2 r
  let r ← takeSign '-' r
  let (day, r) ← takeDigits 1 2 r
  let date : Date := ⟨Text.decimalNumber year, Text.decimalNumber month, Text.decimalNumber day⟩
  let wide := month.length = 2 && day.length = 2
  match r with
  | [] => some ⟨date, wide, none, [], none⟩
  | c :: r' =>
    let r ←
      if c = 'T' ∨ c = 't' then some r'
      else if c = ' ' ∨ c = '\t' then some (r'.dropWhile fun c => c == ' ' || c == '\t')
      else none
    let (clock, fraction, zone) ← takeClock r
    some ⟨date, wide, some clock, fraction, zone⟩

/-- Whether a plain scalar is spelled as a date or a moment; the month and the day of a mere date
have two digits. -/
def isTimestamp (cs : List Char) : Bool :=
  (spelling? cs).any fun s => s.clock.isSome || s.wide

/-- Whether a year has a day more. -/
def isLeap (year : Nat) : Bool :=
  (year % 4 == 0 && year % 100 != 0) || year % 400 == 0

/-- The number of days of a month. -/
def daysOf (year month : Nat) : Nat :=
  if month = 2 then (if isLeap year then 29 else 28)
  else if month = 4 ∨ month = 6 ∨ month = 9 ∨ month = 11 then 30
  else 31

/-- Whether a date is a day of the calendar. -/
def isDay (d : Date) : Bool :=
  1 ≤ d.year && 1 ≤ d.month && d.month ≤ 12 && 1 ≤ d.day && d.day ≤ daysOf d.year d.month

/-- The first six digits of a fraction of a second, filled up with zeros. -/
def microseconds (fraction : List Char) : Nat :=
  let ds := fraction.take 6
  Text.decimalNumber (ds ++ List.replicate (6 - ds.length) '0')

/-- The value of a date or a moment, refused when there is no such day, time or distance. -/
def read (cs : List Char) : Except Fault Value :=
  match spelling? cs with
  | none => .error .noAttribute
  | some s =>
    match s.clock with
    | none => if isDay s.date then .ok (.date s.date) else .error .badValue
    | some (hour, minute, second) =>
      if isDay s.date && hour < 24 && minute < 60 && second < 60
          && s.zone.all (fun z => z.natAbs < 1440) then
        .ok (.moment ⟨s.date, hour, minute, second, microseconds s.fraction, s.zone⟩)
      else .error .badValue

end Muster.Yaml.Time
