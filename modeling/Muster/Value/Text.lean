import Muster.Decimal.Notation
import Muster.Text.Literal
import Muster.Value
/-!
# The text of a value

`Value.text` is how a value reads where a text is wanted, `Value.literal` how it is shown
inside a message or inside another value.  They differ for texts, which a literal puts
between quotes, and for dates.
-/

namespace Muster

/-- A number with at least `width` digits. -/
def padNumber (width n : Nat) : String :=
  let ds := Nat.toDigits 10 n
  String.ofList (List.replicate (width - ds.length) '0' ++ ds)

namespace Date

/-- A date as year, month and day with dashes between them. -/
def text (d : Date) : String :=
  padNumber 4 d.year ++ "-" ++ padNumber 2 d.month ++ "-" ++ padNumber 2 d.day

/-- The numbers of a date. -/
def fields (d : Date) : List Nat :=
  [d.year, d.month, d.day]

end Date

namespace Moment

/-- A distance from universal time with its sign, in hours and minutes. -/
def offsetText (minutes : Int) : String :=
  (if minutes < 0 then "-" else "+") ++ padNumber 2 (minutes.natAbs / 60) ++ ":"
    ++ padNumber 2 (minutes.natAbs % 60)

/-- A moment as date and time of day, with the fraction of the second if there is one. -/
def text (m : Moment) : String :=
  m.date.text ++ " " ++ padNumber 2 m.hour ++ ":" ++ padNumber 2 m.minute ++ ":"
    ++ padNumber 2 m.second
    ++ (if m.microsecond = 0 then "" else "." ++ padNumber 6 m.microsecond)
    ++ (m.offset.map offsetText).getD ""

/-- The literal of a distance from universal time. -/
def offsetLiteral (minutes : Int) : String :=
  if minutes = 0 then "datetime.timezone.utc"
  else
    let seconds := if minutes < 0 then (minutes + 1440) * 60 else minutes * 60
    let days := if minutes < 0 then "days=-1, " else ""
    "datetime.timezone(datetime.timedelta(" ++ days ++ "seconds=" ++ toString seconds ++ "))"

/-- The numbers of a moment; the seconds and their fraction are left out when they are zero. -/
def fields (m : Moment) : List Nat :=
  let clock :=
    if m.microsecond ≠ 0 then [m.second, m.microsecond]
    else if m.second ≠ 0 then [m.second]
    else []
  m.date.fields ++ [m.hour, m.minute] ++ clock

end Moment

namespace Value

/-- A list of texts with commas between them. -/
def commas (parts : List String) : String :=
  ", ".intercalate parts

mutual

/-- How a value is shown inside a message. -/
def literal : Value → String
  | null => "None"
  | bool b => if b then "True" else "False"
  | int n => toString n
  | float x => Decimal.plain.write x
  | str s => Text.literal s
  | bytes bs => Text.bytesLiteral bs
  | date d => "datetime.date(" ++ commas (d.fields.map toString) ++ ")"
  | moment m =>
    let zone := match m.offset with
      | some minutes => ["tzinfo=" ++ Moment.offsetLiteral minutes]
      | none => []
    "datetime.datetime(" ++ commas (m.fields.map toString ++ zone) ++ ")"
  | list items => "[" ++ commas (literals items) ++ "]"
  | map entries => "\x7b" ++ commas (entryLiterals entries) ++ "\x7d"
  | pair a b => "(" ++ literal a ++ ", " ++ literal b ++ ")"
  | set items => if items.isEmpty then "set()" else "\x7b" ++ commas (literals items) ++ "\x7d"
  | loop isMap => if isMap then "\x7b...\x7d" else "[...]"

/-- The literals of the values of a list. -/
def literals : List Value → List String
  | [] => []
  | v :: r => literal v :: literals r

/-- The literals of the entries of a mapping. -/
def entryLiterals : List (Value × Value) → List String
  | [] => []
  | (k, v) :: r => (literal k ++ ": " ++ literal v) :: entryLiterals r

end

/-- How a value reads as a text. -/
def text : Value → String
  | str s => s
  | date d => d.text
  | moment m => m.text
  | v => literal v

@[simp]
theorem text_str (s : String) :
  (str s).text = s
  := rfl

end Value

end Muster
