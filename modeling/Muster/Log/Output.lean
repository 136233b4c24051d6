import Muster.Log
import Muster.Table
import Muster.Text.Split
import Muster.Value.Json
/-!
# Writing the log

A log entry is written if its level weighs at least as much as the threshold: in columns for a
reader, with colours on a terminal, or as a JSON object for a program.
-/

namespace Muster

/-- How log entries are written. -/
inductive LogStyle where
  | columns (colored : Bool)
  | json
deriving Repr, DecidableEq

/-- What is written of a log. -/
structure LogOutput where
  threshold : Int
  style : LogStyle
deriving Repr, DecidableEq

namespace LogOutput

/-- The threshold that holds when none is given, or none of a known name. -/
def defaultThreshold : Int := Level.info.weight

/-- The names of thresholds. -/
def thresholds : List (String × Int) :=
  [("CRITICAL", 50), ("FATAL", 50), ("ERROR", 40), ("WARN", 30), ("WARNING", 30), ("INFO", 20),
    ("DEBUG", 10), ("NOTSET", 0)]

/-- A character in upper case, as far as the names of thresholds need it: both small letters that
share a capital with an ASCII letter are folded too. -/
def upperChar (c : Char) : Char :=
  if 'a' ≤ c ∧ c ≤ 'z' then Char.ofNat (c.toNat - 32)
  else if c = '\u0131' then 'I'
  else if c = '\u017F' then 'S'
  else c

/-- The threshold with a name, in either case. -/
def thresholdOf (name : String) : Int :=
  let upper := String.ofList (name.toList.map upperChar)
  (thresholds.lookup upper).getD defaultThreshold

/-- The least width of an event in a line. -/
def eventWidth : Nat := 30

/-- The width of a level in a line. -/
def levelWidth : Nat := 9

/-- Switches the colours of a terminal back. -/
def reset : String := "\x1b[0m"

/-- A text between the codes that switch colours on and back. -/
def paint (codes text : String) : String :=
  codes ++ text ++ reset

/-- The code for bright text. -/
def bright : String := "\x1b[1m"

/-- The code for the colour of a level. -/
def levelColor : Level → String
  | .debug | .info => "\x1b[32m"
  | .warning => "\x1b[33m"
  | .error | .critical => "\x1b[31m"

/-- Whether a text has to be quoted in a line of columns. -/
def needsQuotes (s : String) : Bool :=
  s.toList.any [' ', '\t', '=', '\r', '\n', '"', '\''].contains

/-- The value of a field in a line of columns. -/
def fieldText : Value → String
  | .str s => if needsQuotes s then Text.literal s else s
  | v => v.literal

/-- A field in a line of columns. -/
def fieldColumn (colored : Bool) (name : String) (v : Value) : String :=
  if colored then paint "\x1b[36m" name ++ "=" ++ paint "\x1b[35m" (fieldText v)
  else name ++ "=" ++ fieldText v

/-- The columns in front of the fields: the time, the level and the event. -/
def leadColumns (colored : Bool) (time : String) (e : LogEntry) : List String :=
  let level := Text.padEnd levelWidth e.level.name
  let event := Text.padEnd eventWidth e.event
  if colored then
    [paint "\x1b[2m" time, "[" ++ paint (levelColor e.level ++ bright) level ++ "]",
      paint bright event]
  else [time, "[" ++ level ++ "]", event]

/-- Whether a field may stand before another one in the order of names. -/
def precedes (a b : String × Value) : Bool :=
  !(b.1 < a.1)

/-- The fields of an entry; of several with one name the last counts. -/
def fieldTable (e : LogEntry) : Table Value :=
  Table.ofList e.fields

/-- An entry in columns, with its fields in the order of their names. -/
def columnLine (colored : Bool) (time : String) (e : LogEntry) : String :=
  let own := ["timestamp", "level", "event"]
  let fields := (fieldTable e).entries.filter fun f => !own.contains f.1
  let columns := leadColumns colored time e
    ++ (fields.mergeSort precedes).map fun f => fieldColumn colored f.1 f.2
  let line := " ".intercalate columns
  String.ofList ((line.toList.reverse.dropWhile (· == ' ')).reverse)

/-- An entry as a JSON object: its fields, and then what it has of its own. -/
def jsonLine (time : String) (e : LogEntry) : String :=
  let own := [("event", Value.str e.event), ("level", .str e.level.name), ("timestamp", .str time)]
  let fields := (fieldTable e).insertAll own
  (Value.map (fields.entries.map fun f => (.str f.1, f.2))).json

/-- The line of an entry, if it is written. -/
def line? (o : LogOutput) (time : String) (e : LogEntry) : Option String :=
  if e.level.weight < o.threshold then none
  else
    match o.style with
    | .columns colored => some (columnLine colored time e)
    | .json => some (jsonLine time e)

/-- What is written of some entries. -/
def text (o : LogOutput) (time : String) (entries : List LogEntry) : String :=
  String.join ((entries.filterMap (o.line? time)).map (· ++ "\n"))

end LogOutput

end Muster
