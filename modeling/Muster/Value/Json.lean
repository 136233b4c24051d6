import Muster.Value.Text
/-!
# Values as JSON

A value in the notation of JSON, with a space after every comma and colon, and with every
character outside the printable ASCII characters escaped.
-/

namespace Muster.Value

/-- A character outside the printable ASCII characters, as one or two units of sixteen bits. -/
def escapeUnits (c : Char) : List Char :=
  let unit (n : Nat) : List Char := '\\' :: 'u' :: Text.hexDigits 4 n
  let n := c.toNat
  if n < 0x10000 then unit n
  else unit (0xD800 + (n - 0x10000) / 0x400) ++ unit (0xDC00 + (n - 0x10000) % 0x400)

/-- A character inside a JSON string. -/
def jsonChar (c : Char) : List Char :=
  if c = '"' ∨ c = '\\' then ['\\', c]
  else if c = '\n' then ['\\', 'n']
  else if c = '\r' then ['\\', 'r']
  else if c = '\t' then ['\\', 't']
  else if c = '\x08' then ['\\', 'b']
  else if c = '\x0c' then ['\\', 'f']
  else if ' ' ≤ c ∧ c ≤ '~' then [c]
  else escapeUnits c

/-- A text as a JSON string. -/
def jsonString (s : String) : String :=
  String.ofList ('"' :: (s.toList.flatMap jsonChar ++ ['"']))

/-- Doubles as JSON numbers; those that are not finite are words. -/
def jsonNotation : Decimal.Notation :=
  { Decimal.plain with infinite := "Infinity", notANumber := "NaN" }

/-- A key of a mapping as a text. -/
def jsonKey : Value → String
  | null => "null"
  | bool b => if b then "true" else "false"
  | float x => jsonNotation.write x
  | v => v.text

mutual

/-- A value in the notation of JSON; one that JSON does not know is written as its literal. -/
def json : Value → String
  | null => "null"
  | bool b => if b then "true" else "false"
  | int n => toString n
  | float x => jsonNotation.write x
  | str s => jsonString s
  | list items => "[" ++ commas (jsonItems items) ++ "]"
  | pair a b => "[" ++ json a ++ ", " ++ json b ++ "]"
  | map entries => "\x7b" ++ commas (jsonEntries entries) ++ "\x7d"
  | bytes bs => jsonString (literal (bytes bs))
  | date d => jsonString (literal (date d))
  | moment m => jsonString (literal (moment m))
  | set items => jsonString (literal (set items))
  | loop isMap => jsonString (literal (loop isMap))

/-- The items of a list in the notation of JSON. -/
def jsonItems : List Value → List String
  | [] => []
  | v :: r => json v :: jsonItems r

/-- The entries of a mapping in the notation of JSON. -/
def jsonEntries : List (Value × Value) → List String
  | [] => []
  | (k, v) :: r => (jsonString (jsonKey k) ++ ": " ++ json v) :: jsonEntries r

end

end Muster.Value
