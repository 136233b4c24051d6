import Muster.Text.Digit
import Muster.Text.Printable
/-!
# Quoted literals

The form in which a text or a string of bytes is shown inside a message: between quotes,
with escapes for the quote, the backslash and everything that is not printable.
-/

namespace Muster.Text

/-- Single quotes enclose a literal, except that double quotes enclose one that holds single
quotes and no double ones. -/
def quoteFor (cs : List Char) : Char :=
  if cs.contains '\'' && !cs.contains '"' then '"' else '\''

/-- How a character is written between the given quotes. -/
def escapeChar (quote c : Char) : List Char :=
  if c = quote ∨ c = '\\' then ['\\', c]
  else if c = '\n' then ['\\', 'n']
  else if c = '\r' then ['\\', 'r']
  else if c = '\t' then ['\\', 't']
  else if isPrintable c then [c]
  else if c.toNat < 0x100 then '\\' :: 'x' :: hexDigits 2 c.toNat
  else if c.toNat < 0x10000 then '\\' :: 'u' :: hexDigits 4 c.toNat
  else '\\' :: 'U' :: hexDigits 8 c.toNat

/-- The quoted literal of a list of characters. -/
def literalChars (cs : List Char) : List Char :=
  let quote := quoteFor cs
  quote :: (cs.flatMap (escapeChar quote) ++ [quote])

/-- The quoted literal of a text. -/
def literal (s : String) : String :=
  String.ofList (literalChars s.toList)

/-- How a byte is written between the given quotes. -/
def escapeByte (quote : Char) (b : UInt8) : List Char :=
  let c := Char.ofNat b.toNat
  if b < 0x7F then escapeChar quote c else '\\' :: 'x' :: hexDigits 2 b.toNat

/-- The quoted literal of a string of bytes. -/
def bytesLiteral (bytes : List UInt8) : String :=
  let cs := bytes.map fun b => Char.ofNat b.toNat
  let quote := quoteFor cs
  String.ofList ('b' :: quote :: (bytes.flatMap (escapeByte quote) ++ [quote]))

end Muster.Text
