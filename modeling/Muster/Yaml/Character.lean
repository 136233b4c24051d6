/-!
# Characters of documents

The classes of characters that the grammar of documents is written in.  Where a rule also
admits the end of the document, it is stated over `Option Char`, with `none` for the end.
-/

namespace Muster.Yaml

/-- Whether a character is among those of a text. -/
def oneOf (s : String) (c : Char) : Bool :=
  s.toList.contains c

/-- A character that ends a line. -/
def isBreak (c : Char) : Bool :=
  c == '\n' || c == '\r' || c == '\x85' || c == '\u2028' || c == '\u2029'

/-- The end of a line or of the document. -/
def endsLine : Option Char → Bool
  | none => true
  | some c => isBreak c

/-- A space, or the end of a line or of the document. -/
def endsName (c : Option Char) : Bool :=
  c == some ' ' || endsLine c

/-- White space, or the end of a line or of the document. -/
def endsWord (c : Option Char) : Bool :=
  c == some '\t' || endsName c

/-- A character that may stand in a document at all. -/
def isAllowed (c : Char) : Bool :=
  let n := c.toNat
  n == 0x09 || n == 0x0A || n == 0x0D || (0x20 ≤ n && n ≤ 0x7E) || n == 0x85
    || (0xA0 ≤ n && n ≤ 0xD7FF) || (0xE000 ≤ n && n ≤ 0xFFFD) || 0x10000 ≤ n

/-- A character of a name: a Latin letter, a digit, a dash or an underscore. -/
def isWordChar (c : Char) : Bool :=
  ('0' ≤ c && c ≤ '9') || ('A' ≤ c && c ≤ 'Z') || ('a' ≤ c && c ≤ 'z') || c == '-' || c == '_'

/-- A character of a tag. -/
def isTagChar (c : Char) : Bool :=
  isWordChar c || oneOf ";/?:@&=+$,.!~*'()[]%" c

/-- A character that has a meaning of its own at the start of a word. -/
def isIndicator (c : Char) : Bool :=
  oneOf "-?:,[]\x7b\x7d#&*!|>'\"%@\x60" c

/-- The mark of the byte order, which may stand at the start of a document. -/
def byteOrderMark : Char := '\uFEFF'

end Muster.Yaml
