import Muster.Text.Utf8
/-!
# Octets

A text can be written with one character for each byte of its UTF-8 form.  Programs that look at
bytes rather than characters work on such a text.
-/

namespace Muster.Text

/-- The character that stands for a byte. -/
def octet (b : UInt8) : Char :=
  Char.ofNat b.toNat

/-- A text with one character for each byte of its UTF-8 form. -/
def toOctets (s : String) : String :=
  String.ofList (s.toUTF8.toList.map octet)

/-- The text whose bytes are given.  Damaged characters are replaced. -/
def ofOctets (s : String) : String :=
  String.ofList (decodeUtf8 (s.toList.map fun c => c.toNat.toUInt8))

/-- The text whose bytes are given, if it has no damaged characters. -/
def ofOctets? (s : String) : Option String :=
  let t := ofOctets s
  if toOctets t = s then some t else none

end Muster.Text
