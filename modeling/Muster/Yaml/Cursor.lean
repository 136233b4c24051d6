import Muster.Yaml.Character
/-!
# Positions in a document

A cursor is what is left of a document together with the place it starts at.
-/

namespace Muster.Yaml

/-- A position in a document: the text from there on, the number of characters before it, its
line and its column. -/
structure Cursor where
  rest : List Char
  index : Nat
  line : Nat
  column : Nat
deriving Repr

namespace Cursor

/-- The start of a document. -/
def ofChars (cs : List Char) : Cursor :=
  ⟨cs, 0, 0, 0⟩

/-- The next character. -/
def peek (c : Cursor) : Option Char :=
  c.rest.head?

/-- The character `n` places further on. -/
def peekAt (c : Cursor) (n : Nat) : Option Char :=
  c.rest[n]?

/-- The position after the next character.  A line ends after a break, and after a carriage
return only when no line feed follows; the byte order mark has no width. -/
def next (c : Cursor) : Cursor :=
  match c.rest with
  | [] => c
  | a :: r =>
    if isBreak a && !(a == '\r' && r.head? == some '\n') then ⟨r, c.index + 1, c.line + 1, 0⟩
    else if a == byteOrderMark then ⟨r, c.index + 1, c.line, c.column⟩
    else ⟨r, c.index + 1, c.line, c.column + 1⟩

/-- The position `n` characters further on. -/
def skip (c : Cursor) : Nat → Cursor
  | 0 => c
  | n + 1 => c.next.skip n

/-- The longest run of characters that satisfy a test, and the position after it. -/
def takeWhile (c : Cursor) (p : Char → Bool) : List Char × Cursor :=
  let run := c.rest.takeWhile p
  (run, c.skip run.length)

/-- The position after the spaces that come next. -/
def skipSpaces (c : Cursor) : Cursor :=
  (c.takeWhile (· == ' ')).2

/-- The position at the end of the line. -/
def skipLine (c : Cursor) : Cursor :=
  (c.takeWhile (!isBreak ·)).2

/-- The position after the spaces that come next and the comment after them. -/
def skipComment (c : Cursor) : Cursor :=
  let c := c.skipSpaces
  if c.peek == some '#' then c.skipLine else c

/-- Takes the end of a line.  The breaks of a line count as line feeds, except for the two
separators of Unicode, which count as themselves. -/
def takeBreak? (c : Cursor) : Option (Char × Cursor) :=
  match c.rest with
  | '\r' :: '\n' :: _ => some ('\n', c.skip 2)
  | a :: _ =>
    if a == '\u2028' || a == '\u2029' then some (a, c.next)
    else if isBreak a then some ('\n', c.next)
    else none
  | [] => none

/-- Whether a mark of three equal characters stands here as a word. -/
def atMark (c : Cursor) (mark : Char) : Bool :=
  c.peek == some mark && c.peekAt 1 == some mark && c.peekAt 2 == some mark
    && endsWord (c.peekAt 3)

/-- Whether the mark of a document's start or end stands here. -/
def atDocumentMark (c : Cursor) : Bool :=
  c.atMark '-' || c.atMark '.'

end Cursor

end Muster.Yaml
