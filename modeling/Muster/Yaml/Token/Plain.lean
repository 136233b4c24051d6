import Muster.Yaml.Cursor
/-!
# Plain scalars

A plain scalar is written without quotes.  It may go on over several lines as long as these
are indented; inside brackets it ends at a bracket or a comma.
-/

namespace Muster.Yaml.Token.Plain

/-- Whether a plain scalar can start here. -/
def starts (c : Cursor) (inFlow : Bool) : Bool :=
  match c.peek with
  | none => false
  | some a =>
    if a == '-' || (!inFlow && (a == '?' || a == ':')) then !endsWord (c.peekAt 1)
    else !(a == '\t' || a == ' ' || isBreak a || isIndicator a)

/-- Whether a plain scalar ends before the first of the given characters. -/
def ends (inFlow : Bool) : List Char → Bool
  | [] => true
  | a :: r =>
    endsWord (some a)
      || (a == ':' && (endsWord r.head? || (inFlow && r.head?.any (oneOf ",[]\x7b\x7d"))))
      || (inFlow && oneOf ",?[]\x7b\x7d" a)

/-- The length of the piece of a plain scalar that starts here. -/
def pieceLength (inFlow : Bool) : List Char → Nat
  | [] => 0
  | a :: r => if ends inFlow (a :: r) then 0 else pieceLength inFlow r + 1

/-- The white space between two pieces of a plain scalar. -/
structure Gap where
  /-- What the gap adds to the text when another piece follows. -/
  text : List Char
  cursor : Cursor
  /-- Whether the gap goes over the end of a line. -/
  broken : Bool
  /-- Whether the gap ends at the mark of a document. -/
  final : Bool

/-- Takes the spaces and empty lines that follow the end of a line, and the breaks among them;
stops at the mark of a document. -/
def takeEmptyLines : (fuel : Nat) → Cursor → List Char → List Char × Cursor × Bool
  | 0, c, breaks => (breaks, c, true)
  | fuel + 1, c, breaks =>
    if c.peek == some ' ' then takeEmptyLines fuel c.next breaks
    else
      match c.takeBreak? with
      | none => (breaks, c, false)
      | some (b, c) =>
        if c.atDocumentMark then (breaks, c, true)
        else takeEmptyLines fuel c (breaks ++ [b])

/-- The text of a break between two lines: a single line feed is a space, and of several the
first is dropped. -/
def foldBreaks (first : Char) (others : List Char) : List Char :=
  if first != '\n' then first :: others
  else if others.isEmpty then [' ']
  else others

/-- Takes the white space after a piece of a plain scalar. -/
def takeGap (c : Cursor) : Gap :=
  let (spaces, c) := c.takeWhile (· == ' ')
  match c.takeBreak? with
  | none => ⟨spaces, c, false, false⟩
  | some (first, c) =>
    if c.atDocumentMark then ⟨[], c, true, true⟩
    else
      let (breaks, c, final) := takeEmptyLines c.rest.length.succ c []
      if final then ⟨[], c, true, true⟩ else ⟨foldBreaks first breaks, c, true, false⟩

/-- What is known about a plain scalar when it has been read. -/
structure Reading where
  text : List Char
  cursor : Cursor
  /-- Whether the last gap went over the end of a line. -/
  broken : Bool

/-- Reads the pieces of a plain scalar that is indented by at least `indent`. -/
def readPieces (inFlow : Bool) (indent : Int) :
    (fuel : Nat) → Cursor → (acc gap : List Char) → (broken : Bool) → Reading
  | 0, c, acc, _, broken => ⟨acc, c, broken⟩
  | fuel + 1, c, acc, gap, broken =>
    let n := pieceLength inFlow c.rest
    if c.peek == some '#' || n == 0 then ⟨acc, c, broken⟩
    else
      let acc := acc ++ gap ++ c.rest.take n
      let g := takeGap (c.skip n)
      if g.text.isEmpty || g.cursor.peek == some '#'
          || (!inFlow && (g.cursor.column : Int) < indent) then
        ⟨acc, g.cursor, g.broken⟩
      else readPieces inFlow indent fuel g.cursor acc g.text g.broken

/-- Reads a plain scalar inside a block that is indented by `indent`. -/
def read (inFlow : Bool) (indent : Int) (c : Cursor) : Reading :=
  readPieces inFlow (indent + 1) c.rest.length.succ c [] [] false

end Muster.Yaml.Token.Plain
