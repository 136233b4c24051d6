import Muster.Yaml.Token.Quoted
/-!
# Block scalars

A block scalar is a run of indented lines after a sign: `|` keeps the ends of its lines, `>`
folds them.  The header may fix the indentation and say what becomes of the last line ends.
-/

namespace Muster.Yaml.Token.Block

/-- The refusal of a block scalar. -/
def refusal (start : Mark) (problem : Problem) (c : Cursor) : Refusal :=
  .during (.scanning "a block scalar") start problem c.mark

/-- What becomes of the ends of the last lines of a block scalar: the first is kept, or none, or
all. -/
inductive Chomping where
  | clip
  | strip
  | keep
deriving Repr, DecidableEq

/-- The header of a block scalar. -/
structure Header where
  chomping : Chomping
  increment : Option Nat
deriving Repr

/-- Reads the sign for the last line ends. -/
def takeChomping (c : Cursor) : Chomping × Cursor :=
  match c.peek with
  | some '+' => (.keep, c.next)
  | some '-' => (.strip, c.next)
  | _ => (.clip, c)

/-- Reads the digit of the indentation, which may not be zero. -/
def takeIncrement (start : Mark) (c : Cursor) : Except Refusal (Option Nat × Cursor) :=
  match c.peek with
  | some d =>
    if d == '0' then .error (refusal start .zeroIndentation c)
    else if '1' ≤ d && d ≤ '9' then .ok (some (d.toNat - 0x30), c.next)
    else .ok (none, c)
  | none => .ok (none, c)

/-- Reads the header of a block scalar, whose two parts may come in any order. -/
def takeHeader (start : Mark) (c : Cursor) : Except Refusal (Header × Cursor) := do
  let (chomping, c) := takeChomping c
  let (increment, c) ← takeIncrement start c
  let (chomping, c) := if chomping = .clip then takeChomping c else (chomping, c)
  if endsName c.peek then return (⟨chomping, increment⟩, c)
  else throw (refusal start (.unexpectedChar "chomping or indentation indicators" c.peek) c)

/-- Takes the rest of a line that may hold only a comment. -/
def takeIgnoredLine (start : Mark) (c : Cursor) : Except Refusal Cursor :=
  let c := c.skipComment
  match c.takeBreak? with
  | some (_, c) => .ok c
  | none =>
    if c.peek.isNone then .ok c
    else .error (refusal start (.unexpectedChar "a comment or a line break" c.peek) c)

/-- Takes the empty lines before the first line of a block scalar, with their breaks and the
width of the widest. -/
def takeLeadingLines : (fuel : Nat) → Cursor → List Char → Nat → List Char × Nat × Cursor
  | 0, c, breaks, width => (breaks, width, c)
  | fuel + 1, c, breaks, width =>
    match c.takeBreak? with
    | some (b, c) => takeLeadingLines fuel c (breaks ++ [b]) width
    | none =>
      if c.peek == some ' ' then takeLeadingLines fuel c.next breaks (max width c.next.column)
      else (breaks, width, c)

/-- The position after at most as many spaces as lead to a column. -/
def skipIndent (indent : Nat) (c : Cursor) : Cursor :=
  c.skip (min (c.rest.takeWhile (· == ' ')).length (indent - c.column))

/-- Takes the empty lines inside a block scalar and the indentation of the line after them. -/
def takeEmptyLines (indent : Nat) : (fuel : Nat) → Cursor → List Char → List Char × Cursor
  | 0, c, breaks => (breaks, c)
  | fuel + 1, c, breaks =>
    let c := skipIndent indent c
    match c.takeBreak? with
    | some (b, c) => takeEmptyLines indent fuel c (breaks ++ [b])
    | none => (breaks, c)

/-- Whether a character is white space inside a line. -/
def isSpace (c : Option Char) : Bool :=
  c == some ' ' || c == some '\t'

/-- The lines of a block scalar: their text, the end of the last line and the breaks after it. -/
structure Lines where
  text : List Char
  lastBreak : List Char
  breaks : List Char
  cursor : Cursor

/-- Reads the lines of a block scalar; `breaks` are the empty lines before the next one. -/
def readLines (folded : Bool) (indent : Nat) :
    (fuel : Nat) → Cursor → (acc lastBreak breaks : List Char) → Lines
  | 0, c, acc, lastBreak, breaks => ⟨acc, lastBreak, breaks, c⟩
  | fuel + 1, c, acc, lastBreak, breaks =>
    if c.column == indent && c.peek.isSome then
      let flush := !isSpace c.peek
      let (line, c) := c.takeWhile (!isBreak ·)
      let acc := acc ++ breaks ++ line
      let (lastBreak, c) := match c.takeBreak? with
        | some (b, c) => ([b], c)
        | none => ([], c)
      let (breaks, c) := takeEmptyLines indent c.rest.length.succ c []
      if c.column == indent && c.peek.isSome then
        let joined :=
          if folded && lastBreak == ['\n'] && flush && !isSpace c.peek then
            if breaks.isEmpty then [' '] else []
          else lastBreak
        readLines folded indent fuel c (acc ++ joined) lastBreak breaks
      else ⟨acc, lastBreak, breaks, c⟩
    else ⟨acc, lastBreak, breaks, c⟩

/-- Reads a block scalar at its sign, inside a block that is indented by `outer`. -/
def read (outer : Int) (c : Cursor) : Except Refusal (List Char × Cursor) := do
  let start := c.mark
  let folded := c.peek == some '>'
  let (header, c) ← takeHeader start c.next
  let c ← takeIgnoredLine start c
  let least := (max (outer + 1) 1).toNat
  let fuel := c.rest.length.succ
  let (indent, breaks, c) := match header.increment with
    | none =>
      let (breaks, width, c) := takeLeadingLines fuel c [] 0
      (max least width, breaks, c)
    | some n =>
      let indent := least + n - 1
      let (breaks, c) := takeEmptyLines indent fuel c []
      (indent, breaks, c)
  let lines := readLines folded indent fuel c [] [] breaks
  let ending := match header.chomping with
    | .strip => []
    | .clip => lines.lastBreak
    | .keep => lines.lastBreak ++ lines.breaks
  return (lines.text ++ ending, lines.cursor)

end Muster.Yaml.Token.Block
