import Muster.Yaml.Token.Block
import Muster.Yaml.Token.Tag
/-!
# The tokens of a document

Most tokens are seen at their first character.  Two are not: a key that is written without its
sign is known for a key only when the colon after it comes, and the start of a mapping with
it.  The scanner therefore remembers, for each level of brackets, where such a key may have
begun, and puts the two tokens in there afterwards.
-/

namespace Muster.Yaml

open Token

/-- The place where a key may have begun. -/
structure KeyPlace where
  /-- The level of brackets. -/
  level : Nat
  /-- The number of tokens before it. -/
  token : Nat
  /-- Whether there has to be a key, because the line starts an entry of its block. -/
  required : Bool
  mark : Mark
deriving Repr

/-- The state of a scanner. -/
structure Scanner where
  cursor : Cursor
  tokens : Array PlacedToken
  /-- The level of brackets. -/
  level : Nat
  /-- The indentation of the current block and those of the blocks around it. -/
  indent : Int
  outer : List Int
  /-- Whether a key may begin here. -/
  keyAllowed : Bool
  places : List KeyPlace

namespace Scanner

/-- The longest key, in characters. -/
def keyLimit : Nat := 1024

/-- The scanner at the start of a document. -/
def ofChars (cs : List Char) : Scanner :=
  ⟨.ofChars cs, #[], 0, -1, [], true, []⟩

/-- Whether the scanner stands inside brackets. -/
def inFlow (s : Scanner) : Bool :=
  s.level != 0

/-- The mark of where the scanner stands. -/
def mark (s : Scanner) : Mark :=
  s.cursor.mark

/-- Adds a token that takes up no characters. -/
def emit (s : Scanner) (t : Token) : Scanner :=
  { s with tokens := s.tokens.push ⟨t, s.mark, s.mark⟩ }

/-- Adds the token that ends at a position. -/
def emitTo (s : Scanner) (t : Token) (c : Cursor) : Scanner :=
  { s with tokens := s.tokens.push ⟨t, s.mark, c.mark⟩, cursor := c }

/-- Adds a token of some characters. -/
def take (s : Scanner) (t : Token) (length : Nat) : Scanner :=
  s.emitTo t (s.cursor.skip length)

/-- Puts a token in at the place of a key. -/
def emitAt (s : Scanner) (place : KeyPlace) (t : Token) : Scanner :=
  { s with tokens := s.tokens.insertIdxIfInBounds place.token ⟨t, place.mark, place.mark⟩ }

/-- Skips white space, comments and empty lines.  Outside brackets a new line may begin with a
key. -/
def skipGap : (fuel : Nat) → Scanner → Scanner
  | 0, s => s
  | fuel + 1, s =>
    let c := s.cursor.skipSpaces
    let c := if c.peek == some '#' then c.skipLine else c
    match c.takeBreak? with
    | some (_, c) => skipGap fuel { s with cursor := c, keyAllowed := s.keyAllowed || !s.inFlow }
    | none => { s with cursor := c }

/-- Skips everything before the next token, the mark of the byte order included. -/
def toNextToken (s : Scanner) : Scanner :=
  let c := s.cursor
  let c := if c.index = 0 && c.peek == some byteOrderMark then c.next else c
  skipGap c.rest.length.succ { s with cursor := c }

/-- Gives up the places that satisfy a test.  There has to be a key where one is required. -/
def dropPlaces (s : Scanner) (gone : KeyPlace → Bool) : Except Refusal Scanner :=
  match s.places.find? fun k => gone k && k.required with
  | some k => .error (.during (.scanning "a simple key") k.mark .missingColon s.mark)
  | none => .ok { s with places := s.places.filter (!gone ·) }

/-- Gives up the places whose keys can be none any more: a key stands on one line and is not too
long. -/
def dropStale (s : Scanner) : Except Refusal Scanner :=
  s.dropPlaces fun k =>
    k.mark.line != s.cursor.line || s.cursor.index - k.mark.index > keyLimit

/-- Gives up the place of the current level. -/
def dropPlace (s : Scanner) : Except Refusal Scanner :=
  s.dropPlaces (·.level == s.level)

/-- Remembers that a key may begin here. -/
def savePlace (s : Scanner) : Except Refusal Scanner :=
  if s.keyAllowed then do
    let required := !s.inFlow && s.indent == s.cursor.column
    let s ← s.dropPlace
    return { s with places := s.places ++ [⟨s.level, s.tokens.size, required, s.mark⟩] }
  else .ok s

/-- Ends the blocks that are indented further than a column. -/
def unindentTo (column : Int) (s : Scanner) : (outer : List Int) → Scanner
  | [] => s
  | i :: outer =>
    if s.indent > column then
      unindentTo column { s.emit .blockEnd with indent := i, outer := outer } outer
    else s

/-- Ends the blocks that are indented further than a column, outside brackets. -/
def unindent (s : Scanner) (column : Int) : Scanner :=
  if s.inFlow then s else unindentTo column s s.outer

/-- Starts a block at a column unless the current one is there already. -/
def indentTo (s : Scanner) (column : Nat) : Bool × Scanner :=
  if s.indent < column then
    (true, { s with outer := s.indent :: s.outer, indent := column })
  else (false, s)

/-- The refusal of something that may not stand here outside brackets. -/
def misplaced (s : Scanner) (what : String) : Refusal :=
  .place s.mark (.misplaced what)

/-- Ends all blocks and the line of keys before a sign of the whole document. -/
def leaveBlocks (s : Scanner) : Except Refusal Scanner := do
  let s ← (s.unindent (-1)).dropPlace
  return { s with keyAllowed := false }

/-- A sign of the whole document, three characters long. -/
def takeDocumentSign (s : Scanner) (t : Token) : Except Refusal Scanner := do
  let s ← s.leaveBlocks
  return s.take t 3

/-- A directive. -/
def takeDirective (s : Scanner) : Except Refusal Scanner := do
  let s ← s.leaveBlocks
  let (t, c) ← Tag.readDirective s.cursor
  return s.emitTo t c

/-- An opening bracket. -/
def openFlow (s : Scanner) (t : Token) : Except Refusal Scanner := do
  let s ← s.savePlace
  return { s.take t 1 with level := s.level + 1, keyAllowed := true }

/-- A closing bracket.  One without an opening bracket leaves the level as it is. -/
def closeFlow (s : Scanner) (t : Token) : Except Refusal Scanner := do
  let s ← s.dropPlace
  return { s.take t 1 with level := s.level - 1, keyAllowed := false }

/-- A comma between brackets. -/
def takeFlowEntry (s : Scanner) : Except Refusal Scanner := do
  let s ← s.dropPlace
  return { s.take .flowEntry 1 with keyAllowed := true }

/-- The dash of a list entry.  It starts a list where none is at its column. -/
def takeBlockEntry (s : Scanner) : Except Refusal Scanner := do
  let s ←
    if s.inFlow then pure s
    else if !s.keyAllowed then throw (s.misplaced "sequence entries")
    else
      let (starts, s) := s.indentTo s.cursor.column
      pure (if starts then s.emit .blockSequenceStart else s)
  let s ← s.dropPlace
  return { s.take .blockEntry 1 with keyAllowed := true }

/-- The start of a mapping at the current column, unless one is there already; `what` is what
starts it. -/
def enterMapping (s : Scanner) (what : String) : Except Refusal Scanner :=
  if s.inFlow then .ok s
  else if !s.keyAllowed then .error (s.misplaced what)
  else
    let (starts, s) := s.indentTo s.cursor.column
    .ok (if starts then s.emit .blockMappingStart else s)

/-- The question mark of a key. -/
def takeKey (s : Scanner) : Except Refusal Scanner := do
  let s ← s.enterMapping "mapping keys"
  let s ← ({ s with keyAllowed := !s.inFlow }).dropPlace
  return s.take .key 1

/-- The colon before a value.  When a key may have begun on this level, it is a key now. -/
def takeValue (s : Scanner) : Except Refusal Scanner :=
  match s.places.find? (·.level == s.level) with
  | some k =>
    let s := { s with places := s.places.filter (·.level != s.level) }
    let s := s.emitAt k .key
    let s :=
      if s.inFlow then s
      else
        let (starts, s) := s.indentTo k.mark.column
        if starts then s.emitAt k .blockMappingStart else s
    .ok (({ s with keyAllowed := false }).take .value 1)
  | none => do
    let s ← s.enterMapping "mapping values"
    let s ← ({ s with keyAllowed := !s.inFlow }).dropPlace
    return s.take .value 1

/-- A word that may be a key. -/
def takeWord (s : Scanner) (read : Cursor → Except Refusal (Token × Cursor)) :
    Except Refusal Scanner := do
  let s ← s.savePlace
  let (t, c) ← read s.cursor
  return { s.emitTo t c with keyAllowed := false }

/-- A block scalar. -/
def takeBlock (s : Scanner) : Except Refusal Scanner := do
  let s ← ({ s with keyAllowed := true }).dropPlace
  let (text, c) ← Block.read s.indent s.cursor
  return s.emitTo (.scalar (String.ofList text) false) c

/-- A plain scalar.  After one that goes over the end of a line a key may begin. -/
def takePlain (s : Scanner) : Except Refusal Scanner := do
  let s ← s.savePlace
  let r := Plain.read s.inFlow s.indent s.cursor
  return { s.emitTo (.scalar (String.ofList r.text) true) r.cursor with keyAllowed := r.broken }

/-- A quoted scalar as a token. -/
def readQuoted (c : Cursor) : Except Refusal (Token × Cursor) := do
  let (text, c) ← Quoted.read c
  return (.scalar (String.ofList text) false, c)

/-- The name after the sign of an anchor or a reference, as a token; `what` says which. -/
def readNamed (what : String) (token : String → Token) (c : Cursor) :
    Except Refusal (Token × Cursor) := do
  let (name, c) ← Tag.readName what c
  return (token name, c)

/-- Takes the token that starts with a character. -/
def takeAt (s : Scanner) (a : Char) : Except Refusal Scanner :=
  let c := s.cursor
  let separate := s.inFlow || endsWord (c.peekAt 1)
  if a == '%' && c.column == 0 then s.takeDirective
  else if c.column == 0 && c.atMark '-' then s.takeDocumentSign .documentStart
  else if c.column == 0 && c.atMark '.' then s.takeDocumentSign .documentEnd
  else if a == '[' then s.openFlow .flowSequenceStart
  else if a == '\x7b' then s.openFlow .flowMappingStart
  else if a == ']' then s.closeFlow .flowSequenceEnd
  else if a == '\x7d' then s.closeFlow .flowMappingEnd
  else if a == ',' then s.takeFlowEntry
  else if a == '-' && endsWord (c.peekAt 1) then s.takeBlockEntry
  else if a == '?' && separate then s.takeKey
  else if a == ':' && separate then s.takeValue
  else if a == '*' then s.takeWord (readNamed "an alias" .reference)
  else if a == '&' then s.takeWord (readNamed "an anchor" .anchor)
  else if a == '!' then s.takeWord Tag.readTag
  else if (a == '|' || a == '>') && !s.inFlow then s.takeBlock
  else if a == '\'' || a == '"' then s.takeWord readQuoted
  else if Plain.starts c s.inFlow then s.takePlain
  else .error (.amid (.scanning "for the next token") (.strayCharacter a) s.mark)

/-- Takes what comes next; `true` says that it is the end of the document. -/
def step (s : Scanner) : Except Refusal (Scanner × Bool) := do
  let s ← s.toNextToken.dropStale
  let s := s.unindent s.cursor.column
  match s.cursor.peek with
  | none =>
    let s ← s.leaveBlocks
    return (s.emit .streamEnd, true)
  | some a => return (← (← s.takeAt a).dropStale, false)

/-- The tokens that are certain: those before the first place where a key may have begun. -/
def certain (s : Scanner) : List PlacedToken :=
  s.tokens.toList.take ((s.places.map (·.token)).foldl min s.tokens.size)

/-- Takes all tokens from a position on.  A refusal ends them early. -/
def run : (fuel : Nat) → Scanner → List PlacedToken × Option Refusal
  | 0, s => (s.certain, none)
  | fuel + 1, s =>
    match s.step with
    | .error refusal => (s.certain, some refusal)
    | .ok (s, true) => (s.tokens.toList, none)
    | .ok (s, false) => run fuel s

end Scanner

/-- The tokens of a document, and the refusal that ends them early. -/
def Token.ofChars (cs : List Char) : List PlacedToken × Option Refusal :=
  match cs.find? (!isAllowed ·) with
  | some c => ([], some (.unallowed c (cs.takeWhile isAllowed).length))
  | none => Scanner.run (cs.length + 2) (.ofChars cs)

end Muster.Yaml
