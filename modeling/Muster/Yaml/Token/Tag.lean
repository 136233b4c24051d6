import Muster.Text.Utf8
import Muster.Yaml.Token.Quoted
/-!
# Tags, anchors and directives

The names in a document that say something about the value after them, and the lines at the
head of a document that say something about the notation.
-/

namespace Muster.Yaml.Token.Tag

/-- What a tag is part of: a node, or a directive that abbreviates tags. -/
inductive Role where
  | node
  | directive
deriving Repr, DecidableEq

/-- The words for what a tag is part of. -/
def Role.words : Role → String
  | node => "a tag"
  | directive => "a directive"

/-- The refusal of a character where something else is wanted. -/
def unexpected (activity : Activity) (start : Mark) (wanted : String) (c : Cursor) : Refusal :=
  .during activity start (.unexpectedChar wanted c.peek) c.mark

/-- Reads the bytes of percent escapes that follow each other, as a text; `first` is where they
begin. -/
def takeEscapes (role : Role) (start first : Mark) :
    (fuel : Nat) → Cursor → List UInt8 → Except Refusal (String × Cursor)
  | 0, c, _ => .error (unexpected (.parsing role.words) start "URI" c)
  | fuel + 1, c, bytes =>
    if c.peek == some '%' then
      let c := c.next
      let digits := (c.rest.take 2).takeWhile fun d => (Text.hexValue? d).isSome
      if digits.length = 2 then
        let byte := digits.foldl (fun n d => n * 16 + (Text.hexValue? d).getD 0) 0
        takeEscapes role start first fuel (c.skip 2) (bytes ++ [UInt8.ofNat byte])
      else
        let wanted := "URI escape sequence of 2 hexadecimal numbers"
        .error (.during (.scanning role.words) start
          (.unexpectedChar wanted (c.peekAt digits.length)) c.mark)
    else
      match String.fromUTF8? ⟨bytes.toArray⟩ with
      | some s => .ok (s, c)
      | none =>
        .error (.during (.scanning role.words) start (.badTagBytes (Text.damageText bytes)) first)

/-- Reads the characters of a tag. -/
def takeUri (role : Role) (start : Mark) :
    (fuel : Nat) → Cursor → String → Except Refusal (String × Cursor)
  | 0, c, _ => .error (unexpected (.parsing role.words) start "URI" c)
  | fuel + 1, c, acc =>
    if c.peek == some '%' then do
      let (s, c) ← takeEscapes role start c.mark c.rest.length.succ c []
      takeUri role start fuel c (acc ++ s)
    else
      match c.peek with
      | some a =>
        if isTagChar a then takeUri role start fuel c.next (acc.push a) else .ok (acc, c)
      | none => .ok (acc, c)

/-- Reads the characters of a tag, at least one of them. -/
def readUri (role : Role) (start : Mark) (c : Cursor) : Except Refusal (String × Cursor) := do
  let (uri, after) ← takeUri role start c.rest.length.succ c ""
  if after.index = c.index then throw (unexpected (.parsing role.words) start "URI" c)
  else return (uri, after)

/-- Reads an abbreviation at its exclamation mark. -/
def readHandle (role : Role) (start : Mark) (c : Cursor) : Except Refusal (String × Cursor) :=
  if c.peek == some '!' then
    if c.peekAt 1 == some ' ' then .ok ("!", c.next)
    else
      let (name, after) := c.next.takeWhile isWordChar
      if after.peek == some '!' then .ok ("!" ++ String.ofList name ++ "!", after.next)
      else .error (unexpected (.scanning role.words) start "'!'" after)
  else .error (unexpected (.scanning role.words) start "'!'" c)

/-- Whether a tag goes on with an abbreviation: a second exclamation mark comes before the next
space. -/
def hasHandle (c : Cursor) : Bool :=
  let word := c.rest.takeWhile fun a => !(a == ' ' || isBreak a)
  word.contains '!'

/-- Reads a tag at its exclamation mark. -/
def readTag (c : Cursor) : Except Refusal (Token × Cursor) := do
  let start := c.mark
  let (token, c) ←
    if c.peekAt 1 == some '<' then do
      let (suffix, c) ← readUri .node start (c.skip 2)
      if c.peek == some '>' then pure (Token.tag none suffix, c.next)
      else throw (unexpected (.parsing "a tag") start "'>'" c)
    else if endsWord (c.peekAt 1) then pure (Token.tag none "!", c.next)
    else do
      let (handle, c) ← if hasHandle c.next then readHandle .node start c else pure ("!", c.next)
      let (suffix, c) ← readUri .node start c
      pure (Token.tag (some handle) suffix, c)
  if endsName c.peek then return (token, c)
  else throw (unexpected (.scanning "a tag") start "' '" c)

/-- What the names of anchors and directives are made of. -/
def nameWanted : String := "alphabetic or numeric character"

/-- Reads the name of an anchor, or of a reference to one, after its sign; `what` says which. -/
def readName (what : String) (c : Cursor) : Except Refusal (String × Cursor) :=
  let (name, after) := c.next.takeWhile isWordChar
  if !name.isEmpty && (endsWord after.peek || after.peek.any (oneOf "?:,]\x7d%@\x60")) then
    .ok (String.ofList name, after)
  else .error (unexpected (.scanning what) c.mark nameWanted after)

/-- The refusal of a character in a directive. -/
def directiveRefusal (start : Mark) (wanted : String) (c : Cursor) : Refusal :=
  unexpected (.scanning "a directive") start wanted c

/-- Reads a number of the version directive. -/
def takeNumber (start : Mark) (c : Cursor) : Except Refusal (Nat × Cursor) :=
  let (digits, after) := c.takeWhile fun a => '0' ≤ a && a ≤ '9'
  if digits.isEmpty then .error (directiveRefusal start "a digit" c)
  else .ok (Text.decimalNumber digits, after)

/-- Reads what a directive says after its name. -/
def readDirectiveBody (start : Mark) (name : String) (c : Cursor) :
    Except Refusal (Token × Cursor) :=
  if name = "YAML" then do
    let (major, c) ← takeNumber start c.skipSpaces
    if c.peek != some '.' then throw (directiveRefusal start "a digit or '.'" c)
    let (_, c) ← takeNumber start c.next
    if endsName c.peek then return (.version major, c)
    else throw (directiveRefusal start "a digit or ' '" c)
  else if name = "TAG" then do
    let (handle, c) ← readHandle .directive start c.skipSpaces
    if c.peek != some ' ' then throw (directiveRefusal start "' '" c)
    let (lead, c) ← readUri .directive start c.skipSpaces
    if endsName c.peek then return (.tagHandle handle lead, c)
    else throw (directiveRefusal start "' '" c)
  else .ok (.directive, c.skipLine)

/-- Reads a directive at its percent sign, to the end of its line. -/
def readDirective (c : Cursor) : Except Refusal (Token × Cursor) := do
  let start := c.mark
  let (name, c) := c.next.takeWhile isWordChar
  if name.isEmpty || !endsName c.peek then throw (directiveRefusal start nameWanted c)
  let (token, c) ← readDirectiveBody start (String.ofList name) c
  let c := c.skipComment
  match c.takeBreak? with
  | some (_, c) => return (token, c)
  | none =>
    if c.peek.isNone then return (token, c)
    else throw (directiveRefusal start "a comment or a line break" c)

end Muster.Yaml.Token.Tag
