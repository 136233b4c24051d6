import Muster.Shell.Name
import Muster.Shell.Script
/-!
# The text of a script

A reader goes through the text of a script and counts its lines.  Here are its elementary steps:
blanks and comments, operators, names, and the words with their pieces.
-/

namespace Muster.Shell

/-- What is left of the text of a script, and the line it stands in. -/
structure Source where
  left : List Char
  line : Nat := 1
deriving Inhabited

/-- Why a script cannot be read, and in which line. -/
structure SyntaxFault where
  line : Nat
  message : String
deriving Repr, DecidableEq

/-- A reader of the text of a script. -/
abbrev Reader := StateT Source (Except SyntaxFault)

namespace Reader

/-- Ends reading. -/
def fail {α : Type} (message : String) : Reader α := do
  throw ⟨(← get).line, message⟩

/-- Leaves some characters behind. -/
def skip (n : Nat) : Reader Unit :=
  modify fun s => ⟨s.left.drop n, s.line + (s.left.take n).count '\n'⟩

/-- The rest of a text from the next line on, or after blanks, comments and joined lines. -/
def blanks : List Char → Nat
  | '\\' :: '\n' :: r => blanks r + 2
  | ' ' :: r | '\t' :: r => blanks r + 1
  | '#' :: r => (r.takeWhile (· != '\n')).length + 1
  | _ => 0

/-- The characters that end a word. -/
def wordEnds : List Char := [' ', '\t', '\n', ';', '&', '|', '(', ')', '<', '>']

/-- The operators, longer ones first. -/
def operators : List String :=
  ["&&", "||", ";;", "<<-", "<<", ">>", "<&", ">&", ">|", "<>", ";", "&", "|", "(", ")", "<", ">",
    "\n"]

/-- The operator or else the first character of the word that comes next; nothing at the end. -/
def peek : Reader (Option String) := do
  skip (blanks (← get).left)
  let left := (← get).left
  match operators.find? (·.toList.isPrefixOf left) with
  | some operator => pure (some operator)
  | none => pure (left.head?.map String.singleton)

/-- The characters up to the end of a word that is not quoted. -/
def peekName : Reader String := do
  let _ ← peek
  return String.ofList ((← get).left.takeWhile (!wordEnds.contains ·))

/-- The parameters whose names are single characters that are not letters. -/
def specialNames : List Char := ['@', '*', '#', '?', '-', '$', '!']

/-- The script up to the parenthesis that ends it, and what comes after. -/
def untilClosed : (depth : Nat) → (quote : Option Char) → List Char →
    Option (List Char × List Char)
  | _, _, [] => none
  | depth, quote, '\\' :: c :: r =>
    if quote = some '\'' then
      (untilClosed depth (if c = '\'' then none else quote) r).map fun (a, b) =>
        ('\\' :: c :: a, b)
    else (untilClosed depth quote r).map fun (a, b) => ('\\' :: c :: a, b)
  | depth, some q, c :: r =>
    (untilClosed depth (if c = q then none else some q) r).map fun (a, b) => (c :: a, b)
  | depth, none, c :: r =>
    if c = ')' ∧ depth = 0 then some ([], r)
    else
      let depth := if c = '(' then depth + 1 else if c = ')' then depth - 1 else depth
      let quote := if c = '\'' ∨ c = '"' then some c else none
      (untilClosed depth quote r).map fun (a, b) => (c :: a, b)

/-- The script up to a back quote, in which a backslash keeps some characters, and what comes
after. -/
def untilBackquote (inQuotes : Bool) : List Char → Option (List Char × List Char)
  | [] => none
  | '\x60' :: r => some ([], r)
  | '\\' :: c :: r =>
    let kept := c = '\\' || c = '\x60' || c = '$' || (inQuotes && c = '"')
    (untilBackquote inQuotes r).map fun (a, b) => (if kept then c :: a else '\\' :: c :: a, b)
  | c :: r => (untilBackquote inQuotes r).map fun (a, b) => (c :: a, b)

/-- Where the pieces of a word stand. -/
inductive Place where
  | bare
  | doubleQuotes
  /-- Between braces, up to the closing one. -/
  | braces (quoted : Bool)
  /-- In an expression, up to two closing parentheses. -/
  | expression
  /-- In a text that stands in the script. -/
  | here
deriving Repr, DecidableEq

namespace Place

/-- Whether what stands at a place is quoted. -/
def isQuoted : Place → Bool
  | bare | braces false => false
  | _ => true

/-- The characters that a backslash keeps at a place where it does not keep all. -/
def keptChars : Place → List Char
  | here | expression => ['$', '\x60', '\\']
  | braces _ => ['$', '\x60', '\\', '"', '\x7d']
  | _ => ['$', '\x60', '\\', '"']

end Place

/-- Puts a text before the pieces of a word. -/
def addText (quoted : Bool) (s : String) : Word → Word
  | .text q t :: r => if q = quoted then .text q (s ++ t) :: r else .text quoted s :: .text q t :: r
  | r => .text quoted s :: r

/-- What is done with a parameter, by the characters between its name and the operand; and the
number of these characters. -/
def adjustment? : List Char → Option (Adjustment × Nat)
  | ':' :: '-' :: _ => some (.orElse true, 2)
  | ':' :: '=' :: _ => some (.assign true, 2)
  | ':' :: '?' :: _ => some (.complain true, 2)
  | ':' :: '+' :: _ => some (.instead true, 2)
  | '-' :: _ => some (.orElse false, 1)
  | '=' :: _ => some (.assign false, 1)
  | '?' :: _ => some (.complain false, 1)
  | '+' :: _ => some (.instead false, 1)
  | '#' :: '#' :: _ => some (.cutFront true, 2)
  | '#' :: _ => some (.cutFront false, 1)
  | '%' :: '%' :: _ => some (.cutBack true, 2)
  | '%' :: _ => some (.cutBack false, 1)
  | _ => none

/-- The characters of the name of a parameter. -/
def parameterName : List Char → List Char
  | [] => []
  | c :: r =>
    if specialNames.contains c then [c]
    else if c.isDigit then c :: r.takeWhile Char.isDigit
    else (c :: r).takeWhile isNameChar

mutual

/-- Reads pieces up to the end of a place, together with what ends it unless that is the end of
a word. -/
def readPieces : (fuel : Nat) → Place → Reader Word
  | 0, _ => fail "Word too long"
  | n + 1, place => do
    let q := place.isQuoted
    match (← get).left, place with
    | [], .bare | [], .here => return []
    | [], .braces _ => fail "Missing '\x7d'"
    | [], .expression => fail "Missing '))'"
    | [], .doubleQuotes => fail "Unterminated quoted string"
    | '"' :: _, .doubleQuotes => skip 1; return []
    | '\x7d' :: _, .braces _ => skip 1; return []
    | ')' :: ')' :: _, .expression => skip 2; return []
    | '(' :: _, .expression =>
      skip 1
      let inner ← readGroup n
      return addText true "(" inner ++ (← readPieces n place)
    | '\\' :: '\n' :: _, _ => skip 2; readPieces n place
    | '\\' :: c :: _, _ =>
      skip 2
      if !q || place.keptChars.contains c then
        return addText true (String.singleton c) (← readPieces n place)
      else return addText true (String.ofList ['\\', c]) (← readPieces n place)
    | '\'' :: r, .bare | '\'' :: r, .braces false =>
      let s := r.takeWhile (· != '\'')
      if s.length = r.length then fail "Unterminated quoted string"
      else
        skip (s.length + 2)
        return .text true (String.ofList s) :: (← readPieces n place)
    | '"' :: _, .bare | '"' :: _, .braces _ =>
      skip 1
      let inner ← readPieces n .doubleQuotes
      return .text true "" :: inner ++ (← readPieces n place)
    | '\x60' :: r, _ =>
      match untilBackquote q r with
      | none => fail "EOF in backquote substitution"
      | some (script, rest) =>
        skip (r.length - rest.length + 1)
        return .command q (String.ofList script) :: (← readPieces n place)
    | '$' :: r, _ =>
      let piece ← readDollar n q r
      return piece ++ (← readPieces n place)
    | c :: _, .bare =>
      if wordEnds.contains c then return []
      else skip 1; return addText false (String.singleton c) (← readPieces n place)
    | c :: _, _ => skip 1; return addText q (String.singleton c) (← readPieces n place)

/-- Reads an expression up to a closing parenthesis, which is part of it. -/
def readGroup : (fuel : Nat) → Reader Word
  | 0 => fail "Word too long"
  | n + 1 => do
    match (← get).left with
    | [] => fail "Missing '))'"
    | ')' :: _ => skip 1; return [.text true ")"]
    | '(' :: _ =>
      skip 1
      let inner ← readGroup n
      return addText true "(" inner ++ (← readGroup n)
    | '$' :: r =>
      let piece ← readDollar n true r
      return piece ++ (← readGroup n)
    | c :: _ => skip 1; return addText true (String.singleton c) (← readGroup n)

/-- Reads what begins with a dollar sign, before the given characters. -/
def readDollar : (fuel : Nat) → (quoted : Bool) → List Char → Reader Word
  | 0, _, _ => fail "Word too long"
  | n + 1, q, '(' :: '(' :: _ => do
    skip 3
    return [.arithmetic q (← readPieces n .expression)]
  | _ + 1, q, '(' :: r => do
    match untilClosed 0 none r with
    | none => fail "end of file unexpected (expecting \")\")"
    | some (script, rest) =>
      skip (r.length - rest.length + 2)
      return [.command q (String.ofList script)]
  | n + 1, q, '\x7b' :: r => do
    skip 2
    let measured := r.head? = some '#' && (r.drop 1).head?.any (fun c => isNameChar c ||
      (specialNames.contains c && (r.drop 2).head? = some '\x7d'))
    let name := parameterName (if measured then r.drop 1 else r)
    skip (name.length + if measured then 1 else 0)
    let left := (← get).left
    if name.isEmpty then fail "Bad substitution"
    else if left.head? = some '\x7d' then
      skip 1
      return [.parameter q (String.ofList name) (if measured then .length else .keep) []]
    else
      match adjustment? left with
      | none => fail "Bad substitution"
      | some (change, width) =>
        skip width
        let inner := match change with
          | .cutFront _ | .cutBack _ => false
          | _ => q
        return [.parameter q (String.ofList name) change (← readPieces n (.braces inner))]
  | _ + 1, q, r => do
    let name := match r with
      | c :: _ => if c.isDigit then [c] else parameterName r
      | [] => []
    skip (name.length + 1)
    if name.isEmpty then return [.text q "$"]
    else return [.parameter q (String.ofList name) .keep []]

end

/-- Steps enough to read the words of a text. -/
def fuel : Reader Nat :=
  return 8 * (← get).left.length + 64

/-- Reads a word; a tilde at its beginning stands for the home directory. -/
def readWord : Reader Word := do
  let n ← fuel
  match (← get).left with
  | '~' :: r =>
    if r.head?.all fun c => c == '/' || wordEnds.contains c then
      skip 1
      return .parameter true "HOME" (.orElse false) [.text true "~"] :: (← readPieces n .bare)
    else readPieces n .bare
  | _ => readPieces n .bare

end Reader

/-- The pieces of a text that stands in a script. -/
def Word.ofText (s : String) : Word :=
  match (Reader.readPieces (8 * s.length + 64) .here).run ⟨s.toList, 1⟩ with
  | .ok (w, _) => w
  | .error _ => [.text true s]

end Muster.Shell
