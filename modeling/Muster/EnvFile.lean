import Muster.Table
import Muster.Text.Blank
/-!
# Environment files

An environment file is a list of statements, a name and perhaps a value each.  A value stands in
single or double quotes, over several lines if need be, or goes up to the end of the line or to a
comment.  A statement that cannot be read is left out, and reading goes on at the next line.

The values may refer to variables, `$` before a name in braces; what has been read before counts
first, then the surrounding environment.
-/

namespace Muster.EnvFile

/-- White space within a line. -/
def isInlineBlank (c : Char) : Bool :=
  Text.isBlank c && c != '\n'

/-- The rest of a text after the line it begins in. -/
def restOfLine (cs : List Char) : List Char :=
  (cs.dropWhile (· != '\n')).drop 1

/-- A text without the word `export` at its beginning, which stands before white space. -/
def dropExport (cs : List Char) : List Char :=
  let word := "export".toList
  if word.isPrefixOf cs then
    let rest := cs.drop word.length
    if rest.head?.any isInlineBlank then rest.dropWhile isInlineBlank else cs
  else cs

/-- Whether a character may stand in a name without quotes. -/
def isNameChar (c : Char) : Bool :=
  c != '=' && c != '#' && !Text.isBlank c

/-- The name at the beginning of a text, nothing before a comment; there may be none to read. -/
def readName (cs : List Char) : Option (Option (List Char) × List Char) :=
  match cs with
  | '#' :: _ => some (none, cs)
  | '\'' :: r =>
    let name := r.takeWhile (· != '\'')
    match r.dropWhile (· != '\'') with
    | _ :: rest => if name.isEmpty then none else some (some name, rest)
    | [] => none
  | _ =>
    let name := cs.takeWhile isNameChar
    if name.isEmpty then none else some (some name, cs.dropWhile isNameChar)

/-- What stands before and after the closing quote.  A quote after a backslash does not close. -/
def closeQuote (quote : Char) : List Char → Option (List Char × List Char)
  | [] => none
  | [c] => if c = quote then some ([], []) else none
  | c :: d :: r =>
    if c = quote then some ([], d :: r)
    else if c = '\\' ∧ d = quote then (closeQuote quote r).map fun (a, b) => (c :: d :: a, b)
    else (closeQuote quote (d :: r)).map fun (a, b) => (c :: a, b)

/-- What stands before and after the last quote, which then closes after all. -/
def closeLastQuote (quote : Char) (cs : List Char) : Option (List Char × List Char) :=
  match cs.reverse.dropWhile (· != quote) with
  | _ :: before => some (before.reverse, (cs.reverse.takeWhile (· != quote)).reverse)
  | [] => none

/-- The character that an escape stands for. -/
def unescape (double : Bool) (c : Char) : Option Char :=
  match c with
  | '\\' => some '\\'
  | '\'' => some '\''
  | _ =>
    if double then
      match c with
      | '"' => some '"'
      | 'a' => some '\x07'
      | 'b' => some '\x08'
      | 'f' => some '\x0c'
      | 'n' => some '\n'
      | 'r' => some '\r'
      | 't' => some '\t'
      | 'v' => some '\x0b'
      | _ => none
    else none

/-- A text with its escapes taken for what they stand for. -/
def decode (double : Bool) : List Char → List Char
  | '\\' :: c :: r =>
    match unescape double c with
    | some d => d :: decode double r
    | none => '\\' :: decode double (c :: r)
  | c :: r => c :: decode double r
  | [] => []
termination_by cs => cs.length

/-- A line up to a comment, which begins at a sharp sign after white space. -/
def uncommented : List Char → List Char
  | [] => []
  | c :: r => if Text.isBlank c && r.head? == some '#' then [] else c :: uncommented r

/-- The value at the beginning of a text, perhaps after white space, with the text after it.  A
quote that is not closed leaves no value, but the text from the quote on. -/
def readValue (cs : List Char) : Except (List Char) (List Char × List Char) :=
  let afterBlanks := cs.dropWhile isInlineBlank
  let quoted (quote : Char) (r : List Char) : Except (List Char) (List Char × List Char) :=
    match (closeQuote quote r).or (closeLastQuote quote r) with
    | some (value, rest) => .ok (decode (quote == '"') value, rest)
    | none => .error afterBlanks
  match afterBlanks with
  | '\'' :: r => quoted '\'' r
  | '"' :: r => quoted '"' r
  | _ =>
    let line := uncommented (cs.takeWhile (· != '\n'))
    .ok (Text.trimBy Text.isBlank line, cs.dropWhile (· != '\n'))

/-- The rest of a text after a comment and the end of the line, if nothing else stands there. -/
def readLineEnd (cs : List Char) : Option (List Char) :=
  let afterBlanks := cs.dropWhile isInlineBlank
  let rest := match afterBlanks with
    | '#' :: _ => afterBlanks.dropWhile (· != '\n')
    | _ => afterBlanks
  match rest with
  | [] => some []
  | '\n' :: r => some r
  | _ => none

/-- A statement: a name and perhaps a value. -/
abbrev Statement := String × Option String

/-- The statement at the beginning of a text, which does not begin with white space, and the text
after its line. -/
def readStatement (cs : List Char) : Option Statement × List Char :=
  let cs := dropExport cs
  match readName cs with
  | none => (none, restOfLine cs)
  | some (name, rest) =>
    let rest := rest.dropWhile isInlineBlank
    let finish (value : Option (List Char)) (rest : List Char) : Option Statement × List Char :=
      match readLineEnd rest with
      | some after => (name.map fun n => (String.ofList n, value.map String.ofList), after)
      | none => (none, restOfLine rest)
    match rest with
    | '=' :: r =>
      match readValue r with
      | .ok (value, rest) => finish (some value) rest
      | .error rest => (none, restOfLine rest)
    | _ => finish none rest

/-- The statements of a text, of which there are at most `fuel`. -/
def readStatements : (fuel : Nat) → List Char → List Statement
  | 0, _ => []
  | fuel + 1, cs =>
    match cs.dropWhile Text.isBlank with
    | [] => []
    | cs =>
      let (statement, rest) := readStatement cs
      statement.toList ++ readStatements fuel rest

/-- The statements of a file.  A byte order mark at its beginning does not count. -/
def statements (content : String) : List Statement :=
  let cs := content.toList
  let cs := if cs.head? == some '\uFEFF' then cs.drop 1 else cs
  readStatements (cs.length + 1) cs

/-- The reference at the beginning of a text: the name of a variable, what stands for it if it is
missing, and the text after the reference. -/
def reference? (cs : List Char) : Option (String × String × List Char) :=
  match cs with
  | '$' :: '\x7b' :: r =>
    let stops (c : Char) : Bool := c == '\x7d' || c == ':'
    let name := String.ofList (r.takeWhile (!stops ·))
    match r.dropWhile (!stops ·) with
    | '\x7d' :: rest => some (name, "", rest)
    | ':' :: '-' :: r =>
      match r.dropWhile (· != '\x7d') with
      | _ :: rest => some (name, String.ofList (r.takeWhile (· != '\x7d')), rest)
      | [] => none
    | _ => none
  | _ => none

/-- A value with its references replaced; there are at most `fuel` characters and references. -/
def expand (lookup : String → Option String) : (fuel : Nat) → List Char → List Char
  | 0, _ => []
  | _, [] => []
  | fuel + 1, c :: r =>
    match reference? (c :: r) with
    | some (name, default, rest) =>
      ((lookup name).getD default).toList ++ expand lookup fuel rest
    | none => c :: expand lookup fuel r

/-- The variables that some statements define in an environment.  A name without a value counts as
defined, but has nothing to put in for it. -/
def evaluate (environ : Table String) (statements : List Statement) : Table (Option String) :=
  statements.foldl (fun known s =>
    let lookup (name : String) : Option String :=
      match known.get? name with
      | some value => some (value.getD "")
      | none => environ.get? name
    let value := s.2.map fun v => String.ofList (expand lookup (v.length + 1) v.toList)
    known.insert s.1 value) ∅

/-- The variables that a file defines in an environment. -/
def read (environ : Table String) (content : String) : Table (Option String) :=
  evaluate environ (statements content)

end Muster.EnvFile
