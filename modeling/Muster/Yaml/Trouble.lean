import Muster.Fault
import Muster.Text.Literal
import Muster.Yaml.Kind
import Muster.Yaml.Mark
import Muster.Yaml.Token
/-!
# Why a document is refused

A document is refused for a problem at one of its places, while something that began at an
earlier place was being read.  `Problem` names the problems and `Activity` what was being read;
`Trouble.message` is the wording, with both places shown.
-/

namespace Muster.Yaml

/-- What was being read. -/
inductive Activity where
  | scanning (what : String)
  | parsing (what : String)
  | constructing (what : String)
  /-- The first node of an anchor, where there is a second one. -/
  | anchoring (name : String)
  /-- The first document, where there is a second one. -/
  | onlyDocument
deriving Repr, DecidableEq

namespace Activity

/-- The wording of what was being read. -/
def message : Activity → String
  | scanning what => "while scanning " ++ what
  | parsing what => "while parsing " ++ what
  | constructing what => "while constructing " ++ what
  | anchoring name => "found duplicate anchor " ++ Text.literal name ++ "; first occurrence"
  | onlyDocument => "expected a single document in the stream"

end Activity

/-- What is wrong at a place of a document. -/
inductive Problem where
  /-- A character stands where something else is wanted; `none` is the end of the document. -/
  | unexpectedChar (wanted : String) (found : Option Char)
  /-- A token stands where something else is wanted. -/
  | unexpectedToken (wanted : String) (found : Token)
  /-- A token stands between brackets where a comma or the closing bracket is wanted. -/
  | unseparated (wanted : String) (found : Token)
  /-- A node has another form than is wanted. -/
  | unexpectedForm (wanted : String) (found : Form)
  | strayCharacter (c : Char)
  | missingColon
  | misplaced (what : String)
  | zeroIndentation
  | unknownEscape (c : Option Char)
  | unclosedQuote
  | documentMarkInQuotes
  /-- The bytes of percent escapes are no text. -/
  | badTagBytes (details : String)
  | unknownHandle (handle : String)
  | repeatedHandle (handle : String)
  | repeatedVersion
  | otherVersion
  | unknownReference (name : String)
  | repeatedAnchor
  | secondDocument
  | unknownTag (tag : String)
  | badBytes (details : String)
  | unusableKey
  | severalEntries (count : Nat)
deriving Repr, DecidableEq

namespace Problem

/-- A character inside a message; the end of the document counts as the character zero. -/
def charText (c : Option Char) : String :=
  Text.literal (String.singleton (c.getD '\x00'))

/-- The wording of a problem. -/
def message : Problem → String
  | unexpectedChar wanted found => "expected " ++ wanted ++ ", but found " ++ charText found
  | unexpectedToken wanted found =>
    "expected " ++ wanted ++ ", but found " ++ Text.literal found.name
  | unseparated wanted found => "expected " ++ wanted ++ ", but got " ++ Text.literal found.name
  | unexpectedForm wanted found => "expected " ++ wanted ++ ", but found " ++ found.name
  | strayCharacter c => "found character " ++ charText (some c) ++ " that cannot start any token"
  | missingColon => "could not find expected ':'"
  | misplaced what => what ++ " are not allowed here"
  | zeroIndentation => "expected indentation indicator in the range 1-9, but found 0"
  | unknownEscape c => "found unknown escape character " ++ charText c
  | unclosedQuote => "found unexpected end of stream"
  | documentMarkInQuotes => "found unexpected document separator"
  | badTagBytes details => details
  | unknownHandle handle => "found undefined tag handle " ++ Text.literal handle
  | repeatedHandle handle => "duplicate tag handle " ++ Text.literal handle
  | repeatedVersion => "found duplicate YAML directive"
  | otherVersion => "found incompatible YAML document (version 1.* is required)"
  | unknownReference name => "found undefined alias " ++ Text.literal name
  | repeatedAnchor => "second occurrence"
  | secondDocument => "but found another document"
  | unknownTag tag => "could not determine a constructor for the tag " ++ Text.literal tag
  | badBytes details => details
  | unusableKey => "found unhashable key"
  | severalEntries count =>
    "expected a single mapping item, but found " ++ toString count ++ " items"

end Problem

/-- A problem at a place, and what was being read, with the place where that began. -/
structure Trouble where
  activity : Option (Activity × Option Mark)
  problem : Problem
  mark : Mark
deriving Repr, DecidableEq

namespace Trouble

/-- The wording of a trouble in a document.  A place is shown once only. -/
def message (content : List Char) (t : Trouble) : String :=
  let context := match t.activity with
    | none => []
    | some (a, none) => [a.message]
    | some (a, some m) =>
      if m.line = t.mark.line ∧ m.column = t.mark.column then [a.message]
      else [a.message, m.text content]
  "\n".intercalate (context ++ [t.problem.message, t.mark.text content])

end Trouble

/-- Why a document is refused. -/
inductive Refusal where
  | trouble (t : Trouble)
  /-- A character that may not stand in any document, and the number of characters before it. -/
  | unallowed (c : Char) (index : Nat)
  /-- A scalar whose value cannot be made. -/
  | fault (f : Fault)

namespace Refusal

/-- The refusal for a problem at a mark. -/
def place (mark : Mark) (problem : Problem) : Refusal :=
  .trouble ⟨none, problem, mark⟩

/-- The refusal for a problem at a mark while something that began at another was being read. -/
def during (activity : Activity) (start : Mark) (problem : Problem) (mark : Mark) : Refusal :=
  .trouble ⟨some (activity, some start), problem, mark⟩

/-- The refusal for a problem at a mark while something that has no beginning was being read. -/
def amid (activity : Activity) (problem : Problem) (mark : Mark) : Refusal :=
  .trouble ⟨some (activity, none), problem, mark⟩

/-- The fault of a refused document. -/
def toFault (content : List Char) : Refusal → Fault
  | trouble t => .descriptor (.badYaml (t.message content))
  | unallowed c index =>
    .descriptor (.badYaml ("unacceptable character #x" ++ String.ofList (Text.hexDigits 4 c.toNat)
      ++ ": special characters are not allowed\n  in \"" ++ Mark.documentName ++ "\", position "
      ++ toString index))
  | fault f => f

end Refusal

end Muster.Yaml
