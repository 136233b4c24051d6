import Muster.Fault
/-!
# Command lines as words

A command line is cut into words at white space.  Single quotes keep everything between them;
double quotes keep everything but a backslash before a quote or another backslash; outside
quotes a backslash keeps the next character.
-/

namespace Muster.Shell

/-- Where a reader stands inside a command line. -/
inductive Place where
  /-- Between words. -/
  | gap
  /-- Inside a word, outside quotes. -/
  | word
  | singleQuotes
  | doubleQuotes
  /-- After a backslash outside quotes. -/
  | escape
  /-- After a backslash inside double quotes. -/
  | quotedEscape
deriving Repr, DecidableEq

/-- The characters between words. -/
def isGap (c : Char) : Bool :=
  c == ' ' || c == '\t' || c == '\r' || c == '\n'

/-- The place after a character that may begin or continue a word, and what it adds. -/
def enter (c : Char) : Place × List Char :=
  if c = '\\' then (.escape, [])
  else if c = '\'' then (.singleQuotes, [])
  else if c = '"' then (.doubleQuotes, [])
  else (.word, [c])

/-- The words of the rest of a command line; `acc` holds the current word, last character
first. -/
def wordsFrom : Place → (acc : List Char) → List Char → Except Fault (List String)
  | .gap, _, [] => .ok []
  | .word, acc, [] => .ok [String.ofList acc.reverse]
  | .singleQuotes, _, [] | .doubleQuotes, _, [] => .error .unclosedQuote
  | .escape, _, [] | .quotedEscape, _, [] => .error .danglingEscape
  | .gap, _, c :: r =>
    if isGap c then wordsFrom .gap [] r
    else wordsFrom (enter c).1 (enter c).2 r
  | .word, acc, c :: r =>
    if isGap c then (wordsFrom .gap [] r).map (String.ofList acc.reverse :: ·)
    else wordsFrom (enter c).1 ((enter c).2 ++ acc) r
  | .singleQuotes, acc, c :: r =>
    if c = '\'' then wordsFrom .word acc r else wordsFrom .singleQuotes (c :: acc) r
  | .doubleQuotes, acc, c :: r =>
    if c = '"' then wordsFrom .word acc r
    else if c = '\\' then wordsFrom .quotedEscape acc r
    else wordsFrom .doubleQuotes (c :: acc) r
  | .escape, acc, c :: r => wordsFrom .word (c :: acc) r
  | .quotedEscape, acc, c :: r =>
    if c = '"' ∨ c = '\\' then wordsFrom .doubleQuotes (c :: acc) r
    else wordsFrom .doubleQuotes (c :: '\\' :: acc) r

/-- The words of a command line. -/
def words (line : String) : Except Fault (List String) :=
  wordsFrom .gap [] line.toList

end Muster.Shell
