/-!
# Scripts

A script is what a shell carries out: commands made of words, and ways of putting commands
together.  A word consists of pieces, some of which are only known when it is expanded.
-/

namespace Muster.Shell

/-- What is done with the value of a parameter when it is expanded.  `ifEmpty` says whether an
empty value counts as none. -/
inductive Adjustment where
  | keep
  /-- The number of its characters. -/
  | length
  /-- The operand stands in for a value that there is not. -/
  | orElse (ifEmpty : Bool)
  /-- The operand becomes the value if there is none. -/
  | assign (ifEmpty : Bool)
  /-- The operand words a complaint if there is no value. -/
  | complain (ifEmpty : Bool)
  /-- The operand stands in for a value that there is. -/
  | instead (ifEmpty : Bool)
  /-- What matches the operand is cut off at the beginning. -/
  | cutFront (longest : Bool)
  /-- What matches the operand is cut off at the end. -/
  | cutBack (longest : Bool)
deriving Repr, DecidableEq

/-- A piece of a word.  What is quoted is neither split into fields nor taken as a pattern. -/
inductive Piece where
  | text (quoted : Bool) (s : String)
  | parameter (quoted : Bool) (name : String) (change : Adjustment) (operand : List Piece)
  | command (quoted : Bool) (script : String)
  | arithmetic (quoted : Bool) (expression : List Piece)
deriving Inhabited

/-- A word. -/
abbrev Word := List Piece

/-- Where a descriptor leads after a redirection. -/
inductive Target where
  | read (path : Word)
  | write (path : Word)
  | append (path : Word)
  /-- Another descriptor, or none if the word is a dash. -/
  | duplicate (descriptor : Word)
  /-- A text that stands in the script. -/
  | here (text : Word)
deriving Inhabited

/-- A redirection of a descriptor. -/
structure Redirect where
  descriptor : Nat
  target : Target
deriving Inhabited

/-- What a shell carries out. -/
inductive Script where
  | nothing
  /-- Assignments, a command with its arguments, and redirections. -/
  | simple (line : Nat) (assignments : List (String × Word)) (words : List Word)
    (redirects : List Redirect)
  | pipeline (stages : List Script)
  | negate (s : Script)
  /-- The second part is carried out if the first one succeeds. -/
  | both (a b : Script)
  /-- The second part is carried out if the first one fails. -/
  | either (a b : Script)
  | sequence (a b : Script)
  | background (s : Script)
  | redirected (line : Nat) (s : Script) (redirects : List Redirect)
  | subshell (s : Script)
  | choice (condition yes no : Script)
  /-- The body is repeated while the condition succeeds, or until it does. -/
  | loop (negated : Bool) (condition body : Script)
  /-- The body is carried out for each value of a variable. -/
  | each (line : Nat) (name : String) (values : List Word) (body : Script)
  /-- The first part whose patterns match the word is carried out. -/
  | cases (line : Nat) (subject : Word) (parts : List (List Word × Script))
  | function (name : String) (body : Script)
deriving Inhabited

end Muster.Shell
