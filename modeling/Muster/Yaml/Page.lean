import Muster.Yaml.Character
/-!
# Pages

A page is what has been written of a document so far, with what the writer has to know to go on:
the column, and whether only white space or only indentation stands before it in its line.
-/

namespace Muster.Yaml

/-- What has been written of a document. -/
structure Page where
  /-- The characters written, last first. -/
  written : List Char := []
  column : Nat := 0
  /-- Whether the last character was white space. -/
  spaced : Bool := true
  /-- Whether nothing but indentation and signs stands in the line. -/
  indented : Bool := true

namespace Page

/-- The column up to which lines are filled. -/
def width : Nat := 80

/-- The text of a page. -/
def text (p : Page) : String :=
  String.ofList p.written.reverse

/-- Writes some characters of a line. -/
def put (cs : List Char) (p : Page) : Page :=
  { p with written := cs.reverse ++ p.written, column := p.column + cs.length }

/-- Ends the line. -/
def breakLine (p : Page) : Page :=
  { written := '\n' :: p.written, column := 0, spaced := true, indented := true }

/-- Goes to the indentation of a block, on a new line if need be. -/
def indent (n : Nat) (p : Page) : Page :=
  let p :=
    if !p.indented || n < p.column || (p.column == n && !p.spaced) then p.breakLine else p
  if p.column < n then { p.put (List.replicate (n - p.column) ' ') with spaced := true } else p

/-- Writes a sign, after a space if it needs one.  `keeps` says whether the line counts as
indented after the sign, as far as it did before. -/
def sign (s : String) (needsSpace : Bool) (keeps : Bool) (p : Page) : Page :=
  let cs := if p.spaced || !needsSpace then s.toList else ' ' :: s.toList
  { p.put cs with spaced := false, indented := p.indented && keeps }

end Page

end Muster.Yaml
