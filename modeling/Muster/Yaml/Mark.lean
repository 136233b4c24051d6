import Muster.Yaml.Cursor
/-!
# Marks

A mark points at a character of a document.  It is shown by the number of its line and column,
with the piece of the line around it and a pointer under the character.
-/

namespace Muster.Yaml

/-- A place in a document: the number of characters before it, its line and its column. -/
structure Mark where
  index : Nat
  line : Nat
  column : Nat
deriving Repr, DecidableEq

/-- The mark of a position. -/
def Cursor.mark (c : Cursor) : Mark :=
  ⟨c.index, c.line, c.column⟩

namespace Mark

/-- The name that every document goes by. -/
def documentName : String := "<unicode string>"

/-- The greatest number of characters on a side of a mark that are shown in full. -/
def reach : Nat := 36

/-- The number of characters on a side of a mark that are shown when there are too many. -/
def cutReach : Nat := 32

/-- What stands for the characters that are not shown. -/
def ellipsis : List Char := " ... ".toList

/-- The indentation of the piece of a line. -/
def margin : List Char := List.replicate 4 ' '

/-- The characters of a line on a side of a mark, nearest first, as far as they are shown. -/
def side (cs : List Char) : List Char × List Char :=
  let cs := cs.takeWhile (!isBreak ·)
  if cs.length ≤ reach then (cs, []) else (cs.take cutReach, ellipsis)

/-- The piece of the line around a mark, and a pointer under the marked character. -/
def snippet (content : List Char) (m : Mark) : List Char :=
  let (before, lead) := side (content.take m.index).reverse
  let (after, trail) := side (content.drop m.index)
  margin ++ lead ++ before.reverse ++ after ++ trail
    ++ '\n' :: (margin ++ List.replicate (lead.length + before.length) ' ' ++ ['^'])

/-- How a mark in a document is shown. -/
def text (content : List Char) (m : Mark) : String :=
  "  in \"" ++ documentName ++ "\", line " ++ toString (m.line + 1) ++ ", column "
    ++ toString (m.column + 1) ++ ":\n" ++ String.ofList (m.snippet content)

end Mark

end Muster.Yaml
