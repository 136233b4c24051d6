/-!
# Names in scripts

The names of variables and functions: letters of the Latin script, digits and underscores, with no
digit at the beginning.
-/

namespace Muster.Shell

/-- Whether a character may stand in a name. -/
def isNameChar (c : Char) : Bool :=
  c.isAlphanum || c == '_'

/-- Whether a text is a name. -/
def isName (cs : List Char) : Bool :=
  cs.all isNameChar && cs.head?.any (!·.isDigit)

end Muster.Shell
