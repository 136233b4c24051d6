import Muster.Yaml.Character
/-!
# Kinds of values

Every node of a document has a kind.  A tag names it; a plain scalar without a tag has the
kind that its spelling belongs to, and any other node without a tag is a text, a list or a
mapping by its form.
-/

namespace Muster.Yaml

/-- The forms of nodes. -/
inductive Form where
  | scalar
  | sequence
  | mapping
deriving Repr, DecidableEq

/-- The word for a form. -/
def Form.name : Form → String
  | scalar => "scalar"
  | sequence => "sequence"
  | mapping => "mapping"

/-- The kinds of values. -/
inductive Kind where
  | null
  | bool
  | int
  | float
  | binary
  | timestamp
  | text
  | list
  | map
  | set
  /-- A list of mappings with one entry each, without and with repeated keys. -/
  | orderedMap
  | pairs
  /-- The key whose value's entries are merged into its mapping. -/
  | merge
  /-- The key whose value stands for its whole mapping. -/
  | value
  | unknown (tag : String)
deriving Repr, DecidableEq

namespace Kind

/-- What the tags of the known kinds begin with. -/
def tagLead : String := "tag:yaml.org,2002:"

/-- The known kinds by the last part of their tags. -/
def byName : List (String × Kind) :=
  [("null", null), ("bool", bool), ("int", int), ("float", float), ("binary", binary),
    ("timestamp", timestamp), ("str", text), ("seq", list), ("map", map), ("set", set),
    ("omap", orderedMap), ("pairs", pairs), ("merge", merge), ("value", value)]

/-- The kind that a tag names. -/
def ofTag (tag : String) : Kind :=
  ((byName.find? fun e => tagLead ++ e.1 = tag).map Prod.snd).getD (unknown tag)

/-- The tag that names a kind. -/
def tag : Kind → String
  | unknown tag => tag
  | kind => tagLead ++ ((byName.find? (·.2 = kind)).map Prod.fst).getD ""

/-- Whether values of a kind are written as scalars. -/
def isScalar : Kind → Bool
  | null | bool | int | float | binary | timestamp | text => true
  | _ => false

/-- A digit of the Latin script. -/
def isDigit (c : Char) : Bool :=
  '0' ≤ c && c ≤ '9'

/-- A text without its sign, if it starts with one. -/
def dropSign : List Char → List Char
  | '+' :: r | '-' :: r => r
  | cs => cs

/-- Whether a text starts with a digit and goes on with digits and underscores. -/
def isGrouped : List Char → Bool
  | [] => false
  | c :: r => isDigit c && r.all fun c => isDigit c || c == '_'

/-- Whether a text is a number of sixtieths: one digit, or two of which the first is below six. -/
def isSixtieth : List Char → Bool
  | [c] => isDigit c
  | [b, c] => '0' ≤ b && b ≤ '5' && isDigit c
  | _ => false

/-- The parts of a text before and after the colons in it. -/
def colonParts : List Char → List (List Char)
  | [] => [[]]
  | c :: r =>
    if c == ':' then [] :: colonParts r
    else
      match colonParts r with
      | [] => [[c]]
      | p :: ps => (c :: p) :: ps

/-- Whether the parts after the first are sixtieths, and there are some. -/
def hasSixtieths (parts : List (List Char)) : Bool :=
  parts.length > 1 && (parts.drop 1).all isSixtieth

/-- Whether a text is a whole number: binary, octal, decimal, hexadecimal or of base sixty. -/
def isInt (cs : List Char) : Bool :=
  let body := dropSign cs
  match body with
  | [] => false
  | '0' :: r =>
    r.all (fun c => ('0' ≤ c && c ≤ '7') || c == '_')
      || (match r with
        | 'b' :: ds => !ds.isEmpty && ds.all fun c => c == '0' || c == '1' || c == '_'
        | 'x' :: ds =>
          !ds.isEmpty && ds.all fun c =>
            isDigit c || ('a' ≤ c && c ≤ 'f') || ('A' ≤ c && c ≤ 'F') || c == '_'
        | _ => false)
  | _ =>
    let parts := colonParts body
    isGrouped (parts.headD []) && (parts.length = 1 || hasSixtieths parts)

/-- Whether a text is nothing or an exponent with its sign. -/
def isExponent : List Char → Bool
  | [] => true
  | e :: sign :: ds =>
    (e == 'e' || e == 'E') && (sign == '+' || sign == '-') && !ds.isEmpty && ds.all isDigit
  | _ => false

/-- Whether a text holds digits and underscores and then perhaps an exponent. -/
def isFraction (cs : List Char) : Bool :=
  isExponent (cs.dropWhile fun c => isDigit c || c == '_')

/-- Whether a text is a number with a point, an infinity or no number. -/
def isFloat (cs : List Char) : Bool :=
  let body := dropSign cs
  let whole := body.takeWhile (· != '.')
  match body.dropWhile (· != '.') with
  | [] => false
  | _ :: fraction =>
    let word := String.ofList fraction
    if whole.isEmpty then
      word = "inf" || word = "Inf" || word = "INF"
        || (body.length = cs.length
          && (word = "nan" || word = "NaN" || word = "NAN"
            || (fraction.head?.any isDigit && isFraction fraction)))
    else
      let parts := colonParts whole
      isGrouped (parts.headD [])
        && ((parts.length = 1 && isFraction fraction)
          || (hasSixtieths parts && fraction.all fun c => isDigit c || c == '_'))

/-- The words for truth values. -/
def isBool (s : String) : Bool :=
  ["yes", "Yes", "YES", "no", "No", "NO", "true", "True", "TRUE", "false", "False", "FALSE", "on",
    "On", "ON", "off", "Off", "OFF"].contains s

/-- The words for nothing. -/
def isNull (s : String) : Bool :=
  ["", "~", "null", "Null", "NULL"].contains s

end Kind

end Muster.Yaml
