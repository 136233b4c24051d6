import Muster.Value.Text
import Muster.Yaml.Style
/-!
# Writing documents

A value is written as a document of blocks: the items of a list under each other after dashes, the
entries of a mapping under each other with their keys before a colon.  Only empty lists and
mappings are written in brackets.
-/

namespace Muster.Yaml

/-- Doubles in documents: an exponent stands after a point. -/
def documentNotation : Decimal.Notation :=
  { Decimal.plain with
    pointBeforeExponent := true, infinite := ".inf", notANumber := ".nan" }

/-- The text of a scalar, and whether it reads back when it is written plainly. -/
def scalarText : Value → String × Bool
  | .null => ("null", true)
  | .bool b => (if b then "true" else "false", true)
  | .int n => (toString n, true)
  | .float x => (documentNotation.write x, true)
  | .str s => (s, Kind.ofPlain s == .text)
  | v => (v.text, true)

/-- The number of steps by which a block is indented. -/
def step : Nat := 2

/-- Writes a scalar; `n` is the indentation of the block it stands in, none at the outermost
level. -/
def writeScalar (n : Option Nat) (isKey : Bool) (v : Value) (p : Page) : Page :=
  let (s, readsBack) := scalarText v
  let cs := s.toList
  p.scalar ((n.map (· + step)).getD step) isKey (Style.of readsBack isKey cs) cs

/-- The number of characters that a key may have if its value is to stand on its line. -/
def keyLimit : Nat := 123

/-- Whether a key stands on one line with its colon. -/
def isSimpleKey (v : Value) : Bool :=
  let cs := (scalarText v).1.toList
  !cs.isEmpty && cs.length < keyLimit && !cs.any isBreak

mutual

/-- Writes a value; `inMap` says whether it is the value of a key. -/
def write (n : Option Nat) (inMap : Bool) : Value → Page → Page
  | .list [], p => (p.sign "[" true false).sign "]" false false
  | .map [], p => (p.sign "\x7b" true false).sign "\x7d" false false
  | .list (v :: r), p =>
    let inner := match n with
      | none => 0
      | some n => if inMap && !p.indented then n else n + step
    writeItems inner (v :: r) p
  | .map (e :: r), p => writeEntries ((n.map (· + step)).getD 0) (e :: r) p
  | v, p => writeScalar n false v p

/-- Writes the items of a list. -/
def writeItems (n : Nat) : List Value → Page → Page
  | [], p => p
  | v :: r, p => writeItems n r (write (some n) false v ((p.indent n).sign "-" true true))

/-- Writes the entries of a mapping. -/
def writeEntries (n : Nat) : List (Value × Value) → Page → Page
  | [], p => p
  | (k, v) :: r, p =>
    let p := p.indent n
    let p :=
      if isSimpleKey k then (writeScalar (some n) true k p).sign ":" false false
      else
        let p := writeScalar (some n) false k (p.sign "?" true true)
        (p.indent n).sign ":" true true
    writeEntries n r (write (some n) true v p)

end

/-- The document of a value. -/
def document (v : Value) : String :=
  ((write none false v {}).indent 0).text

end Muster.Yaml
