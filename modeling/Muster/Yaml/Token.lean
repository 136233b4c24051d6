import Muster.Yaml.Mark
/-!
# Tokens of documents

The words and signs of a document, and the starts and ends of the blocks that its indentation
makes.
-/

namespace Muster.Yaml

/-- A word or a sign of a document. -/
inductive Token where
  /-- The version of the notation. -/
  | version (major : Nat)
  /-- An abbreviation for the first part of tags. -/
  | tagHandle (handle lead : String)
  /-- A directive of no meaning. -/
  | directive
  | documentStart
  | documentEnd
  | streamEnd
  | blockSequenceStart
  | blockMappingStart
  | blockEnd
  | flowSequenceStart
  | flowSequenceEnd
  | flowMappingStart
  | flowMappingEnd
  | blockEntry
  | flowEntry
  | key
  | value
  | reference (name : String)
  | anchor (name : String)
  | tag (handle : Option String) (suffix : String)
  | scalar (text : String) (plain : Bool)
deriving Repr, DecidableEq

namespace Token

/-- The name of a token inside a message. -/
def name : Token → String
  | version _ | tagHandle .. | directive => "<directive>"
  | documentStart => "<document start>"
  | documentEnd => "<document end>"
  | streamEnd => "<stream end>"
  | blockSequenceStart => "<block sequence start>"
  | blockMappingStart => "<block mapping start>"
  | blockEnd => "<block end>"
  | flowSequenceStart => "["
  | flowSequenceEnd => "]"
  | flowMappingStart => "\x7b"
  | flowMappingEnd => "\x7d"
  | blockEntry => "-"
  | flowEntry => ","
  | key => "?"
  | value => ":"
  | reference _ => "<alias>"
  | anchor _ => "<anchor>"
  | tag .. => "<tag>"
  | scalar .. => "<scalar>"

end Token

/-- A token with the place where it starts and the one where the document goes on after it. -/
structure PlacedToken where
  token : Token
  start : Mark
  stop : Mark
deriving Repr

end Muster.Yaml
