import Muster.Yaml.Kind
import Muster.Yaml.Token
import Muster.Yaml.Trouble
/-!
# The nodes of a document

A node is a scalar, a list or a mapping together with its kind and the place where it begins.
`Node.ofTokens` reads the single node of a document from its tokens, following references to the
anchors they name.
-/

namespace Muster.Yaml

/-- A node of a document. -/
inductive Node where
  | scalar (start : Mark) (kind : Kind) (text : String)
  | list (start : Mark) (kind : Kind) (items : List Node)
  | map (start : Mark) (kind : Kind) (entries : List (Node × Node))
  /-- A reference to a node that encloses it. -/
  | loop (start : Mark) (isMap : Bool)
deriving Repr

/-- The place where a node begins. -/
def Node.start : Node → Mark
  | scalar start .. | list start .. | map start .. | loop start _ => start

/-- What a document has said so far: the tokens that are left and the refusal they end with, the
nodes of its anchors, and its abbreviations of tags. -/
structure Reading where
  tokens : List PlacedToken
  ending : Refusal
  anchors : List (String × Node)
  handles : List (String × String)

/-- A reader of nodes. -/
abbrev Reader := StateT Reading (Except Refusal)

namespace Reader

/-- The next token with its places.  A document whose tokens have run out is refused for what ended
them. -/
def next : Reader PlacedToken := do
  match (← get).tokens with
  | t :: _ => return t
  | [] => throw (← get).ending

/-- The next token. -/
def peek : Reader Token := do
  return (← next).token

/-- The place where the next token starts. -/
def here : Reader Mark := do
  return (← next).start

/-- Takes the next token. -/
def take : Reader PlacedToken := do
  let t ← next
  modify fun r => { r with tokens := r.tokens.tail }
  return t

/-- Whether the next token is one of the given ones. -/
def atOneOf (ts : List Token) : Reader Bool := do
  return ts.contains (← peek)

/-- Takes the next token if it is the given one. -/
def takeIf (t : Token) : Reader (Option PlacedToken) := do
  if (← peek) = t then return some (← take) else return none

/-- Refuses the next token where something else is wanted in what began at a mark. -/
def refuse (activity : Activity) (start : Mark) (problem : Token → Problem) : Reader α := do
  let t ← next
  throw (.during activity start (problem t.token) t.start)

/-- What a node says about itself before its content: an anchor and a tag, and where that began. -/
structure Properties where
  start : Option Mark
  anchor : Option String
  tag : Option String

/-- The tag that an abbreviation and the rest of a tag make, for a node that begins at `start`. -/
def fullTag (start mark : Mark) (handle : Option String) (suffix : String) : Reader String := do
  match handle with
  | none => return suffix
  | some h =>
    match (← get).handles.find? (·.1 = h) with
    | some (_, lead) => return lead ++ suffix
    | none => throw (.during (.parsing "a node") start (.unknownHandle h) mark)

/-- Takes an anchor, if one comes next. -/
def takeAnchor : Reader (Option String) := do
  match ← peek with
  | .anchor name =>
    let _ ← take
    return some name
  | _ => return none

/-- Takes an anchor and a tag, in any order. -/
def takeProperties : Reader Properties := do
  let first ← next
  let anchor ← takeAnchor
  match ← next with
  | ⟨.tag handle suffix, mark, _⟩ =>
    let _ ← take
    let anchor ← if anchor.isNone then takeAnchor else pure anchor
    return ⟨some first.start, anchor, some (← fullTag first.start mark handle suffix)⟩
  | _ => return ⟨anchor.map fun _ => first.start, anchor, none⟩

/-- Gives a node to an anchor. -/
def setAnchor (anchor : Option String) (node : Node) : Reader Unit :=
  match anchor with
  | some name => modify fun r => { r with anchors := (name, node) :: r.anchors }
  | none => pure ()

/-- Refuses an anchor that the document has used before. -/
def checkAnchor (anchor : Option String) (start : Mark) : Reader Unit := do
  match anchor with
  | none => pure ()
  | some name =>
    match (← get).anchors.find? (·.1 = name) with
    | none => pure ()
    | some (_, node) => throw (.during (.anchoring name) node.start .repeatedAnchor start)

/-- The tag of a node that is told by its spelling. -/
def plainTag : String := "!"

/-- The kind of a node with an optional tag. -/
def kindOf (tag : Option String) (untagged : Kind) : Kind :=
  match tag with
  | none => untagged
  | some t => if t = plainTag then untagged else .ofTag t

/-- A list node, which its own items may refer to. -/
def listNode (start : Mark) (p : Properties) (items : Reader (List Node)) : Reader Node := do
  checkAnchor p.anchor start
  setAnchor p.anchor (.loop start false)
  let node := Node.list start (kindOf p.tag .list) (← items)
  setAnchor p.anchor node
  return node

/-- A mapping node, which its own entries may refer to. -/
def mapNode (start : Mark) (p : Properties) (entries : Reader (List (Node × Node))) :
    Reader Node := do
  checkAnchor p.anchor start
  setAnchor p.anchor (.loop start true)
  let node := Node.map start (kindOf p.tag .map) (← entries)
  setAnchor p.anchor node
  return node

end Reader

/-- How nodes are told from each other by their spelling. -/
structure Schema where
  /-- The kind of a plain scalar. -/
  plain : String → Kind

namespace Schema

open Reader

variable (schema : Schema)

/-- The node of nothing. -/
def emptyNode (start : Mark) : Node :=
  .scalar start (schema.plain "") ""

/-- A scalar node. -/
def scalarNode (start : Mark) (p : Properties) (text : String) (plain : Bool) : Reader Node := do
  checkAnchor p.anchor start
  let spelled :=
    if plain && p.tag.isNone || p.tag == some plainTag then schema.plain text else .text
  let node := Node.scalar start (kindOf p.tag spelled) text
  setAnchor p.anchor node
  return node

/-- A part of a mapping whose sign does not come next stands for nothing. -/
def emptyHere : Reader Node := do
  return schema.emptyNode (← here)

mutual

/-- Reads a node.  Blocks are allowed where `block` says so, and a list at the indentation of its
key where `flush` does. -/
def node : (fuel : Nat) → (block flush : Bool) → Reader Node
  | 0, _, _ => do throw (← get).ending
  | fuel + 1, block, flush => do
    match ← next with
    | ⟨.reference name, mark, _⟩ =>
      let _ ← take
      match (← get).anchors.find? (·.1 = name) with
      | some (_, node) => return node
      | none => throw (.place mark (.unknownReference name))
    | _ =>
      let p ← takeProperties
      let start := p.start.getD (← here)
      match ← peek with
      | .scalar text plain =>
        let _ ← take
        schema.scalarNode start p text plain
      | .flowSequenceStart => listNode start p (flowItems fuel (← take).start true)
      | .flowMappingStart => mapNode start p (flowEntries fuel (← take).start true)
      | next =>
        if flush && next == .blockEntry then listNode start p (flushItems fuel)
        else if block && next == .blockSequenceStart then
          listNode start p (blockItems fuel (← take).start)
        else if block && next == .blockMappingStart then
          mapNode start p (blockEntries fuel (← take).start)
        else if p.start.isSome then
          schema.scalarNode start p "" (p.tag.isNone || p.tag == some plainTag)
        else
          refuse (.parsing (if block then "a block node" else "a flow node")) start
            (.unexpectedToken "the node content")

/-- Reads the node after a sign, unless one of the given tokens shows that there is none. -/
def nodeAfter : (fuel : Nat) → (sign : PlacedToken) → (ends : List Token) →
    (block flush : Bool) → Reader Node
  | 0, _, _, _, _ => do throw (← get).ending
  | fuel + 1, sign, ends, block, flush => do
    if ← atOneOf ends then return schema.emptyNode sign.stop else node fuel block flush

/-- The items of a list block, and its end. -/
def blockItems : (fuel : Nat) → (start : Mark) → Reader (List Node)
  | 0, _ => do throw (← get).ending
  | fuel + 1, start => do
    match ← takeIf .blockEntry with
    | some sign =>
      let item ← nodeAfter fuel sign [.blockEntry, .blockEnd] true false
      return item :: (← blockItems fuel start)
    | none =>
      if (← takeIf .blockEnd).isSome then return []
      else refuse (.parsing "a block collection") start (.unexpectedToken "<block end>")

/-- The items of a list at the indentation of its key. -/
def flushItems : (fuel : Nat) → Reader (List Node)
  | 0 => do throw (← get).ending
  | fuel + 1 => do
    match ← takeIf .blockEntry with
    | some sign =>
      let item ← nodeAfter fuel sign [.blockEntry, .key, .value, .blockEnd] true false
      return item :: (← flushItems fuel)
    | none => return []

/-- The entries of a mapping block, and its end. -/
def blockEntries : (fuel : Nat) → (start : Mark) → Reader (List (Node × Node))
  | 0, _ => do throw (← get).ending
  | fuel + 1, start => do
    let ends := [Token.key, .value, .blockEnd]
    match ← takeIf .key with
    | some sign =>
      let key ← nodeAfter fuel sign ends true true
      let value ← match ← takeIf .value with
        | some sign => nodeAfter fuel sign ends true true
        | none => schema.emptyHere
      return (key, value) :: (← blockEntries fuel start)
    | none =>
      if (← takeIf .blockEnd).isSome then return []
      else refuse (.parsing "a block mapping") start (.unexpectedToken "<block end>")

/-- The rest of an entry between brackets after the sign of its key. -/
def flowEntry : (fuel : Nat) → (sign : PlacedToken) → (ends : List Token) → Reader (Node × Node)
  | 0, _, _ => do throw (← get).ending
  | fuel + 1, sign, ends => do
    let key ← nodeAfter fuel sign (.value :: ends) false false
    let value ← match ← takeIf .value with
      | some sign => nodeAfter fuel sign ends false false
      | none => schema.emptyHere
    return (key, value)

/-- The items of a list in brackets, and its end.  An item that is a single entry stands for a
mapping. -/
def flowItems : (fuel : Nat) → (start : Mark) → (first : Bool) → Reader (List Node)
  | 0, _, _ => do throw (← get).ending
  | fuel + 1, start, first => do
    if (← takeIf .flowSequenceEnd).isSome then return []
    if !first && (← takeIf .flowEntry).isNone then
      refuse (.parsing "a flow sequence") start (.unseparated "',' or ']'")
    if (← takeIf .flowSequenceEnd).isSome then return []
    let item ← match ← takeIf .key with
      | some sign =>
        pure (Node.map sign.start .map [← flowEntry fuel sign [.flowEntry, .flowSequenceEnd]])
      | none => node fuel false false
    return item :: (← flowItems fuel start false)

/-- The entries of a mapping in braces, and its end. -/
def flowEntries : (fuel : Nat) → (start : Mark) → (first : Bool) → Reader (List (Node × Node))
  | 0, _, _ => do throw (← get).ending
  | fuel + 1, start, first => do
    if (← takeIf .flowMappingEnd).isSome then return []
    if !first && (← takeIf .flowEntry).isNone then
      refuse (.parsing "a flow mapping") start (.unseparated "',' or '\x7d'")
    if (← takeIf .flowMappingEnd).isSome then return []
    let entry ← match ← takeIf .key with
      | some sign => flowEntry fuel sign [.flowEntry, .flowMappingEnd]
      | none => pure (← node fuel false false, ← schema.emptyHere)
    return entry :: (← flowEntries fuel start false)

end

/-- The abbreviations that every document has. -/
def ownHandles : List (String × String) :=
  [("!", "!"), ("!!", Kind.tagLead)]

/-- Takes the directives at the head of a document: one version at most, of the first major
number, and each abbreviation once. -/
def directives : (fuel : Nat) → (versioned : Bool) → Reader Unit
  | 0, _ => do throw (← get).ending
  | fuel + 1, versioned => do
    match ← next with
    | ⟨.version major, mark, _⟩ =>
      if versioned then throw (.place mark .repeatedVersion)
      if major != 1 then throw (.place mark .otherVersion)
      let _ ← take
      directives fuel true
    | ⟨.tagHandle handle lead, mark, _⟩ =>
      if (← get).handles.any (·.1 = handle) then throw (.place mark (.repeatedHandle handle))
      let _ ← take
      modify fun r => { r with handles := r.handles ++ [(handle, lead)] }
      directives fuel versioned
    | ⟨.directive, _, _⟩ =>
      let _ ← take
      directives fuel versioned
    | _ => pure ()

/-- Adds the abbreviations that every document has to those it has set. -/
def completeHandles : Reader Unit :=
  modify fun r => { r with handles := r.handles ++ ownHandles }

/-- Whether a token is a directive. -/
def isDirective : Token → Bool
  | .version _ | .tagHandle .. | .directive => true
  | _ => false

/-- Takes the head of a document, with the sign of its start. -/
def head (fuel : Nat) : Reader Unit := do
  modify fun r => { r with handles := [] }
  directives fuel false
  completeHandles
  if (← takeIf .documentStart).isNone then
    let t ← next
    throw (.place t.start (.unexpectedToken "'<document start>'" t.token))

/-- Refuses everything after the first document but the signs of its end. -/
def finish (fuel : Nat) (first : Mark) : Reader Unit := do
  modify fun r => { r with tokens := r.tokens.dropWhile (·.token == .documentEnd) }
  let t ← next
  if t.token != .streamEnd then
    head fuel
    throw (.during .onlyDocument first .secondDocument t.start)

/-- Reads the only document of a stream: none if the stream is empty. -/
def document (fuel : Nat) : Reader (Option Node) := do
  let first ← peek
  if first == .streamEnd then return none
  let node ←
    if first == .documentStart || isDirective first then
      head fuel
      let next ← peek
      if isDirective next || next == .documentStart || next == .documentEnd || next == .streamEnd
      then schema.emptyHere
      else node schema fuel true false
    else
      completeHandles
      node schema fuel true false
  finish fuel node.start
  return some node

end Schema

/-- The number of steps that reading a node takes for each token, at most. -/
def stepsPerToken : Nat := 4

/-- The node of the only document that some tokens make up; `ending` is the refusal that ended them
early. -/
def Node.ofTokens (schema : Schema) (tokens : List PlacedToken) (ending : Option Refusal) :
    Except Refusal (Option Node) :=
  let start : Reading := ⟨tokens, ending.getD (.fault .tooDeep), [], []⟩
  ((schema.document (stepsPerToken * tokens.length + 8)).run start).map Prod.fst

end Muster.Yaml
