import Muster.Yaml.Node
import Muster.Yaml.Scalar
import Muster.Yaml.Token.Stream
/-!
# The value of a document

From a node to the value it stands for.  The entries that a mapping takes over from others are
put in first.  A node that has no value for its kind refuses the document; of several such
nodes the one nearest to the root counts, and among equally near ones the first.
-/

namespace Muster.Yaml

namespace Node

/-- The kind of a node. -/
def kind : Node → Kind
  | scalar _ k _ | list _ k _ | map _ k _ => k
  | loop _ isMap => if isMap then .map else .list

/-- The form of a node. -/
def form : Node → Form
  | scalar .. => .scalar
  | list .. => .sequence
  | map .. => .mapping
  | loop _ isMap => if isMap then .mapping else .sequence

/-- The entries of a node that is a mapping. -/
def entries? : Node → Option (List (Node × Node))
  | map _ _ entries => some entries
  | loop _ true => some []
  | _ => none

/-- The key of an entry, which is a text when it is spelled as an equals sign. -/
def plainKey : Node → Node
  | scalar start .value s => scalar start .text s
  | n => n

/-- The refusal of a node whose entries a mapping cannot take over. -/
def mergeRefusal (start : Mark) (wanted : String) (n : Node) : Refusal :=
  .during (.constructing "a mapping") start (.unexpectedForm wanted n.form) n.start

mutual

/-- The entries that the value of a merge key brings into the mapping that begins at `start`: those
of a mapping, or those of a list of mappings with the first coming last. -/
def broughtIn (start : Mark) : Node → Except Refusal (List (Node × Node))
  | map inner _ entries => do
    let (merged, own) ← splitMerges inner entries
    return merged ++ own
  | list _ _ items => broughtInEach start items
  | loop _ true => .ok []
  | n => .error (mergeRefusal start "a mapping or list of mappings for merging" n)

/-- The entries of a list of mappings, the last mapping first. -/
def broughtInEach (start : Mark) : List Node → Except Refusal (List (Node × Node))
  | [] => .ok []
  | n :: r => do
    let first ← match n with
      | map inner _ entries => do
        let (merged, own) ← splitMerges inner entries
        pure (merged ++ own)
      | loop _ true => pure []
      | n => throw (mergeRefusal start "a mapping for merging" n)
    return (← broughtInEach start r) ++ first

/-- The entries brought in by the merge keys of a mapping, and its own entries. -/
def splitMerges (start : Mark) :
    List (Node × Node) → Except Refusal (List (Node × Node) × List (Node × Node))
  | [] => .ok ([], [])
  | (k, v) :: r => do
    if k.kind = .merge then
      let entries ← broughtIn start v
      let (merged, own) ← splitMerges start r
      return (entries ++ merged, own)
    else
      let (merged, own) ← splitMerges start r
      return (merged, (k.plainKey, v) :: own)

end

/-- The entries of a mapping with those it takes over in front. -/
def allEntries (start : Mark) (entries : List (Node × Node)) :
    Except Refusal (List (Node × Node)) := do
  let (merged, own) ← splitMerges start entries
  return merged ++ own

/-- Whether the items of a list of a kind are entries, each written as a mapping. -/
def holdsEntries (k : Kind) : Bool :=
  k = .orderedMap || k = .pairs

mutual

/-- A node in which every mapping holds the entries that it takes over.  A mapping that cannot take
over the entries it should stays as it is. -/
def merged : Node → Node
  | list start k items =>
    list start k (if holdsEntries k then mergedSingles items else mergedItems items)
  | map start k entries =>
    let entries := mergedPairs entries
    map start k
      (if k.isScalar then entries else (allEntries start entries).toOption.getD entries)
  | n => n

/-- The nodes of a list with their mappings completed. -/
def mergedItems : List Node → List Node
  | [] => []
  | n :: r => merged n :: mergedItems r

/-- The nodes of a list of entries with the mappings inside the entries completed. -/
def mergedSingles : List Node → List Node
  | [] => []
  | map start k entries :: r => map start k (mergedPairs entries) :: mergedSingles r
  | n :: r => merged n :: mergedSingles r

/-- The nodes of entries with their mappings completed. -/
def mergedPairs : List (Node × Node) → List (Node × Node)
  | [] => []
  | (k, v) :: r => (merged k, merged v) :: mergedPairs r

end

mutual

/-- The number of levels of a node. -/
def depth : Node → Nat
  | list _ _ items => itemsDepth items + 1
  | map _ _ entries => pairsDepth entries + 1
  | _ => 1

/-- The number of levels below a list of nodes. -/
def itemsDepth : List Node → Nat
  | [] => 0
  | n :: r => max (depth n) (itemsDepth r)

/-- The number of levels below a list of entries. -/
def pairsDepth : List (Node × Node) → Nat
  | [] => 0
  | (k, v) :: r => max (max (depth k) (depth v)) (pairsDepth r)

end

/-- The refusal of a node that has not the form of its kind. -/
def formRefusal (wanted : String) (n : Node) : Refusal :=
  .place n.start (.unexpectedForm wanted n.form)

mutual

/-- The text of a node that is read as a scalar.  A mapping stands for the value of its equals
sign. -/
def scalarText : Node → Except Refusal String
  | scalar _ _ s => .ok s
  | map start k entries =>
    (valueText? entries).getD (.error (formRefusal "a scalar node" (map start k entries)))
  | n => .error (formRefusal "a scalar node" n)

/-- The text of the value of the first equals sign among some keys. -/
def valueText? : List (Node × Node) → Option (Except Refusal String)
  | [] => none
  | (k, v) :: r => if k.kind = .value then some (scalarText v) else valueText? r

end

/-- The value of a node of a scalar kind. -/
def scalarValue (n : Node) : Except Refusal Value := do
  n.kind.read n.start (← n.scalarText)

/-- Looks at a node for the first time: a scalar has its value at once, a collection is put off. -/
def meet (n : Node) : Except Refusal (List Node) :=
  match n with
  | loop .. => .ok []
  | n =>
    match n.kind with
    | .unknown _ | .merge | .value => .error (.place n.start (.unknownTag n.kind.tag))
    | k => if k.isScalar then n.scalarValue.map fun _ => [] else .ok [n]

/-- Whether a node can be a key. -/
def isKey (n : Node) : Bool :=
  n.kind.isScalar

/-- Looks at some entries of the mapping that begins at `start`. -/
def meetEntries (start : Mark) : List (Node × Node) → Except Refusal (List Node)
  | [] => .ok []
  | (k, v) :: r => do
    let first ← k.meet
    if !k.isKey then throw (.during (.constructing "a mapping") start .unusableKey k.start)
    let second ← v.meet
    return first ++ second ++ (← meetEntries start r)

/-- Looks at the only entry of each mapping of a list that begins at `start`; `what` says what the
list stands for. -/
def meetSingles (what : String) (start : Mark) : List Node → Except Refusal (List Node)
  | [] => .ok []
  | n :: r =>
    let refuse (problem : Problem) : Except Refusal (List Node) :=
      .error (.during (.constructing what) start problem n.start)
    match n.entries? with
    | some [(k, v)] => do
      let first ← k.meet
      let second ← v.meet
      return first ++ second ++ (← meetSingles what start r)
    | some entries => refuse (.severalEntries entries.length)
    | none => refuse (.unexpectedForm "a mapping of length 1" n.form)

/-- The words for the kinds of lists whose items are entries. -/
def entryListWords (k : Kind) : String :=
  if k = .orderedMap then "an ordered map" else "pairs"

/-- Looks into a collection that was put off. -/
def meetInside (n : Node) : Except Refusal (List Node) :=
  if holdsEntries n.kind then
    let what := entryListWords n.kind
    match n with
    | list start _ items => meetSingles what start items
    | n =>
      let problem := Problem.unexpectedForm "a sequence" n.form
      .error (.during (.constructing what) n.start problem n.start)
  else if n.kind = .list then
    match n with
    | list _ _ items => (items.mapM meet).map List.flatten
    | n => .error (formRefusal "a sequence node" n)
  else
    match n with
    | map start _ entries => do meetEntries start (← allEntries start entries)
    | n => .error (formRefusal "a mapping node" n)

/-- Looks through a document level by level, for the first node without a value. -/
def check : (levels : Nat) → List Node → Except Refusal Unit
  | _, [] => .ok ()
  | 0, _ => .ok ()
  | levels + 1, nodes => do
    let inside ← nodes.mapM meetInside
    check levels inside.flatten

mutual

/-- The value of a node that has passed the check. -/
def value : Node → Value
  | scalar start k s => (k.read start s).toOption.getD .null
  | list _ k items => .list (if holdsEntries k then singleValues items else itemValues items)
  | map start k entries =>
    if k.isScalar then
      match valueText? entries with
      | some (.ok s) => (k.read start s).toOption.getD .null
      | _ => .null
    else if k = .set then .set ((pairValues entries).foldl addMember [])
    else .ofEntries (pairValues entries)
  | loop _ isMap => .loop isMap
where
  /-- Adds a member to a set. -/
  addMember (members : List Value) (e : Value × Value) : List Value :=
    if members.any (·.sameKey e.1) then members else members ++ [e.1]

/-- The values of the nodes of a list. -/
def itemValues : List Node → List Value
  | [] => []
  | n :: r => value n :: itemValues r

/-- The values of entries. -/
def pairValues : List (Node × Node) → List (Value × Value)
  | [] => []
  | (k, v) :: r => (value k, value v) :: pairValues r

/-- The values of mappings with one entry each, as pairs. -/
def singleValues : List Node → List Value
  | [] => []
  | map _ _ entries :: r => pairsOf entries ++ singleValues r
  | _ :: r => singleValues r

/-- The values of entries, as pairs. -/
def pairsOf : List (Node × Node) → List Value
  | [] => []
  | (k, v) :: r => .pair (value k) (value v) :: pairsOf r

end

end Node

/-- The schema in which plain scalars are told by their spelling. -/
def spelled : Schema where
  plain := Kind.ofPlain

/-- The value of a document, or why it has none; an empty stream stands for nothing. -/
def loadChars (content : List Char) : Except Refusal Value := do
  let (tokens, ending) := Token.ofChars content
  match ← Node.ofTokens spelled tokens ending with
  | none => return .null
  | some node =>
    let node := node.merged
    Node.check (node.depth + 1) (← node.meet)
    return node.value

/-- The value of a document. -/
def load (content : String) : Except Fault Value :=
  (loadChars content.toList).mapError (·.toFault content.toList)

end Muster.Yaml
