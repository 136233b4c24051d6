import Muster.Interpolation
/-!
# Interpolation of documents

Every text of a document is a template, the keys of mappings included.
-/

namespace Muster.Value

open Interpolation

/-- A text with its variables put in, and the names of those it missed. -/
def expandText (context : Table String) (s : String) : Except Fault (Value × List String) :=
  match interpolate context s with
  | .ok e => .ok (.str e.text, e.unset)
  | .error cause => .error (.descriptor cause)

mutual

/-- A document value with the variables of all its texts put in.  A value that contains itself
has no end to its texts. -/
def expand (context : Table String) : Value → Except Fault (Value × List String)
  | str s => expandText context s
  | list items => do
    let (items, unset) ← expandItems context items
    return (list items, unset)
  | map entries => do
    let (entries, unset) ← expandEntries context entries
    return (ofEntries entries, unset)
  | loop _ => .error .tooDeep
  | v => .ok (v, [])

/-- The items of a list with the variables of all their texts put in. -/
def expandItems (context : Table String) : List Value → Except Fault (List Value × List String)
  | [] => .ok ([], [])
  | v :: r => do
    let (v, first) ← expand context v
    let (r, others) ← expandItems context r
    return (v :: r, first ++ others)

/-- The entries of a mapping with the variables of all their texts put in. -/
def expandEntries (context : Table String) :
    List (Value × Value) → Except Fault (List (Value × Value) × List String)
  | [] => .ok ([], [])
  | (k, v) :: r => do
    let (k, first) ← expand context k
    let (v, second) ← expand context v
    let (r, others) ← expandEntries context r
    return ((k, v) :: r, first ++ second ++ others)

end

/-- How many lists and mappings may be nested in one another.  A thousand calls can be open at a
time, one for each list or mapping that is being expanded, and those that have led to the document
are among them. -/
def nestingLimit : Nat := 980

/-- A value in which only a number of lists and mappings are nested in one another.  Those that are
nested more deeply are as if they had no end. -/
def cut : Nat → Value → Value
  | 0, list _ => loop false
  | 0, map _ => loop true
  | n + 1, list items => list (items.map (cut n))
  | n + 1, map entries => map (entries.map fun e => (cut n e.1, cut n e.2))
  | _, v => v

end Muster.Value
