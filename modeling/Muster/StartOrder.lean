import Muster.Descriptor
/-!
# Start order

The services of a stack start in waves: a wave holds all services whose dependencies are in
earlier waves.  When no further wave can be formed, the services that are left lie on cycles
or depend on one, and a walk along the smallest dependencies finds such a cycle, unless it would
have to go deeper than it may.
-/

namespace Muster.StartOrder

/-- A dependency graph: the nodes, each with the nodes it depends on. -/
abbrev Graph := List (String × List String)

/-- The nodes of a graph. -/
def nodes (g : Graph) : List String :=
  g.map Prod.fst

/-- A graph without the dependencies that are no nodes. -/
def inner (g : Graph) : Graph :=
  g.map fun n => (n.1, n.2.filter (nodes g).contains)

/-- The nodes that depend on nothing. -/
def free (g : Graph) : List String :=
  nodes (g.filter fun n => n.2.isEmpty)

/-- A graph without the nodes of a wave. -/
def remove (wave : List String) (g : Graph) : Graph :=
  (g.filter fun n => !wave.contains n.1).map fun n => (n.1, n.2.filter (!wave.contains ·))

theorem length_remove_lt {g : Graph} (h : free g ≠ []) :
  (remove (free g) g).length < g.length
  := by
  obtain ⟨a, ha⟩ := List.exists_mem_of_ne_nil _ h
  obtain ⟨n, hn, rfl⟩ := List.mem_map.mp ha
  have hg : n ∈ g := (List.mem_filter.mp hn).1
  rw [remove, List.length_map]
  apply List.length_filter_lt_length_iff_exists.mpr
  exact ⟨n, hg, by simpa using ha⟩

/-- Splits a graph into waves; what is left in the end has no free node. -/
def split (g : Graph) : List (List String) × Graph :=
  if _done : free g = [] then ([], g)
  else
    let (waves, left) := split (remove (free g) g)
    (free g :: waves, left)
termination_by g.length
decreasing_by exact length_remove_lt _done

/-- How a search for a cycle ends: with a cycle, without one, at a name that is no node, or where
it has gone so deep that it must not go on. -/
inductive Search where
  | found (cycle : List String)
  | exhausted
  | unknown (name : String)
  | tooDeep
deriving Repr, DecidableEq

/-- The order of names by their characters. -/
def precedes (a b : String) : Bool :=
  !(b < a)

mutual

/-- Walks on to a node.  A node that the path holds already closes a cycle.  Walks stand one inside
the other, and there is room for so many of them. -/
def visit (g : Graph) (room : Nat) (path : List String) (name : String) : Search :=
  match room with
  | 0 => .tooDeep
  | room + 1 =>
    if path.contains name then .found (path.dropWhile (· != name) ++ [name])
    else
      match g.lookup name with
      | none => .unknown name
      | some deps => visitAll g room (path ++ [name]) (deps.mergeSort precedes)
termination_by (room, 0)

/-- Walks on to some nodes, one after the other, until a walk ends a search. -/
def visitAll (g : Graph) (room : Nat) (path : List String) (names : List String) : Search :=
  match names with
  | [] => .exhausted
  | d :: r =>
    match visit g room path d with
    | .exhausted => visitAll g room path r
    | s => s
termination_by (room, names.length + 1)

end

/-- Searches a graph for a cycle, from its first node on. -/
def findCycle (limit : Nat) (g : Graph) : Search :=
  visitAll g limit [] (nodes g)

/-- The fault that a search for a cycle ends with. -/
def faultOf (g : Graph) : Search → Fault
  | .found cycle => .descriptor (.cycle cycle)
  | .exhausted => .descriptor (.cycle (nodes g))
  | .unknown _ => .missingKey
  | .tooDeep => .tooDeep

/-- The waves in which the nodes of a graph start. -/
def wavesOf (limit : Nat) (g : Graph) : Except Fault (List (List String)) :=
  match split (inner g) with
  | (waves, []) => .ok waves
  | (_, left) => .error (faultOf left (findCycle limit left))

/-- How deep a search for a cycle may go.  A thousand calls can be open at a time, and those that
have led to the search are among them. -/
def searchLimit : Nat := 992

end StartOrder

/-- The waves in which the services of a stack start, when a search for a cycle may go to the given
depth. -/
def Descriptor.startWavesWithin (limit : Nat) (d : Descriptor) :
    Except Fault (List (List String)) :=
  StartOrder.wavesOf limit d.graph

/-- The waves in which the services of a stack start. -/
def Descriptor.startWaves (d : Descriptor) : Except Fault (List (List String)) :=
  d.startWavesWithin StartOrder.searchLimit

/-- The order in which the services of a stack start: wave after wave. -/
def Descriptor.startOrder (d : Descriptor) : Except Fault (List String) :=
  d.startWaves.map List.flatten

end Muster
