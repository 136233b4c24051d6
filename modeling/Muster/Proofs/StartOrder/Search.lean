import Mathlib.Data.List.Perm.Subperm
import Muster.Counting
import Muster.Proofs.StartOrder.Cycle
/-!
# How a search for a cycle goes

The search keeps no account of the nodes that it has given up, so in some graphs it comes to a node
again and again.  In what is left of a stack that has no further wave it never gives a node up:
every node there depends on another one that is left, so the search goes on to the smallest
dependency of the node that it has come to, until it comes to a node that it has passed.  That
happens at the latest when it has passed all nodes.  For every node that it passes it goes one step
deeper, so it names a cycle only if it may go deep enough.

What a search does is put down move by move; this changes nothing about its result.
-/

namespace Muster

namespace StartOrder

/-- What a search for a cycle does. -/
inductive Move where
  /-- It comes to a node. -/
  | visit (name : String)
  /-- It goes back from a node, of which it has tried all dependencies in vain. -/
  | back (name : String)
deriving Repr, DecidableEq

mutual

/-- Walks on to a node as `visit` does, and puts down its moves. -/
def noteVisit (g : Graph) (room : Nat) (path : List String) (name : String) : Search × List Move :=
  match room with
  | 0 => (.tooDeep, [])
  | room + 1 =>
    if path.contains name then (.found (path.dropWhile (· != name) ++ [name]), [.visit name])
    else
      match g.lookup name with
      | none => (.unknown name, [.visit name])
      | some deps =>
        let (result, moves) := noteAll g room (path ++ [name]) (deps.mergeSort precedes)
        (result, .visit name :: moves ++ if result = .exhausted then [.back name] else [])
termination_by (room, 0)

/-- Walks on to some nodes as `visitAll` does, and puts down its moves. -/
def noteAll (g : Graph) (room : Nat) (path : List String) (names : List String) :
    Search × List Move :=
  match names with
  | [] => (.exhausted, [])
  | d :: r =>
    match noteVisit g room path d with
    | (.exhausted, moves) =>
      let (result, more) := noteAll g room path r
      (result, moves ++ more)
    | noted => noted
termination_by (room, names.length + 1)

end

/-- Searches a graph for a cycle as `findCycle` does, and puts down its moves. -/
def noteCycle (limit : Nat) (g : Graph) : Search × List Move :=
  noteAll g limit [] (nodes g)

section Notes

variable {g : Graph} {room : Nat} {path : List String} {name : String}

theorem noteVisit_zero :
  noteVisit g 0 path name = (.tooDeep, [])
  := by
  rw [noteVisit]

theorem noteVisit_of_old (old : name ∈ path) :
  noteVisit g (room + 1) path name
    = (.found (path.dropWhile (· != name) ++ [name]), [.visit name])
  := by
  rw [noteVisit, if_pos (by simpa using old)]

theorem noteVisit_of_new {deps : List String} (new : name ∉ path)
    (found : g.lookup name = some deps) :
  noteVisit g (room + 1) path name =
    let noted := noteAll g room (path ++ [name]) (deps.mergeSort precedes)
    (noted.1, .visit name :: noted.2 ++ if noted.1 = .exhausted then [.back name] else [])
  := by
  rw [noteVisit, if_neg (by simpa using new), found]

theorem noteAll_cons (g : Graph) (room : Nat) (path : List String) (d : String) (r : List String) :
  noteAll g room path (d :: r) =
    if (noteVisit g room path d).1 = .exhausted then
      ((noteAll g room path r).1, (noteVisit g room path d).2 ++ (noteAll g room path r).2)
    else noteVisit g room path d
  := by
  rw [noteAll]
  split
  · next moves noted => simp [noted]
  · next other =>
    rw [if_neg]
    intro exhausted
    apply other (noteVisit g room path d).2
    rw [← exhausted]

end Notes

/-- Putting down the moves of a search changes nothing about its result. -/
theorem fst_note (g : Graph) :
  (∀ room path name, (noteVisit g room path name).1 = visit g room path name)
    ∧ ∀ room path names, (noteAll g room path names).1 = visitAll g room path names
  := by
  apply visit.mutual_induct g
  case case1 =>
    intro path name
    rw [noteVisit, visit]
  case case2 =>
    intro path name room old
    rw [noteVisit, visit, if_pos old, if_pos old]
  case case3 =>
    intro path name room new missing
    rw [noteVisit, visit, if_neg new, if_neg new, missing]
  case case4 =>
    intro path name room new deps found ih
    rw [noteVisit, visit, if_neg new, if_neg new, found]
    apply ih
  case case5 =>
    intro room path
    rw [noteAll, visitAll]
  case case6 =>
    intro room path d r exhausted first rest
    rw [noteAll_cons, visitAll, if_pos (first.trans exhausted), exhausted]
    apply rest
  case case7 =>
    intro room path d r going first
    rw [noteAll_cons, visitAll, if_neg (first ▸ going)]
    split
    · next exhausted => cases going exhausted
    · apply first

theorem fst_noteCycle (limit : Nat) (g : Graph) :
  (noteCycle limit g).1 = findCycle limit g
  := (fst_note g).2 limit [] (nodes g)

/-! ### Going straight on -/

/-- A node depends on a second one, and on none that comes before it. -/
def Smallest (g : Graph) (name dependency : String) : Prop :=
  ∃ deps, g.lookup name = some deps ∧ dependency ∈ deps ∧ ∀ other ∈ deps, dependency ≤ other

theorem precedes_iff {a b : String} :
  precedes a b = true ↔ a ≤ b
  := by
  rw [precedes, Bool.not_eq_true', decide_eq_false_iff_not, String.not_lt]

/-- The first of the sorted dependencies of a node is the smallest. -/
theorem smallest_of_sorted {g : Graph} {name next : String} {deps rest : List String}
    (found : g.lookup name = some deps) (sorted : deps.mergeSort precedes = next :: rest) :
  Smallest g name next
  := by
  have perm := List.mergeSort_perm deps precedes
  have ordered : (deps.mergeSort precedes).Pairwise fun a b => precedes a b := by
    apply List.pairwise_mergeSort
    · intro a b c
      rw [precedes_iff, precedes_iff, precedes_iff]
      apply String.le_trans
    · intro a b
      rw [Bool.or_eq_true, precedes_iff, precedes_iff]
      apply String.le_total
  rw [sorted] at perm ordered
  use deps, found, perm.subset List.mem_cons_self
  intro other mem
  rcases List.mem_cons.mp (perm.mem_iff.mpr mem) with rfl | later
  · apply String.le_refl
  · apply precedes_iff.mp ((List.pairwise_cons.mp ordered).1 other later)

/-- A walk that has gone on to the smallest dependency each time. -/
structure Descent (g : Graph) (path : List String) (name : String) : Prop where
  walk : Walk g path name
  smallest : (path ++ [name]).IsChain (Smallest g)

theorem Smallest.edge {g : Graph} {name dependency : String}
    (smallest : Smallest g name dependency) :
  Edge g name dependency
  := by
  obtain ⟨deps, found, mem, -⟩ := smallest
  obtain ⟨before, after, rfl, -⟩ := List.lookup_eq_some_iff.mp found
  use (name, deps)
  simp [mem]

theorem Descent.push {g : Graph} (stuck : Stuck g) {path : List String} {name next : String}
    (descent : Descent g path name) (new : name ∉ path) (smallest : Smallest g name next) :
  Descent g (path ++ [name]) next
  where
  walk := by
    apply descent.walk.push new smallest.edge
    obtain ⟨n, mem, -, depends⟩ := smallest.edge
    apply stuck.closed n mem next depends
  smallest := by
    rw [List.append_assoc, List.singleton_append]
    apply List.isChain_split.mpr ⟨descent.smallest, List.isChain_pair.mpr smallest⟩

/-- The nodes that are not on a path. -/
def offPath (g : Graph) (path : List String) : List String :=
  (nodes g).filter (!path.contains ·)

/-- Going on to a node that is not on the path leaves fewer nodes off it. -/
theorem length_offPath_lt {g : Graph} {path : List String} {name : String} (new : name ∉ path)
    (mem : name ∈ nodes g) :
  (offPath g (path ++ [name])).length < (offPath g path).length
  := by
  apply length_filter_lt _ mem
  · simp
  · simpa using new
  · intro a _ ha
    simp only [List.contains_append, Bool.not_or, Bool.and_eq_true] at ha
    exact ha.1

/-- From where a walk has come to in a stuck graph, the search goes straight on until it comes to a
node that it has passed, or until there is no room for a further move. -/
theorem noteVisit_of_descent {g : Graph} (stuck : Stuck g) {path : List String} {name : String}
    (descent : Descent g path name) :
  ∃ further last, Descent g (path ++ further) last ∧ last ∈ path ++ further
    ∧ (further ++ [last]).head? = some name
    ∧ ∀ room, noteVisit g room path name
      = (if further.length < room then .found ((path ++ further).dropWhile (· != last) ++ [last])
          else .tooDeep,
        ((further ++ [last]).take room).map .visit)
  := by
  -- The search goes on to nodes that it has not passed, of which there are fewer at each move.
  induction off : (offPath g path).length using Nat.strongRecOn generalizing path name with
  | ind off ih =>
    by_cases old : name ∈ path
    · use [], name
      rw [List.append_nil]
      refine ⟨descent, old, rfl, fun room => ?_⟩
      cases room with
      | zero => exact noteVisit_zero
      | succ room =>
        rw [noteVisit_of_old old]
        simp
    · obtain ⟨deps, found, mem⟩ := exists_lookup descent.walk.node
      have sorted_ne : deps.mergeSort precedes ≠ [] := by
        intro none
        apply stuck.depends _ mem
        apply (none ▸ List.mergeSort_perm deps precedes).nil_eq.symm
      obtain ⟨next, rest, sorted⟩ := List.exists_cons_of_ne_nil sorted_ne
      have goesOn := descent.push stuck old (smallest_of_sorted found sorted)
      have fewer := length_offPath_lt old descent.walk.node
      obtain ⟨further, last, down, again, first, noted⟩ := ih _ (off ▸ fewer) goesOn rfl
      use name :: further, last
      rw [List.append_assoc, List.singleton_append] at down again noted
      refine ⟨down, again, rfl, fun room => ?_⟩
      cases room with
      | zero => exact noteVisit_zero
      | succ room =>
        rw [noteVisit_of_new old found, sorted, noteAll_cons, noted]
        by_cases deep : further.length < room <;> simp [deep]

/-- A search goes straight to a cycle: it begins at the first node and goes on to the smallest
dependency each time, until it comes for the first time to a node that it has passed. -/
structure GoesStraight (g : Graph) (passed : List String) (last : String) : Prop where
  first : (passed ++ [last]).head? = (nodes g).head?
  smallest : (passed ++ [last]).IsChain (Smallest g)
  new : passed.Nodup
  again : last ∈ passed

theorem exists_of_isChain_concat {α : Type} {R : α → α → Prop} {as : List α} {last : α}
    (chain : (as ++ [last]).IsChain R) {a : α} (mem : a ∈ as) :
  ∃ b, R a b
  := by
  obtain ⟨before, after, rfl⟩ := List.append_of_mem mem
  rw [List.append_assoc, List.cons_append] at chain
  have linked := (List.isChain_append.mp chain).2.1
  cases after with
  | nil => exact ⟨last, (List.isChain_cons_cons.mp linked).1⟩
  | cons b after => exact ⟨b, (List.isChain_cons_cons.mp linked).1⟩

namespace GoesStraight

variable {g : Graph} {passed : List String} {last : String}

/-- The dependencies of every node that is passed are found. -/
theorem isSome_lookup (straight : GoesStraight g passed last) {name : String}
    (mem : name ∈ passed) :
  (g.lookup name).isSome
  := by
  obtain ⟨next, deps, found, -⟩ := exists_of_isChain_concat straight.smallest mem
  rw [found]
  rfl

/-- No more nodes are passed than there are. -/
theorem length_passed_le (straight : GoesStraight g passed last) :
  passed.length ≤ g.length
  := by
  have nodes_of_passed : passed ⊆ nodes g := by
    intro name mem
    obtain ⟨next, smallest⟩ := exists_of_isChain_concat straight.smallest mem
    obtain ⟨n, there, rfl, -⟩ := smallest.edge
    apply List.mem_map_of_mem there
  have := (List.subperm_of_subset straight.new nodes_of_passed).length_le
  rwa [nodes, List.length_map] at this

/-- What has been passed since the node that the search comes to again is a cycle. -/
theorem isCycle (straight : GoesStraight g passed last) :
  IsCycle (Edge g) (passed.dropWhile (· != last) ++ [last])
  := by
  obtain ⟨next, smallest⟩ := exists_of_isChain_concat straight.smallest straight.again
  obtain ⟨n, there, rfl, -⟩ := smallest.edge
  apply Walk.close ⟨List.mem_map_of_mem there, straight.new, ?_⟩ straight.again
  apply straight.smallest.imp fun _ _ => Smallest.edge

end GoesStraight

/-- In a stuck graph that is not empty the search goes straight to a cycle, as far as it may. -/
theorem noteCycle_of_stuck {g : Graph} (stuck : Stuck g) (some : g ≠ []) :
  ∃ passed last, GoesStraight g passed last ∧ ∀ limit, noteCycle limit g
    = (if passed.length < limit then .found (passed.dropWhile (· != last) ++ [last]) else .tooDeep,
      ((passed ++ [last]).take limit).map .visit)
  := by
  obtain ⟨first, rest, rfl⟩ := List.exists_cons_of_ne_nil some
  have start : Descent (first :: rest) [] first.1 :=
    ⟨.start (by simp [nodes]), List.isChain_singleton _⟩
  obtain ⟨passed, last, down, again, begins, noted⟩ := noteVisit_of_descent stuck start
  rw [List.nil_append] at down again noted
  use passed, last, ⟨begins, down.smallest, down.walk.simple, again⟩
  intro limit
  rw [noteCycle, nodes, List.map_cons, noteAll_cons, noted]
  by_cases deep : passed.length < limit <;> simp [deep]

end StartOrder

end Muster
