import Muster.Proofs.StartOrder.Cycle
/-!
# The order of a selection

A selection from a stack holds whatever its services depend on.  So the levels of its services are
those that they have in the whole stack: its waves are the waves of the stack without the other
services, and its start order is that of the stack without them.
-/

namespace Muster

namespace StartOrder

/-- Some waves without the names that are not among the given ones; waves in which nothing is left
are dropped. -/
def keepIn (names : List String) (waves : List (List String)) : List (List String) :=
  (waves.map (·.filter names.contains)).filter (!·.isEmpty)

theorem keepIn_cons {names wave : List String} (waves : List (List String))
    (some : wave.filter names.contains ≠ []) :
  keepIn names (wave :: waves) = wave.filter names.contains :: keepIn names waves
  := by
  simp [keepIn, some]

theorem keepIn_cons_of_none {names wave : List String} (waves : List (List String))
    (none : wave.filter names.contains = []) :
  keepIn names (wave :: waves) = keepIn names waves
  := by
  simp [keepIn, none]

/-- Dropping empty waves changes nothing in the order. -/
theorem flatten_keepIn (names : List String) (waves : List (List String)) :
  (keepIn names waves).flatten = waves.flatten.filter names.contains
  := by
  induction waves with
  | nil => rfl
  | cons wave waves ih =>
    rw [List.flatten_cons, List.filter_append, ← ih]
    by_cases none : wave.filter names.contains = []
    · rw [keepIn_cons_of_none waves none, none, List.nil_append]
    · rw [keepIn_cons waves none, List.flatten_cons]

/-- The part of a graph with the given nodes. -/
def partOf (names : List String) (g : Graph) : Graph :=
  g.filter fun n => names.contains n.1

/-- The dependencies of the given nodes of a graph are among the given ones. -/
def ClosedIn (names : List String) (g : Graph) : Prop :=
  ∀ n ∈ g, n.1 ∈ names → ∀ d ∈ n.2, d ∈ names

theorem ClosedIn.remove {names : List String} {g : Graph} (closed : ClosedIn names g)
    (wave : List String) :
  ClosedIn names (remove wave g)
  := by
  intro n hn given d hd
  obtain ⟨m, hm, rfl⟩ := List.mem_map.mp hn
  apply closed m (List.mem_filter.mp hm).1 given d (List.mem_filter.mp hd).1

/-- Whether a node is free does not depend on the other nodes. -/
theorem free_partOf (names : List String) (g : Graph) :
  free (partOf names g) = (free g).filter names.contains
  := by
  simp only [free, nodes, partOf, List.filter_map, List.filter_filter, Function.comp_def,
    Bool.and_comm]

/-- The given nodes may be picked out before or after a wave is taken out. -/
theorem remove_partOf {names : List String} {g : Graph} (closed : ClosedIn names g)
    (wave : List String) :
  remove (wave.filter names.contains) (partOf names g) = partOf names (remove wave g)
  := by
  have gone : ∀ name ∈ names, (wave.filter names.contains).contains name = wave.contains name := by
    intro name given
    rw [Bool.eq_iff_iff, List.contains_iff_mem, List.contains_iff_mem, List.mem_filter]
    simp [given]
  have nodes : (partOf names g).filter (fun n => !(wave.filter names.contains).contains n.1)
      = (partOf names g).filter (fun n => !wave.contains n.1) := by
    apply List.filter_congr
    intro n hn
    have given := (List.mem_filter.mp hn).2
    rw [gone n.1 (by simpa using given)]
  rw [remove, nodes]
  rw [partOf, partOf, remove, List.filter_map, List.filter_filter, List.filter_filter]
  simp only [Function.comp_def, Bool.and_comm]
  apply List.map_congr_left
  intro n hn
  obtain ⟨mem, given⟩ := List.mem_filter.mp hn
  simp only [Bool.and_eq_true, List.contains_iff_mem] at given
  congr 1
  apply List.filter_congr
  intro d hd
  rw [gone d (closed n mem given.1 d hd)]

/-- The waves of the part with some nodes are the waves of the graph without the other nodes, if
the nodes of the part depend on each other only. -/
theorem split_partOf {names : List String} {g : Graph} (closed : ClosedIn names g)
    (done : (split g).2 = []) :
  split (partOf names g) = (keepIn names (split g).1, [])
  := by
  induction g using split.induct with
  | case1 g none =>
    rw [split_of_stuck none] at done ⊢
    subst done
    rw [partOf, List.filter_nil, split_of_stuck rfl]
    rfl
  | case2 g some waves left rest ih =>
    obtain ⟨first, last⟩ := split_of_free some
    have later := ih (closed.remove _) (by rw [← last]; exact done)
    have smaller := remove_partOf closed (free g)
    rw [first]
    -- A wave in which nothing is left changes nothing in the part.
    by_cases none : (free g).filter names.contains = []
    · have same : remove [] (partOf names g) = partOf names g := by simp [remove]
      rw [none, same] at smaller
      rw [keepIn_cons_of_none _ none, smaller, later]
    · have frees := free_partOf names g
      obtain ⟨first', last'⟩ := split_of_free (frees ▸ none)
      rw [frees, smaller, later] at first' last'
      rw [keepIn_cons _ none]
      exact Prod.ext first' last'

end StartOrder

/-! ### The order of a selection -/

namespace Descriptor

open StartOrder

variable {d active : Descriptor} {profiles services : List String} {waves : List (List String)}

theorem graph_of_select (selected : d.select profiles services = .ok active) :
  active.graph = partOf active.names d.graph
  := by
  obtain ⟨names, ok⟩ := exists_restrict_of_select selected
  have same := services_of_make ok
  have listed : ∀ e ∈ d.services.entries, names.contains e.1 = active.names.contains e.1 := by
    intro e he
    have contains : active.names.contains e.1 = true ↔ e.1 ∈ active.names := List.contains_iff_mem
    rw [Bool.eq_iff_iff, contains, Descriptor.names, same]
    constructor
    · intro chosen
      exact List.mem_map_of_mem (f := Prod.fst) (List.mem_filter.mpr ⟨he, chosen⟩)
    · intro mem
      obtain ⟨e', he', own⟩ := List.mem_map.mp mem
      rw [← own]
      exact (List.mem_filter.mp he').2
  rw [graph, partOf, graph, same, List.filter_map]
  congr 1
  apply List.filter_congr listed

theorem closedIn_of_select (selected : d.select profiles services = .ok active) :
  ClosedIn active.names d.graph
  := by
  intro n hn chosen dependency hd
  rw [← nodes_graph]
  apply active.closed_graph n _ dependency hd
  rw [graph_of_select selected]
  exact List.mem_filter.mpr ⟨hn, by simpa using chosen⟩

/-- The waves of a selection are those of the stack without the services that are not selected. -/
theorem startWaves_of_select (ok : d.startWaves = .ok waves)
    (selected : d.select profiles services = .ok active) :
  active.startWaves = .ok (keepIn active.names waves)
  := by
  have same := startWaves_eq_ok_iff.mp ok
  have part := split_partOf (closedIn_of_select selected) (by rw [same])
  rw [startWaves_eq_ok_iff, graph_of_select selected, part, same]

/-- The start order of a selection is that of the stack without the services that are not
selected. -/
theorem startOrder_of_select (ok : d.startWaves = .ok waves)
    (selected : d.select profiles services = .ok active) :
  active.startOrder = .ok (waves.flatten.filter active.names.contains)
  := by
  rw [startOrder, startWaves_of_select ok selected, Except.map, flatten_keepIn]

end Descriptor

end Muster
