import Mathlib.Data.List.Chain
import Muster.Proofs.StartOrder
/-!
# Cycles

A graph that cannot be split into waves leaves a rest in which every node depends on something.  A
walk along dependencies of the rest never comes to an end by itself, so it comes back to a node that
it has passed, and what it has passed since is a cycle.  Services that have waves are on no cycle.
-/

namespace Muster

namespace StartOrder

/-- A node of a graph depends on a name. -/
def Edge (g : Graph) (name dependency : String) : Prop :=
  ∃ n ∈ g, n.1 = name ∧ dependency ∈ n.2

/-- A cycle goes from each entry to one that it depends on, and ends where it has begun.  No other
entry stands in it twice. -/
structure IsCycle (depends : String → String → Prop) (path : List String) : Prop where
  long : 2 ≤ path.length
  closed : path.head? = path.getLast?
  simple : path.dropLast.Nodup
  linked : path.IsChain depends

theorem IsCycle.imp {depends depends' : String → String → Prop} {path : List String}
    (weaker : ∀ a b, depends a b → depends' a b) (cycle : IsCycle depends path) :
  IsCycle depends' path
  := ⟨cycle.long, cycle.closed, cycle.simple, cycle.linked.imp weaker⟩

/-- Along a cycle every entry depends on itself in the end. -/
theorem IsCycle.exists_transGen {depends : String → String → Prop} {path : List String}
    (cycle : IsCycle depends path) :
  ∃ name, Relation.TransGen depends name name
  := by
  obtain ⟨long, closed, -, linked⟩ := cycle
  match path with
  | a :: b :: rest =>
    use a
    obtain ⟨first, linked⟩ := List.isChain_cons_cons.mp linked
    have last : (b :: rest).getLast (by simp) = a := by
      rw [List.getLast?_cons_cons, List.getLast?_eq_some_getLast (by simp)] at closed
      apply (Option.some.inj closed).symm
    apply Relation.TransGen.head' first
    apply List.relationReflTransGen_of_exists_isChain_cons _ linked last

/-- Every entry of a cycle depends on one of the cycle, the last on the first. -/
theorem IsCycle.exists_next {depends : String → String → Prop} {path : List String}
    (cycle : IsCycle depends path) {name : String} (mem : name ∈ path.dropLast) :
  ∃ next ∈ path.dropLast, depends name next
  := by
  obtain ⟨before, after, split⟩ := List.append_of_mem mem
  have ne : path ≠ [] := List.ne_nil_of_length_pos (Nat.lt_of_lt_of_le Nat.two_pos cycle.long)
  have whole : path = before ++ name :: (after ++ [path.getLast ne]) := by
    conv => lhs; rw [← List.dropLast_append_getLast ne, split]
    simp
  have linked := (List.isChain_append.mp (whole ▸ cycle.linked)).2.1
  cases after with
  | cons next after =>
    rw [List.cons_append] at linked
    exact ⟨next, by rw [split]; simp, (List.isChain_cons_cons.mp linked).1⟩
  | nil =>
    rw [List.nil_append] at linked
    refine ⟨path.getLast ne, ?_, (List.isChain_cons_cons.mp linked).1⟩
    obtain ⟨first, rest, same⟩ := List.exists_cons_of_ne_nil (List.ne_nil_of_mem mem)
    have head : path.head? = some first := by
      rw [← List.dropLast_append_getLast ne, same, List.cons_append, List.head?_cons]
    have last := cycle.closed.symm.trans head
    rw [List.getLast?_eq_some_getLast ne] at last
    rw [Option.some.inj last, same]
    exact List.mem_cons_self

/-! ### The rest that has no waves -/

/-- In a stuck graph every node depends on something, and on nodes only. -/
structure Stuck (g : Graph) : Prop where
  closed : Closed g
  depends : ∀ n ∈ g, n.2 ≠ []

theorem split_of_stuck {g : Graph} (none : free g = []) :
  split g = ([], g)
  := by
  rw [split, dif_pos none]

theorem split_of_free {g : Graph} (some : free g ≠ []) :
  (split g).1 = free g :: (split (remove (free g) g)).1
    ∧ (split g).2 = (split (remove (free g) g)).2
  := by
  rw [split, dif_neg some]
  exact ⟨rfl, rfl⟩

/-- What is left when a graph has been split into waves is stuck. -/
theorem stuck_split {g : Graph} (closed : Closed g) :
  Stuck (split g).2
  := by
  induction g using split.induct with
  | case1 g none =>
    rw [split_of_stuck none]
    refine ⟨closed, fun n hn empty => ?_⟩
    have mem : n.1 ∈ free g :=
      List.mem_map_of_mem (List.mem_filter.mpr ⟨hn, by simp [empty]⟩)
    simp [none] at mem
  | case2 g some waves left rest ih =>
    rw [(split_of_free some).2]
    apply ih (closed.remove _)

/-- Taking out a wave takes out the dependencies from and on its nodes. -/
theorem edge_remove_iff {wave : List String} {g : Graph} {a b : String} :
  Edge (remove wave g) a b ↔ Edge g a b ∧ a ∉ wave ∧ b ∉ wave
  := by
  constructor
  · rintro ⟨n, hn, rfl, hb⟩
    obtain ⟨m, hm, rfl⟩ := List.mem_map.mp hn
    obtain ⟨hm, stays⟩ := List.mem_filter.mp hm
    obtain ⟨hb, new⟩ := List.mem_filter.mp hb
    exact ⟨⟨m, hm, rfl, hb⟩, by simpa using stays, by simpa using new⟩
  · rintro ⟨⟨n, hn, rfl, hb⟩, stays, new⟩
    exact ⟨_, mem_remove hn stays, rfl, List.mem_filter.mpr ⟨hb, by simpa using new⟩⟩

/-- The rest has only dependencies that the graph had. -/
theorem edge_of_split {g : Graph} {a b : String} (edge : Edge (split g).2 a b) :
  Edge g a b
  := by
  induction g using split.induct with
  | case1 g none => rwa [split_of_stuck none] at edge
  | case2 g some waves left rest ih =>
    rw [(split_of_free some).2] at edge
    exact (edge_remove_iff.mp (ih edge)).1

/-! ### The walk -/

/-- A walk has passed the nodes of a path, one after the other, and has come to a node. -/
structure Walk (g : Graph) (path : List String) (name : String) : Prop where
  node : name ∈ nodes g
  simple : path.Nodup
  linked : (path ++ [name]).IsChain (Edge g)

theorem Walk.start {g : Graph} {name : String} (node : name ∈ nodes g) :
  Walk g [] name
  := ⟨node, .nil, .singleton name⟩

/-- A walk goes on to a node that the last one depends on. -/
theorem Walk.push {g : Graph} {path : List String} {name next : String} (walk : Walk g path name)
    (new : name ∉ path) (edge : Edge g name next) (node : next ∈ nodes g) :
  Walk g (path ++ [name]) next
  where
  node := node
  simple := by
    rw [List.nodup_append_comm]
    exact List.nodup_cons.mpr ⟨new, walk.simple⟩
  linked := by
    rw [List.append_assoc, List.singleton_append]
    exact List.isChain_split.mpr ⟨walk.linked, List.isChain_pair.mpr edge⟩

theorem exists_dropWhile {path : List String} {name : String} (old : name ∈ path) :
  ∃ rest, path.dropWhile (· != name) = name :: rest
  := by
  induction path with
  | nil => cases old
  | cons first path ih =>
    by_cases same : first = name
    · exact ⟨path, by simp [same]⟩
    · obtain ⟨rest, later⟩ := ih ((List.mem_cons.mp old).resolve_left (Ne.symm same))
      exact ⟨rest, by simp [same, later]⟩

/-- A walk that comes back to a node has closed a cycle, which begins at that node. -/
theorem Walk.close {g : Graph} {path : List String} {name : String} (walk : Walk g path name)
    (old : name ∈ path) :
  IsCycle (Edge g) (path.dropWhile (· != name) ++ [name])
  := by
  obtain ⟨rest, from_name⟩ := exists_dropWhile old
  have suffix : name :: rest <:+ path := from_name ▸ List.dropWhile_suffix _
  rw [from_name]
  refine ⟨by simp, by rw [List.getLast?_concat]; rfl, ?_, ?_⟩
  · rw [List.dropLast_concat]
    apply walk.simple.sublist suffix.sublist
  · apply walk.linked.suffix
    obtain ⟨before, rfl⟩ := suffix
    exact ⟨before, by simp⟩

theorem exists_lookup {g : Graph} {name : String} (node : name ∈ nodes g) :
  ∃ dependencies, g.lookup name = some dependencies ∧ (name, dependencies) ∈ g
  := by
  cases found : g.lookup name with
  | none =>
    obtain ⟨n, hn, rfl⟩ := List.mem_map.mp node
    have := List.lookup_eq_none_iff.mp found n hn
    simp at this
  | some dependencies =>
    refine ⟨dependencies, rfl, ?_⟩
    obtain ⟨before, after, rfl, -⟩ := List.lookup_eq_some_iff.mp found
    simp

end StartOrder

/-! ### Cycles among services -/

namespace Descriptor

open StartOrder

/-- A service of a stack depends on another one, or on itself. -/
def DependsOn (d : Descriptor) (name dependency : String) : Prop :=
  ∃ s, d.services.get? name = some s ∧ dependency ∈ s.dependencies

/-- Some service of a stack depends on itself in the end. -/
def Cyclic (d : Descriptor) : Prop :=
  ∃ name, Relation.TransGen d.DependsOn name name

theorem edge_graph_iff {d : Descriptor} {name dependency : String} :
  Edge d.graph name dependency ↔ d.DependsOn name dependency
  := by
  constructor
  · rintro ⟨n, hn, rfl, depends⟩
    obtain ⟨e, he, rfl⟩ := List.mem_map.mp hn
    exact ⟨e.2, Table.get?_eq_some_iff.mpr he, depends⟩
  · rintro ⟨s, found, depends⟩
    exact ⟨_, List.mem_map_of_mem (Table.get?_eq_some_iff.mp found), rfl, depends⟩

/-- A stack whose services have waves has no cycle: the places in the start order go down along
dependencies. -/
theorem not_cyclic_of_startWaves {d : Descriptor} {waves : List (List String)}
    (ok : d.startWaves = .ok waves) :
  ¬ d.Cyclic
  := by
  rintro ⟨name, around⟩
  have ranks := startWaves_ranks ok
  have down : ∀ a b, Relation.TransGen d.DependsOn a b →
      waves.flatten.idxOf b < waves.flatten.idxOf a := by
    intro a b path
    induction path with
    | single depends =>
      obtain ⟨n, hn, rfl, mem⟩ := edge_graph_iff.mpr depends
      apply ranks n hn _ mem
    | tail path depends ih =>
      obtain ⟨n, hn, rfl, mem⟩ := edge_graph_iff.mpr depends
      exact Nat.lt_trans (ranks n hn _ mem) ih
  exact Nat.lt_irrefl _ (down name name around)

end Descriptor

namespace Sample

/-- A worker and a queue that depend on each other, and a web server that depends on the worker. -/
def tangled : Descriptor where
  project := "tangled"
  services := ⟨[
    ("web", { name := "web", dependsOn := ⟨[("worker", .healthy)], by decide⟩ }),
    ("worker", { name := "worker", dependsOn := ⟨[("queue", .healthy)], by decide⟩ }),
    ("queue", { name := "queue", dependsOn := ⟨[("worker", .started)], by decide⟩ })], by decide⟩
  named := by simp
  closed := by decide

end Sample

end Muster
