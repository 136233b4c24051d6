import Muster.Proofs.StartOrder.Rest
/-!
# Levels

The place of a service in the waves of a stack is the number of the wave that it stands in.  Along a
dependency the place goes down, and from every service with dependencies some dependency leads to the
wave just before.  So the place of a service is the length of the longest chain of dependencies below
it.  The waves are settled by the order in which the services are declared and by which of them
depend on which.
-/

namespace Muster

namespace StartOrder

/-- The place of a name in some waves: the number of the wave that it stands in. -/
def place (waves : List (List String)) (name : String) : Nat :=
  waves.findIdx (·.contains name)

theorem place_cons_of_mem {wave : List String} {name : String} (waves : List (List String))
    (mem : name ∈ wave) :
  place (wave :: waves) name = 0
  := by
  simp [place, List.findIdx_cons, mem]

theorem place_cons_of_not_mem {wave : List String} {name : String} (waves : List (List String))
    (late : name ∉ wave) :
  place (wave :: waves) name = place waves name + 1
  := by
  simp [place, List.findIdx_cons, late]

/-- A name stands in the wave at its place. -/
theorem exists_wave_of_mem {waves : List (List String)} {name : String}
    (mem : name ∈ waves.flatten) :
  ∃ wave, waves[place waves name]? = some wave ∧ name ∈ wave
  := by
  obtain ⟨wave, hw, there⟩ := List.mem_flatten.mp mem
  have found : place waves name < waves.length :=
    List.findIdx_lt_length_of_exists ⟨wave, hw, by simpa using there⟩
  refine ⟨waves[place waves name], List.getElem?_eq_getElem found, ?_⟩
  have stands : waves[place waves name].contains name = true := List.findIdx_getElem (w := found)
  simpa using stands

/-! ### The waves of a graph -/

theorem ne_nil_of_mem_split (g : Graph) :
  ∀ wave ∈ (split g).1, wave ≠ []
  := by
  induction g using split.induct with
  | case1 g none => simp [split_of_stuck none]
  | case2 g some waves left rest ih =>
    rw [(split_of_free some).1]
    intro wave mem
    rcases List.mem_cons.mp mem with rfl | mem
    · exact some
    · apply ih wave mem

/-- In every wave the nodes keep their order. -/
theorem sublist_of_mem_split (g : Graph) :
  ∀ wave ∈ (split g).1, wave.Sublist (nodes g)
  := by
  induction g using split.induct with
  | case1 g none => simp [split_of_stuck none]
  | case2 g some waves left rest ih =>
    rw [(split_of_free some).1]
    intro wave mem
    rcases List.mem_cons.mp mem with rfl | mem
    · exact List.filter_sublist.map _
    · have later := ih wave mem
      rw [nodes_remove] at later
      apply later.trans List.filter_sublist

theorem place_split_of_free {g : Graph} {name : String} (mem : name ∈ free g) :
  place (split g).1 name = 0
  := by
  rw [(split_of_free (List.ne_nil_of_mem mem)).1]
  apply place_cons_of_mem _ mem

/-- Along a dependency the place goes down. -/
theorem place_split_lt {g : Graph} (nodup : (nodes g).Nodup) (done : (split g).2 = [])
    {n : String × List String} (hn : n ∈ g) {d : String} (hd : d ∈ n.2) :
  place (split g).1 d < place (split g).1 n.1
  := by
  induction g using split.induct generalizing n d with
  | case1 g none =>
    rw [split_of_stuck none] at done
    subst done
    cases hn
  | case2 g some waves left rest ih =>
    rw [(split_of_free some).2] at done
    rw [(split_of_free some).1]
    have late : n.1 ∉ free g := by
      rw [mem_free_iff nodup hn]
      apply List.ne_nil_of_mem hd
    rw [place_cons_of_not_mem _ late]
    by_cases first : d ∈ free g
    · rw [place_cons_of_mem _ first]
      omega
    · rw [place_cons_of_not_mem _ first]
      apply Nat.succ_lt_succ
      exact ih (by rw [nodes_remove]; exact nodup.filter _) done (mem_remove hn late)
        (List.mem_filter.mpr ⟨hd, by simpa using first⟩)

/-- From a node with dependencies some dependency leads to the wave just before. -/
theorem exists_place_split {g : Graph} (nodup : (nodes g).Nodup) (done : (split g).2 = [])
    {n : String × List String} (hn : n ∈ g) (some : n.2 ≠ []) :
  ∃ d ∈ n.2, place (split g).1 n.1 = place (split g).1 d + 1
  := by
  induction g using split.induct generalizing n with
  | case1 g none =>
    rw [split_of_stuck none] at done
    subst done
    cases hn
  | case2 g free_some waves left rest ih =>
    rw [(split_of_free free_some).2] at done
    rw [(split_of_free free_some).1]
    have late : n.1 ∉ free g := by
      rw [mem_free_iff nodup hn]
      exact some
    rw [place_cons_of_not_mem _ late]
    have nodup' : (nodes (remove (free g) g)).Nodup := by
      rw [nodes_remove]
      exact nodup.filter _
    -- Either all dependencies are in the first wave, or one of the others leads down by one.
    by_cases gone : n.2.filter (!(free g).contains ·) = []
    · obtain ⟨d, hd⟩ := List.exists_mem_of_ne_nil _ some
      have first : d ∈ free g := by
        have := List.filter_eq_nil_iff.mp gone d hd
        simpa using this
      have next : n.1 ∈ free (remove (free g) g) :=
        (mem_free_iff nodup' (mem_remove hn late)).mpr gone
      refine ⟨d, hd, ?_⟩
      rw [place_cons_of_mem _ first, place_split_of_free next]
    · obtain ⟨d, hd, above⟩ := ih nodup' done (mem_remove hn late) gone
      obtain ⟨hd, first⟩ := List.mem_filter.mp hd
      refine ⟨d, hd, ?_⟩
      rw [place_cons_of_not_mem _ (by simpa using first), above]

/-! ### What the waves depend on -/

theorem mem_free_iff_edge {g : Graph} (nodup : (nodes g).Nodup) {name : String} :
  name ∈ free g ↔ name ∈ nodes g ∧ ∀ d, ¬ Edge g name d
  := by
  constructor
  · intro mem
    obtain ⟨n, hn, rfl⟩ := List.mem_map.mp mem
    obtain ⟨hn, empty⟩ := List.mem_filter.mp hn
    refine ⟨List.mem_map_of_mem hn, ?_⟩
    rintro d ⟨m, hm, same, hd⟩
    obtain rfl := List.inj_on_of_nodup_map nodup hm hn same
    simp [List.isEmpty_iff.mp empty] at hd
  · rintro ⟨node, none⟩
    obtain ⟨n, hn, rfl⟩ := List.mem_map.mp node
    rw [mem_free_iff nodup hn, List.eq_nil_iff_forall_not_mem]
    intro d hd
    apply none d ⟨n, hn, rfl, hd⟩

section Congr

variable {g g' : Graph} (nodup : (nodes g).Nodup) (names : nodes g' = nodes g)
  (edges : ∀ a b, Edge g' a b ↔ Edge g a b)

include nodup names edges

theorem free_congr :
  free g' = free g
  := by
  rw [free_eq_filter nodup, free_eq_filter (names ▸ nodup), names]
  apply List.filter_congr
  intro name _
  rw [Bool.eq_iff_iff, List.contains_iff_mem, List.contains_iff_mem, mem_free_iff_edge nodup,
    mem_free_iff_edge (names ▸ nodup), names]
  simp only [edges]

/-- Graphs with the same nodes, in the same order, and the same dependencies have the same waves,
whatever the order in which the dependencies stand. -/
theorem split_congr :
  (split g').1 = (split g).1 ∧ nodes (split g').2 = nodes (split g).2
  := by
  induction g using split.induct generalizing g' with
  | case1 g none =>
    rw [split_of_stuck none, split_of_stuck ((free_congr nodup names edges).trans none)]
    exact ⟨rfl, names⟩
  | case2 g some waves left rest ih =>
    have frees := free_congr nodup names edges
    obtain ⟨first, last⟩ := split_of_free some
    obtain ⟨first', last'⟩ := split_of_free (frees ▸ some)
    have nodes' : nodes (remove (free g') g') = nodes (remove (free g) g) := by
      rw [nodes_remove, nodes_remove, names, frees]
    obtain ⟨later, left⟩ := ih (by rw [nodes_remove]; exact nodup.filter _) nodes'
      (by simp only [edge_remove_iff, edges, frees, implies_true])
    exact ⟨by rw [first, first', later, frees], by rw [last, last', left]⟩

end Congr

end StartOrder

/-! ### The waves of a stack -/

namespace Descriptor

open StartOrder

/-- The length of the longest chain of dependencies below a service. -/
structure Height (d : Descriptor) (name : String) (height : Nat) : Prop where
  reached : ∃ below, (name :: below).IsChain d.DependsOn ∧ below.length = height
  longest : ∀ below, (name :: below).IsChain d.DependsOn → below.length ≤ height

/-- The waves of a stack are as its dependencies ask for. -/
structure Staged (d : Descriptor) (waves : List (List String)) : Prop where
  nonempty : ∀ wave ∈ waves, wave ≠ []
  /-- Every service stands in them once. -/
  once : waves.flatten.Perm d.names
  stands : ∀ name ∈ d.names, ∃ wave, waves[place waves name]? = some wave ∧ name ∈ wave
  /-- In a wave the services stand as they are declared. -/
  declared : ∀ wave ∈ waves, wave.Sublist d.names
  /-- Services without dependencies are in the first wave. -/
  first : ∀ name ∈ d.names, (∀ dependency, ¬ d.DependsOn name dependency) → place waves name = 0
  /-- All others are in the wave after the last one that holds a dependency. -/
  next : ∀ name, (∃ dependency, d.DependsOn name dependency) →
    ∃ last, d.DependsOn name last ∧ place waves name = place waves last + 1
      ∧ ∀ dependency, d.DependsOn name dependency → place waves dependency ≤ place waves last
  height : ∀ name ∈ d.names, d.Height name (place waves name)
  /-- Along the waves every service stands after those it depends on. -/
  sequence : ∀ name dependency, d.DependsOn name dependency → ∀ before after,
    waves.flatten = before ++ name :: after → dependency ∈ before

variable {d : Descriptor} {waves : List (List String)} {name dependency : String}

theorem mem_names_of_dependsOn (depends : d.DependsOn name dependency) :
  name ∈ d.names ∧ dependency ∈ d.names
  := by
  obtain ⟨s, found, mem⟩ := depends
  have entry := Table.get?_eq_some_iff.mp found
  exact ⟨List.mem_map_of_mem entry, d.closed _ entry _ mem⟩

theorem place_lt_of_dependsOn (ok : d.startWaves = .ok waves)
    (depends : d.DependsOn name dependency) :
  place waves dependency < place waves name
  := by
  have same := startWaves_eq_ok_iff.mp ok
  obtain ⟨n, hn, rfl, mem⟩ := edge_graph_iff.mpr depends
  have := place_split_lt (by rw [nodes_graph]; exact d.nodup_names) (by rw [same]) hn mem
  rwa [same] at this

theorem exists_place_eq (ok : d.startWaves = .ok waves) (depends : d.DependsOn name dependency) :
  ∃ last, d.DependsOn name last ∧ place waves name = place waves last + 1
  := by
  have same := startWaves_eq_ok_iff.mp ok
  obtain ⟨n, hn, rfl, mem⟩ := edge_graph_iff.mpr depends
  obtain ⟨last, hl, above⟩ := exists_place_split (by rw [nodes_graph]; exact d.nodup_names)
    (by rw [same]) hn (List.ne_nil_of_mem mem)
  rw [same] at above
  exact ⟨last, edge_graph_iff.mp ⟨n, hn, rfl, hl⟩, above⟩

theorem place_eq_zero (ok : d.startWaves = .ok waves) (listed : name ∈ d.names)
    (none : ∀ dependency, ¬ d.DependsOn name dependency) :
  place waves name = 0
  := by
  have same := startWaves_eq_ok_iff.mp ok
  have lone : name ∈ free d.graph := by
    rw [mem_free_iff_edge (by rw [nodes_graph]; exact d.nodup_names), nodes_graph]
    exact ⟨listed, fun dependency edge => none dependency (edge_graph_iff.mp edge)⟩
  have := place_split_of_free lone
  rwa [same] at this

/-- The place of a service is the length of the longest chain below it. -/
theorem height_place (ok : d.startWaves = .ok waves) (listed : name ∈ d.names) :
  d.Height name (place waves name)
  where
  reached := by
    induction height : place waves name generalizing name with
    | zero => exact ⟨[], .singleton name, rfl⟩
    | succ height ih =>
      have some : ∃ dependency, d.DependsOn name dependency := by
        by_contra none
        have := place_eq_zero ok listed (not_exists.mp none)
        omega
      obtain ⟨dependency, depends⟩ := some
      obtain ⟨last, depends, above⟩ := exists_place_eq ok depends
      obtain ⟨below, chain, length⟩ := ih (mem_names_of_dependsOn depends).2 (by omega)
      exact ⟨last :: below, .cons_cons depends chain, by rw [List.length_cons, length]⟩
  longest below chain := by
    clear listed
    induction below generalizing name with
    | nil => exact Nat.zero_le _
    | cons dependency below ih =>
      obtain ⟨depends, chain⟩ := List.isChain_cons_cons.mp chain
      have lower := place_lt_of_dependsOn ok depends
      have rest := ih chain
      rw [List.length_cons]
      omega

/-- The waves of a stack are staged. -/
theorem staged_startWaves (ok : d.startWaves = .ok waves) :
  d.Staged waves
  := by
  have same := startWaves_eq_ok_iff.mp ok
  have once := flatten_startWaves_perm ok
  refine {
    nonempty := ?_
    once := once
    stands := fun name listed => exists_wave_of_mem (once.mem_iff.mpr listed)
    declared := ?_
    first := fun name listed none => place_eq_zero ok listed none
    next := ?_
    height := fun name listed => height_place ok listed
    sequence := ?_ }
  · have := ne_nil_of_mem_split d.graph
    rwa [same] at this
  · have := sublist_of_mem_split d.graph
    rwa [same, nodes_graph] at this
  · rintro name ⟨dependency, depends⟩
    obtain ⟨last, there, above⟩ := exists_place_eq ok depends
    refine ⟨last, there, above, fun other depends => ?_⟩
    have lower := place_lt_of_dependsOn ok depends
    omega
  · intro name dependency depends before after split
    obtain ⟨n, hn, rfl, mem⟩ := edge_graph_iff.mpr depends
    apply flatten_startWaves_sequences ok n hn before after split dependency mem

/-- Stacks that declare the same services in the same order, with the same dependencies, have the
same waves. -/
theorem startWaves_congr {d' : Descriptor} (ok : d.startWaves = .ok waves)
    (names : d'.names = d.names)
    (depends : ∀ a b, d'.DependsOn a b ↔ d.DependsOn a b) :
  d'.startWaves = .ok waves
  := by
  have same := startWaves_eq_ok_iff.mp ok
  have nodup : (nodes d.graph).Nodup := by
    rw [nodes_graph]
    exact d.nodup_names
  have nodes' : nodes d'.graph = nodes d.graph := by rw [nodes_graph, nodes_graph, names]
  obtain ⟨first, left⟩ := split_congr nodup nodes'
    (by simp only [edge_graph_iff, depends, implies_true])
  rw [same] at first left
  rw [startWaves_eq_ok_iff]
  exact Prod.ext first (List.map_eq_nil_iff.mp left)

/-- The services of a stack without cycles have waves: every service stands once, in the wave whose
number is the length of the longest chain of dependencies below it, and among the others of its wave
as it is declared.  The start order is wave after wave.  The order in which the dependencies of a
service stand makes no difference. -/
theorem startWaves_of_acyclic (acyclic : ¬ d.Cyclic) :
  ∃ waves, d.startWaves = .ok waves ∧ d.startOrder = .ok waves.flatten ∧ d.Staged waves
    ∧ ∀ d' : Descriptor, d'.names = d.names → (∀ a b, d'.DependsOn a b ↔ d.DependsOn a b) →
      d'.startWaves = .ok waves ∧ d'.startOrder = .ok waves.flatten
  := by
  obtain ⟨waves, ok⟩ := exists_startWaves_of_not_cyclic acyclic
  have order {d : Descriptor} (ok : d.startWaves = .ok waves) : d.startOrder = .ok waves.flatten := by
    simp [startOrder, ok, Except.map]
  refine ⟨waves, ok, order ok, staged_startWaves ok, fun d' names depends => ?_⟩
  have ok' := startWaves_congr ok names depends
  exact ⟨ok', order ok'⟩

end Descriptor

namespace Sample

/-- A gateway with some dependencies, and a queue that depends on a cache. -/
def gateway (dependsOn : Table Condition)
    (known : ∀ name ∈ dependsOn.keys, name ∈ ["queue", "cache"]) : Descriptor where
  project := "gateway"
  services := ⟨[
    ("gateway", { name := "gateway", dependsOn }),
    ("queue", { name := "queue", dependsOn := ⟨[("cache", .healthy)], by decide⟩ }),
    ("cache", { name := "cache" })], by simp⟩
  named := by simp
  closed := by
    simp only [Service.dependencies, List.forall_mem_cons, List.not_mem_nil, false_implies,
      implies_true, and_true]
    refine ⟨fun name mem => ?_, by simp [Table.keys], nofun⟩
    apply List.mem_cons_of_mem _ (known name mem)

/-- The gateway depends on the queue and on the cache. -/
def direct : Descriptor :=
  gateway ⟨[("queue", .healthy), ("cache", .started)], by decide⟩ (by decide)

theorem startWaves_direct :
  direct.startWaves = .ok [["cache"], ["queue"], ["gateway"]]
  := by
  have graph : direct.graph
    = [("gateway", ["queue", "cache"]), ("queue", ["cache"]), ("cache", [])] := rfl
  rw [Descriptor.startWaves_eq_ok_iff, graph]
  simp [StartOrder.split, StartOrder.free, StartOrder.nodes, StartOrder.remove]

/-- The same the other way round. -/
def reversed : Descriptor :=
  gateway ⟨[("cache", .started), ("queue", .healthy)], by decide⟩ (by decide)

end Sample

/-- The longest chain below the gateway goes through the queue, although it depends on the cache
itself. -/
theorem Descriptor.startWaves_of_acyclic_gateway :
  ¬ Sample.direct.Cyclic ∧ Sample.direct.startWaves = .ok [["cache"], ["queue"], ["gateway"]]
    ∧ Sample.direct.Staged [["cache"], ["queue"], ["gateway"]]
    ∧ Sample.reversed.startWaves = .ok [["cache"], ["queue"], ["gateway"]]
  := by
  have ok := Sample.startWaves_direct
  have acyclic := not_cyclic_of_startWaves ok
  obtain ⟨waves, same, -, staged, other⟩ := startWaves_of_acyclic acyclic
  cases ok.symm.trans same
  refine ⟨acyclic, ok, staged, (other Sample.reversed rfl fun a b => ?_).1⟩
  rw [← edge_graph_iff, ← edge_graph_iff]
  simp [StartOrder.Edge, graph, Sample.direct, Sample.reversed, Sample.gateway,
    Service.dependencies, Table.keys, or_comm]

end Muster
