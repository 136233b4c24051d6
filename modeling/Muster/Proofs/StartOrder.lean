import Mathlib.Data.List.Nodup
import Muster.Descriptor.Select
import Muster.StartOrder
/-!
# Sequences and ranks

A sequence of a graph lists every node after the nodes it depends on; a rank gives every node a
number above those of the nodes it depends on.  The waves of a graph, put one after the other,
are a sequence of it.  A closed graph has waves as soon as it has a rank, and so every selection
from a stack that has waves has waves of its own.
-/

namespace Muster

namespace StartOrder

/-- A graph is closed when its nodes depend on its nodes only. -/
def Closed (g : Graph) : Prop :=
  ∀ n ∈ g, ∀ d ∈ n.2, d ∈ nodes g

/-- A rank of a graph puts every node above the nodes it depends on. -/
def Ranks (rank : String → Nat) (g : Graph) : Prop :=
  ∀ n ∈ g, ∀ d ∈ n.2, rank d < rank n.1

/-- A sequence of a graph puts every node after the nodes it depends on. -/
def Sequences (order : List String) (g : Graph) : Prop :=
  ∀ n ∈ g, ∀ before after, order = before ++ n.1 :: after → ∀ d ∈ n.2, d ∈ before

/-- The places of a sequence are a rank. -/
theorem Sequences.ranks {order : List String} {g : Graph} (sequence : Sequences order g)
    (nodup : order.Nodup) (listed : ∀ n ∈ g, n.1 ∈ order) :
  Ranks order.idxOf g
  := by
  intro n hn d hd
  obtain ⟨before, after, rfl⟩ := List.append_of_mem (listed n hn)
  have earlier : d ∈ before := sequence n hn before after rfl d hd
  have new : n.1 ∉ before := by
    intro old
    have := (List.nodup_append.mp nodup).2.2 n.1 old n.1 (by simp)
    apply this rfl
  have place := List.idxOf_lt_length_of_mem earlier
  change List.idxOf d _ < List.idxOf n.1 _
  rw [List.idxOf_append_of_mem earlier, List.idxOf_append_of_notMem new]
  omega

/-! ### Taking out the free nodes -/

theorem nodes_remove (wave : List String) (g : Graph) :
  nodes (remove wave g) = (nodes g).filter (!wave.contains ·)
  := by
  simp [nodes, remove, List.filter_map, Function.comp_def]

theorem mem_remove {wave : List String} {g : Graph} {n : String × List String} (hn : n ∈ g)
    (stays : n.1 ∉ wave) :
  (n.1, n.2.filter (!wave.contains ·)) ∈ remove wave g
  := by
  apply List.mem_map.mpr
  use n
  simpa [List.mem_filter] using ⟨hn, stays⟩

/-- What is left when a wave is taken out is closed if the graph was. -/
theorem Closed.remove {g : Graph} (closed : Closed g) (wave : List String) :
  Closed (remove wave g)
  := by
  intro n hn d hd
  obtain ⟨m, hm, rfl⟩ := List.mem_map.mp hn
  obtain ⟨hd, stays⟩ := List.mem_filter.mp hd
  rw [nodes_remove]
  apply List.mem_filter.mpr ⟨closed m (List.mem_filter.mp hm).1 d hd, stays⟩

/-- What is left when a wave is taken out has the ranks of the graph. -/
theorem Ranks.remove {rank : String → Nat} {g : Graph} (ranks : Ranks rank g)
    (wave : List String) :
  Ranks rank (remove wave g)
  := by
  intro n hn d hd
  obtain ⟨m, hm, rfl⟩ := List.mem_map.mp hn
  apply ranks m (List.mem_filter.mp hm).1 d (List.mem_filter.mp hd).1

/-- The free nodes are those that depend on nothing. -/
theorem mem_free_iff {g : Graph} (nodup : (nodes g).Nodup) {n : String × List String}
    (hn : n ∈ g) :
  n.1 ∈ free g ↔ n.2 = []
  := by
  constructor
  · intro h
    obtain ⟨m, hm, same⟩ := List.mem_map.mp h
    obtain ⟨hm, empty⟩ := List.mem_filter.mp hm
    obtain rfl := List.inj_on_of_nodup_map nodup hm hn same
    apply List.isEmpty_iff.mp empty
  · intro empty
    apply List.mem_map_of_mem (List.mem_filter.mpr ⟨hn, by simp [empty]⟩)

theorem free_eq_filter {g : Graph} (nodup : (nodes g).Nodup) :
  free g = (nodes g).filter (free g).contains
  := by
  have same : ∀ n ∈ g, n.2.isEmpty = (free g).contains n.1 := by
    intro n hn
    rw [Bool.eq_iff_iff, List.isEmpty_iff, List.contains_iff_mem, mem_free_iff nodup hn]
  conv => lhs; rw [free, List.filter_congr same]
  simp [nodes, List.filter_map, Function.comp_def]

/-- A closed graph with a rank has a free node, unless it is empty. -/
theorem free_ne_nil {rank : String → Nat} {g : Graph} (closed : Closed g) (ranks : Ranks rank g)
    (some : g ≠ []) :
  free g ≠ []
  := by
  -- From any node on, going down to a dependency ends at a free one, as the rank falls.
  have down : ∀ r, ∀ n ∈ g, rank n.1 = r → free g ≠ [] := by
    intro r
    induction r using Nat.strongRecOn with
    | ind r ih =>
      intro n hn hr
      cases bound : n.2 with
      | nil =>
        apply List.ne_nil_of_mem (a := n.1)
        apply List.mem_map_of_mem (List.mem_filter.mpr ⟨hn, by simp [bound]⟩)
      | cons d rest =>
        have hd : d ∈ n.2 := by simp [bound]
        obtain ⟨m, hm, rfl⟩ := List.mem_map.mp (closed n hn d hd)
        apply ih (rank m.1) (hr ▸ ranks n hn m.1 hd) m hm rfl
  obtain ⟨n, hn⟩ := List.exists_mem_of_ne_nil g some
  apply down (rank n.1) n hn rfl

/-! ### The waves of a graph -/

/-- What does not stand in the first part of a list stands behind all of it. -/
theorem eq_append_of_not_mem {first rest before after : List String} {a : String}
    (late : a ∉ first) (same : first ++ rest = before ++ a :: after) :
  ∃ middle, before = first ++ middle ∧ rest = middle ++ a :: after
  := by
  obtain ⟨middle, rfl, rest⟩ | ⟨middle, rfl, rest⟩ := List.append_eq_append_iff.mp same
  · exact ⟨middle, rfl, rest⟩
  · cases middle with
    | nil => exact ⟨[], by simp, by simpa using rest.symm⟩
    | cons b middle =>
      obtain ⟨rfl, -⟩ := List.cons.inj rest
      simp at late

/-- The waves and what is left make up the nodes. -/
theorem split_perm {g : Graph} (nodup : (nodes g).Nodup) :
  ((split g).1.flatten ++ nodes (split g).2).Perm (nodes g)
  := by
  induction g using split.induct with
  | case1 g stuck =>
    rw [split, dif_pos stuck]
    exact .refl _
  | case2 g some waves left rest ih =>
    rw [split, dif_neg some]
    rw [nodes_remove] at ih
    have rest := ih (nodup.filter _)
    simp only [List.flatten_cons, List.append_assoc]
    apply (rest.append_left (free g)).trans
    conv => enter [1, 1]; rw [free_eq_filter nodup]
    apply List.filter_append_perm

/-- The waves of a graph from which nothing is left are a sequence of it. -/
theorem split_sequences {g : Graph} (nodup : (nodes g).Nodup) (done : (split g).2 = []) :
  Sequences (split g).1.flatten g
  := by
  induction g using split.induct with
  | case1 g stuck =>
    rw [split, dif_pos stuck] at done
    subst done
    intro n hn
    cases hn
  | case2 g some waves left rest ih =>
    rw [split, dif_neg some] at done ⊢
    simp only [rest, List.flatten_cons] at done ih ⊢
    have later := ih (by rw [nodes_remove]; exact nodup.filter _) done
    intro n hn before after order d hd
    have late : n.1 ∉ free g := by
      rw [mem_free_iff nodup hn]
      apply List.ne_nil_of_mem hd
    obtain ⟨middle, rfl, behind⟩ := eq_append_of_not_mem late order
    by_cases first : d ∈ free g
    · simp [first]
    · have := later _ (mem_remove hn late) middle after behind d
        (List.mem_filter.mpr ⟨hd, by simpa using first⟩)
      simp [this]

/-- A closed graph with a rank is split into waves without a rest. -/
theorem split_done {rank : String → Nat} {g : Graph} (closed : Closed g) (ranks : Ranks rank g) :
  (split g).2 = []
  := by
  induction g using split.induct with
  | case1 g stuck =>
    rw [split, dif_pos stuck]
    by_contra some
    apply free_ne_nil closed ranks some stuck
  | case2 g some waves left rest ih =>
    rw [split, dif_neg some]
    apply ih (closed.remove _) (ranks.remove _)

end StartOrder

/-! ### The waves of a stack -/

namespace Descriptor

open StartOrder

theorem nodes_graph (d : Descriptor) :
  nodes d.graph = d.names
  := by
  simp [nodes, graph, names, Table.keys, Function.comp_def]

theorem nodup_names (d : Descriptor) :
  d.names.Nodup
  := d.services.nodup_keys

theorem closed_graph (d : Descriptor) :
  Closed d.graph
  := by
  intro n hn x hx
  obtain ⟨e, he, rfl⟩ := List.mem_map.mp hn
  rw [nodes_graph]
  apply d.closed e he x hx

/-- All dependencies of a graph of a stack are nodes of it. -/
theorem inner_graph (d : Descriptor) :
  inner d.graph = d.graph
  := by
  conv => rhs; rw [← List.map_id d.graph]
  apply List.map_congr_left
  intro n hn
  have kept : n.2.filter (nodes d.graph).contains = n.2 := by
    simp only [List.filter_eq_self, List.contains_iff_mem]
    apply d.closed_graph n hn
  simp [kept]

/-- A stack that has waves is never searched for a cycle. -/
theorem startWavesWithin_eq_ok_iff {limit : Nat} {d : Descriptor} {waves : List (List String)} :
  d.startWavesWithin limit = .ok waves ↔ StartOrder.split d.graph = (waves, [])
  := by
  unfold startWavesWithin wavesOf
  rw [inner_graph]
  split
  · next left same => simp [same]
  · next waves' left some same =>
    simp only [same, Prod.mk.injEq, reduceCtorEq, false_iff, not_and]
    intro _ none
    apply some none

theorem startWaves_eq_ok_iff {d : Descriptor} {waves : List (List String)} :
  d.startWaves = .ok waves ↔ StartOrder.split d.graph = (waves, [])
  := startWavesWithin_eq_ok_iff

/-- The waves of a stack list every service once. -/
theorem flatten_startWaves_perm {d : Descriptor} {waves : List (List String)}
    (ok : d.startWaves = .ok waves) :
  waves.flatten.Perm d.names
  := by
  have := split_perm (g := d.graph) (by rw [nodes_graph]; exact d.nodup_names)
  rw [startWaves_eq_ok_iff.mp ok, nodes_graph] at this
  simpa [nodes] using this

/-- The waves of a stack list every service after those it depends on. -/
theorem flatten_startWaves_sequences {d : Descriptor} {waves : List (List String)}
    (ok : d.startWaves = .ok waves) :
  Sequences waves.flatten d.graph
  := by
  have same := startWaves_eq_ok_iff.mp ok
  have := split_sequences (g := d.graph) (by rw [nodes_graph]; exact d.nodup_names) (by rw [same])
  rwa [same] at this

/-- The places in the start order are a rank. -/
theorem startWaves_ranks {d : Descriptor} {waves : List (List String)}
    (ok : d.startWaves = .ok waves) :
  Ranks waves.flatten.idxOf d.graph
  := by
  have perm := flatten_startWaves_perm ok
  apply (flatten_startWaves_sequences ok).ranks (perm.nodup_iff.mpr d.nodup_names)
  intro n hn
  rw [perm.mem_iff, ← nodes_graph]
  apply List.mem_map_of_mem hn

/-- A stack whose services have a rank has waves. -/
theorem exists_startWaves {d : Descriptor} {rank : String → Nat} (ranks : Ranks rank d.graph) :
  ∃ waves, d.startWaves = .ok waves
  := by
  use (StartOrder.split d.graph).1
  rw [startWaves_eq_ok_iff, ← split_done d.closed_graph ranks]

/-! ### The waves of a selection -/

theorem services_of_make {project : String} {services : Table Service} {d : Descriptor}
    (ok : make project services = .ok d) :
  d.services = services
  := by
  rw [make] at ok
  split at ok
  · cases ok
  · cases ok
    rfl

/-- The services of a stack fit together. -/
theorem make_services (d : Descriptor) :
  make d.project d.services = .ok d
  := by
  have fits := referenceFault?_eq_none_iff.mpr ⟨d.named, d.closed⟩
  rw [make]
  split
  · next fault found => cases found.symm.trans fits
  · rfl

/-- A selection is the part of a stack with some names. -/
theorem exists_restrict_of_select {d active : Descriptor} {profiles services : List String}
    (selected : d.select profiles services = .ok active) :
  ∃ names, d.restrict names = .ok active
  := by
  rw [select] at selected
  split at selected
  · simp only at selected
    split at selected
    · cases selected
    · exact ⟨_, selected⟩
  · split at selected
    · exact ⟨_, selected⟩
    · cases selected

/-- A selection keeps the services it selects as they are. -/
theorem mem_of_select {d active : Descriptor} {profiles services : List String}
    (selected : d.select profiles services = .ok active) {e : String × Service}
    (he : e ∈ active.services.entries) :
  e ∈ d.services.entries
  := by
  obtain ⟨names, ok⟩ := exists_restrict_of_select selected
  rw [services_of_make ok] at he
  exact (List.mem_filter.mp he).1

/-- A rank of a stack is one of every selection from it. -/
theorem ranks_of_select {d active : Descriptor} {profiles services : List String}
    (selected : d.select profiles services = .ok active) {rank : String → Nat}
    (ranks : Ranks rank d.graph) :
  Ranks rank active.graph
  := by
  intro n hn
  obtain ⟨e, he, rfl⟩ := List.mem_map.mp hn
  apply ranks _ (List.mem_map_of_mem (mem_of_select selected he))

end Descriptor

end Muster
