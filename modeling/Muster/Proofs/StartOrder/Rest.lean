import Muster.Proofs.StartOrder.Search
/-!
# What is left of a stack without waves

When the services of a stack cannot all be put into waves, some are left, and this is so exactly if
there is a cycle among them.  The search that follows goes straight to a cycle.  It goes one step
deeper for each service that it passes, and there is a limit to how deep it may go: where the way to
the first service that comes again is longer, no cycle is named.  A ring of services is the simplest
case, since the search passes all of them.
-/

namespace Muster

namespace Descriptor

open StartOrder

/-- What is left of the services of a stack when no further wave can be formed, with what each of
them depends on among them. -/
def rest (d : Descriptor) : Graph :=
  (StartOrder.split (inner d.graph)).2

theorem stuck_rest (d : Descriptor) :
  Stuck d.rest
  := by
  rw [rest, inner_graph]
  apply stuck_split d.closed_graph

theorem length_rest_le (d : Descriptor) :
  d.rest.length ≤ d.names.length
  := by
  have perm := split_perm (g := d.graph) (by rw [nodes_graph]; exact d.nodup_names)
  rw [nodes_graph] at perm
  have := perm.length_eq
  rw [rest, inner_graph]
  simp only [nodes, List.length_append, List.length_map] at this
  omega

/-- A stack of which services are left has no waves. -/
theorem startWavesWithin_of_rest {d : Descriptor} (left : d.rest ≠ []) (limit : Nat) :
  d.startWavesWithin limit = .error (faultOf d.rest (findCycle limit d.rest))
  := by
  rw [startWavesWithin, wavesOf]
  split
  · next waves done =>
    apply absurd (congrArg Prod.snd done) left
  · next waves left _ same =>
    have left_eq : left = d.rest := (congrArg Prod.snd same).symm
    rw [left_eq]

/-- When services are left, the search goes straight to a cycle.  The fault names it if the search
may go deep enough. -/
theorem exists_goesStraight {d : Descriptor} (left : d.rest ≠ []) :
  ∃ passed last, GoesStraight d.rest passed last ∧ ∀ limit,
    noteCycle limit d.rest
      = (if passed.length < limit then .found (passed.dropWhile (· != last) ++ [last])
          else .tooDeep,
        ((passed ++ [last]).take limit).map .visit)
    ∧ d.startWavesWithin limit = .error (if passed.length < limit then
        .descriptor (.cycle (passed.dropWhile (· != last) ++ [last])) else .tooDeep)
  := by
  obtain ⟨passed, last, straight, noted⟩ := noteCycle_of_stuck d.stuck_rest left
  refine ⟨passed, last, straight, fun limit => ⟨noted limit, ?_⟩⟩
  rw [startWavesWithin_of_rest left, ← fst_noteCycle, noted limit]
  by_cases deep : passed.length < limit <;> simp [deep, faultOf]

/-- What is left depends on one another as the services do. -/
theorem dependsOn_of_edge_rest {d : Descriptor} {name dependency : String}
    (edge : Edge d.rest name dependency) :
  d.DependsOn name dependency
  := by
  rw [rest, inner_graph] at edge
  exact edge_graph_iff.mp (edge_of_split edge)

/-- A stack has waves exactly if nothing is left of it. -/
theorem rest_eq_nil_iff {d : Descriptor} :
  d.rest = [] ↔ ∃ waves, d.startWaves = .ok waves
  := by
  simp only [startWaves_eq_ok_iff, rest, inner_graph]
  constructor
  · intro none
    exact ⟨_, Prod.ext rfl none⟩
  · rintro ⟨waves, done⟩
    rw [done]

/-- Services are left exactly if some service depends on itself in the end. -/
theorem rest_ne_nil_iff {d : Descriptor} :
  d.rest ≠ [] ↔ d.Cyclic
  := by
  constructor
  · intro left
    obtain ⟨passed, last, straight, -⟩ := exists_goesStraight left
    apply (straight.isCycle.imp fun a b => dependsOn_of_edge_rest).exists_transGen
  · intro cyclic none
    obtain ⟨waves, ok⟩ := rest_eq_nil_iff.mp none
    apply not_cyclic_of_startWaves ok cyclic

theorem exists_startWaves_of_not_cyclic {d : Descriptor} (acyclic : ¬ d.Cyclic) :
  ∃ waves, d.startWaves = .ok waves
  := by
  apply rest_eq_nil_iff.mp
  by_contra left
  apply acyclic (rest_ne_nil_iff.mp left)

theorem startOrder_eq_error_iff {d : Descriptor} {fault : Fault} :
  d.startOrder = .error fault ↔ d.startWaves = .error fault
  := by
  rw [startOrder]
  cases d.startWaves <;> simp [Except.map]

/-- In a stack with a cycle there is one that the search names if it may go deep enough; it passes
no more services than there are, and at least those of the cycle. -/
theorem exists_cycle_of_cyclic {d : Descriptor} (cyclic : d.Cyclic) :
  ∃ path depth, IsCycle d.DependsOn path ∧ path.length ≤ depth + 1 ∧ depth ≤ d.names.length
    ∧ ∀ limit, d.startWavesWithin limit
      = .error (if depth < limit then .descriptor (.cycle path) else .tooDeep)
  := by
  obtain ⟨passed, last, straight, fault⟩ := exists_goesStraight (rest_ne_nil_iff.mpr cyclic)
  refine ⟨_, passed.length, straight.isCycle.imp fun a b => dependsOn_of_edge_rest, ?_, ?_,
    fun limit => (fault limit).2⟩
  · have := (List.dropWhile_suffix (p := (· != last)) (l := passed)).length_le
    simpa using this
  · apply Nat.le_trans straight.length_passed_le d.length_rest_le

end Descriptor

/-! ### Rings -/

namespace Sample

/-- The service at a place of a ring. -/
def seat (i : Nat) : String :=
  "s" ++ toString i

theorem seat_inj {i j : Nat} (same : seat i = seat j) :
  i = j
  := by
  have digits : Nat.toDigits 10 i = Nat.toDigits 10 j := by
    have := congrArg String.toList same
    simpa [seat, toString, Nat.repr_eq_ofList_toDigits] using this
  rw [← Nat.ofDigitChars_ten_toDigits (n := i), digits, Nat.ofDigitChars_ten_toDigits]

/-- The seats of a ring, each with the one that it depends on. -/
def seats (n : Nat) : List (String × Service) :=
  (List.range n).map fun i =>
    (seat i, { name := seat i, dependsOn := ⟨[(seat ((i + 1) % n), .healthy)], by simp⟩ })

theorem keys_seats (n : Nat) :
  (seats n).map Prod.fst = (List.range n).map seat
  := by
  simp [seats, Function.comp_def]

/-- Services that depend on one another in a ring. -/
def ring (n : Nat) : Descriptor where
  project := "ring"
  services := ⟨seats n, by
    rw [keys_seats]
    exact List.nodup_range.map fun i j => seat_inj⟩
  named := by simp [seats]
  closed e mem d depends := by
    obtain ⟨i, lt, rfl⟩ := List.mem_map.mp mem
    obtain rfl : d = seat ((i + 1) % n) := by
      simpa [Service.dependencies, Table.keys] using depends
    rw [Table.keys, keys_seats]
    have pos : 0 < n := Nat.zero_lt_of_lt (List.mem_range.mp lt)
    exact List.mem_map_of_mem (List.mem_range.mpr (Nat.mod_lt _ pos))

/-- The service at a seat depends on the one at the next seat, and on no other. -/
theorem dependsOn_ring_iff {n i : Nat} (lt : i < n) {name : String} :
  (ring n).DependsOn (seat i) name ↔ name = seat ((i + 1) % n)
  := by
  have found : (ring n).services.get? (seat i)
      = some { name := seat i, dependsOn := ⟨[(seat ((i + 1) % n), .healthy)], by simp⟩ } :=
    Table.get?_eq_some_iff.mpr (List.mem_map_of_mem (List.mem_range.mpr lt))
  simp [Descriptor.DependsOn, found, Service.dependencies, Table.keys]

theorem cyclic_ring {n : Nat} (pos : 0 < n) :
  (ring n).Cyclic
  := by
  have reach : ∀ k, Relation.TransGen (ring n).DependsOn (seat 0) (seat ((k + 1) % n)) := by
    intro k
    induction k with
    | zero => exact .single ((dependsOn_ring_iff pos).mpr rfl)
    | succ k ih =>
      have lt : (k + 1) % n < n := Nat.mod_lt _ pos
      exact ih.tail ((dependsOn_ring_iff lt).mpr (by rw [Nat.mod_add_mod]))
  use seat 0
  have around := reach (n - 1)
  rwa [Nat.sub_add_cancel pos, Nat.mod_self] at around

/-- A cycle in a ring goes through all seats. -/
theorem le_length_of_isCycle_ring {n : Nat} {path : List String}
    (cycle : StartOrder.IsCycle (ring n).DependsOn path) :
  n + 1 ≤ path.length
  := by
  obtain ⟨first, rest, same⟩ : ∃ first rest, path.dropLast = first :: rest := by
    apply List.exists_cons_of_ne_nil
    have := cycle.long
    apply List.ne_nil_of_length_pos
    rw [List.length_dropLast]
    omega
  have placed : ∀ name ∈ path.dropLast, ∃ i < n, name = seat i := by
    intro name mem
    obtain ⟨next, -, s, found, -⟩ := cycle.exists_next mem
    obtain ⟨i, lt, e⟩ := List.mem_map.mp (Table.get?_eq_some_iff.mp found)
    exact ⟨i, List.mem_range.mp lt, (Prod.mk.inj e).1.symm⟩
  obtain ⟨i, lt, rfl⟩ := placed first (by simp [same])
  have pos : 0 < n := Nat.zero_lt_of_lt lt
  have onward : ∀ k, seat ((i + k) % n) ∈ path.dropLast := by
    intro k
    induction k with
    | zero => rw [Nat.add_zero, Nat.mod_eq_of_lt lt, same]; exact List.mem_cons_self
    | succ k ih =>
      obtain ⟨next, mem, depends⟩ := cycle.exists_next ih
      obtain rfl := (dependsOn_ring_iff (Nat.mod_lt _ pos)).mp depends
      rwa [Nat.mod_add_mod, Nat.add_assoc] at mem
  have all : (List.range n).map seat ⊆ path.dropLast := by
    intro name mem
    obtain ⟨j, lt', rfl⟩ := List.mem_map.mp mem
    have := onward (n - i + j)
    rwa [← Nat.add_assoc, Nat.add_sub_cancel' (Nat.le_of_lt lt), Nat.add_mod_left,
      Nat.mod_eq_of_lt (List.mem_range.mp lt')] at this
  have nodup : ((List.range n).map seat).Nodup := List.nodup_range.map fun i j => seat_inj
  have := (List.subperm_of_subset nodup all).length_le
  have := cycle.long
  simp only [List.length_map, List.length_range, List.length_dropLast] at *
  omega

/-- A search that may not go deeper than there are seats in a ring does not find the cycle. -/
theorem startWavesWithin_ring {n limit : Nat} (pos : 0 < n) (small : limit ≤ n) :
  (ring n).startWavesWithin limit = .error .tooDeep
  := by
  obtain ⟨path, depth, cycle, long, -, failed⟩ := Descriptor.exists_cycle_of_cyclic (cyclic_ring pos)
  have := le_length_of_isCycle_ring cycle
  rw [failed limit, if_neg (by omega)]

theorem rest_tangled :
  tangled.rest = [("web", ["worker"]), ("worker", ["queue"]), ("queue", ["worker"])]
  := by
  rw [Descriptor.rest, Descriptor.inner_graph, StartOrder.split_of_stuck rfl]
  rfl

theorem rest_tangled_ne_nil :
  tangled.rest ≠ []
  := by
  rw [rest_tangled]
  apply List.cons_ne_nil

end Sample

/-! ### What the search comes to -/

namespace Descriptor

open StartOrder

/-- Putting the services of a stack in order fails exactly if there is a cycle among them.  There is
a cycle then that the fault names, if the search may go deep enough to find it: each service depends
on the next, the last is the first again, and no other comes twice.  The search passes each service
once at most, so it finds the cycle if it may go as deep as there are services and one more; if it
may not go deep enough, it is given up. -/
theorem startWaves_fails_iff_cyclic (d : Descriptor) :
  (∀ limit, d.Cyclic ↔ ∃ fault, d.startWavesWithin limit = .error fault)
    ∧ (∀ fault, d.startOrder = .error fault ↔ d.startWaves = .error fault)
    ∧ (d.Cyclic → ∃ path depth, IsCycle d.DependsOn path ∧ path.length ≤ depth + 1
      ∧ depth ≤ d.names.length
      ∧ ∀ limit, d.startWavesWithin limit
        = .error (if depth < limit then .descriptor (.cycle path) else .tooDeep))
  := by
  refine ⟨fun limit => ⟨fun cyclic => ?_, ?_⟩, fun fault => startOrder_eq_error_iff,
    exists_cycle_of_cyclic⟩
  · obtain ⟨path, depth, -, -, -, failed⟩ := exists_cycle_of_cyclic cyclic
    exact ⟨_, failed limit⟩
  · rintro ⟨fault, failed⟩
    by_contra acyclic
    obtain ⟨waves, ok⟩ := exists_startWaves_of_not_cyclic acyclic
    have ok' : d.startWavesWithin limit = .ok waves :=
      startWavesWithin_eq_ok_iff.mpr (startWaves_eq_ok_iff.mp ok)
    cases ok'.symm.trans failed

/-- The web server is on no cycle, and the search passes it before it finds one. -/
theorem startWaves_fails_iff_cyclic_tangled :
  Sample.tangled.Cyclic
    ∧ (∃ path, Sample.tangled.startWaves = .error (.descriptor (.cycle path))
      ∧ IsCycle Sample.tangled.DependsOn path)
    ∧ Sample.tangled.startWavesWithin 0 = .error .tooDeep
  := by
  obtain ⟨-, -, search⟩ := startWaves_fails_iff_cyclic Sample.tangled
  have cyclic := rest_ne_nil_iff.mp Sample.rest_tangled_ne_nil
  obtain ⟨path, depth, cycle, -, small, failed⟩ := search cyclic
  have three : depth ≤ 3 := small
  refine ⟨cyclic, ⟨path, ?_, cycle⟩, ?_⟩
  · rw [startWaves, failed, if_pos (by rw [searchLimit]; omega)]
  · rw [failed, if_neg (Nat.not_lt_zero depth)]

/-- In a ring of two thousand services there is a cycle, and the search for it is given up. -/
theorem startWaves_ring :
  (Sample.ring 2000).Cyclic ∧ (Sample.ring 2000).startWaves = .error .tooDeep
    ∧ (Sample.ring 2000).startOrder = .error .tooDeep
    ∧ ∀ path, (Sample.ring 2000).startWaves ≠ .error (.descriptor (.cycle path))
  := by
  have failed : (Sample.ring 2000).startWaves = .error .tooDeep :=
    Sample.startWavesWithin_ring (by decide) (by decide)
  refine ⟨Sample.cyclic_ring (by decide), failed, startOrder_eq_error_iff.mpr failed, ?_⟩
  intro path
  rw [failed]
  nofun

/-- When services are left that no wave can take, each of them depends on something, and on
services that are left only.  So the search goes straight to a cycle: it never goes back from a
service, finds the dependencies of every service that it passes, and makes at most one move more
than there are services left.  It comes as far as the cycle if it may make so many moves one inside
the other, and is given up otherwise. -/
theorem search_of_stuck {d : Descriptor} (stuck : d.rest ≠ []) :
  (∀ n ∈ d.rest, n.2 ≠ [] ∧ ∀ dependency ∈ n.2, dependency ∈ nodes d.rest)
    ∧ ∃ passed last, GoesStraight d.rest passed last
      ∧ (∀ name ∈ passed, (d.rest.lookup name).isSome)
      ∧ passed.length ≤ d.rest.length
      ∧ ∀ limit,
        noteCycle limit d.rest
          = (if passed.length < limit then .found (passed.dropWhile (· != last) ++ [last])
              else .tooDeep,
            ((passed ++ [last]).take limit).map .visit)
        ∧ (noteCycle limit d.rest).2.length ≤ d.rest.length + 1
        ∧ (noteCycle limit d.rest).1 = findCycle limit d.rest
        ∧ d.startWavesWithin limit = .error (if passed.length < limit then
            .descriptor (.cycle (passed.dropWhile (· != last) ++ [last])) else .tooDeep)
  := by
  obtain ⟨passed, last, straight, goes⟩ := exists_goesStraight stuck
  refine ⟨fun n mem => ⟨d.stuck_rest.depends n mem, d.stuck_rest.closed n mem⟩, passed, last,
    straight, fun name => straight.isSome_lookup, straight.length_passed_le, fun limit =>
    ⟨(goes limit).1, ?_, fst_noteCycle limit d.rest, (goes limit).2⟩⟩
  rw [(goes limit).1, List.length_map, List.length_take, List.length_append,
    List.length_singleton]
  have := straight.length_passed_le
  omega

/-- The search comes to all three services, and then to one of them again.  If it may not go so deep,
it is given up on the way. -/
theorem search_of_stuck_tangled :
  Sample.tangled.rest ≠ []
    ∧ (∃ passed last, GoesStraight Sample.tangled.rest passed last
      ∧ ∀ limit, passed.length < limit →
        (noteCycle limit Sample.tangled.rest).2 = (passed ++ [last]).map .visit)
    ∧ noteCycle 4 Sample.tangled.rest = (.found ["worker", "queue", "worker"],
      [.visit "web", .visit "worker", .visit "queue", .visit "worker"])
    ∧ noteCycle 2 Sample.tangled.rest = (.tooDeep, [.visit "web", .visit "worker"])
  := by
  obtain ⟨-, passed, last, straight, -, -, goes⟩ := search_of_stuck Sample.rest_tangled_ne_nil
  refine ⟨Sample.rest_tangled_ne_nil, ⟨passed, last, straight, fun limit deep => ?_⟩, ?_, ?_⟩
  · rw [(goes limit).1, List.take_of_length_le]
    rw [List.length_append, List.length_singleton]
    exact deep
  · rw [Sample.rest_tangled]
    simp [noteCycle, nodes, noteAll, noteVisit, List.lookup_cons]
  · rw [Sample.rest_tangled]
    simp [noteCycle, nodes, noteAll, noteVisit, List.lookup_cons]

/-- In a ring of two thousand services no wave can be formed, and the search finds no cycle. -/
theorem findCycle_ring :
  (Sample.ring 2000).rest ≠ []
    ∧ ∀ cycle, findCycle searchLimit (Sample.ring 2000).rest ≠ .found cycle
  := by
  have left := rest_ne_nil_iff.mpr (Sample.cyclic_ring (n := 2000) (by decide))
  refine ⟨left, fun cycle found => ?_⟩
  have failed : (Sample.ring 2000).startWavesWithin searchLimit = .error .tooDeep :=
    Sample.startWavesWithin_ring (by decide) (by decide)
  rw [startWavesWithin_of_rest left, found] at failed
  cases failed

end Descriptor

end Muster
