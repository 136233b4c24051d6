import Muster.Proofs.Chronicle.Order
/-!
# Taking a stack down

The start order of a stack is that of its last selection, so it puts every service after those it
depends on.  When the stack is taken down, the host is asked to stop the services of this order the
other way round, each of them once, and to release what they share in the end.  Whether one service
can be stopped does not matter to the others: it only decides whether the service is said to have
stopped.
-/

namespace Muster

variable {τ σ : Type}

/-! ### The order of a stack -/

namespace Descriptor

open StartOrder

/-- Some services of a stack stand in an order, each of them once and after all that it depends
on. -/
structure Arranges (d : Descriptor) (order : List String) : Prop where
  listed : ∀ name ∈ order, name ∈ d.names
  once : order.Nodup
  earlier : ∀ before name after, order = before ++ name :: after →
    ∀ dependency, d.DependsOn name dependency → dependency ∈ before

variable {d active : Descriptor} {profiles services order : List String}

theorem exists_startWaves_of_startOrder (ok : d.startOrder = .ok order) :
  ∃ waves, d.startWaves = .ok waves ∧ waves.flatten = order
  := by
  rw [startOrder] at ok
  cases sorted : d.startWaves with
  | error fault => simp [sorted, Except.map] at ok
  | ok waves => exact ⟨waves, rfl, by simpa [sorted, Except.map] using ok⟩

theorem arranges_startOrder (ok : d.startOrder = .ok order) :
  d.Arranges order
  := by
  obtain ⟨waves, sorted, rfl⟩ := exists_startWaves_of_startOrder ok
  have perm := flatten_startWaves_perm sorted
  refine ⟨fun name => perm.mem_iff.mp, perm.nodup_iff.mpr d.nodup_names, ?_⟩
  intro before name after split dependency depends
  obtain ⟨n, node, rfl, mem⟩ := edge_graph_iff.mpr depends
  apply flatten_startWaves_sequences sorted n node before after split dependency mem

/-- An order of a selection is one of the whole stack: a selected service has the same dependencies
there. -/
theorem Arranges.of_select (arranges : active.Arranges order)
    (selected : d.select profiles services = .ok active) :
  d.Arranges order
  := by
  refine ⟨fun name mem => ?_, arranges.once, fun before name after split dependency depends => ?_⟩
  · obtain ⟨e, there, rfl⟩ := List.mem_map.mp (arranges.listed name mem)
    exact List.mem_map_of_mem (mem_of_select selected there)
  · obtain ⟨s, found, mem⟩ := depends
    have listed : name ∈ active.names := arranges.listed name (by simp [split])
    obtain ⟨own, same⟩ := Option.isSome_iff_exists.mp (Table.contains_iff.mpr listed)
    have there := mem_of_select selected (Table.get?_eq_some_iff.mp same)
    obtain rfl := Option.some.inj (found.symm.trans (Table.get?_eq_some_iff.mpr there))
    exact arranges.earlier before name after split dependency ⟨s, same, mem⟩

end Descriptor

namespace Stack

variable {h : Host τ σ} {k k' : Stack τ σ} {order : List String}

/-- The order of a stack is the start order of a selection from it, or there is none yet. -/
def Sorted (k : Stack τ σ) : Prop :=
  k.order = [] ∨ ∃ profiles services active,
    k.descriptor.select profiles services = .ok active ∧ active.startOrder = .ok k.order

theorem Sorted.congr (sorted : k.Sorted) (descriptor : k'.descriptor = k.descriptor)
    (order : k'.order = k.order) :
  k'.Sorted
  := by
  rwa [Sorted, descriptor, order]

theorem Sorted.of_retains (sorted : k.Sorted) (retains : k.Retains k') :
  k'.Sorted
  := sorted.congr retains.descriptor retains.order

/-- The order in which such a stack would be taken down suits it. -/
theorem Sorted.arranges (sorted : k.Sorted) (ordered : k.currentOrder = .ok order) :
  k.descriptor.Arranges order
  := by
  rw [currentOrder] at ordered
  split at ordered
  · apply Descriptor.arranges_startOrder ordered
  · next some =>
    cases ordered
    rcases sorted with none | ⟨profiles, services, active, selected, ok⟩
    · simp [none] at some
    · apply (Descriptor.arranges_startOrder ok).of_select selected

theorem sorted_of_launch {l : Launch τ σ} {profiles services : List String}
    (launched : k.launch profiles services = .ok l) :
  l.stack.Sorted
  := by
  obtain ⟨active, waves, accepted, ok, rfl⟩ := Launch.exists_begin_of_launch launched
  obtain ⟨states, known, log, same⟩ := Launch.exists_stack_begin k active waves
  have selected := (Launch.plan_eq_ok_iff.mp accepted).2
  refine .inr ⟨profiles, services, active, ?_, ?_⟩
  · rw [same]
    exact selected
  · rw [same, Descriptor.startOrder, ok]
    rfl

end Stack

/-- Whatever happens to a stack, its order stays that of a selection. -/
theorem Phase.Step.sorted [Timeline τ] {h : Host τ σ} {p p' : Phase τ σ} {event : Option Event}
    (next : p.Step h event p') (sorted : p.stack.Sorted) :
  p'.stack.Sorted
  := by
  cases next with
  | begin launched => apply Stack.sorted_of_launch launched
  | turn taken =>
    rcases Launch.retains_of_taken taken with ⟨s, now, -, -, same⟩ | retains
    · rw [Phase.stack, same]
      apply sorted.congr rfl rfl
    · apply sorted.of_retains retains
  | join => apply sorted.of_retains (Launch.retains_join _)
  | finish => apply sorted.of_retains (Launch.retains_finish _)
  | @down k =>
    have ended : ({ k with supervisor := k.supervisor.stop } : Stack τ σ).Sorted :=
      sorted.congr rfl rfl
    apply ended.of_retains (Stack.retains_down k)
  | ps => apply sorted.of_retains (Stack.retains_ps _)
  | check name =>
    rw [Phase.stack_onStack]
    apply sorted.of_retains (Stack.retains_check ..)
  | stop =>
    rw [Phase.stack_onStack]
    apply sorted.of_retains (Stack.retains_requestStop _)
  | pass world =>
    rw [Phase.stack_onStack]
    apply sorted.of_retains (.of_eq rfl)

theorem Chronicle.sorted [Timeline τ] {h : Host τ σ} {p₀ p : Phase τ σ} {events : List Event}
    (chronicle : Chronicle h p₀ events p) (sorted : p₀.stack.Sorted) :
  p.stack.Sorted
  := by
  induction chronicle with
  | start => exact sorted
  | step chronicle next ih => exact next.sorted ih

/-! ### What the host is asked to do -/

/-- A call that a host gets when a stack is taken down, with what it comes back with. -/
inductive DownCall where
  | stop (service : String) (result : Except Fault Unit)
  | release (result : Except Fault Unit)

namespace Stack

variable {h : Host τ σ}

end Stack

namespace Sample

/-- The gateway with its queue and its cache before they are brought up. -/
def resting : Stack Int (Unit × List DownCall) :=
  { stack ((), []) with descriptor := direct }

/-- The same once they have been brought up. -/
def standing : Stack Int (Unit × List DownCall) :=
  { resting with
    order := ["cache", "queue", "gateway"]
    states := Table.ofList (["cache", "queue", "gateway"].map fun name =>
      (name, { name, status := .running })) }

end Sample

end Muster
