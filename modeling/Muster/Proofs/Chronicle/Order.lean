import Muster.Launcher.Report
import Muster.Proofs.Chronicle.Down
import Muster.Proofs.Launch.Outcome
import Muster.Proofs.StartOrder.Level
import Muster.Proofs.StartOrder.Selection
/-!
# Starting and stopping in order

Whatever works on a selection works on it in the order of the whole stack.  Services are brought up
in this order, and it is the order in which they are listed.  A stack that is taken down without
having been brought up before, as happens when another run of the launcher did that, is stopped in
the opposite order: the services that were brought up are stopped the other way round.
-/

namespace Muster

variable {τ σ : Type}

/-! ### Minutes of what is stopped -/

/-- A host that puts down which services it is asked to stop, oldest first. -/
def Host.minuting (h : Host τ σ) : Host τ (σ × List String) where
  clock w := h.clock w.1
  start s w := ((h.start s w.1).1, (h.start s w.1).2, w.2)
  stop s time w := ((h.stop s time w.1).1, (h.stop s time w.1).2, w.2 ++ [s.name])
  isRunning s w := ((h.isRunning s w.1).1, (h.isRunning s w.1).2, w.2)
  exitCode s w := ((h.exitCode s w.1).1, (h.exitCode s w.1).2, w.2)
  check s c w := ((h.check s c w.1).1, (h.check s c w.1).2, w.2)
  busy s w := h.busy s w.1
  teardown w := ((h.teardown w.1).1, (h.teardown w.1).2, w.2)
  wait time w := (h.wait time w.1).map fun world => (world, w.2)

/-- The user does not break off a stop. -/
def Host.Patient (h : Host τ σ) : Prop :=
  ∀ s time w m, (h.stop s time w).1.result ≠ .error (.interrupt m)

namespace Stack

variable {h : Host τ σ} {k : Stack τ (σ × List String)}

theorem fst_stopService (patient : h.Patient) (k : Stack τ σ) (s : Service) :
  (k.stopService h s).1 = .ok ()
  := by
  obtain ⟨known, met⟩ := exists_meet (k.note (.about .info "service_stopping" s.name [])) s.name
  unfold stopService
  rw [met]
  simp only
  split
  · rfl
  · next called => cases patient _ _ _ _ (congrArg Prod.fst called)
  · rfl

/-- Services are stopped in the order in which they stand. -/
theorem minutes_stopServices (patient : h.Patient) (services : List Service)
    (k : Stack τ (σ × List String)) :
  (stopServices h.minuting services k).1 = .ok ()
    ∧ (stopServices h.minuting services k).2.world.2 = k.world.2 ++ services.map (·.name)
  := by
  induction services generalizing k with
  | nil => exact ⟨rfl, by simp [stopServices]⟩
  | cons s rest ih =>
    have first := fst_stopService (h := h.minuting) (fun s time w => patient s time w.1) k s
    have world := world_stopService h.minuting k s
    rw [stopServices]
    split
    · next stopped called =>
      rw [called] at world
      obtain ⟨all, later⟩ := ih stopped
      refine ⟨all, ?_⟩
      rw [later, world]
      simp [Host.minuting]
    · next failed => cases failed _ (Prod.ext first rfl)

/-- The services found under some names have these names. -/
theorem map_name_filterMap {d : Descriptor} {order : List String}
    (listed : ∀ name ∈ order, name ∈ d.names) :
  (order.filterMap d.services.get?).map (·.name) = order
  := by
  induction order with
  | nil => rfl
  | cons name rest ih =>
    obtain ⟨known, others⟩ := List.forall_mem_cons.mp listed
    obtain ⟨s, found⟩ := Option.isSome_iff_exists.mp (Table.contains_iff.mpr known)
    rw [List.filterMap_cons_some found, List.map_cons, ih others, ← Launch.named_of_get? found]

/-- The services of a stack that is taken down are stopped in the opposite order. -/
theorem minutes_down (patient : h.Patient) {order : List String}
    (ordered : k.currentOrder = .ok order) (listed : ∀ name ∈ order, name ∈ k.descriptor.names) :
  (k.down h.minuting).2.world.2 = k.world.2 ++ order.reverse
  := by
  have names : (order.reverse.filterMap k.descriptor.services.get?).map (·.name) = order.reverse :=
    map_name_filterMap fun name mem => listed name (List.mem_reverse.mp mem)
  have ordered' : { k with supervisor := k.supervisor.stop }.currentOrder = .ok order := ordered
  obtain ⟨all, minutes⟩ := minutes_stopServices patient
    (order.reverse.filterMap k.descriptor.services.get?) { k with supervisor := k.supervisor.stop }
  rw [names] at minutes
  rw [down]
  simp only [ordered']
  split
  · next called =>
    rw [called] at all
    cases all
  · next stopped called =>
    rw [called] at minutes
    split
    all_goals
      next called =>
      have world := congrArg (·.2.world) called
      simp only [world_hear] at world
      exact (congrArg Prod.snd world).symm.trans minutes

/-- A stack that has not been brought up yet is stopped in the order opposite to that of all its
services. -/
theorem minutes_down_of_unused (patient : h.Patient) {waves : List (List String)}
    (ok : k.descriptor.startWaves = .ok waves) (unused : k.order = []) :
  (k.down h.minuting).2.world.2 = k.world.2 ++ waves.flatten.reverse
  := by
  have ordered : k.currentOrder = .ok waves.flatten := by
    simp [currentOrder, unused, Descriptor.startOrder, ok, Except.map]
  apply minutes_down patient ordered
  intro name mem
  exact (Descriptor.flatten_startWaves_perm ok).mem_iff.mp mem

/-- Services are brought up in the start order of the selection, however their workers take
turns. -/
theorem order_of_launch {h : Host τ σ} {k : Stack τ σ} {active : Descriptor}
    {profiles services : List String} {waves : List (List String)}
    (accepted : k.plan profiles services = .ok active) (ok : active.startWaves = .ok waves) :
  ∃ l, k.launch profiles services = .ok l ∧ l.services = active.services
    ∧ ∀ trace l', l.Run h Disturbs trace l' → l'.stack.order = waves.flatten
  := by
  obtain ⟨waves', ok', launched⟩ := Launch.exists_begin accepted
  obtain rfl := Except.ok.inj (ok.symm.trans ok')
  refine ⟨_, launched, rfl, fun trace l' run => ?_⟩
  rw [run.order (Launch.fresh_begin ok) fun _ _ => id, Launch.order_begin]

end Stack

/-- Bringing services up leaves the order of the run that it ends with, and reports it. -/
theorem Launch.order_finish (l : Launch τ σ) :
  l.finish.2.order = l.stack.order ∧ ∀ report, l.finish.1 = .ok report → report.order = l.stack.order
  := by
  rw [Launch.finish]
  split
  · refine ⟨rfl, ?_⟩
    intro report same
    cases same
  · simp only
    split
    all_goals
      refine ⟨rfl, ?_⟩
      intro report same
      cases same
      rfl

/-! ### The order of a selection -/

namespace Descriptor

open StartOrder

/-- All that works on a selection keeps to the order of the whole stack, whose waves are given. -/
structure InOrder (d active : Descriptor) (profiles services : List String)
    (waves : List (List String)) : Prop where
  kept : active.startWaves = .ok (keepIn active.names waves)
  order : active.startOrder = .ok (waves.flatten.filter active.names.contains)
  /-- The names of the services that some profiles enable are shown in this order. -/
  shown : services = [] → Launcher.config d profiles true
    = (.sayAll {} (waves.flatten.filter active.names.contains), .exit 0)
  /-- The workers of the selection are begun in this order, and whatever they do, it is kept. -/
  launched : ∀ {τ σ : Type} (h : Host τ σ) (k : Stack τ σ), k.descriptor = d →
    ∃ l, k.launch profiles services = .ok l ∧ l.services = active.services
      ∧ ∀ trace l', l.Run h Stack.Disturbs trace l' →
        l'.stack.order = waves.flatten.filter active.names.contains
  /-- This is the order that bringing up the selection leaves and reports. -/
  reported : ∀ {τ σ : Type} (h : Host τ σ) (k : Stack τ σ), k.descriptor = d →
    (k.up h profiles services).2.order = waves.flatten.filter active.names.contains
      ∧ ∀ report, (k.up h profiles services).1 = .ok report →
        report.order = waves.flatten.filter active.names.contains
  /-- When the stack is taken down without having been brought up, the services of the selection
  are stopped in the opposite order. -/
  stopped : ∀ {τ σ : Type} (h : Host τ σ) (k : Stack τ (σ × List String)), h.Patient →
    k.descriptor = d → k.order = [] → k.world.2 = [] →
    (k.down h.minuting).2.world.2.filter active.names.contains
      = (waves.flatten.filter active.names.contains).reverse

/-- A selection from a stack without cycles has waves: those of the stack without the services that
are not selected.  Its start order is that of the stack without them, the selection is listed and
brought up in this order, and a stack that is taken down without having been brought up is stopped
in the opposite order. -/
theorem inOrder_of_select {d active : Descriptor} {profiles services : List String}
    (acyclic : ¬ d.Cyclic) (selected : d.select profiles services = .ok active) :
  ∃ waves, d.startWaves = .ok waves ∧ d.InOrder active profiles services waves
  := by
  obtain ⟨waves, ok⟩ := exists_startWaves_of_not_cyclic acyclic
  have whole : d.startOrder = .ok waves.flatten := by simp [startOrder, ok, Except.map]
  have kept := startWaves_of_select ok selected
  have order := startOrder_of_select ok selected
  have accepted {τ σ : Type} (k : Stack τ σ) (same : k.descriptor = d) :
      k.plan profiles services = .ok active :=
    Launch.plan_eq_ok_iff.mpr (by rw [same]; exact ⟨⟨waves, ok⟩, selected⟩)
  have launched {τ σ : Type} (h : Host τ σ) (k : Stack τ σ) (same : k.descriptor = d) :=
    flatten_keepIn active.names waves ▸ Stack.order_of_launch (h := h) (accepted k same) kept
  refine ⟨waves, ok, {
    kept := kept
    order := order
    shown := ?_
    launched := launched
    reported := ?_
    stopped := ?_ }⟩
  · rintro rfl
    have active : Launcher.active d profiles
        = .ok (active, waves.flatten.filter active.names.contains) := by
      simp [Launcher.active, whole, selected, order, Except.mapError, bind, Except.bind, pure,
        Except.pure]
    rw [Launcher.config, active]
    rfl
  · intro τ σ h k same
    obtain ⟨l, begun, -, kept⟩ := launched h k same
    have run : l.Run h Stack.Disturbs [] l := .start
    obtain ⟨trace, run⟩ := run.fair
    have up : k.up h profiles services = (l.run h).finish := by rw [Stack.up, begun]
    rw [up, ← kept trace _ run]
    apply Launch.order_finish
  · intro τ σ h k patient same unused blank
    rw [← same] at ok
    rw [Stack.minutes_down_of_unused patient ok unused, blank, List.nil_append, List.filter_reverse]

end Descriptor

namespace Sample

/-- The queue with the cache that it depends on. -/
def backend : Descriptor where
  project := "gateway"
  services := direct.services.filter fun name _ => ["cache", "queue"].contains name
  named := by decide
  closed := by decide

theorem select_direct :
  direct.select [] ["queue"] = .ok backend
  := by
  have reached : Descriptor.reach direct.services ["queue"] [] = ["cache", "queue"] := by
    simp [Descriptor.reach, direct, gateway, Table.get?, Table.lookup, Service.dependencies,
      Table.keys, EmptyCollection.emptyCollection, Table.empty]
  have asked : ["queue"].filter (!direct.services.contains ·) = [] := by rfl
  rw [Descriptor.select, asked, reached]
  rfl

/-- The stack of the gateway, before anything has been brought up. -/
def entrance : Stack Int (Unit × List String) :=
  { stack ((), []) with descriptor := direct }

end Sample

/-- The gateway is not needed for its queue, and the last wave is dropped.  When the stack is taken
down, the queue is stopped before the cache that it depends on. -/
theorem Descriptor.inOrder_of_select_queue :
  ¬ Sample.direct.Cyclic ∧ Sample.direct.select [] ["queue"] = .ok Sample.backend
    ∧ Sample.direct.startWaves = .ok [["cache"], ["queue"], ["gateway"]]
    ∧ Sample.backend.startWaves = .ok [["cache"], ["queue"]]
    ∧ (Sample.entrance.down Sample.host.minuting).2.world.2.filter ["queue", "cache"].contains
      = ["queue", "cache"]
  := by
  have ok := Sample.startWaves_direct
  have acyclic := not_cyclic_of_startWaves ok
  obtain ⟨waves, same, inOrder⟩ := inOrder_of_select acyclic Sample.select_direct
  cases ok.symm.trans same
  refine ⟨acyclic, Sample.select_direct, ok, inOrder.kept, ?_⟩
  apply inOrder.stopped Sample.host Sample.entrance (fun _ _ _ _ => nofun) rfl rfl rfl

end Muster
