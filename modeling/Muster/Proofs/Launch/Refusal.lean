import Muster.Proofs.Launch.Progress
import Muster.Proofs.StartOrder.Profiles
import Muster.Proofs.StartOrder.Rest
/-!
# What is not brought up

A stack is not brought up if there is a cycle among its services, selected or not, or if the
selection does not make sense.  This is found out before anything is done, so the stack stays as it
is.  Nothing that happens later comes out as such a refusal: a worker keeps the faults of a stack to
itself.
-/

namespace Muster

/-! ### Selections that make no sense -/

namespace Descriptor

variable {d active : Descriptor} {profiles services : List String}

/-- A selection makes no sense if it names something that is no service, or if it names nothing and
a service that takes part depends on one that does not. -/
def Unselectable (d : Descriptor) (profiles services : List String) : Prop :=
  (services = [] ∧ ∃ name dependency, d.Misses profiles name dependency)
    ∨ ∃ name ∈ services, name ∉ d.names

/-- Every selection makes no sense or comes to something, and cycles are none of its business. -/
theorem select_cases (d : Descriptor) (profiles services : List String) :
  (d.Unselectable profiles services
      ∧ ∃ fault, d.select profiles services = .error fault ∧ ∀ path, fault ≠ .cycle path)
    ∨ (¬ d.Unselectable profiles services ∧ ∃ active, d.select profiles services = .ok active)
  := by
  by_cases unknown : ∃ name ∈ services, name ∉ d.names
  · obtain ⟨name, mem, new⟩ := unknown
    exact .inl ⟨.inr ⟨name, mem, new⟩, _, select_of_unknown profiles mem new, nofun⟩
  · have known : ∀ name ∈ services, name ∈ d.names := by simpa using unknown
    by_cases none : services = []
    · subst none
      by_cases missing : ∃ name dependency, d.Misses profiles name dependency
      · obtain ⟨name, dependency, misses⟩ := missing
        obtain ⟨fault, refused, found⟩ := select_profiles_of_misses misses
        obtain ⟨_, _, rfl, -⟩ := misses_of_disabledDependency? found
        exact .inl ⟨.inl ⟨rfl, name, dependency, misses⟩, _, refused, nofun⟩
      · have contained := selfContained_iff_misses.mpr missing
        have contained' : d.SelfContained {name | name ∈ d.enabled profiles} := by
          simpa only [mem_enabled_iff] using contained
        obtain ⟨active, ok, -⟩ := exists_restrict contained'
        refine .inr ⟨?_, active, (select_profiles_of_selfContained contained).trans ok⟩
        rintro (⟨-, misses⟩ | unknown')
        · exact missing misses
        · exact unknown unknown'
    · obtain ⟨active, ok, -⟩ := exists_fulfils (isLeast_reach known) known
      refine .inr ⟨?_, active, (select_of_known profiles none known).trans ok⟩
      rintro (⟨empty, -⟩ | unknown')
      · exact none empty
      · exact unknown unknown'

end Descriptor

/-! ### The faults of workers -/

namespace Worker

variable {τ σ : Type} {h : Host τ σ} {s : Service} {k : Stack τ σ} {w w' : Worker}
  {state state' : ServiceState} {call : Option Call} {world : σ}

/-- The fault that a worker will die of, or has died of. -/
def fatal? : Worker → Option Fault
  | failing _ fault => fault
  | ended fault => fault
  | _ => none

/-- A worker keeps the faults of a stack to itself. -/
def Discreet (w : Worker) : Prop :=
  ∀ fault, w.fatal? = some fault → fault.isStack = false

theorem discreet_of_none (none : w.fatal? = none) :
  w.Discreet
  := by
  intro fault fatal
  cases none.symm.trans fatal

theorem discreet_giveUp (s : Service) (fault : Fault) :
  (giveUp s fault).1.Discreet
  := by
  cases fault with
  | stack cause => cases cause <;> exact discreet_of_none rfl
  | _ =>
    rintro fatal ⟨⟩
    rfl

theorem Moves.discreet (moves : Moves h s k state w call w' state' world) (discreet : w.Discreet) :
  w'.Discreet
  := by
  cases moves with
  | shutDown | lose | startFault | pollFault => apply discreet_giveUp
  | fail | fall => exact discreet
  | _ => exact discreet_of_none rfl

end Worker

namespace Launch

variable {τ σ : Type} {h : Host τ σ} {others : Stack τ σ → Stack τ σ → Prop} {l₀ l : Launch τ σ}
  {trace : List Worker.Turn}

/-- No worker has come upon a fault of a stack that it does not keep to itself. -/
structure Discreet (l : Launch τ σ) : Prop where
  workers : ∀ name w, l.workers.get? name = some w → w.Discreet
  crash : ∀ fault, l.crash = some fault → fault.isStack = false

theorem discreet_begin (k : Stack τ σ) (active : Descriptor) (waves : List (List String)) :
  (begin k active waves).Discreet
  where
  workers name w found := by
    rw [begin, Table.get?_map] at found
    obtain ⟨s, -, rfl⟩ := Option.map_eq_some_iff.mp found
    exact Worker.discreet_of_none rfl
  crash := nofun

theorem Discreet.join (discreet : l.Discreet) :
  l.join.Discreet
  where
  workers := workers_join.symm ▸ discreet.workers
  crash fault crashed := by
    rw [Launch.join] at crashed
    split at crashed
    · next first _ found =>
      cases crashed
      obtain ⟨w, mem, dead⟩ := List.exists_of_findSome?_eq_some found
      obtain ⟨e, there, rfl⟩ := List.mem_map.mp mem
      cases w : e.2 with
      | ended fatal =>
        rw [w] at dead
        apply discreet.workers e.1 e.2 (Table.get?_eq_some_iff.mpr there)
        rw [w]
        exact dead
      | _ =>
        rw [w] at dead
        cases dead
    · apply discreet.crash fault crashed

theorem Run.discreet (run : l₀.Run h others trace l) (staffed : l₀.Staffed)
    (bound : ∀ k k', others k k' → k.Disturbs k') (discreet : l₀.Discreet) :
  l.Discreet
  := by
  refine run.invariant staffed bound (P := fun _ l => l.Discreet) discreet ?_ ?_ ?_
  · intro trace l l' s w state call w' state' _ discreet takes
    refine ⟨fun name v found => ?_, takes.crash.symm ▸ discreet.crash⟩
    rw [takes.workers, Table.get?_insert] at found
    split at found
    · cases found
      apply takes.moves.discreet (discreet.workers _ _ takes.before.worker)
    · apply discreet.workers name v found
  · intro trace l discreet
    apply discreet.join
  · intro trace l k _ discreet _
    exact ⟨discreet.workers, discreet.crash⟩

theorem fst_finish_eq_error_iff {fault : Fault} :
  l.finish.1 = .error fault ↔ l.crash = some fault
  := by
  rw [finish]
  cases l.crash with
  | some crash => simp
  | none =>
    simp only
    split <;> simp

end Launch

/-! ### Bringing services up -/

namespace Stack

variable {τ σ : Type} {h : Host τ σ} {k k' : Stack τ σ} {profiles services : List String}
  {result : Except Fault UpReport} {active : Descriptor}

/-- What bringing services up may come to, however the workers take turns and others disturb the
stack meanwhile. -/
inductive Ups (h : Host τ σ) (k : Stack τ σ) (profiles services : List String) :
    Except Fault UpReport → Stack τ σ → Prop where
  /-- The selection is not accepted, and nothing is done. -/
  | refused {fault} (refused : k.launch profiles services = .error fault) :
    Ups h k profiles services (.error fault) k
  /-- All workers have ended. -/
  | ended {l trace l'} (launched : k.launch profiles services = .ok l)
      (run : l.Run h Disturbs trace l') (finished : l'.isOver = true) :
    Ups h k profiles services l'.finish.1 l'.finish.2

/-- Bringing services up comes to something. -/
theorem ups_up (h : Host τ σ) (k : Stack τ σ) (profiles services : List String) :
  k.Ups h profiles services (k.up h profiles services).1 (k.up h profiles services).2
  := by
  rw [up]
  cases launched : k.launch profiles services with
  | error fault => exact .refused launched
  | ok l =>
    obtain ⟨active, waves, -, ok, rfl⟩ := Launch.exists_begin_of_launch launched
    have first : (Launch.begin k active waves).Run h Disturbs [] _ := .start
    obtain ⟨trace, run⟩ := first.fair
    exact .ended launched run (Launch.isOver_run (Launch.fresh_begin ok))

/-- A selection is not accepted because of a cycle in the stack, or else because it makes no
sense. -/
theorem launch_cases (k : Stack τ σ) (profiles services : List String) :
  (k.descriptor.Cyclic ∧ ∃ fault, k.descriptor.startWaves = .error fault
      ∧ k.launch profiles services = .error fault)
    ∨ (¬ k.descriptor.Cyclic ∧ k.descriptor.Unselectable profiles services
      ∧ ∃ fault, k.launch profiles services = .error (.descriptor fault)
        ∧ ∀ path, fault ≠ .cycle path)
    ∨ (¬ k.descriptor.Cyclic ∧ ¬ k.descriptor.Unselectable profiles services
      ∧ ∃ l, k.launch profiles services = .ok l)
  := by
  by_cases cyclic : k.descriptor.Cyclic
  · obtain ⟨path, depth, -, -, -, failed⟩ := Descriptor.exists_cycle_of_cyclic cyclic
    have failed : k.descriptor.startWaves = _ := failed StartOrder.searchLimit
    refine .inl ⟨cyclic, _, failed, ?_⟩
    rw [launch, plan, Descriptor.startOrder_eq_error_iff.mpr failed]
  · right
    obtain ⟨waves, ok⟩ := Descriptor.exists_startWaves_of_not_cyclic cyclic
    rcases k.descriptor.select_cases profiles services with
      ⟨senseless, fault, failed, other⟩ | ⟨sound, active, selected⟩
    · refine .inl ⟨cyclic, senseless, fault, ?_, other⟩
      rw [launch, plan, Descriptor.startOrder, ok, failed]
      rfl
    · have accepted := Launch.plan_eq_ok_iff.mpr ⟨⟨waves, ok⟩, selected⟩
      obtain ⟨waves, -, launched⟩ := Launch.exists_begin accepted
      exact .inr ⟨cyclic, sound, _, launched⟩

/-- Services of a stack with a cycle are not brought up, whatever is selected. -/
theorem Ups.of_cyclic (ups : k.Ups h profiles services result k')
    (cyclic : k.descriptor.Cyclic) {fault : Fault}
    (failed : k.descriptor.startWaves = .error fault) :
  result = .error fault ∧ k' = k
  := by
  rcases k.launch_cases profiles services with
    ⟨-, fault', failed', refused⟩ | ⟨acyclic, -⟩ | ⟨acyclic, -⟩
  · cases failed.symm.trans failed'
    cases ups with
    | refused refused' =>
      cases refused.symm.trans refused'
      exact ⟨rfl, rfl⟩
    | ended launched => cases refused.symm.trans launched
  · apply absurd cyclic acyclic
  · apply absurd cyclic acyclic

/-- Services that have begun to be brought up are not refused any more. -/
theorem fst_finish_ne_descriptor {l l' : Launch τ σ} {trace : List Worker.Turn}
    (launched : k.launch profiles services = .ok l) (run : l.Run h Disturbs trace l')
    (fault : DescriptorFault) :
  l'.finish.1 ≠ .error (.descriptor fault)
  := by
  intro failed
  obtain ⟨active, waves, -, ok, rfl⟩ := Launch.exists_begin_of_launch launched
  have discreet := run.discreet (Launch.fresh_begin ok).staffed (fun _ _ => id)
    (Launch.discreet_begin k active waves)
  cases discreet.crash _ (Launch.fst_finish_eq_error_iff.mp failed)

/-- Bringing services up fails if there is a cycle among all the services of the stack, selected or
not.  There is a cycle then that the fault names, unless the search for it has to go deeper than it
may.  Otherwise it fails because of the selection exactly if that makes no sense.  In all these cases
the stack stays as it is.  A selection that is accepted has waves. -/
theorem up_refused_iff (h : Host τ σ) (k : Stack τ σ) (profiles services : List String) :
  (k.descriptor.Cyclic → ∃ path depth, StartOrder.IsCycle k.descriptor.DependsOn path
      ∧ path.length ≤ depth + 1 ∧ depth ≤ k.descriptor.names.length
      ∧ ∀ result k', k.Ups h profiles services result k' →
        result = .error (if depth < StartOrder.searchLimit then .descriptor (.cycle path)
          else .tooDeep) ∧ k' = k)
    ∧ (∀ result k', k.Ups h profiles services result k' →
      ((∃ path, result = .error (.descriptor (.cycle path))) → k.descriptor.Cyclic)
      ∧ (¬ k.descriptor.Cyclic → ((∃ fault, result = .error (.descriptor fault))
        ↔ k.descriptor.Unselectable profiles services))
      ∧ ∀ fault, result = .error (.descriptor fault) → k' = k)
    ∧ k.Ups h profiles services (k.up h profiles services).1 (k.up h profiles services).2
    ∧ ∀ active, k.plan profiles services = .ok active → ∃ waves, active.startWaves = .ok waves
  := by
  refine ⟨fun cyclic => ?_, fun result k' ups => ?_, ups_up h k profiles services,
    fun active accepted => ?_⟩
  · obtain ⟨path, depth, cycle, long, small, failed⟩ := Descriptor.exists_cycle_of_cyclic cyclic
    exact ⟨path, depth, cycle, long, small, fun result k' ups =>
      ups.of_cyclic cyclic (failed StartOrder.searchLimit)⟩
  · cases ups with
    | ended launched run finished =>
      have never := fst_finish_ne_descriptor launched run
      rcases k.launch_cases profiles services with
        ⟨-, fault, -, failed⟩ | ⟨-, -, fault, failed, -⟩ | ⟨acyclic, sound, -⟩
      · cases launched.symm.trans failed
      · cases launched.symm.trans failed
      · simp [never, acyclic, sound]
    | refused refused =>
      rcases k.launch_cases profiles services with
        ⟨cyclic, -⟩ | ⟨acyclic, senseless, fault, failed, other⟩ | ⟨-, -, l, launched⟩
      · exact ⟨fun _ => cyclic, fun acyclic => absurd cyclic acyclic, fun _ _ => rfl⟩
      · cases refused.symm.trans failed
        refine ⟨?_, fun _ => ⟨fun _ => senseless, fun _ => ⟨fault, rfl⟩⟩, fun _ _ => rfl⟩
        rintro ⟨path, same⟩
        cases same
        apply absurd rfl (other path)
      · cases refused.symm.trans launched
  · obtain ⟨waves, ok, -⟩ := Launch.exists_begin accepted
    exact ⟨waves, ok⟩

end Stack

namespace Sample

/-- A clock besides a mill and a bakery that depend on each other. -/
def astray : Descriptor where
  project := "astray"
  services := ⟨[
    ("clock", { name := "clock" }),
    ("mill", { name := "mill", dependsOn := ⟨[("bakery", .healthy)], by decide⟩ }),
    ("bakery", { name := "bakery", dependsOn := ⟨[("mill", .started)], by decide⟩ })], by decide⟩
  named := by simp
  closed := by decide

theorem cyclic_astray :
  astray.Cyclic
  := by
  have mill : astray.DependsOn "mill" "bakery" := ⟨_, rfl, by decide⟩
  have bakery : astray.DependsOn "bakery" "mill" := ⟨_, rfl, by decide⟩
  exact ⟨"mill", .head mill (.single bakery)⟩

/-- The stack with the clock, of which the clock is watched from an earlier time on. -/
def onDuty : Stack Int Unit :=
  { stack () with
    descriptor := astray
    order := ["clock"]
    supervisor := Supervisor.watch {} ⟨1, 30, 10⟩ 0 "clock" }

theorem not_cyclic_stack :
  ¬ (stack ()).descriptor.Cyclic
  := Descriptor.not_cyclic_of_startWaves (startWaves_stack ())

end Sample

/-- The clock is not brought up although it is on no cycle, and a stack without cycles is not
brought up if something is asked for that is no service of it. -/
theorem Stack.up_refused_iff_astray :
  (∃ path, Sample.onDuty.up Sample.host [] ["clock"]
      = (.error (.descriptor (.cycle path)), Sample.onDuty))
    ∧ (∃ fault, (Sample.stack ()).up Sample.host [] ["clock"]
      = (.error (.descriptor fault), Sample.stack ()))
    ∧ ∃ waves, (Sample.stack ()).descriptor.startWaves = .ok waves
  := by
  refine ⟨?_, ?_, ?_⟩
  · obtain ⟨cycle, -, ups, -⟩ := up_refused_iff Sample.host Sample.onDuty [] ["clock"]
    obtain ⟨path, depth, -, -, small, all⟩ := cycle Sample.cyclic_astray
    have three : depth ≤ 3 := small
    obtain ⟨failed, kept⟩ := all _ _ ups
    rw [if_pos (by rw [StartOrder.searchLimit]; omega)] at failed
    exact ⟨path, Prod.ext failed kept⟩
  · obtain ⟨-, all, ups, -⟩ := up_refused_iff Sample.host (Sample.stack ()) [] ["clock"]
    obtain ⟨-, refused, kept⟩ := all _ _ ups
    obtain ⟨fault, failed⟩ := (refused Sample.not_cyclic_stack).mpr (.inr ⟨"clock", by decide⟩)
    exact ⟨fault, Prod.ext failed (kept _ failed)⟩
  · obtain ⟨-, -, -, sorted⟩ := up_refused_iff Sample.host (Sample.stack ()) [] []
    apply sorted _ (Sample.plan_stack ())

/-- A stack of services in a ring. -/
def Sample.rounds (n : Nat) : Stack Int Unit :=
  { stack () with descriptor := ring n }

/-- A stack of two thousand services in a ring is not brought up, but no cycle is named. -/
theorem Stack.up_rounds :
  (Sample.rounds 2000).descriptor.Cyclic
    ∧ ((Sample.rounds 2000).up Sample.host [] []).1 = .error .tooDeep
  := by
  have cyclic : (Sample.rounds 2000).descriptor.Cyclic := Sample.cyclic_ring (by decide)
  have failed : (Sample.rounds 2000).descriptor.startWaves = .error .tooDeep :=
    Sample.startWavesWithin_ring (by decide) (by decide)
  have ups := ups_up Sample.host (Sample.rounds 2000) [] []
  exact ⟨cyclic, (ups.of_cyclic cyclic failed).1⟩

end Muster
