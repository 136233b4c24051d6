import Muster.Supervisor.Check
/-!
# What a check comes to

A check of the supervisor either leaves the service alone or starts it.  `Check.Due` says when it
does the latter, and `Check.Comes` what becomes of the pending restarts and of the delays.  A
pending restart that is due is carried out whatever the exit code: the restart policy is asked only
when nothing is pending.
-/

namespace Muster

namespace Supervisor

variable {τ : Type}

/-- What the supervisor remembers stays as it is; it may be asked to stop. -/
structure Keeps (sup sup' : Supervisor τ) : Prop where
  watched : sup'.watched = sup.watched
  delays : sup'.delays = sup.delays
  pending : sup'.pending = sup.pending

theorem Keeps.delayOf {sup sup' : Supervisor τ} (keeps : sup.Keeps sup') (b : Backoff τ)
    (name : String) :
  sup'.delayOf b name = sup.delayOf b name
  := by
  rw [Supervisor.delayOf, keeps.delays, Supervisor.delayOf]

/-- A running service that is credited has at most its own delay changed. -/
theorem credit_eq [Timeline τ] (sup : Supervisor τ) (b : Backoff τ) (now : τ) (name : String) :
  (sup.credit b now name).pending = sup.pending
    ∧ ∀ other, other ≠ name → (sup.credit b now name).delays.get? other = sup.delays.get? other
  := by
  unfold credit
  simp only
  split
  · refine ⟨rfl, fun other apart => ?_⟩
    exact (Table.get?_insert ..).trans (if_neg apart)
  · exact ⟨rfl, fun _ _ => rfl⟩

end Supervisor

namespace Check

variable {τ σ : Type}

namespace Surroundings

/-- Surroundings that make a note of every call. -/
def noting (w : Surroundings τ σ) : Surroundings τ (σ × List RunnerCall) where
  clock world := w.clock world.1
  call call desk :=
    let (reply, d, world) := w.call call (desk.1, desk.2.1)
    (reply, d, world, desk.2.2 ++ [call])

/-- The calls in some surroundings come back with answers to what was asked, if not with faults,
and leave alone what a check works on, but for the log and for a request to stop. -/
structure Mild (w : Surroundings τ σ) : Prop where
  isRunning : ∀ desk, (∃ yes, (w.call .isRunning desk).1 = .running yes)
    ∨ ∃ fault, (w.call .isRunning desk).1 = .raised fault
  exitCode : ∀ desk, (∃ code, (w.call .exitCode desk).1 = .exited code)
    ∨ ∃ fault, (w.call .exitCode desk).1 = .raised fault
  start : ∀ desk, (w.call .start desk).1 = .started
    ∨ ∃ fault, (w.call .start desk).1 = .raised fault
  keeps : ∀ call (d : Desk τ) world, d.supervisor.Keeps (w.call call (d, world)).2.1.supervisor
  state : ∀ call (d : Desk τ) world, (w.call call (d, world)).2.1.state = d.state

end Surroundings

/-- The pending restart of a service has been taken out, and its delay may have changed. -/
structure Released (name : String) (sup sup' : Supervisor τ) : Prop where
  pending : ∀ other, sup'.pending.get? other
    = if other = name then none else sup.pending.get? other
  delays : ∀ other, other ≠ name → sup'.delays.get? other = sup.delays.get? other

theorem Released.of_keeps {name : String} {first sup sup' : Supervisor τ}
    (released : Released name sup sup') (keeps : first.Keeps sup) :
  Released name first sup'
  where
  pending other := by rw [released.pending, keeps.pending]
  delays other apart := by rw [released.delays other apart, keeps.delays]

/-- How a check goes on, unless it has ended: by itself, or with a call of the runner. -/
inductive Move : Check τ → Prop where
  | ended (fault : Option Fault) : Move (.ended fault)
  | step {c : Check τ} (calls : c.call? = none) (going : ∀ fault, c ≠ .ended fault) : Move c
  | call {c : Check τ} (call : RunnerCall) (calls : c.call? = some call) : Move c

theorem move (c : Check τ) :
  Move c
  := by
  by_cases finished : ∃ fault, c = .ended fault
  · obtain ⟨fault, rfl⟩ := finished
    exact .ended fault
  cases calls : c.call? with
  | none => exact .step calls fun fault same => finished ⟨fault, same⟩
  | some call => exact .call call calls

theorem ne_ended_of_call {c : Check τ} {call : RunnerCall} (calls : c.call? = some call)
    (fault : Option Fault) :
  c ≠ .ended fault
  := by
  rintro rfl
  cases calls

variable [Timeline τ] {w : Surroundings τ σ} {s : Service} {b : Backoff τ}

/-- A check goes on with a call of the runner. -/
theorem drive_call {c : Check τ} {call : RunnerCall} (calls : c.call? = some call) (fuel : Nat)
    (d : Desk τ) (world : σ) :
  drive w s b (fuel + 1) c (d, world)
    = drive w s b fuel (hear s b c (w.call call (d, world)).1 (w.call call (d, world)).2.1).1
      ((hear s b c (w.call call (d, world)).1 (w.call call (d, world)).2.1).2,
        (w.call call (d, world)).2.2)
  := by
  rw [drive]
  · rw [calls]
  · exact ne_ended_of_call calls

/-- A check goes on by itself. -/
theorem drive_step {c : Check τ} (calls : c.call? = none) (going : ∀ fault, c ≠ .ended fault)
    (fuel : Nat) (d : Desk τ) (world : σ) :
  drive w s b (fuel + 1) c (d, world)
    = drive w s b fuel (step s b (w.clock world) c d).1 ((step s b (w.clock world) c d).2, world)
  := by
  rw [drive]
  · rw [calls]
  · exact going

theorem drive_ended (fuel : Nat) (fault : Option Fault) (d : Desk τ) (world : σ) :
  drive w s b fuel (.ended fault) (d, world) = (fault, d, world)
  := by
  cases fuel <;> rfl

/-- A check goes the same way in surroundings that put something down about the calls besides. -/
theorem drive_view {α : Type} {w' : Surroundings τ (σ × α)}
    (clock : ∀ world a, w'.clock (world, a) = w.clock world)
    (call : ∀ call d world a, ∃ a', w'.call call (d, world, a) = ((w.call call (d, world)).1,
      (w.call call (d, world)).2.1, (w.call call (d, world)).2.2, a'))
    (fuel : Nat) (c : Check τ) (d : Desk τ) (world : σ) (a : α) :
  drive w s b fuel c (d, world)
    = ((drive w' s b fuel c (d, world, a)).1, (drive w' s b fuel c (d, world, a)).2.1,
      (drive w' s b fuel c (d, world, a)).2.2.1)
  := by
  induction fuel generalizing c d world a with
  | zero => cases c <;> rfl
  | succ fuel ih =>
    cases c.move with
    | ended fault => rfl
    | step calls going =>
      rw [drive_step calls going, drive_step calls going, clock]
      apply ih
    | call call' calls =>
      obtain ⟨a', same⟩ := call call' d world a
      rw [drive_call calls, drive_call calls, same]
      apply ih

/-- Making a note of the calls changes nothing else. -/
theorem drive_noting (fuel : Nat) (c : Check τ) (d : Desk τ) (world : σ)
    (calls : List RunnerCall) :
  drive w s b fuel c (d, world)
    = ((drive w.noting s b fuel c (d, world, calls)).1,
      (drive w.noting s b fuel c (d, world, calls)).2.1,
      (drive w.noting s b fuel c (d, world, calls)).2.2.1)
  := drive_view (fun _ _ => rfl) (fun _ _ _ _ => ⟨_, rfl⟩) fuel c d world calls

/-- What every call of the runner does to the world, the whole check does. -/
theorem drive_world {R : σ → σ → Prop} (refl : ∀ world, R world world)
    (trans : ∀ {world world' world''}, R world world' → R world' world'' → R world world'')
    (calls : ∀ call d world, R world (w.call call (d, world)).2.2) (fuel : Nat) (c : Check τ)
    (d : Desk τ) (world : σ) :
  R world (drive w s b fuel c (d, world)).2.2
  := by
  induction fuel generalizing c d world with
  | zero => cases c <;> exact refl world
  | succ fuel ih =>
    cases c.move with
    | ended fault => apply refl world
    | step own going =>
      rw [drive_step own going]
      apply ih ..
    | call call made =>
      rw [drive_call made]
      apply trans (calls ..) (ih ..)

/-! ### The end of a check -/

/-- How a check ends from some point on: what it has called, and the supervisor afterwards. -/
def outcome (w : Surroundings τ σ) (s : Service) (b : Backoff τ) (fuel : Nat) (c : Check τ)
    (d : Desk τ) (world : σ) (calls : List RunnerCall) : List RunnerCall × Supervisor τ :=
  let r := drive w.noting s b fuel c (d, world, calls)
  (r.2.2.2, r.2.1.supervisor)

section Outcome

variable {fuel : Nat} {d : Desk τ} {world : σ} {calls : List RunnerCall}

theorem outcome_ended (fault : Option Fault) :
  outcome w s b fuel (.ended fault) d world calls = (calls, d.supervisor)
  := by
  rw [outcome, drive_ended]

theorem outcome_call {c : Check τ} (call : RunnerCall) (same : c.call? = some call) :
  outcome w s b (fuel + 1) c d world calls
    = outcome w s b fuel (hear s b c (w.call call (d, world)).1 (w.call call (d, world)).2.1).1
      (hear s b c (w.call call (d, world)).1 (w.call call (d, world)).2.1).2
      (w.call call (d, world)).2.2 (calls ++ [call])
  := by
  rw [outcome, drive_call same]
  rfl

theorem outcome_step {c : Check τ} (same : c.call? = none) (going : ∀ fault, c ≠ .ended fault) :
  outcome w s b (fuel + 1) c d world calls
    = outcome w s b fuel (step s b (w.clock world) c d).1 (step s b (w.clock world) c d).2
      world calls
  := by
  rw [outcome, drive_step same going]
  rfl

/-- How a check that is about to start its service ends: it does so, and changes no pending restart
and no delay any more. -/
theorem outcome_relaunching (mild : w.Mild) {sup : Supervisor τ} {started : List RunnerCall}
    (ends : outcome w s b (fuel + 2) .relaunching d world calls = (started, sup)) :
  started = calls ++ [.start] ∧ sup.pending = d.supervisor.pending
    ∧ sup.delays = d.supervisor.delays
  := by
  have keeps := mild.keeps .start d world
  rw [outcome_call .start rfl] at ends
  rcases mild.start (d, world) with reply | ⟨fault, reply⟩
  · rw [reply, hear, outcome_step rfl (by simp), step, outcome_ended] at ends
    cases ends
    refine ⟨rfl, ?_⟩
    simp only [Supervisor.resume]
    split <;> exact ⟨keeps.pending, keeps.delays⟩
  · rw [reply, hear] at ends
    split at ends
    all_goals
      rw [outcome_ended] at ends
      cases ends
      exact ⟨rfl, keeps.pending, keeps.delays⟩

theorem outcome_backingOff (mild : w.Mild) {sup : Supervisor τ} {started : List RunnerCall}
    (ends : outcome w s b (fuel + 3) .backingOff d world calls = (started, sup)) :
  started = calls ++ [.start] ∧ Released s.name d.supervisor sup
  := by
  rw [outcome_step rfl (by simp), step] at ends
  obtain ⟨called, pending, delays⟩ := outcome_relaunching mild ends
  refine ⟨called, fun other => ?_, fun other apart => ?_⟩
  · rw [pending]
    apply Table.get?_erase ..
  · rw [delays]
    exact (Table.get?_insert ..).trans (if_neg apart)

/-- How a check ends when a restart is pending or has just been scheduled: the service is started if
the restart is due. -/
theorem outcome_awaiting (mild : w.Mild) {now : τ} {sup : Supervisor τ}
    {started : List RunnerCall}
    (ends : outcome w s b (fuel + 4) (.awaiting now) d world calls = (started, sup)) :
  (∃ time, d.supervisor.pending.get? s.name = some time ∧ Timeline.before now time = false
      ∧ started = calls ++ [.start] ∧ Released s.name d.supervisor sup)
    ∨ (∀ time, d.supervisor.pending.get? s.name = some time → Timeline.before now time = true)
      ∧ started = calls ∧ sup = d.supervisor
  := by
  rw [outcome_step rfl (by simp), step] at ends
  cases pending : d.supervisor.pending.get? s.name with
  | none =>
    simp only [pending, outcome_ended] at ends
    cases ends
    exact .inr ⟨by simp, rfl, rfl⟩
  | some time =>
    simp only [pending] at ends
    cases early : Timeline.before now time with
    | true =>
      simp only [early, if_true, outcome_ended] at ends
      cases ends
      exact .inr ⟨by simp [early], rfl, rfl⟩
    | false =>
      simp only [early, Bool.false_eq_true, if_false] at ends
      exact .inl ⟨time, rfl, early, outcome_backingOff mild ends⟩

/-- How a check ends that schedules a restart of a service that is watched. -/
theorem outcome_scheduling (mild : w.Mild) {now delay : τ} {sup : Supervisor τ}
    {started : List RunnerCall} (watched : d.supervisor.isWatching s.name = true)
    (ends : outcome w s b (fuel + 5) (.scheduling now delay) d world calls = (started, sup)) :
  (Timeline.before now (Timeline.add now delay) = false ∧ started = calls ++ [.start]
      ∧ Released s.name d.supervisor sup)
    ∨ Timeline.before now (Timeline.add now delay) = true ∧ started = calls
      ∧ sup.pending = d.supervisor.pending.insert s.name (Timeline.add now delay)
      ∧ sup.delays = d.supervisor.delays
  := by
  have scheduled : d.supervisor.schedule s.name (Timeline.add now delay)
      = { d.supervisor with
          pending := d.supervisor.pending.insert s.name (Timeline.add now delay) } := if_pos watched
  rw [outcome_step rfl (by simp), step, scheduled] at ends
  rcases outcome_awaiting mild ends with ⟨time, pending, due, called, released⟩ | ⟨early, rfl, rfl⟩
  · simp only [Table.get?_insert, if_true, Option.some.injEq] at pending
    refine .inl ⟨pending ▸ due, called, fun other => ?_, released.delays⟩
    rw [released.pending]
    split
    · rfl
    · next apart => exact (Table.get?_insert ..).trans (if_neg apart)
  · exact .inr ⟨early _ (by simp), rfl, rfl, rfl⟩

/-- Whether the policy of a service that has ended lets it be started again. -/
def Allowed (s : Service) (code : Option Int) (d : Desk τ) : Prop :=
  s.restart.restarts code = true ∧ limitReached s d.state = false

theorem judge_of_allowed (b : Backoff τ) (now : τ) {code : Option Int}
    (allowed : Allowed s code d) :
  (judge s b now code d).1 = .scheduling now (d.supervisor.delayOf b s.name)
    ∧ (judge s b now code d).2.supervisor = d.supervisor
  := by
  have limit : limitReached s { d.state with exitCode := code } = false := allowed.2
  simp [judge, allowed.1, limit, Desk.note]

theorem judge_of_not_allowed (b : Backoff τ) (now : τ) {code : Option Int}
    (refused : ¬ Allowed s code d) :
  (judge s b now code d).1 = .retiring ∧ (judge s b now code d).2.supervisor = d.supervisor
  := by
  cases may : s.restart.restarts code with
  | false => simp [judge, may, Desk.note]
  | true =>
    have limit : limitReached s { d.state with exitCode := code } = true := by
      cases limit : limitReached s d.state with
      | false => apply absurd ⟨may, limit⟩ refused
      | true => exact limit
    simp [judge, may, limit, Desk.note]

/-- How a check ends that asks the policy: if it lets the service be started again, a restart is
scheduled, and carried out if there is no delay; otherwise nothing is scheduled. -/
theorem outcome_inspecting (mild : w.Mild) {now : τ} {sup : Supervisor τ}
    {started : List RunnerCall} (watched : d.supervisor.isWatching s.name = true)
    (ends : outcome w s b (fuel + 6) (.inspecting now) d world calls = (started, sup)) :
  (∃ code, (w.call .exitCode (d, world)).1 = .exited code ∧ Allowed s code d
      ∧ ((Timeline.before now (Timeline.add now (d.supervisor.delayOf b s.name)) = false
          ∧ started = calls ++ [.exitCode, .start] ∧ Released s.name d.supervisor sup)
        ∨ Timeline.before now (Timeline.add now (d.supervisor.delayOf b s.name)) = true
          ∧ started = calls ++ [.exitCode]
          ∧ sup.pending = d.supervisor.pending.insert s.name
              (Timeline.add now (d.supervisor.delayOf b s.name))
          ∧ sup.delays = d.supervisor.delays))
    ∨ (∀ code, (w.call .exitCode (d, world)).1 = .exited code → ¬ Allowed s code d)
      ∧ started = calls ++ [.exitCode]
      ∧ (∀ other time, sup.pending.get? other = some time →
        d.supervisor.pending.get? other = some time)
      ∧ sup.delays = d.supervisor.delays
  := by
  have keeps := mild.keeps .exitCode d world
  have state := mild.state .exitCode d world
  rw [outcome_call .exitCode rfl] at ends
  generalize heard : (w.call .exitCode (d, world)).2.1 = d' at ends keeps state
  rcases mild.exitCode (d, world) with ⟨code, reply⟩ | ⟨fault, reply⟩
  · have goesOn : hear s b (.inspecting now) (.exited code) d' = judge s b now code d' := rfl
    have same : Allowed s code d' ↔ Allowed s code d := by rw [Allowed, state, Allowed]
    rw [reply, goesOn] at ends
    by_cases allowed : Allowed s code d
    · obtain ⟨place, desk⟩ := judge_of_allowed b now (same.mpr allowed)
      rw [place] at ends
      refine .inl ⟨code, reply, allowed, ?_⟩
      have watched' : (judge s b now code d').2.supervisor.isWatching s.name = true := by
        rw [desk, Supervisor.isWatching, keeps.watched]
        exact watched
      have ends := outcome_scheduling mild watched' ends
      rw [desk, keeps.delayOf, keeps.pending, keeps.delays, List.append_assoc] at ends
      exact ends.imp_left fun ⟨due, called, released⟩ => ⟨due, called, released.of_keeps keeps⟩
    · obtain ⟨place, desk⟩ := judge_of_not_allowed b now (mt same.mp allowed)
      rw [place, outcome_step rfl (by simp), step, outcome_ended, desk] at ends
      cases ends
      refine .inr ⟨?_, rfl, fun other time found => ?_, keeps.delays⟩
      · intro other same
        rw [reply] at same
        cases same
        exact allowed
      · have := (Table.get?_erase d'.supervisor.pending s.name other).symm.trans found
        rw [← keeps.pending]
        split at this
        · cases this
        · exact this
  · have goesOn : hear s b (.inspecting now) (.raised fault) d' = (.ended (some fault), d') := rfl
    rw [reply, goesOn, outcome_ended] at ends
    cases ends
    refine .inr ⟨by simp [reply], rfl, ?_, keeps.delays⟩
    rw [keeps.pending]
    exact fun _ _ => id

end Outcome

section Comes

variable {d : Desk τ} {world : σ}

/-- A check finds its service down. -/
structure Down (w : Surroundings τ σ) (s : Service) (d : Desk τ) (world : σ) : Prop where
  active : d.supervisor.stopped = false
  watched : d.supervisor.isWatching s.name = true
  reply : (w.call .isRunning (d, world)).1 = .running false

/-- A check finds its service down while no restart is pending, and the policy lets it be started
again. -/
structure Scheduled (w : Surroundings τ σ) (s : Service) (d : Desk τ) (world : σ)
    (code : Option Int) : Prop where
  down : Down w s d world
  pending : d.supervisor.pending.get? s.name = none
  reply : (w.call .exitCode (w.call .isRunning (d, world)).2).1 = .exited code
  allowed : Allowed s code d

/-- A check finds its service down when a restart is due: one that is pending, whatever the exit
code, or one that is scheduled without a delay. -/
def Due (w : Surroundings τ σ) (s : Service) (b : Backoff τ) (d : Desk τ) (world : σ) : Prop :=
  (∃ time, Down w s d world ∧ d.supervisor.pending.get? s.name = some time
      ∧ Timeline.before (w.clock world) time = false)
    ∨ ∃ code, Scheduled w s d world code ∧ Timeline.before (w.clock world)
        (Timeline.add (w.clock world) (d.supervisor.delayOf b s.name)) = false

/-- What a check comes to: whether it starts the service, and the supervisor afterwards. -/
inductive Comes (w : Surroundings τ σ) (s : Service) (b : Backoff τ) (d : Desk τ) (world : σ)
    (sup : Supervisor τ) : (started : Bool) → Prop where
  | rests (early : ¬ Due w s b d world)
      (pending : ∀ name time, sup.pending.get? name = some time →
        d.supervisor.pending.get? name = some time)
      (delays : sup.delays = d.supervisor.delays) :
    Comes w s b d world sup false
  | credits (reply : (w.call .isRunning (d, world)).1 = .running true)
      (pending : sup.pending = d.supervisor.pending)
      (delays : ∀ name, name ≠ s.name → sup.delays.get? name = d.supervisor.delays.get? name) :
    Comes w s b d world sup false
  | schedules {code} (early : ¬ Due w s b d world) (scheduled : Scheduled w s d world code)
      (pending : sup.pending = d.supervisor.pending.insert s.name
        (Timeline.add (w.clock world) (d.supervisor.delayOf b s.name)))
      (delays : sup.delays = d.supervisor.delays) :
    Comes w s b d world sup false
  | starts (due : Due w s b d world) (released : Released s.name d.supervisor sup) :
    Comes w s b d world sup true

theorem not_due_of_not_down (up : ¬ Down w s d world) :
  ¬ Due w s b d world
  := by
  rintro (⟨time, down, -⟩ | ⟨code, scheduled, -⟩)
  · apply up down
  · apply up scheduled.down

/-- What a check comes to that finds its service down. -/
theorem comes_of_down (mild : w.Mild) {fuel : Nat} {sup : Supervisor τ}
    {called : List RunnerCall} (down : Down w s d world)
    (ends : outcome w s b (fuel + 7) (.looking (w.clock world)) (w.call .isRunning (d, world)).2.1
      (w.call .isRunning (d, world)).2.2 [.isRunning] = (called, sup)) :
  Comes w s b d world sup (called.contains .start)
  := by
  have keeps := mild.keeps .isRunning d world
  have state := mild.state .isRunning d world
  rw [outcome_step rfl (by simp), step, keeps.pending, Table.contains] at ends
  cases pending : d.supervisor.pending.get? s.name with
  | some time =>
    simp only [pending, Option.isSome_some, if_true] at ends
    have ends := outcome_awaiting mild ends
    rw [keeps.pending, pending] at ends
    rcases ends with ⟨time', same, due, rfl, released⟩ | ⟨early, rfl, rfl⟩
    · cases same
      exact .starts (.inl ⟨time, down, pending, due⟩) (released.of_keeps keeps)
    · refine .rests ?_ (by simp [keeps.pending]) keeps.delays
      rintro (⟨time', -, same, due⟩ | ⟨code, scheduled, -⟩)
      · rw [early time' (same ▸ pending ▸ rfl)] at due
        cases due
      · cases pending.symm.trans scheduled.pending
  | none =>
    simp only [pending, Option.isSome_none, Bool.false_eq_true, if_false] at ends
    have watched : (w.call .isRunning (d, world)).2.1.supervisor.isWatching s.name = true := by
      rw [Supervisor.isWatching, keeps.watched]
      apply down.watched
    have ends := outcome_inspecting mild watched ends
    rw [keeps.delayOf, keeps.pending, keeps.delays] at ends
    have same (code : Option Int) : Allowed s code (w.call .isRunning (d, world)).2.1
        ↔ Allowed s code d := by rw [Allowed, state, Allowed]
    rcases ends with ⟨code, reply, allowed, due | early⟩ | ⟨refused, rfl, kept, delays⟩
    · have scheduled : Scheduled w s d world code := ⟨down, pending, reply, (same code).mp allowed⟩
      obtain ⟨due, rfl, released⟩ := due
      exact .starts (.inr ⟨code, scheduled, due⟩) (released.of_keeps keeps)
    · have scheduled : Scheduled w s d world code := ⟨down, pending, reply, (same code).mp allowed⟩
      obtain ⟨early, rfl, insert, delays⟩ := early
      refine .schedules ?_ scheduled insert delays
      rintro (⟨time, -, there, -⟩ | ⟨-, -, due⟩)
      · cases pending.symm.trans there
      · cases early.symm.trans due
    · refine .rests ?_ kept delays
      rintro (⟨time, -, there, -⟩ | ⟨code, scheduled, -⟩)
      · cases pending.symm.trans there
      · apply refused code scheduled.reply ((same code).mpr scheduled.allowed)

/-- Every check comes to one of the listed ends. -/
theorem comes_run (mild : w.Mild) {sup : Supervisor τ} {called : List RunnerCall}
    (ends : outcome w s b (rank (.entering : Check τ)) .entering d world [] = (called, sup)) :
  Comes w s b d world sup (called.contains .start)
  := by
  have keeps := mild.keeps .isRunning d world
  rw [rank] at ends
  rw [outcome_step rfl (by simp), step] at ends
  by_cases idle : d.supervisor.stopped = true ∨ d.supervisor.isWatching s.name = false
  · have nothing : (d.supervisor.stopped || !d.supervisor.isWatching s.name) = true := by
      simpa using idle
    simp only [nothing, if_true, outcome_ended] at ends
    cases ends
    refine .rests (not_due_of_not_down fun down => ?_) (fun _ _ => id) rfl
    rcases idle with stopped | unwatched
    · cases down.active.symm.trans stopped
    · cases down.watched.symm.trans unwatched
  · have on : (d.supervisor.stopped || !d.supervisor.isWatching s.name) = false := by
      simpa using idle
    simp only [on, Bool.false_eq_true, if_false] at ends
    rw [outcome_call .isRunning rfl] at ends
    rcases mild.isRunning (d, world) with ⟨yes, reply⟩ | ⟨fault, reply⟩
    · cases yes with
      | true =>
        have goesOn (d : Desk τ) (now : τ) : hear s b (.probing now) (.running true) d
            = (.crediting now, d) := rfl
        rw [reply, goesOn, outcome_step rfl (by simp), step, outcome_ended] at ends
        cases ends
        obtain ⟨pending, delays⟩ := Supervisor.credit_eq
          (w.call .isRunning (d, world)).2.1.supervisor b (w.clock world) s.name
        refine .credits reply (pending.trans keeps.pending) fun other apart => ?_
        rw [delays other apart, keeps.delays]
      | false =>
        have down : Down w s d world := by
          simp only [not_or, Bool.not_eq_true, Bool.not_eq_false] at idle
          exact ⟨idle.1, idle.2, reply⟩
        rw [reply] at ends
        apply comes_of_down mild down ends
    · have goesOn (d : Desk τ) (now : τ) : hear s b (.probing now) (.raised fault) d
          = (.ended (some fault), d) := rfl
      rw [reply, goesOn, outcome_ended] at ends
      cases ends
      refine .rests (not_due_of_not_down fun down => ?_) (by simp [keeps.pending]) keeps.delays
      cases reply.symm.trans down.reply

end Comes

end Check

end Muster
