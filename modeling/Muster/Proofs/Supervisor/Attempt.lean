import Muster.Proofs.Supervisor.Talk
/-!
# After a failed attempt

A check that starts its service and hears that the start has failed leaves the service watched, with
nothing pending and one more restart counted.  What the next check makes of the service depends on
the exit code that it is told then: if the policy lets the service be started again, the service
stays watched and another attempt is scheduled or made; if not, it is let go for good.
-/

namespace Muster

namespace Check

variable {τ σ : Type} [Timeline τ] {w : Surroundings τ σ} {s : Service} {b : Backoff τ}

/-! ### What is decided -/

/-- Asking the policy counts no restart. -/
theorem restartCount_judge (now : τ) (code : Option Int) (d : Desk τ) :
  (judge s b now code d).2.state.restartCount = d.state.restartCount
  := by
  simp only [judge, Desk.note]
  split
  · rfl
  · split <;> rfl

theorem status_judge_of_not_allowed (now : τ) {code : Option Int} {d : Desk τ}
    (refused : ¬ Allowed s code d) :
  (judge s b now code d).2.state.status = .exited
  := by
  simp only [judge, Desk.note]
  split
  · rfl
  · split
    · rfl
    · next may limit =>
      have limit : limitReached s d.state = false := (Bool.not_eq_true _).mp limit
      exact absurd ⟨by simpa using may, limit⟩ refused

/-! ### Up to the start -/

/-- How many restarts a check has counted when it stands somewhere before the end of the start. -/
def counted : Check τ → Nat
  | relaunching => 1
  | _ => 0

/-- A check makes no start any more. -/
inductive Past : Check τ → Prop where
  | crediting (now : τ) : Past (.crediting now)
  | retiring : Past .retiring
  | resuming : Past .resuming
  | ended (fault : Option Fault) : Past (.ended fault)

/-- What holds on the way of a check to a start, when `P` holds of the world: the service is watched
as before, and when it is about to be started, one more restart is counted and nothing is pending. -/
structure Nears (P : σ → Prop) (s : Service) (first : Desk τ) (c : Check τ) (d : Desk τ)
    (world : σ) : Prop where
  reached : P world
  watched : d.supervisor.watched = first.supervisor.watched
  restarts : d.state.restartCount = first.state.restartCount + c.counted
  pending : c.counted = 1 → d.supervisor.pending.get? s.name = none

variable {P : σ → Prop} {first d : Desk τ} {world : σ} {c : Check τ}

omit [Timeline τ] in
/-- Nothing has to be known about what is pending before the start is near. -/
theorem Nears.of_early (early : c.counted = 0) (reached : P world)
    (watched : d.supervisor.watched = first.supervisor.watched)
    (restarts : d.state.restartCount = first.state.restartCount) :
  Nears P s first c d world
  where
  reached := reached
  watched := watched
  restarts := by rw [early, restarts, Nat.add_zero]
  pending one := absurd (early.symm.trans one) Nat.zero_ne_one

/-- The next step of a check that has not been to the start yet. -/
theorem Nears.step (nears : Nears P s first c d world) (calls : c.call? = none) (clock : τ) :
  Past (Check.step s b clock c d).1
    ∨ Nears P s first (Check.step s b clock c d).1 (Check.step s b clock c d).2 world
  := by
  cases c with
  | entering =>
    simp only [Check.step]
    split
    · exact .inl (.ended none)
    · exact .inr (.of_early rfl nears.reached nears.watched nears.restarts)
  | looking now =>
    simp only [Check.step]
    split
    · exact .inr (.of_early rfl nears.reached nears.watched nears.restarts)
    · exact .inr (.of_early rfl nears.reached nears.watched nears.restarts)
  | scheduling now delay =>
    refine .inr (.of_early rfl nears.reached ?_ nears.restarts)
    rw [← nears.watched]
    simp only [Check.step, Supervisor.schedule]
    split <;> rfl
  | awaiting now =>
    simp only [Check.step]
    split
    · exact .inl (.ended none)
    · simp only
      split
      · exact .inl (.ended none)
      · exact .inr (.of_early rfl nears.reached nears.watched nears.restarts)
  | backingOff =>
    refine .inr ⟨nears.reached, nears.watched, congrArg (· + 1) nears.restarts, fun _ => ?_⟩
    exact (Table.get?_erase ..).trans (if_pos rfl)
  | crediting now => exact .inl (.ended none)
  | retiring => exact .inl (.ended none)
  | resuming => exact .inl (.ended none)
  | ended fault => exact .inl (.ended fault)
  | _ => cases calls

/-- What a check hears before the start. -/
theorem Nears.hear (nears : Nears P s first c d world) {call : RunnerCall}
    (calls : c.call? = some call) (early : call ≠ .start) (reply : RunnerReply) :
  Past (Check.hear s b c reply d).1
    ∨ Nears P s first (Check.hear s b c reply d).1 (Check.hear s b c reply d).2 world
  := by
  cases c with
  | relaunching =>
    cases calls
    exact absurd rfl early
  | probing now =>
    cases reply with
    | running yes =>
      cases yes with
      | true => exact .inl (.crediting now)
      | false => exact .inr (.of_early rfl nears.reached nears.watched nears.restarts)
    | raised fault => exact .inl (.ended _)
    | _ => exact .inr nears
  | inspecting now =>
    cases reply with
    | exited code =>
      by_cases allowed : Allowed s code d
      · obtain ⟨place, supervisor⟩ := judge_of_allowed b now allowed
        have restarts := restartCount_judge (s := s) (b := b) now code d
        rw [Check.hear, place]
        refine .inr (.of_early rfl nears.reached ?_ ?_)
        · rw [supervisor, nears.watched]
        · rw [restarts, nears.restarts]
          rfl
      · refine .inl ?_
        rw [Check.hear, (judge_of_not_allowed b now allowed).1]
        exact .retiring
    | raised fault => exact .inl (.ended _)
    | _ => exact .inr nears
  | _ => cases calls

omit [Timeline τ] in
/-- A call before the start keeps a check on its way, as long as it keeps what holds of the world. -/
theorem Nears.call (mild : w.Mild)
    (keeps : ∀ call, call ≠ .start → ∀ (d : Desk τ) world, P world →
      P (w.call call (d, world)).2.2)
    (nears : Nears P s first c d world) {call : RunnerCall} (early : call ≠ .start) :
  Nears P s first c (w.call call (d, world)).2.1 (w.call call (d, world)).2.2
  where
  reached := keeps call early d world nears.reached
  watched := by rw [(mild.keeps call d world).watched, nears.watched]
  restarts := by rw [mild.state call d world, nears.restarts]
  pending := by
    rw [(mild.keeps call d world).pending]
    exact nears.pending

/-- What a check hears from the start is the last. -/
theorem past_of_start (calls : c.call? = some .start) {reply : RunnerReply}
    (answers : reply = .started ∨ ∃ fault, reply = .raised fault) :
  Past (hear s b c reply d).1
  := by
  cases c with
  | relaunching =>
    rcases answers with rfl | ⟨fault, rfl⟩
    · exact .resuming
    · rw [hear]
      split <;> exact .ended _
  | _ => cases calls

/-- A check that makes no start any more ends without one. -/
theorem drive_past (past : Past c) (fuel : Nat) (talk : List Exchange) :
  (drive w.hearing s b fuel c (d, world, talk)).2.2.2 = talk
  := by
  cases fuel with
  | zero => cases c <;> rfl
  | succ fuel =>
    cases past with
    | ended fault => rw [drive_ended]
    | _ => rw [drive_step rfl (by simp), step, drive_ended]

/-- How a check ends that has heard a start fail with a fault of the stack: as the failed start has
left it. -/
theorem drive_failed (mild : w.Mild)
    (keeps : ∀ call, call ≠ .start → ∀ (d : Desk τ) world, P world →
      P (w.call call (d, world)).2.2)
    {cause : StackFault} (fuel : Nat) (nears : Nears P s first c d world)
    (talk : List Exchange) (heard : (.start, .raised (.stack cause))
      ∈ (drive w.hearing s b fuel c (d, world, talk)).2.2.2)
    (new : (.start, .raised (.stack cause)) ∉ talk) :
  ∃ d₀ world₀, Nears P s first .relaunching d₀ world₀
    ∧ (w.call .start (d₀, world₀)).1 = .raised (.stack cause)
    ∧ drive w s b fuel c (d, world) = (none, (Check.hear s b .relaunching (.raised (.stack cause))
        (w.call .start (d₀, world₀)).2.1).2, (w.call .start (d₀, world₀)).2.2)
  := by
  induction fuel generalizing c d world talk with
  | zero => cases c <;> exact absurd heard new
  | succ fuel ih =>
    cases c.move with
    | ended left =>
      rw [drive_ended] at heard
      exact absurd heard new
    | step calls going =>
      have clock : w.hearing.clock (world, talk) = w.clock world := rfl
      rw [drive_step calls going] at heard ⊢
      rw [clock] at heard
      rcases nears.step (s := s) (b := b) calls (w.clock world) with past | nears
      · rw [drive_past past] at heard
        exact absurd heard new
      · exact ih nears talk heard new
    | call call calls =>
      rw [drive_call calls, call_hearing] at heard
      rw [drive_call calls]
      by_cases failed : call = .start ∧ (w.call call (d, world)).1 = .raised (.stack cause)
      · obtain ⟨rfl, failed⟩ := failed
        have relaunching : c = .relaunching := by cases c <;> first | rfl | cases calls
        subst relaunching
        refine ⟨d, world, nears, failed, ?_⟩
        rw [failed]
        exact drive_ended ..
      · have new' : (.start, .raised (.stack cause))
            ∉ talk ++ [(call, (w.call call (d, world)).1)] := by
          rw [List.mem_append, List.mem_singleton, Prod.mk.injEq]
          rintro (old | ⟨rfl, same⟩)
          · exact new old
          · exact failed ⟨rfl, same.symm⟩
        -- A start with any other end is the last call, and then the failed one is never heard.
        by_cases start : call = .start
        · subst start
          rw [drive_past (past_of_start calls (mild.start (d, world)))] at heard
          exact absurd heard new'
        · rcases (nears.call mild keeps start).hear (b := b) calls start
            (w.call call (d, world)).1 with past | nears
          · rw [drive_past past] at heard
            exact absurd heard new'
          · exact ih nears _ heard new'

/-! ### From the exit code on -/

/-- A check has made up its mind to start its service, now or at the time of a pending restart. -/
inductive Decided : Check τ → Prop where
  | scheduling (now delay : τ) : Decided (.scheduling now delay)
  | awaiting (now : τ) : Decided (.awaiting now)
  | backingOff : Decided .backingOff
  | relaunching : Decided .relaunching
  | resuming : Decided .resuming
  | ended (fault : Option Fault) : Decided (.ended fault)

theorem Decided.step (decided : Decided c) (clock : τ) :
  Decided (Check.step s b clock c d).1
    ∧ ∀ name, (Check.step s b clock c d).2.supervisor.isWatching name = d.supervisor.isWatching name
  := by
  cases decided with
  | scheduling now delay =>
    refine ⟨.awaiting now, fun name => ?_⟩
    simp only [Check.step, Supervisor.schedule]
    split <;> rfl
  | awaiting now =>
    rw [Check.step]
    split
    · exact ⟨.ended none, fun _ => rfl⟩
    · simp only
      split
      · exact ⟨.ended none, fun _ => trivial⟩
      · exact ⟨.backingOff, fun _ => trivial⟩
  | backingOff => exact ⟨.relaunching, fun _ => rfl⟩
  | relaunching => exact ⟨.relaunching, fun _ => rfl⟩
  | resuming =>
    refine ⟨.ended none, fun name => ?_⟩
    simp only [Check.step, Supervisor.resume]
    split
    · next watched =>
      simp only [Supervisor.isWatching, Table.contains, Table.get?_insert]
      split
      · next same => exact same ▸ watched.symm
      · rfl
    · rfl
  | ended fault => exact ⟨.ended fault, fun _ => rfl⟩

theorem Decided.hear (decided : Decided c) {call : RunnerCall} (calls : c.call? = some call)
    {reply : RunnerReply} (answers : call = .start →
      reply = .started ∨ ∃ fault, reply = .raised fault) :
  Decided (Check.hear s b c reply d).1
  := by
  cases decided with
  | relaunching =>
    cases calls
    rcases answers rfl with rfl | ⟨fault, rfl⟩
    · exact .resuming
    · rw [Check.hear]
      split <;> exact .ended _
  | _ => cases calls

/-- A check that has made up its mind to start its service does not let go of any. -/
theorem isWatching_drive (mild : w.Mild) (fuel : Nat) (decided : Decided c) (name : String) :
  (drive w s b fuel c (d, world)).2.1.supervisor.isWatching name = d.supervisor.isWatching name
  := by
  induction fuel generalizing c d world with
  | zero => cases c <;> rfl
  | succ fuel ih =>
    cases c.move with
    | ended left => rfl
    | step calls going =>
      obtain ⟨decided, kept⟩ := decided.step (s := s) (b := b) (d := d) (w.clock world)
      rw [drive_step calls going, ih decided, kept]
    | call call calls =>
      have answers (start : call = .start) : (w.call call (d, world)).1 = .started
          ∨ ∃ fault, (w.call call (d, world)).1 = .raised fault := start ▸ mild.start (d, world)
      rw [drive_call calls, ih (decided.hear calls answers), supervisor_hear,
        Supervisor.isWatching, (mild.keeps call d world).watched, Supervisor.isWatching]

section Told

variable {code : Option Int} {d₁ d₂ : Desk τ} {world₁ world₂ : σ}

/-- A check that finds its service down with nothing pending asks for the exit code. -/
theorem run_of_told (going : d.supervisor.stopped = false)
    (watched : d.supervisor.isWatching s.name = true)
    (down : w.call .isRunning (d, world) = (.running false, d₁, world₁))
    (pending : d₁.supervisor.pending.get? s.name = none)
    (told : w.call .exitCode (d₁, world₁) = (.exited code, d₂, world₂)) :
  run w s b d world = drive w s b 6 (judge s b (w.clock world) code d₂).1
    ((judge s b (w.clock world) code d₂).2, world₂)
  := by
  have none : d₁.supervisor.pending.contains s.name = false := by
    rw [Table.contains, pending]
    rfl
  rw [run, rank, drive_step rfl (by simp), step]
  simp only [going, watched, Bool.not_true, Bool.or_self, Bool.false_eq_true, if_false]
  rw [drive_call rfl, down]
  simp only [hear, Bool.false_eq_true, if_false]
  rw [drive_step rfl (by simp), step]
  simp only [none, Bool.false_eq_true, if_false]
  rw [drive_call rfl, told]
  rfl

/-- The same check, with a note of its calls. -/
theorem run_noting_of_told (going : d.supervisor.stopped = false)
    (watched : d.supervisor.isWatching s.name = true)
    (down : w.call .isRunning (d, world) = (.running false, d₁, world₁))
    (pending : d₁.supervisor.pending.get? s.name = none)
    (told : w.call .exitCode (d₁, world₁) = (.exited code, d₂, world₂)) :
  run w.noting s b d (world, []) = drive w.noting s b 6 (judge s b (w.clock world) code d₂).1
    ((judge s b (w.clock world) code d₂).2, world₂, [.isRunning, .exitCode])
  := by
  have probed : w.noting.call .isRunning (d, world, [])
      = (.running false, d₁, world₁, [.isRunning]) := by
    simp only [Surroundings.noting, down]
    rfl
  have asked : w.noting.call .exitCode (d₁, world₁, [.isRunning])
      = (.exited code, d₂, world₂, [.isRunning, .exitCode]) := by
    simp only [Surroundings.noting, told]
    rfl
  apply run_of_told going watched probed pending asked

/-- A service that the policy does not let be started again is let go. -/
theorem run_of_not_allowed (going : d.supervisor.stopped = false)
    (watched : d.supervisor.isWatching s.name = true)
    (down : w.call .isRunning (d, world) = (.running false, d₁, world₁))
    (pending : d₁.supervisor.pending.get? s.name = none)
    (told : w.call .exitCode (d₁, world₁) = (.exited code, d₂, world₂))
    (refused : ¬ Allowed s code d₂) :
  (run w s b d world).2.1.supervisor.isWatching s.name = false
    ∧ (run w s b d world).2.1.state.status = .exited
  := by
  obtain ⟨place, -⟩ := judge_of_not_allowed b (w.clock world) refused
  have status := status_judge_of_not_allowed (b := b) (w.clock world) refused
  rw [run_of_told going watched down pending told, place, drive_step rfl (by simp), step,
    drive_ended]
  refine ⟨?_, status⟩
  rw [Supervisor.isWatching, Table.contains, Supervisor.unwatch, Table.get?_erase, if_pos rfl]
  rfl

/-- A service that the policy lets be started again stays watched, and it is started or a restart is
pending. -/
theorem run_of_allowed (mild : w.Mild) (going : d.supervisor.stopped = false)
    (watched : d.supervisor.isWatching s.name = true)
    (down : w.call .isRunning (d, world) = (.running false, d₁, world₁))
    (pending : d₁.supervisor.pending.get? s.name = none)
    (told : w.call .exitCode (d₁, world₁) = (.exited code, d₂, world₂))
    (watched' : d₂.supervisor.isWatching s.name = true) (allowed : Allowed s code d₂) :
  (run w s b d world).2.1.supervisor.isWatching s.name = true
    ∧ (.start ∈ (run w.noting s b d (world, [])).2.2.2
      ∨ ∃ time, (run w s b d world).2.1.supervisor.pending.get? s.name = some time)
  := by
  obtain ⟨place, supervisor⟩ := judge_of_allowed b (w.clock world) allowed
  have noted := run_noting_of_told (b := b) going watched down pending told
  have kept : (judge s b (w.clock world) code d₂).2.supervisor.isWatching s.name = true := by
    rw [supervisor]
    exact watched'
  have ends := outcome_scheduling mild kept (Eq.refl (outcome w s b 6
    (.scheduling (w.clock world) (d₂.supervisor.delayOf b s.name))
    (judge s b (w.clock world) code d₂).2 world₂ [.isRunning, .exitCode]))
  rw [run_of_told going watched down pending told, noted, place]
  refine ⟨?_, ?_⟩
  · rw [isWatching_drive mild 6 (.scheduling _ _), supervisor]
    exact watched'
  · rw [drive_noting (w := w) 6 _ _ _ [.isRunning, .exitCode]]
    rcases ends with ⟨-, started, -⟩ | ⟨-, -, inserted, -⟩
    · refine .inl ?_
      rw [started]
      decide
    · refine .inr ⟨Timeline.add (w.clock world) (d₂.supervisor.delayOf b s.name), ?_⟩
      rw [inserted, Table.get?_insert, if_pos rfl]

end Told

end Check

namespace Stack

variable {τ σ : Type} [Timeline τ] {h : Host τ σ} {k : Stack τ σ} {name : String} {s : Service}
  {state : ServiceState}

/-- What a check makes of a stack. -/
theorem check_eq_of_checked (looked : k.checked? name = some (s, state)) :
  (k.check h name).2 = { k with
    supervisor := (Check.run (surroundings h s) s k.backoff (k.desk state) k.world).2.1.supervisor
    states := k.states.insert name
      (Check.run (surroundings h s) s k.backoff (k.desk state) k.world).2.1.state
    log := (Check.run (surroundings h s) s k.backoff (k.desk state) k.world).2.1.log
    world := (Check.run (surroundings h s) s k.backoff (k.desk state) k.world).2.2 }
  := by
  obtain ⟨idle, found, there⟩ := checked?_eq_some_iff.mp looked
  rw [check, if_neg (by simpa using idle), found, there]
  rfl

/-- What has become of a stack when a check has heard the start of a service fail. -/
structure Failed (h : Host τ σ) (P : σ → Prop) (s : Service) (state : ServiceState)
    (cause : StackFault) (k : Stack τ σ) : Prop where
  /-- The failed start was the last that happened to the world. -/
  start : ∃ world, P world ∧ (h.start s world).1.result = .error (.stack cause)
    ∧ k.world = (h.start s world).2
  watched : k.supervisor.isWatching s.name = true
  pending : k.supervisor.pending.get? s.name = none
  restarts : ∃ state', k.states.get? s.name = some state'
    ∧ state'.restartCount = state.restartCount + 1

theorem failed_of_start_raised {P : σ → Prop} (looked : k.checked? s.name = some (s, state))
    (isRunning : ∀ world, P world → P (h.isRunning s world).2)
    (exitCode : ∀ world, P world → P (h.exitCode s world).2) (holds : P k.world)
    {cause : StackFault} (heard : (.start, .raised (.stack cause)) ∈ k.talk h s.name) :
  (k.check h s.name).2.Failed h P s state cause
  := by
  have mild := mild_surroundings h s
  rw [talk, looked] at heard
  have spared (call : RunnerCall) (early : call ≠ .start) (d : Desk τ) (world : σ)
      (holds : P world) : P ((surroundings h s).call call (d, world)).2.2 := by
    cases call with
    | isRunning => exact isRunning world holds
    | exitCode => exact exitCode world holds
    | start => exact absurd rfl early
  have begins : Check.Nears P s (k.desk state) .entering (k.desk state) k.world :=
    .of_early rfl holds rfl rfl
  -- What the desk and the world were like at the start, and that nothing happens after it.
  obtain ⟨d₀, world₀, nears, failed, ends⟩ :=
    Check.drive_failed mild spared _ begins [] heard List.not_mem_nil
  have keeps := mild.keeps .start d₀ world₀
  have same := mild.state .start d₀ world₀
  have checked := check_eq_of_checked (h := h) looked
  rw [Check.run, ends] at checked
  have supervisor : (k.check h s.name).2.supervisor
      = ((surroundings h s).call .start (d₀, world₀)).2.1.supervisor := by
    rw [checked]
    exact Check.supervisor_hear (s := s) (b := k.backoff) .relaunching (.raised (.stack cause))
      ((surroundings h s).call .start (d₀, world₀)).2.1
  constructor
  · refine ⟨world₀, nears.reached, ?_, by rw [checked]; rfl⟩
    simp only [surroundings, answerCheck] at failed
    split at failed
    · cases failed
    · next told =>
      cases failed
      exact told
  · rw [supervisor, Supervisor.isWatching, keeps.watched, nears.watched]
    exact (checked?_eq_some_iff.mp looked).1.2
  · rw [supervisor, keeps.pending]
    exact nears.pending rfl
  · refine ⟨_, by rw [checked, Table.get?_insert, if_pos rfl], ?_⟩
    have restarts := nears.restarts
    rw [← same] at restarts
    exact restarts

/-- What becomes of a service that is found down with nothing pending, and with an exit code. -/
theorem check_of_told (looked : k.checked? s.name = some (s, state))
    (pending : k.supervisor.pending.get? s.name = none)
    (down : (h.isRunning s k.world).1.result = .ok false) {code : Option Int}
    (told : (h.exitCode s (h.isRunning s k.world).2).1.result = .ok code) :
  (Check.Allowed s code (k.desk state) → (k.check h s.name).2.supervisor.isWatching s.name = true
      ∧ (.start ∈ k.checkCalls h s.name
        ∨ ∃ time, (k.check h s.name).2.supervisor.pending.get? s.name = some time))
    ∧ (¬ Check.Allowed s code (k.desk state) →
      (k.check h s.name).2.supervisor.isWatching s.name = false
        ∧ ∃ state', (k.check h s.name).2.states.get? s.name = some state'
          ∧ state'.status = .exited)
  := by
  have mild := mild_surroundings h s
  obtain ⟨going, watched⟩ := (checked?_eq_some_iff.mp looked).1
  generalize probed : (surroundings h s).call .isRunning (k.desk state, k.world) = first
  generalize asked : (surroundings h s).call .exitCode first.2 = second
  have probed' : (surroundings h s).call .isRunning (k.desk state, k.world)
      = (.running false, first.2.1, first.2.2) := by
    rw [probed]
    exact Prod.ext (probed ▸ reply_isRunning_iff.mpr down) rfl
  have world : first.2.2 = (h.isRunning s k.world).2 := by rw [← probed]; rfl
  have asked' : (surroundings h s).call .exitCode (first.2.1, first.2.2)
      = (.exited code, second.2.1, second.2.2) := by
    rw [asked]
    refine Prod.ext (asked ▸ reply_exitCode_iff.mpr ?_) rfl
    rw [world, told]
  have keeps := mild.keeps .isRunning (k.desk state) k.world
  have keeps' := mild.keeps .exitCode first.2.1 first.2.2
  have same : second.2.1.state = state := by
    rw [← asked, mild.state .exitCode first.2.1 first.2.2, ← probed]
    exact mild.state .isRunning (k.desk state) k.world
  rw [probed] at keeps
  rw [asked] at keeps'
  have allowed_iff : Check.Allowed s code second.2.1 ↔ Check.Allowed s code (k.desk state) := by
    rw [Check.Allowed, same, Check.Allowed]
    rfl
  have none : first.2.1.supervisor.pending.get? s.name = none := by
    rw [keeps.pending]
    exact pending
  rw [← allowed_iff, check_eq_of_checked looked]
  refine ⟨fun allowed => ?_, fun refused => ?_⟩
  · have watched' : second.2.1.supervisor.isWatching s.name = true := by
      rw [Supervisor.isWatching, keeps'.watched, keeps.watched]
      exact watched
    rw [checkCalls, looked]
    exact Check.run_of_allowed mild going watched probed' none asked' watched' allowed
  · obtain ⟨gone, status⟩ := Check.run_of_not_allowed (b := k.backoff) going watched probed' none
      asked' refused
    exact ⟨gone, _, (Table.get?_insert ..).trans (if_pos rfl), status⟩

end Stack

end Muster
