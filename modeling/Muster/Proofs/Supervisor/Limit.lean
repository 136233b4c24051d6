import Muster.Proofs.Supervisor.Whole
/-!
# The limit of restarts

The limit of a service is looked at when a restart is put off, but the restart is counted when it is
carried out, which may be much later.  Between the two the restart is pending, and so the count is
below the limit as long as one is pending: there is room for it.  As the check that carries a
restart out takes it out first, the count never passes the limit, whatever happens in between, and
it is the number of times that the service has been told to start.
-/

namespace Muster

variable {τ : Type}

/-- A check has made up its mind to restart its service, but has not counted the restart yet. -/
def Check.IsPromise : Check τ → Prop
  | scheduling .. | backingOff => True
  | _ => False

/-- A runner may be called in some surroundings without anything happening to the restarts of a
service, except that a pending one may be taken back. -/
structure Check.Surroundings.Spares {σ : Type} (w : Surroundings τ σ) (name : String) : Prop where
  pending : ∀ call (d : Desk τ) world due,
    (w.call call (d, world)).2.1.supervisor.pending.get? name = some due →
      d.supervisor.pending.get? name = some due
  count : ∀ call (d : Desk τ) world,
    (w.call call (d, world)).2.1.state.restartCount = d.state.restartCount

theorem Check.Surroundings.Mild.spares {σ : Type} {w : Surroundings τ σ} (mild : w.Mild)
    (name : String) :
  w.Spares name
  where
  pending call d world due found := by
    rw [← (mild.keeps call d world).pending]
    exact found
  count call d world := by rw [mild.state]

namespace Supervision

/-- The restarts of a service with a limit: they are counted, and there is room for the one that is
still to come. -/
structure Limited (s : Service) (journal : List (Note τ)) (sup : Supervisor τ)
    (count : Nat) (c : Check τ) : Prop where
  counts : starts s.name journal + c.counted = count
  le : (count : Int) ≤ s.maxRestarts
  pending : ∀ due, sup.pending.get? s.name = some due → (count : Int) < s.maxRestarts
  promise : c.IsPromise → (count : Int) < s.maxRestarts

end Supervision

section Keeps

variable [Timeline τ] {services : Table Service} {b : Backoff τ} {s : Service} {clock looked : τ}
  {sup sup' : Supervisor τ} {state state' : ServiceState} {c c' : Check τ}
  {journal : List (Note τ)} {v₀ v v' : Supervision τ} {note : Option (Note τ)}

/-- A check counts a restart when it is about to carry it out. -/
theorem Check.Goes.restartCount (goes : Goes s b clock sup state c c' sup' state') :
  state'.restartCount = state.restartCount + c'.counted
  := by
  cases goes <;> rfl

omit [Timeline τ] in
theorem Check.lt_of_allowed (limit : s.maxRestarts ≠ 0) {code : Option Int} {d : Desk τ}
    (allowed : Allowed s code d) :
  (d.state.restartCount : Int) < s.maxRestarts
  := by
  have free := allowed.2
  simpa [limitReached, limit] using free

/-- A check that goes on makes a promise only when there is room, and keeps it by counting. -/
theorem Supervision.Limited.goes (limit : s.maxRestarts ≠ 0)
    (limited : Limited s journal sup state.restartCount c)
    (goes : Check.Goes s b clock sup state c c' sup' state') :
  Limited s ((c.notes s.name clock looked sup).toList ++ journal) sup' state'.restartCount c'
  where
  counts := by
    rw [goes.restartCount, ← limited.counts, starts_append, Check.starts_notes,
      Nat.add_comm c.counted]
  le := by
    cases goes with
    | backOff => exact limited.promise trivial
    | _ => exact limited.le
  pending due found := by
    cases goes with
    | credit =>
      rw [(Supervisor.credit_eq sup b _ s.name).1] at found
      exact limited.pending due found
    | retire => cases (sup.pending_unwatch s.name).symm.trans found
    | backOff => cases (sup.pending_backOff b s.name).symm.trans found
    | schedule => exact limited.promise trivial
    | resume =>
      rw [Supervisor.pending_resume] at found
      exact limited.pending due found
    | _ => exact limited.pending due found
  promise promised := by
    cases goes with
    | allow allowed => exact Check.lt_of_allowed limit allowed
    | fallDue found past => exact limited.pending _ found
    | _ => cases promised

omit [Timeline τ] in
/-- Whatever does not concern a service neither counts a restart of it nor promises one. -/
theorem Supervision.Limited.apart
    (limited : Limited s journal v.supervisor (v.state s.name).restartCount (v.check s.name))
    (apart : Apart b s.name v note v') :
  Limited s (note.toList ++ journal) v'.supervisor (v'.state s.name).restartCount (v'.check s.name)
  := by
  rw [apart.count]
  refine ⟨?_, limited.le, fun due found => ?_, ?_⟩
  · rw [Note.eq_of_silent starts_cons apart.silent, ← limited.counts]
    rcases apart.check with same | ⟨entered, fault, idle⟩
    · rw [same]
    · rw [entered, idle]
      rfl
  · apply limited.pending due (apart.forgets.pending due found)
  · rcases apart.check with same | ⟨entered, -⟩
    · rw [same]
      exact limited.promise
    · rw [entered]
      exact False.elim

/-- In every run the restarts of a service with a limit are counted, and there is room for the one
that is still to come. -/
theorem Supervision.Run.limited (limit : 0 < s.maxRestarts)
    (found : services.get? s.name = some s) (fresh : v₀.Fresh)
    (zero : (v₀.state s.name).restartCount = 0) (run : Run services b v₀ journal v) :
  Limited s journal v.supervisor (v.state s.name).restartCount (v.check s.name)
  := by
  induction run with
  | start =>
    obtain ⟨fault, idle⟩ := fresh.idle s.name
    rw [zero, idle]
    refine ⟨rfl, Int.le_of_lt limit, fun due pending => ?_, False.elim⟩
    rw [fresh.pending] at pending
    cases pending
  | step run step ih =>
    cases step.happens s.name with
    | apart apart => exact ih.apart apart
    | watch noted same =>
      subst noted same
      exact ⟨ih.counts, ih.le, ih.pending, ih.promise⟩
    | turn same there turn =>
      cases found.symm.trans there
      rw [turn.note]
      exact ih.goes (Int.ne_of_gt limit) turn.goes

end Keeps

/-! ### When the limit has been reached -/

section Reached

variable {σ : Type} [Timeline τ] {w : Check.Surroundings τ σ} {s : Service} {b : Backoff τ}
  {d d₁ d₂ : Desk τ} {world world₁ world₂ : σ} {code : Option Int}

/-- A check of a service that may not be started again lets it go, and does not start it. -/
theorem Check.run_noting_of_not_allowed (going : d.supervisor.stopped = false)
    (watched : d.supervisor.isWatching s.name = true)
    (down : w.call .isRunning (d, world) = (.running false, d₁, world₁))
    (pending : d₁.supervisor.pending.get? s.name = none)
    (told : w.call .exitCode (d₁, world₁) = (.exited code, d₂, world₂))
    (refused : ¬ Allowed s code d₂) :
  (run w.noting s b d (world, [])).1 = none
    ∧ .start ∉ (run w.noting s b d (world, [])).2.2.2
    ∧ (run w.noting s b d (world, [])).2.1.state.status = .exited
    ∧ (run w.noting s b d (world, [])).2.1.supervisor.isWatching s.name = false
  := by
  have place := (judge_of_not_allowed b (w.clock world) refused).1
  have status := status_judge_of_not_allowed (b := b) (w.clock world) refused
  rw [run_noting_of_told going watched down pending told, place, drive_step rfl (by simp), step,
    drive_ended]
  refine ⟨rfl, (by decide : RunnerCall.start ∉ [.isRunning, .exitCode]), status, ?_⟩
  rw [Supervisor.isWatching, Table.contains, Supervisor.unwatch, Table.get?_erase, if_pos rfl]
  rfl

omit [Timeline τ] in
theorem Check.not_allowed_of_reached (limit : 0 < s.maxRestarts)
    (reached : (d.state.restartCount : Int) = s.maxRestarts) :
  ¬ Allowed s code d
  := by
  intro allowed
  have room := lt_of_allowed (Int.ne_of_gt limit) allowed
  exact Int.ne_of_lt room reached

/-- A check that finds a service down that has used up its restarts lets it go without a start,
whatever happens to the rest of the supervisor while the runner is called. -/
theorem Check.run_noting_of_reached (spares : w.Spares s.name) (limit : 0 < s.maxRestarts)
    (reached : (d.state.restartCount : Int) = s.maxRestarts) (going : d.supervisor.stopped = false)
    (watched : d.supervisor.isWatching s.name = true)
    (idle : d.supervisor.pending.get? s.name = none)
    (down : (w.call .isRunning (d, world)).1 = .running false)
    (told : (w.call .exitCode (w.call .isRunning (d, world)).2).1 = .exited code) :
  (run w.noting s b d (world, [])).1 = none
    ∧ .start ∉ (run w.noting s b d (world, [])).2.2.2
    ∧ (run w.noting s b d (world, [])).2.1.state.status = .exited
    ∧ (run w.noting s b d (world, [])).2.1.supervisor.isWatching s.name = false
  := by
  generalize probed : w.call .isRunning (d, world) = first at down told
  generalize asked : w.call .exitCode first.2 = second at told
  obtain ⟨reply, d₁, world₁⟩ := first
  obtain ⟨answer, d₂, world₂⟩ := second
  subst down told
  have pending : d₁.supervisor.pending.get? s.name = none := by
    cases pending : d₁.supervisor.pending.get? s.name with
    | none => rfl
    | some due =>
      have there := spares.pending .isRunning d world due
      rw [probed] at there
      cases idle.symm.trans (there pending)
  have count : d₂.state.restartCount = d.state.restartCount := by
    have first := spares.count .isRunning d world
    have second := spares.count .exitCode d₁ world₁
    rw [probed] at first
    rw [asked] at second
    exact second.trans first
  apply run_noting_of_not_allowed going watched probed pending asked
  apply not_allowed_of_reached limit
  rw [count, reached]

omit [Timeline τ] in
theorem Supervision.Limited.pending_of_reached {journal : List (Note τ)} {sup : Supervisor τ}
    {count : Nat} {c : Check τ} (limited : Limited s journal sup count c)
    (reached : (count : Int) = s.maxRestarts) :
  sup.pending.get? s.name = none
  := by
  cases pending : sup.pending.get? s.name with
  | none => rfl
  | some due => exact absurd reached (Int.ne_of_lt (limited.pending due pending))

/-- The supervisor tells a service with a limit to start as often as a restart is counted, the start
included that a check is still waiting for, and not more often than the limit allows.  When as many
have been counted, nothing is pending, and a check that finds the service down lets it go without a
start. -/
theorem Supervision.Run.starts_le_limit {services : Table Service} {v₀ v : Supervision τ}
    {journal : List (Note τ)} {n : Nat} (limit : s.maxRestarts = n) (positive : 1 ≤ n)
    (found : services.get? s.name = some s) (fresh : v₀.Fresh)
    (zero : (v₀.state s.name).restartCount = 0) (run : Run services b v₀ journal v) :
  starts s.name journal + (v.check s.name).counted = (v.state s.name).restartCount
    ∧ (v.state s.name).restartCount ≤ n
    ∧ ((v.state s.name).restartCount = n → v.supervisor.stopped = false →
      v.supervisor.isWatching s.name = true → v.supervisor.pending.get? s.name = none
        ∧ ∀ (σ : Type) (w : Check.Surroundings τ σ), w.Spares s.name → ∀ log world code,
          (w.call .isRunning (v.desk s.name log, world)).1 = .running false →
          (w.call .exitCode (w.call .isRunning (v.desk s.name log, world)).2).1 = .exited code →
          let r := Check.run w.noting s b (v.desk s.name log) (world, [])
          r.1 = none ∧ .start ∉ r.2.2.2 ∧ r.2.1.state.status = .exited
            ∧ r.2.1.supervisor.isWatching s.name = false)
  := by
  have bounded : 0 < s.maxRestarts := by omega
  have limited := run.limited bounded found fresh zero
  have le := limited.le
  refine ⟨limited.counts, by omega, fun reached going watched => ?_⟩
  have reached : ((v.state s.name).restartCount : Int) = s.maxRestarts := by rw [reached, limit]
  have idle := limited.pending_of_reached reached
  refine ⟨idle, fun σ w spares log world code down told => ?_⟩
  apply Check.run_noting_of_reached spares bounded reached going watched idle down told

end Reached

/-- The lamp has been lit again once, and then it is let go. -/
theorem Supervision.Run.starts_le_limit_lamp :
  Sample.lamp.maxRestarts = (1 : Nat) ∧ Sample.lamps.get? Sample.lamp.name = some Sample.lamp
    ∧ Sample.unlit.Fresh ∧ (Sample.unlit.state Sample.lamp.name).restartCount = 0
    ∧ ∃ journal v, Run Sample.lamps Sample.patience Sample.unlit journal v
      ∧ starts "lamp" journal = 1 ∧ (v.state "lamp").restartCount = 1
      ∧ let r := Check.run Sample.flickering.noting Sample.lamp Sample.patience (v.desk "lamp" [])
          ((1 : Int), [])
        r.1 = none ∧ .start ∉ r.2.2.2 ∧ r.2.1.state.status = .exited
          ∧ r.2.1.supervisor.isWatching "lamp" = false
  := by
  refine ⟨rfl, Sample.get?_lamps, Sample.fresh_unlit, rfl, ?_⟩
  obtain ⟨journal, v, run, lit, going, watched, -, -, count⟩ := Sample.exists_relit
  obtain ⟨-, -, reached⟩ := run.starts_le_limit (s := Sample.lamp) (n := 1) rfl (Nat.le_refl 1)
    Sample.get?_lamps Sample.fresh_unlit rfl
  refine ⟨journal, v, run, lit, count, ?_⟩
  apply (reached count going watched).2 Int Sample.flickering (Sample.mild_flickering.spares _)
    [] 1 (some 1) rfl rfl

end Muster
