import Mathlib.Tactic.Use
import Muster.Stack.Worker
/-!
# The turns of a worker

What the worker of a service can do in one turn: what it calls the host for, where it stands
afterwards, and what becomes of the state of its service.  `Moves` lists the turns, one
constructor for each, and every step of a worker and every giving up is one of them.  Whatever
the turn, the states of all other services stay as they are.
-/

namespace Muster.Worker

variable {τ σ : Type}

/-- A call that a worker makes of the host, with what it comes back with. -/
inductive Call where
  | start (result : Except Fault Unit)
  | check (result : Except Fault CheckResult)

/-- The call that a worker makes in its next step, if it makes one. -/
def call? (h : Host τ σ) (s : Service) (w : Worker) (k : Stack τ σ) : Option Call :=
  match w with
  | starting => some (.start (h.start s k.world).1.result)
  | checking .. => s.activeCheck?.map fun check => .check (h.check s check k.world).1.result
  | _ => none

/-- A turn of the worker of a service in a stack: where it stands before, its call, where it
stands after, and the state of the service and of the host after. -/
inductive Moves (h : Host τ σ) (s : Service) (k : Stack τ σ) (state : ServiceState) :
    Worker → Option Call → Worker → ServiceState → σ → Prop where
  | arrive {dependency condition left} (came : arrived k dependency condition = true) :
    Moves h s k state (awaiting ((dependency, condition) :: left)) none
      (judging dependency left) state k.world
  | gather : Moves h s k state (awaiting []) none gating state k.world
  | shutDown {w} (waits : w = gating ∨ ∃ e left, w = awaiting (e :: left))
      (stop : k.stopping = true) :
    Moves h s k state w none (giveUp s shuttingDown).1 state k.world
  | pass {dependency left other} (found : k.states.get? dependency = some other)
      (well : other.failed = false) :
    Moves h s k state (judging dependency left) none (awaiting left) state k.world
  | refuse {dependency left other} (found : k.states.get? dependency = some other)
      (ill : other.failed = true) :
    Moves h s k state (judging dependency left) none (blaming dependency) state k.world
  | block {dependency other} (found : k.states.get? dependency = some other) :
    Moves h s k state (blaming dependency) none
      (failing (Mark.ofFailure .blocked (blame dependency other.status)) none) state k.world
  | lose {w dependency} (looks : w = blaming dependency ∨ ∃ left, w = judging dependency left)
      (missing : k.states.get? dependency = none) :
    Moves h s k state w none (giveUp s .missingKey).1 state k.world
  | enter (free : k.stopping = false) : Moves h s k state gating none starting state k.world
  | start (ok : (h.start s k.world).1.result = .ok ()) :
    Moves h s k state starting (some (.start (.ok ()))) (announcing Mark.ofStart) state
      (h.start s k.world).2
  | startFault {fault} (failed : (h.start s k.world).1.result = .error fault) :
    Moves h s k state starting (some (.start (.error fault))) (giveUp s fault).1 state
      (h.start s k.world).2
  | announce {m left} :
    Moves h s k state (announcing (m :: left)) none (announcing left) (state.mark m) k.world
  | watch (checked : s.hasHealthCheck = true) :
    Moves h s k state (announcing []) none preparing state k.world
  | skip {w} (unchecked : s.hasHealthCheck = false)
      (stands : w = announcing [] ∨ w = preparing ∨ (∃ p, w = polling p)
        ∨ ∃ spent left, w = checking spent left) :
    Moves h s k state w none (readying (Mark.ofReady false)) state k.world
  | prepare {check} (found : s.activeCheck? = some check) :
    Moves h s k state preparing none (polling (Poll.start check)) (Poll.noteStart state) k.world
  | wake {p check time world} (active : s.activeCheck? = some check)
      (waits : p.delay? check = some time) (free : k.stopping = false)
      (passed : h.wait time k.world = .ok world) :
    Moves h s k state (polling p) none (polling (p.wake false)) state world
  | rouse {p check time} (active : s.activeCheck? = some check)
      (waits : p.delay? check = some time) (stop : k.stopping = true) :
    Moves h s k state (polling p) none (polling (p.wake true)) state k.world
  | stall {p check time fault} (active : s.activeCheck? = some check)
      (waits : p.delay? check = some time) (free : k.stopping = false)
      (refused : h.wait time k.world = .error fault) :
    Moves h s k state (polling p) none (polling (.ended (.broken fault))) state k.world
  | cancel {spent left} (stop : k.stopping = true) :
    Moves h s k state (polling (.due spent left)) none (polling (.ended .interrupted)) state
      k.world
  | begin {spent left} (free : k.stopping = false) :
    Moves h s k state (polling (.due spent left)) none (checking spent left) state k.world
  | check {spent left check} (found : s.activeCheck? = some check) :
    Moves h s k state (checking spent left) (some (.check (h.check s check k.world).1.result))
      (hearing spent left (h.check s check k.world).1.result) state (h.check s check k.world).2
  | hear {spent left reply} :
    Moves h s k state (hearing spent left reply) none
      (polling (Poll.hear k.stopping spent left reply)) (Poll.noteResult reply state) k.world
  | pollOk {ending result} (checked : s.hasHealthCheck = true)
      (ok : ending.outcome s.name = .ok result) :
    Moves h s k state (polling (.ended ending)) none (readying (Mark.ofReady true)) state k.world
  | pollFault {ending fault} (failed : ending.outcome s.name = .error fault) :
    Moves h s k state (polling (.ended ending)) none (giveUp s fault).1 state k.world
  | ready {m left} :
    Moves h s k state (readying (m :: left)) none (readying left) (state.mark m) k.world
  | confirm : Moves h s k state (readying []) none (ended none) state k.world
  | fail {m left fault} :
    Moves h s k state (failing (m :: left) fault) none (failing left fault) (state.mark m) k.world
  | fall {fault} : Moves h s k state (failing [] fault) none (ended fault) state k.world

/-- A stack in which neither what it is made of, nor a scheduled restart or the wait before one, has
changed. -/
structure Spares (k k' : Stack τ σ) : Prop where
  descriptor : k'.descriptor = k.descriptor
  backoff : k'.backoff = k.backoff
  pending : k'.supervisor.pending = k.supervisor.pending
  delays : ∀ name, k'.supervisor.delayOf k.backoff name = k.supervisor.delayOf k.backoff name

/-- What a turn of the worker of a service leaves behind: the states of the other services as they
were, and a request to stop where there was one or where the host came back with one. -/
structure Leaves (h : Host τ σ) (s : Service) (k k' : Stack τ σ) (state : ServiceState) : Prop where
  states : ∀ name, k'.states.get? name
    = if name = s.name then some state else k.states.get? name
  order : k'.order = k.order
  keeps : k.stopping = true → k'.stopping = true
  stops : k'.stopping = true → k.stopping = true ∨ (h.start s k.world).1.stops = true
    ∨ ∃ check, (h.check s check k.world).1.stops = true
  spares : Spares k k'

variable {h : Host τ σ} {s : Service} {w w' : Worker} {k k' : Stack τ σ} {state : ServiceState}

/-- A stack in which at most the log, the host and the services that are watched have changed. -/
theorem Leaves.of_watch (found : k.states.get? s.name = some state) (states : k'.states = k.states)
    (order : k'.order = k.order) (stopping : k'.stopping = k.stopping) (spares : Spares k k') :
  Leaves h s k k' state
  where
  states name := by
    rw [states]
    split
    · next same => rw [same, found]
    · rfl
  order := order
  keeps := by rw [stopping]; exact id
  stops := by rw [stopping]; exact .inl
  spares := spares

/-- A stack in which at most the log and the host have changed. -/
theorem Leaves.of_eq (found : k.states.get? s.name = some state)
    (same : { k' with log := k.log, world := k.world } = k) :
  Leaves h s k k' state
  := by
  obtain ⟨log, world, rfl⟩ : ∃ log world, k' = { k with log, world } :=
    ⟨k'.log, k'.world, by rw [← same]⟩
  exact .of_watch found rfl rfl rfl ⟨rfl, rfl, rfl, fun _ => rfl⟩

/-- A stack in which the state of the service has been changed. -/
theorem Leaves.of_update (found : k.states.get? s.name = some state)
    (f : ServiceState → ServiceState) (log : List LogEntry) :
  Leaves h s k { k.update s.name f with log } (f state)
  where
  states name := by
    show (k.states.modify s.name f).get? name = _
    rw [Table.get?_modify, found]
    rfl
  order := rfl
  keeps := id
  stops := .inl
  spares := ⟨rfl, rfl, rfl, fun _ => rfl⟩

/-- Giving up leaves the states as they are. -/
theorem Leaves.of_fail (found : k.states.get? s.name = some state) (fault : Fault) :
  Leaves h s k (fail s fault k).2 state
  := .of_eq found rfl

theorem hasHealthCheck_eq_false (none : s.activeCheck? = none) :
  s.hasHealthCheck = false
  := by
  simp [Service.hasHealthCheck, none]

theorem hasHealthCheck_eq_true {check : HealthCheck} (found : s.activeCheck? = some check) :
  s.hasHealthCheck = true
  := by
  simp [Service.hasHealthCheck, found]

theorem eq_of_some_eq {α β : Type} {p : α × β} {a : α} {b : β} (same : some p = some (a, b)) :
  a = p.1 ∧ b = p.2
  := by
  cases same
  exact ⟨rfl, rfl⟩

/-- A worker that gives up waiting takes one of the listed turns. -/
theorem moves_of_quit (found : k.states.get? s.name = some state)
    (quit : w.quit s k = some (w', k')) :
  Moves h s k state w (w.call? h s k) w' state k'.world ∧ Leaves h s k k' state
  := by
  unfold Worker.quit at quit
  split at quit
  · next e left =>
    split at quit
    · next stop =>
      obtain ⟨rfl, rfl⟩ := eq_of_some_eq quit
      exact ⟨.shutDown (.inr ⟨e, left, rfl⟩) stop, .of_fail found _⟩
    · cases quit
  · cases quit

theorem moves_of_judge (found : k.states.get? s.name = some state) (dependency : String)
    (left : List (String × Condition)) :
  Moves h s k state (judging dependency left) none (judge s dependency left k).1 state
      (judge s dependency left k).2.world
    ∧ Leaves h s k (judge s dependency left k).2 state
  := by
  rw [judge]
  split
  · next other there =>
    by_cases ill : other.failed = true
    · simp only [if_pos ill]
      exact ⟨.refuse there ill, .of_eq found rfl⟩
    · simp only [if_neg ill]
      exact ⟨.pass there (by simpa using ill), .of_eq found rfl⟩
  · next missing => exact ⟨.lose (.inr ⟨left, rfl⟩) missing, .of_fail found _⟩

theorem moves_of_block (found : k.states.get? s.name = some state) (dependency : String) :
  Moves h s k state (blaming dependency) none (block s dependency k).1 state
      (block s dependency k).2.world
    ∧ Leaves h s k (block s dependency k).2 state
  := by
  rw [block]
  split
  · next other there => exact ⟨.block there, .of_eq found rfl⟩
  · next missing => exact ⟨.lose (.inl rfl) missing, .of_fail found _⟩

theorem moves_of_pause {check : HealthCheck} {p : Poll} {time : Float}
    (found : k.states.get? s.name = some state) (active : s.activeCheck? = some check)
    (waits : p.delay? check = some time) :
  Moves h s k state (polling p) none (pause h time p k).1 state (pause h time p k).2.world
    ∧ Leaves h s k (pause h time p k).2 state
  := by
  unfold pause
  split
  · next stop => exact ⟨.rouse active waits stop, .of_eq found rfl⟩
  · next free =>
    have free : k.stopping = false := by simpa using free
    split
    · next passed => exact ⟨.wake active waits free passed, .of_eq found rfl⟩
    · next refused => exact ⟨.stall active waits free refused, .of_eq found rfl⟩

theorem moves_of_stepPoll {check : HealthCheck} (p : Poll)
    (found : k.states.get? s.name = some state) (active : s.activeCheck? = some check) :
  Moves h s k state (polling p) none (stepPoll h s check p k).1 state
      (stepPoll h s check p k).2.world
    ∧ Leaves h s k (stepPoll h s check p k).2 state
  := by
  cases p with
  | settling left => exact moves_of_pause found active rfl
  | resting spent left => exact moves_of_pause found active rfl
  | due spent left =>
    simp only [stepPoll]
    by_cases stop : k.stopping = true
    · rw [if_pos stop]
      exact ⟨.cancel stop, .of_eq found rfl⟩
    · rw [if_neg stop]
      exact ⟨.begin (by simpa using stop), .of_eq found rfl⟩
  | ended ending =>
    simp only [stepPoll]
    split
    · next ok =>
      rw [hasHealthCheck_eq_true active]
      exact ⟨.pollOk (hasHealthCheck_eq_true active) ok, .of_eq found rfl⟩
    · next failed => exact ⟨.pollFault failed, .of_eq found rfl⟩

/-- A call of the host leaves the states as they are, and may come back with a request to
stop. -/
theorem Leaves.of_hear {α : Type} {r : Reply α × σ} (found : k.states.get? s.name = some state)
    (same : { k' with log := k.log, world := k.world, supervisor := k.supervisor } = k)
    (asked : k'.supervisor = if r.1.stops then k.supervisor.requestStop else k.supervisor)
    (own : r.1.stops = true → (h.start s k.world).1.stops = true
      ∨ ∃ check, (h.check s check k.world).1.stops = true) :
  Leaves h s k k' state
  := by
  obtain ⟨log, world, supervisor, rfl⟩ : ∃ log world supervisor,
      k' = { k with log, world, supervisor } :=
    ⟨k'.log, k'.world, k'.supervisor, by rw [← same]⟩
  simp only at asked
  subst asked
  cases stops : r.1.stops with
  | false => exact .of_eq found rfl
  | true =>
    refine ⟨fun name => ?_, rfl, fun _ => rfl, fun _ => .inr (own stops),
      ⟨rfl, rfl, rfl, fun _ => rfl⟩⟩
    by_cases own : name = s.name
    · rw [if_pos own, own]
      exact found
    · rw [if_neg own]

theorem moves_of_start (found : k.states.get? s.name = some state)
    (step : starting.step h s k = some (w', k')) :
  Moves h s k state starting (starting.call? h s k) w' state k'.world ∧ Leaves h s k k' state
  := by
  simp only [Worker.step] at step
  split at step
  · next heard called =>
    obtain ⟨ok, rfl⟩ := Prod.mk.inj called
    obtain ⟨rfl, rfl⟩ := eq_of_some_eq step
    have result : (h.start s k.world).1.result = .ok () := ok
    simp only [call?, result]
    exact ⟨.start result, .of_hear found rfl rfl .inl⟩
  · next fault heard called =>
    obtain ⟨failed, rfl⟩ := Prod.mk.inj called
    obtain ⟨rfl, rfl⟩ := eq_of_some_eq step
    have result : (h.start s k.world).1.result = .error fault := failed
    simp only [call?, result]
    exact ⟨.startFault result, .of_hear found rfl rfl .inl⟩

theorem spares_watch (k : Stack τ σ) (now : τ) (name : String) :
  Spares k { k with supervisor := k.supervisor.watch k.backoff now name }
  where
  descriptor := rfl
  backoff := rfl
  pending := rfl
  delays other := Supervisor.delayOf_watch k.supervisor k.backoff now name other

/-- Every step of a worker is one of the listed turns. -/
theorem moves_of_step (found : k.states.get? s.name = some state)
    (step : w.step h s k = some (w', k')) :
  ∃ state', Moves h s k state w (w.call? h s k) w' state' k'.world ∧ Leaves h s k k' state'
  := by
  cases w with
  | awaiting left =>
    cases left with
    | nil =>
      cases step
      exact ⟨state, .gather, .of_eq found rfl⟩
    | cons e left =>
      simp only [Worker.step] at step
      split at step
      · next came =>
        cases step
        exact ⟨state, .arrive came, .of_eq found rfl⟩
      · exact ⟨state, moves_of_quit found step⟩
  | judging dependency left =>
    obtain ⟨rfl, rfl⟩ := eq_of_some_eq step
    exact ⟨state, moves_of_judge found dependency left⟩
  | blaming dependency =>
    obtain ⟨rfl, rfl⟩ := eq_of_some_eq step
    exact ⟨state, moves_of_block found dependency⟩
  | gating =>
    use state
    simp only [Worker.step] at step
    split at step
    · next stop =>
      obtain ⟨rfl, rfl⟩ := eq_of_some_eq step
      exact ⟨.shutDown (.inl rfl) stop, .of_fail found _⟩
    · next free =>
      cases step
      exact ⟨.enter (by simpa using free), .of_eq found rfl⟩
  | starting => exact ⟨state, moves_of_start found step⟩
  | announcing left =>
    cases left with
    | nil =>
      use state
      cases checked : s.hasHealthCheck <;> simp only [Worker.step, checked] at step <;> cases step
      · exact ⟨.skip checked (.inl rfl), .of_watch found rfl rfl rfl (spares_watch ..)⟩
      · exact ⟨.watch checked, .of_watch found rfl rfl rfl (spares_watch ..)⟩
    | cons m left =>
      cases step
      exact ⟨_, .announce, .of_update found _ _⟩
  | preparing =>
    simp only [Worker.step] at step
    split at step
    · next none =>
      cases step
      exact ⟨state, .skip (hasHealthCheck_eq_false none) (.inr (.inl rfl)),
        .of_eq found rfl⟩
    · next check active =>
      cases step
      exact ⟨_, .prepare active, .of_update found _ _⟩
  | polling p =>
    use state
    simp only [Worker.step] at step
    split at step
    · next none =>
      cases step
      exact ⟨.skip (hasHealthCheck_eq_false none) (.inr (.inr (.inl ⟨p, rfl⟩))),
        .of_eq found rfl⟩
    · next check active =>
      obtain ⟨rfl, rfl⟩ := eq_of_some_eq step
      apply moves_of_stepPoll p found active
  | checking spent left =>
    use state
    simp only [Worker.step] at step
    split at step
    · next none =>
      cases step
      simp only [call?, none, Option.map_none]
      exact ⟨.skip (hasHealthCheck_eq_false none) (.inr (.inr (.inr ⟨spent, left, rfl⟩))),
        .of_eq found rfl⟩
    · next check active =>
      cases step
      simp only [call?, active, Option.map_some]
      exact ⟨.check active,
        .of_hear found rfl rfl fun stops => .inr ⟨check, stops⟩⟩
  | hearing spent left reply =>
    cases step
    exact ⟨_, .hear, .of_update found _ _⟩
  | readying left =>
    cases left with
    | nil =>
      cases step
      exact ⟨state, .confirm, .of_eq found rfl⟩
    | cons m left =>
      cases step
      exact ⟨_, .ready, .of_update found _ _⟩
  | failing left fault =>
    cases left with
    | nil =>
      cases step
      exact ⟨state, .fall, .of_eq found rfl⟩
    | cons m left =>
      cases step
      exact ⟨_, .fail, .of_update found _ _⟩
  | ended fault => cases step

end Muster.Worker
