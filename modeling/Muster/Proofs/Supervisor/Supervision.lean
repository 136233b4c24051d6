import Mathlib.Logic.Function.Basic
import Muster.Proofs.Supervisor.Check
/-!
# Services under supervision

The sections of a check do not follow each other at once: between any two of them others may come
in.  Services are watched and are not watched any longer, a stop is asked for, time passes, and the
checks of other services go on; only two checks of one service never overlap.  `Supervision` is the
situation at a moment, and `Supervision.Run` the relation of all runs.  A journal is kept of what is
done about restarts, newest first.

Each section of a check and each reply that it hears is one of the ways in which a check goes on,
which `Check.Goes` lists.  For a single service a step of a run is such a section of its own check,
or the service is watched, or the step does not concern it (`Happens`).
-/

namespace Muster

variable {τ : Type}

/-- What is put down about restarts. -/
inductive Note (τ : Type) where
  /-- The supervisor has put down that a run of the service started at `time`. -/
  | begun (name : String) (time : τ)
  /-- A check that looked at the clock at `now` has put a restart off until `due`. -/
  | scheduled (name : String) (now due : τ)
  /-- A check that looked at the clock at `now` has gone on to restart the service. -/
  | attempted (name : String) (now : τ)
  /-- The runner has come back that such a check has told to start the service. -/
  | started (name : String) (now : τ)
  /-- A check that looked at the clock at `now` has seen the service running, in a run that is
  remembered to have started at `since`. -/
  | seen (name : String) (since now : τ)

/-- The service that a note is about. -/
def Note.about : Note τ → String
  | begun name _ | scheduled name .. | attempted name _ | started name _ | seen name .. => name

/-- A note about another service does not change what a journal says about a service. -/
theorem Note.eq_of_silent {α : Type} {reading : List (Note τ) → α} {name : String}
    (others : ∀ {n : Note τ}, n.about ≠ name → ∀ past, reading (n :: past) = reading past)
    {note : Option (Note τ)} (silent : ∀ n, note = some n → n.about ≠ name)
    (journal : List (Note τ)) :
  reading (note.toList ++ journal) = reading journal
  := by
  cases note with
  | none => rfl
  | some n => exact others (silent n rfl) journal

/-- Whether a runner can come back from a call with a reply: with an answer to what was asked, or
with a fault. -/
def RunnerCall.Answers : RunnerCall → RunnerReply → Prop
  | isRunning, .running _ | exitCode, .exited _ | start, .started | _, .raised _ => True
  | _, _ => False

/-- What is put down when a check goes on that stands at a place; `looked` is the time at which it
has looked at the clock.  The run of a service that is not watched any longer counts as one that
starts only then. -/
def Check.notes [Timeline τ] (name : String) (clock looked : τ) (sup : Supervisor τ) :
    Check τ → Option (Note τ)
  | crediting _ => some (.seen name ((sup.watched.get? name).getD looked) looked)
  | scheduling now delay =>
    if sup.isWatching name then some (.scheduled name looked (Timeline.add now delay)) else none
  | backingOff => some (.attempted name looked)
  | relaunching => some (.started name looked)
  | resuming => if sup.isWatching name then some (.begun name clock) else none
  | _ => none

/-- When a check that goes on has looked at the clock. -/
def Check.lastLook (clock looked : τ) : Check τ → τ
  | entering => clock
  | _ => looked

/-- Services under supervision: what the supervisor remembers, the time, the state of each service,
where its check stands, and when this has looked at the clock.  A check that has ended may begin
anew. -/
structure Supervision (τ : Type) where
  supervisor : Supervisor τ
  clock : τ
  state : String → ServiceState
  check : String → Check τ
  looked : String → τ

namespace Supervision

/-- What the check of a service works on, besides the log. -/
def desk (v : Supervision τ) (name : String) (log : List LogEntry) : Desk τ where
  supervisor := v.supervisor
  state := v.state name
  log := log

/-- The check of a service has gone on. -/
def goOn (v : Supervision τ) (name : String) (gone : Check τ × Desk τ) : Supervision τ where
  supervisor := gone.2.supervisor
  clock := v.clock
  state := Function.update v.state name gone.2.state
  check := Function.update v.check name gone.1
  looked := Function.update v.looked name ((v.check name).lastLook v.clock (v.looked name))

section Steps

variable [Timeline τ]

/-- What may happen next to services under supervision, with what is put down about it. -/
inductive Step (services : Table Service) (b : Backoff τ) (v : Supervision τ) :
    Option (Note τ) → Supervision τ → Prop where
  | pass {time} (later : Timeline.before time v.clock = false) :
    Step services b v none { v with clock := time }
  | watch (name : String) :
    Step services b v (some (.begun name v.clock))
      { v with supervisor := v.supervisor.watch b v.clock name }
  | unwatch (name : String) :
    Step services b v none { v with supervisor := v.supervisor.unwatch name }
  | requestStop : Step services b v none { v with supervisor := v.supervisor.requestStop }
  | clear : Step services b v none { v with supervisor := v.supervisor.clear }
  | reopen : Step services b v none { v with supervisor := v.supervisor.reopen }
  /-- Others change the state of a service, but for the count of its restarts. -/
  | mark (name : String) {state} (same : state.restartCount = (v.state name).restartCount) :
    Step services b v none { v with state := Function.update v.state name state }
  /-- A check begins. -/
  | enter {s fault} (found : services.get? s.name = some s) (idle : v.check s.name = .ended fault) :
    Step services b v none { v with check := Function.update v.check s.name .entering }
  /-- A check goes on by itself. -/
  | own {s} (log : List LogEntry) (found : services.get? s.name = some s)
      (calls : (v.check s.name).call? = none) :
    Step services b v ((v.check s.name).notes s.name v.clock (v.looked s.name) v.supervisor)
      (v.goOn s.name (Check.step s b v.clock (v.check s.name) (v.desk s.name log)))
  /-- The runner of a service comes back from a call. -/
  | reply {s call reply} (log : List LogEntry) (found : services.get? s.name = some s)
      (calls : (v.check s.name).call? = some call) (answers : call.Answers reply) :
    Step services b v ((v.check s.name).notes s.name v.clock (v.looked s.name) v.supervisor)
      (v.goOn s.name (Check.hear s b (v.check s.name) reply (v.desk s.name log)))

/-- The runs from a beginning, each with its journal. -/
inductive Run (services : Table Service) (b : Backoff τ) (v₀ : Supervision τ) :
    List (Note τ) → Supervision τ → Prop where
  | start : Run services b v₀ [] v₀
  | step {journal v note v'} (run : Run services b v₀ journal v)
      (step : Step services b v note v') : Run services b v₀ (note.toList ++ journal) v'

/-- Nothing has been done about restarts yet, and no check is going on. -/
structure Fresh (v : Supervision τ) : Prop where
  delays : v.supervisor.delays = ∅
  pending : v.supervisor.pending = ∅
  watched : v.supervisor.watched = ∅
  idle : ∀ name, ∃ fault, v.check name = .ended fault

end Steps

end Supervision

/-! ### How a check goes on -/

namespace Supervisor

theorem pending_unwatch (sup : Supervisor τ) (name : String) :
  (sup.unwatch name).pending.get? name = none
  := (Table.get?_erase ..).trans (if_pos rfl)

theorem pending_resume (sup : Supervisor τ) (clock : τ) (name : String) :
  (sup.resume clock name).pending = sup.pending
  := by
  rw [resume]
  split <;> rfl

/-- Of what a supervisor remembers about a service nothing has changed, but for what it has
forgotten. -/
structure Forgets (b : Backoff τ) (name : String) (sup sup' : Supervisor τ) : Prop where
  delay : sup'.delayOf b name = sup.delayOf b name
  pending : ∀ due, sup'.pending.get? name = some due → sup.pending.get? name = some due
  watched : ∀ time, sup'.watched.get? name = some time → sup.watched.get? name = some time

theorem Forgets.refl {b : Backoff τ} {name : String} (sup : Supervisor τ) :
  sup.Forgets b name sup
  := ⟨rfl, fun _ => id, fun _ => id⟩

theorem forgets_unwatch (sup : Supervisor τ) (b : Backoff τ) (other name : String) :
  sup.Forgets b name (sup.unwatch other)
  where
  delay := rfl
  pending due found := by
    have kept := (Table.get?_erase sup.pending other name).symm.trans found
    exact (Option.ite_none_left_eq_some.mp kept).2
  watched time found := by
    have kept := (Table.get?_erase sup.watched other name).symm.trans found
    exact (Option.ite_none_left_eq_some.mp kept).2

theorem forgets_watch (sup : Supervisor τ) (b : Backoff τ) (now : τ) {other name : String}
    (apart : name ≠ other) :
  sup.Forgets b name (sup.watch b now other)
  where
  delay := sup.delayOf_watch b now other name
  pending _ := id
  watched _ found := ((Table.get?_insert ..).trans (if_neg apart)).symm.trans found

variable [Timeline τ]

theorem watched_credit (sup : Supervisor τ) (b : Backoff τ) (now : τ) (name : String) :
  (sup.credit b now name).watched = sup.watched
  := by
  simp only [credit]
  split <;> rfl

theorem pending_backOff (sup : Supervisor τ) (b : Backoff τ) (name : String) :
  (sup.backOff b name).pending.get? name = none
  := (Table.get?_erase ..).trans (if_pos rfl)

theorem delayOf_backOff (sup : Supervisor τ) (b : Backoff τ) (name : String) :
  (sup.backOff b name).delayOf b name = b.next (sup.delayOf b name)
  := by
  simp [backOff, delayOf]

end Supervisor

section Goes

variable [Timeline τ]

/-- The ways in which a check goes on, with what becomes of the supervisor and of the state of the
service. -/
inductive Check.Goes (s : Service) (b : Backoff τ) (clock : τ) (sup : Supervisor τ)
    (state : ServiceState) : Check τ → Check τ → Supervisor τ → ServiceState → Prop where
  | rest {fault} : Goes s b clock sup state (.ended fault) (.ended fault) sup state
  | skip : Goes s b clock sup state .entering (.ended none) sup state
  | look : Goes s b clock sup state .entering (.probing clock) sup state
  | up {now} : Goes s b clock sup state (.probing now) (.crediting now) sup state
  | credit {now} :
    Goes s b clock sup state (.crediting now) (.ended none) (sup.credit b now s.name) state
  | down {now} : Goes s b clock sup state (.probing now) (.looking now) sup state
  | found {now} : Goes s b clock sup state (.looking now) (.awaiting now) sup state
  | ask {now} : Goes s b clock sup state (.looking now) (.inspecting now) sup state
  | refuse {now code} (refused : ¬ Allowed s code ⟨sup, state, []⟩) :
    Goes s b clock sup state (.inspecting now) .retiring sup
      { state with exitCode := code, status := .exited }
  | retire : Goes s b clock sup state .retiring (.ended none) (sup.unwatch s.name) state
  | allow {now code} (allowed : Allowed s code ⟨sup, state, []⟩) :
    Goes s b clock sup state (.inspecting now) (.scheduling now (sup.delayOf b s.name)) sup
      { state with exitCode := code }
  | schedule {now delay} :
    Goes s b clock sup state (.scheduling now delay) (.awaiting now)
      (sup.schedule s.name (Timeline.add now delay)) state
  | wait {now} : Goes s b clock sup state (.awaiting now) (.ended none) sup state
  | fallDue {now due} (pending : sup.pending.get? s.name = some due)
      (past : Timeline.before now due = false) :
    Goes s b clock sup state (.awaiting now) .backingOff sup state
  | backOff :
    Goes s b clock sup state .backingOff .relaunching (sup.backOff b s.name) state.recordRestart
  | start :
    Goes s b clock sup state .relaunching .resuming sup
      { state with status := .running, exitCode := none }
  | fail {error fault} :
    Goes s b clock sup state .relaunching (.ended fault) sup { state with error }
  | resume : Goes s b clock sup state .resuming (.ended none) (sup.resume clock s.name) state
  | broken {c call fault} (calls : c.call? = some call) (other : call ≠ .start) :
    Goes s b clock sup state c (.ended (some fault)) sup state

namespace Check

variable {s : Service} {b : Backoff τ} {clock : τ} {c c' : Check τ} {d : Desk τ}
  {sup sup' : Supervisor τ} {state state' : ServiceState}

theorem goes_step (calls : c.call? = none) :
  Goes s b clock d.supervisor d.state c (step s b clock c d).1 (step s b clock c d).2.supervisor
    (step s b clock c d).2.state
  := by
  cases c with
  | entering =>
    simp only [step]
    split
    · exact .skip
    · exact .look
  | looking now =>
    simp only [step]
    split
    · exact .found
    · exact .ask
  | awaiting now =>
    simp only [step]
    split
    · exact .wait
    · next due pending =>
      cases early : Timeline.before now due with
      | true => exact .wait
      | false => exact .fallDue pending early
  | crediting now => exact .credit
  | retiring => exact .retire
  | scheduling now delay => exact .schedule
  | backingOff => exact .backOff
  | resuming => exact .resume
  | ended fault => exact .rest
  | probing | inspecting | relaunching => cases calls

/-- The decision about a service that has ended either lets it be or puts a restart off. -/
theorem goes_judge (now : τ) (code : Option Int) (d : Desk τ) :
  Goes s b clock d.supervisor d.state (.inspecting now) (judge s b now code d).1
    (judge s b now code d).2.supervisor (judge s b now code d).2.state
  := by
  by_cases allowed : Allowed s code d
  · have desk : (judge s b now code d).2.state = { d.state with exitCode := code } := by
      have limit : limitReached s { d.state with exitCode := code } = false := allowed.2
      simp [judge, allowed.1, limit, Desk.note]
    obtain ⟨place, kept⟩ := judge_of_allowed b now allowed
    rw [place, kept, desk]
    exact .allow allowed
  · have desk : (judge s b now code d).2.state
        = { d.state with exitCode := code, status := .exited } := by
      rw [judge]
      split
      · rfl
      · next may =>
        split
        · rfl
        · next free =>
          have may : s.restart.restarts code = true := by simpa using may
          exact absurd ⟨may, Bool.eq_false_iff.mpr free⟩ allowed
    obtain ⟨place, kept⟩ := judge_of_not_allowed b now allowed
    rw [place, kept, desk]
    exact .refuse allowed

theorem goes_hear {call : RunnerCall} {reply : RunnerReply} (calls : c.call? = some call)
    (answers : call.Answers reply) :
  Goes s b clock d.supervisor d.state c (hear s b c reply d).1 (hear s b c reply d).2.supervisor
    (hear s b c reply d).2.state
  := by
  cases c with
  | probing now =>
    cases calls
    cases reply with
    | running yes =>
      cases yes
      · exact .down
      · exact .up
    | raised fault => exact .broken rfl nofun
    | exited | started => cases answers
  | inspecting now =>
    cases calls
    cases reply with
    | exited code => exact goes_judge now code d
    | raised fault => exact .broken rfl nofun
    | running | started => cases answers
  | relaunching =>
    cases calls
    cases reply with
    | started => exact .start
    | raised fault =>
      simp only [hear]
      split
      · exact .fail
      · exact .fail
    | running | exited => cases answers
  | _ => cases calls

/-- A check changes what the supervisor remembers of its own service only. -/
theorem Goes.other (goes : Goes s b clock sup state c c' sup' state') {name : String}
    (other : name ≠ s.name) :
  sup.Forgets b name sup'
  := by
  cases goes with
  | credit =>
    obtain ⟨pending, delays⟩ := Supervisor.credit_eq sup b _ s.name
    refine ⟨by rw [Supervisor.delayOf, delays name other]; rfl, ?_, ?_⟩
    · rw [pending]
      exact fun _ => id
    · rw [Supervisor.watched_credit]
      exact fun _ => id
  | retire => apply sup.forgets_unwatch
  | schedule =>
    rw [Supervisor.schedule]
    split
    · refine ⟨rfl, fun due found => ?_, fun _ => id⟩
      exact ((Table.get?_insert ..).trans (if_neg other)).symm.trans found
    · exact .refl sup
  | backOff =>
    refine ⟨?_, fun due found => ?_, fun _ => id⟩
    · exact congrArg (·.getD b.first) ((Table.get?_insert ..).trans (if_neg other))
    · exact ((Table.get?_erase ..).trans (if_neg other)).symm.trans found
  | resume =>
    rw [Supervisor.resume]
    split
    · refine ⟨rfl, fun _ => id, fun time found => ?_⟩
      exact ((Table.get?_insert ..).trans (if_neg other)).symm.trans found
    · exact .refl sup
  | _ => exact .refl sup

theorem about_of_mem_notes {name : String} {looked : τ} {note : Note τ}
    (mem : c.notes name clock looked sup = some note) :
  note.about = name
  := by
  cases c with
  | scheduling | resuming =>
    obtain ⟨-, same⟩ := Option.ite_none_right_eq_some.mp mem
    cases same
    rfl
  | crediting | backingOff | relaunching =>
    cases mem
    rfl
  | _ => cases mem

end Check

namespace Supervision

variable {services : Table Service} {b : Backoff τ} {v v' : Supervision τ} {note : Option (Note τ)}
  {name : String}

/-- The check of a service goes on. -/
structure Turn (b : Backoff τ) (s : Service) (v : Supervision τ) (note : Option (Note τ))
    (v' : Supervision τ) : Prop where
  goes : Check.Goes s b v.clock v.supervisor (v.state s.name) (v.check s.name) (v'.check s.name)
    v'.supervisor (v'.state s.name)
  note : note = (v.check s.name).notes s.name v.clock (v.looked s.name) v.supervisor
  looked : v'.looked s.name = (v.check s.name).lastLook v.clock (v.looked s.name)

/-- Whatever happens does not concern a service: at most something about it is forgotten, or its
check begins. -/
structure Apart (b : Backoff τ) (name : String) (v : Supervision τ) (note : Option (Note τ))
    (v' : Supervision τ) : Prop where
  silent : ∀ n, note = some n → n.about ≠ name
  forgets : v.supervisor.Forgets b name v'.supervisor
  count : (v'.state name).restartCount = (v.state name).restartCount
  looked : v'.looked name = v.looked name
  check : v'.check name = v.check name
    ∨ v'.check name = .entering ∧ ∃ fault, v.check name = .ended fault

/-- What may happen to a single service in a step of a run. -/
inductive Happens (services : Table Service) (b : Backoff τ) (name : String) (v : Supervision τ)
    (note : Option (Note τ)) (v' : Supervision τ) : Prop where
  | apart (apart : Apart b name v note v')
  | watch (noted : note = some (.begun name v.clock))
      (same : v' = { v with supervisor := v.supervisor.watch b v.clock name })
  | turn {s : Service} (same : s.name = name) (found : services.get? name = some s)
      (turn : Turn b s v note v')

omit [Timeline τ] in
/-- Others change what the supervisor remembers. -/
theorem apart_of_forgets {sup : Supervisor τ} (silent : ∀ n, note = some n → n.about ≠ name)
    (forgets : v.supervisor.Forgets b name sup) :
  Apart b name v note { v with supervisor := sup }
  := ⟨silent, forgets, rfl, rfl, .inl rfl⟩

theorem turn_goOn {s : Service} {gone : Check τ × Desk τ}
    (goes : Check.Goes s b v.clock v.supervisor (v.state s.name) (v.check s.name) gone.1
      gone.2.supervisor gone.2.state) :
  Turn b s v ((v.check s.name).notes s.name v.clock (v.looked s.name) v.supervisor)
    (v.goOn s.name gone)
  where
  goes := by simpa [goOn] using goes
  note := rfl
  looked := by simp [goOn]

theorem apart_goOn {s : Service} {gone : Check τ × Desk τ} (other : name ≠ s.name)
    (goes : Check.Goes s b v.clock v.supervisor (v.state s.name) (v.check s.name) gone.1
      gone.2.supervisor gone.2.state) :
  Apart b name v ((v.check s.name).notes s.name v.clock (v.looked s.name) v.supervisor)
    (v.goOn s.name gone)
  where
  silent n noted := by
    rw [Check.about_of_mem_notes noted]
    exact Ne.symm other
  forgets := goes.other other
  count := by simp [goOn, other]
  looked := by simp [goOn, other]
  check := .inl (by simp [goOn, other])

theorem happens_goOn {s : Service} {gone : Check τ × Desk τ}
    (found : services.get? s.name = some s)
    (goes : Check.Goes s b v.clock v.supervisor (v.state s.name) (v.check s.name) gone.1
      gone.2.supervisor gone.2.state) :
  Happens services b name v
    ((v.check s.name).notes s.name v.clock (v.looked s.name) v.supervisor) (v.goOn s.name gone)
  := by
  by_cases same : name = s.name
  · subst same
    exact .turn rfl found (turn_goOn goes)
  · exact .apart (apart_goOn same goes)

/-- For a single service a step of a run is a section of its own check, or the service is watched,
or the step does not concern it. -/
theorem Step.happens (step : Step services b v note v') (name : String) :
  Happens services b name v note v'
  := by
  cases step with
  | watch other =>
    by_cases same : name = other
    · subst same
      exact .watch rfl rfl
    · have silent : ∀ n, some (Note.begun other v.clock) = some n → n.about ≠ name := by
        rintro n ⟨⟩
        exact Ne.symm same
      exact .apart (apart_of_forgets silent (v.supervisor.forgets_watch b v.clock same))
  | unwatch other =>
    exact .apart (apart_of_forgets nofun (v.supervisor.forgets_unwatch b other name))
  | clear => exact .apart (apart_of_forgets nofun ⟨rfl, nofun, nofun⟩)
  | requestStop | reopen => exact .apart (apart_of_forgets nofun ⟨rfl, fun _ => id, fun _ => id⟩)
  | pass later => exact .apart ⟨nofun, .refl _, rfl, rfl, .inl rfl⟩
  | mark other same =>
    refine .apart ⟨nofun, .refl _, ?_, rfl, .inl rfl⟩
    by_cases own : name = other
    · subst own
      simpa using same
    · simp [own]
  | @enter s fault found idle =>
    refine .apart ⟨nofun, .refl _, rfl, rfl, ?_⟩
    by_cases own : name = s.name
    · subst own
      exact .inr ⟨by simp, fault, idle⟩
    · exact .inl (by simp [own])
  | @own s log found calls =>
    exact happens_goOn found (Check.goes_step (d := v.desk s.name log) calls)
  | @reply s call reply log found calls answers =>
    exact happens_goOn found (Check.goes_hear (d := v.desk s.name log) calls answers)

end Supervision

end Goes

end Muster
