import Muster.Proofs.Supervisor.Attempt
import Muster.Proofs.Supervisor.Course
import Muster.Proofs.Supervisor.Supervision
/-!
# Whole checks under supervision

A check that is driven from its beginning to its end, as the supervisor does it, is a part of a run
of the services under supervision: so what holds of all runs holds of all that the checks do one
after the other.  In the journal of the run the service is told to start as often as the check has
called for it.
-/

namespace Muster

variable {τ : Type}

/-! ### What a journal says about starts -/

/-- Whether a note says that a service has been told to start. -/
def Note.isStart (name : String) : Note τ → Bool
  | started other _ => other == name
  | _ => false

/-- How many times a service has been told to start. -/
def Supervision.starts (name : String) (journal : List (Note τ)) : Nat :=
  journal.countP (Note.isStart name)

theorem Supervision.starts_append (name : String) (more journal : List (Note τ)) :
  starts name (more ++ journal) = starts name more + starts name journal
  := List.countP_append

theorem Supervision.starts_cons {name : String} {n : Note τ} (other : n.about ≠ name)
    (past : List (Note τ)) :
  starts name (n :: past) = starts name past
  := by
  cases n with
  | started =>
    apply List.countP_cons_of_neg
    simpa [Note.isStart, Note.about] using other
  | _ => exact List.countP_cons_of_neg (by simp [Note.isStart])

/-! ### Where a service stands -/

namespace Supervision

variable {v v' : Supervision τ} {name : String} {c : Check τ} {d : Desk τ} {time : τ}

/-- Where a single service stands: its check, what this works on, and the time. -/
structure At (v : Supervision τ) (name : String) (c : Check τ) (d : Desk τ) (time : τ) : Prop where
  check : v.check name = c
  supervisor : v.supervisor = d.supervisor
  state : v.state name = d.state
  clock : v.clock = time

/-- The other services stand as they did. -/
structure Beside (name : String) (v v' : Supervision τ) : Prop where
  check : ∀ other, other ≠ name → v'.check other = v.check other
  state : ∀ other, other ≠ name → v'.state other = v.state other

theorem Beside.refl :
  Beside name v v
  := ⟨fun _ _ => rfl, fun _ _ => rfl⟩

theorem Beside.trans {v'' : Supervision τ} (first : Beside name v v')
    (second : Beside name v' v'') :
  Beside name v v''
  where
  check other apart := (second.check other apart).trans (first.check other apart)
  state other apart := (second.state other apart).trans (first.state other apart)

theorem At.desk_eq (stands : v.At name c d time) :
  v.desk name d.log = d
  := by
  rw [desk, stands.supervisor, stands.state]

theorem at_goOn (v : Supervision τ) (name : String) (gone : Check τ × Desk τ) :
  (v.goOn name gone).At name gone.1 gone.2 v.clock
  where
  check := by simp [goOn]
  supervisor := rfl
  state := by simp [goOn]
  clock := rfl

theorem beside_goOn (v : Supervision τ) (name : String) (gone : Check τ × Desk τ) :
  Beside name v (v.goOn name gone)
  where
  check other apart := by simp [goOn, apart]
  state other apart := by simp [goOn, apart]

end Supervision

/-! ### The places of a check -/

namespace Check

variable {c : Check τ}

theorem counted_of_call {call : RunnerCall} (calls : c.call? = some call) :
  c.counted = [call].count .start
  := by
  cases c <;> cases calls <;> rfl

theorem counted_of_own (calls : c.call? = none) :
  c.counted = 0
  := by
  cases c <;> first | rfl | cases calls

theorem Surroundings.Mild.answers {σ : Type} {w : Surroundings τ σ} (mild : w.Mild)
    (call : RunnerCall) (desk : Desk τ × σ) :
  call.Answers (w.call call desk).1
  := by
  cases call with
  | isRunning =>
    rcases mild.isRunning desk with ⟨yes, same⟩ | ⟨fault, same⟩ <;> simp [same, RunnerCall.Answers]
  | exitCode =>
    rcases mild.exitCode desk with ⟨code, same⟩ | ⟨fault, same⟩ <;> simp [same, RunnerCall.Answers]
  | start =>
    rcases mild.start desk with same | ⟨fault, same⟩ <;> simp [same, RunnerCall.Answers]

section Timed

variable [Timeline τ] {s : Service} {b : Backoff τ} {clock looked : τ} {c' : Check τ}
  {sup sup' : Supervisor τ} {state state' : ServiceState} {name : String}

/-- A check that goes on has fewer steps before it. -/
theorem Goes.rank_lt (goes : Goes s b clock sup state c c' sup' state')
    (going : ∀ fault, c ≠ .ended fault) :
  c'.rank < c.rank
  := by
  cases goes with
  | @rest fault => exact absurd rfl (going fault)
  | broken calls => cases c <;> first | exact absurd rfl (going _) | simp [rank]
  | _ => simp [rank]

theorem rank_step_le {d : Desk τ} {fuel : Nat} (own : c.call? = none)
    (going : ∀ fault, c ≠ .ended fault) (enough : c.rank ≤ fuel + 1) :
  (step s b clock c d).1.rank ≤ fuel
  := Nat.le_of_lt_succ (Nat.lt_of_lt_of_le ((goes_step own).rank_lt going) enough)

theorem rank_hear_le (clock : τ) {d : Desk τ} {fuel : Nat} {call : RunnerCall}
    {reply : RunnerReply} (calls : c.call? = some call) (answers : call.Answers reply)
    (enough : c.rank ≤ fuel + 1) :
  (hear s b c reply d).1.rank ≤ fuel
  := by
  have goes : Goes s b clock d.supervisor d.state c (hear s b c reply d).1 _ _ :=
    goes_hear calls answers
  apply Nat.le_of_lt_succ (Nat.lt_of_lt_of_le (goes.rank_lt (ne_ended_of_call calls)) enough)

/-- The start of a service is put down when the runner comes back from it. -/
theorem starts_notes (c : Check τ) :
  Supervision.starts name (c.notes name clock looked sup).toList = c.counted
  := by
  cases c with
  | scheduling | resuming =>
    simp only [notes]
    split <;> rfl
  | relaunching => simp [notes, Supervision.starts, Note.isStart, counted]
  | _ => rfl

/-- The clock in some surroundings does not go back while a runner is called. -/
def Surroundings.Onward {σ : Type} (w : Surroundings τ σ) : Prop :=
  ∀ call (d : Desk τ) world,
    Timeline.before (w.clock (w.call call (d, world)).2.2) (w.clock world) = false

end Timed

end Check

/-! ### Runs with whole checks -/

namespace Supervision

variable [Timeline τ] {σ : Type} {services : Table Service} {b : Backoff τ} {v₀ v : Supervision τ}
  {journal : List (Note τ)} {c : Check τ} {d : Desk τ} {time : τ}

/-- Others may ask for a stop or take it back. -/
theorem Run.keeps (run : Run services b v₀ journal v) {sup : Supervisor τ}
    (keeps : v.supervisor.Keeps sup) :
  Run services b v₀ journal { v with supervisor := sup }
  := by
  obtain ⟨stopped, watched, delays, pending⟩ := sup
  obtain ⟨rfl, rfl, rfl⟩ := keeps
  cases stopped with
  | true => exact run.step .requestStop
  | false => exact run.step .reopen

variable {w : Check.Surroundings τ σ} {s : Service}

/-- A section of a check is a step of a run. -/
theorem Run.own (run : Run services b v₀ journal v) (found : services.get? s.name = some s)
    (stands : v.At s.name c d time) (own : c.call? = none) :
  ∃ note v', Run services b v₀ (note ++ journal) v' ∧ starts s.name note = c.counted
    ∧ v'.At s.name (Check.step s b time c d).1 (Check.step s b time c d).2 time
    ∧ Beside s.name v v'
  := by
  have next := run.step (.own d.log found (stands.check ▸ own))
  refine ⟨_, _, next, by rw [Check.starts_notes, stands.check], ?_, beside_goOn ..⟩
  rw [stands.desk_eq, stands.check, ← stands.clock]
  apply at_goOn

/-- A call that a check makes, with all that happens meanwhile, is part of a run. -/
theorem Run.call (run : Run services b v₀ journal v) (found : services.get? s.name = some s)
    {d' : Desk τ} {time' : τ} {call : RunnerCall} {reply : RunnerReply}
    (stands : v.At s.name c d time) (calls : c.call? = some call) (answers : call.Answers reply)
    (keeps : d.supervisor.Keeps d'.supervisor) (state : d'.state = d.state)
    (later : Timeline.before time' time = false) :
  ∃ note v', Run services b v₀ (note ++ journal) v' ∧ starts s.name note = c.counted
    ∧ v'.At s.name (Check.hear s b c reply d').1 (Check.hear s b c reply d').2 time'
    ∧ Beside s.name v v'
  := by
  have kept := run.keeps (stands.supervisor ▸ keeps)
  have waited := kept.step (.pass (stands.clock ▸ later))
  generalize same : ({ v with supervisor := d'.supervisor, clock := time' } : Supervision τ) = u
    at waited
  have there : u.At s.name c d' time' := by
    subst same
    exact ⟨stands.check, rfl, stands.state.trans state.symm, rfl⟩
  have heard := waited.step (.reply d'.log found (there.check ▸ calls) answers)
  refine ⟨_, _, heard, by rw [Check.starts_notes, there.check], ?_, ?_⟩
  · rw [there.desk_eq, there.check, ← there.clock]
    apply at_goOn
  · subst same
    exact ⟨(beside_goOn ..).check, (beside_goOn ..).state⟩

/-- A check that is driven to its end is part of a run, in which the service is told to start as
often as the check says so. -/
theorem Run.drive (mild : w.Mild) (onward : w.Onward) (found : services.get? s.name = some s)
    (fuel : Nat) (enough : c.rank ≤ fuel) {world : σ} (calls : List RunnerCall)
    (run : Run services b v₀ journal v) (stands : v.At s.name c d (w.clock world)) :
  let r := Check.drive w.noting s b fuel c (d, world, calls)
  ∃ more v' told, Run services b v₀ (more ++ journal) v'
    ∧ v'.At s.name (.ended r.1) r.2.1 (w.clock r.2.2.1) ∧ Beside s.name v v'
    ∧ r.2.2.2 = calls ++ told ∧ starts s.name more = told.count .start
  := by
  induction fuel generalizing c d world calls journal v with
  | zero =>
    cases c with
    | ended fault => exact ⟨[], v, [], run, stands, .refl, (List.append_nil _).symm, rfl⟩
    | _ => exact absurd enough (by simp [Check.rank])
  | succ fuel ih =>
    cases c.move with
    | ended fault => exact ⟨[], v, [], run, stands, .refl, (List.append_nil _).symm, rfl⟩
    | step own going =>
      obtain ⟨note, v₁, next, noted, there, apart⟩ := run.own found stands own
      obtain ⟨more, v', told, run', ends, beside, said, count⟩ :=
        ih (Check.rank_step_le own going enough) calls next there
      rw [← List.append_assoc] at run'
      rw [Check.drive_step own going]
      refine ⟨_, v', told, run', ends, apart.trans beside, said, ?_⟩
      rw [starts_append, count, noted, Check.counted_of_own own, Nat.add_zero]
    | call call made =>
      have answers := mild.answers call (d, world)
      obtain ⟨note, v₁, next, noted, there, apart⟩ := run.call found stands made answers
        (mild.keeps call d world) (mild.state call d world) (onward call d world)
      obtain ⟨more, v', told, run', ends, beside, said, count⟩ :=
        ih (Check.rank_hear_le (w.clock world) made answers enough) (calls ++ [call]) next there
      rw [← List.append_assoc] at run'
      rw [Check.drive_call made]
      refine ⟨_, v', call :: told, run', ends, apart.trans beside, ?_, ?_⟩
      · exact said.trans (List.append_assoc ..)
      · rw [starts_append, count, noted, Check.counted_of_call made, Nat.add_comm,
          ← List.count_append]
        rfl

/-- A check is part of a run. -/
theorem Run.check (mild : w.Mild) (onward : w.Onward) (found : services.get? s.name = some s)
    {world : σ} (run : Run services b v₀ journal v) {fault : Option Fault}
    (stands : v.At s.name (.ended fault) d (w.clock world)) :
  let r := Check.run w.noting s b d (world, [])
  ∃ more v', Run services b v₀ (more ++ journal) v'
    ∧ v'.At s.name (.ended r.1) r.2.1 (w.clock r.2.2.1) ∧ Beside s.name v v'
    ∧ starts s.name more = r.2.2.2.count .start
  := by
  have entered := run.step (.enter found stands.check)
  generalize same : ({ v with
    check := Function.update v.check s.name .entering } : Supervision τ) = u at entered
  have there : u.At s.name .entering d (w.clock world) := by
    subst same
    exact ⟨by simp, stands.supervisor, stands.state, stands.clock⟩
  obtain ⟨more, v', told, run', ends, beside, said, count⟩ :=
    entered.drive mild onward found _ (Nat.le_refl _) [] there
  rw [List.nil_append] at said
  refine ⟨more, v', run', ends, ?_, by rw [count, ← said]; rfl⟩
  subst same
  refine ⟨fun other apart => ?_, beside.state⟩
  rw [beside.check other apart]
  simp [apart]

end Supervision

/-! ### The checks of a stack -/

namespace Stack

variable {σ : Type} [Timeline τ] {h : Host τ σ} {course : String → σ → Course} {k : Stack τ σ}
  {s : Service} {state : ServiceState}

/-- Time goes on at an orderly host. -/
theorem onward_surroundings (orderly : h.Orderly course) (s : Service) :
  (surroundings h s : Check.Surroundings τ σ).Onward
  := by
  intro call d world
  cases call with
  | isRunning => exact (orderly.passes_isRunning s world).clock
  | exitCode => exact (orderly.passes_exitCode s world).clock
  | start => exact (orderly.passes_start s world).clock

/-- A check of a stack is part of a run. -/
theorem check_is_run {services : Table Service} {v₀ v : Supervision τ} {journal : List (Note τ)}
    {fault : Option Fault} (orderly : h.Orderly course)
    (looked : k.checked? s.name = some (s, state)) (found : services.get? s.name = some s)
    (run : Supervision.Run services k.backoff v₀ journal v)
    (stands : v.At s.name (.ended fault) (k.desk state) (h.clock k.world)) :
  ∃ more v' left, Supervision.Run services k.backoff v₀ (more ++ journal) v'
    ∧ v'.supervisor = (k.check h s.name).2.supervisor
    ∧ (k.check h s.name).2.states.get? s.name = some (v'.state s.name)
    ∧ v'.clock = h.clock (k.check h s.name).2.world ∧ v'.check s.name = .ended left
    ∧ Supervision.Beside s.name v v'
    ∧ Supervision.starts s.name more = (k.checkCalls h s.name).count .start
  := by
  obtain ⟨more, v', run', ends, beside, count⟩ := run.check (mild_surroundings h s)
    (onward_surroundings orderly s) found stands
  have noted := Check.drive_noting (w := surroundings h s) (s := s) (b := k.backoff)
    (Check.rank (.entering : Check τ)) .entering (k.desk state) k.world []
  rw [← Check.run, ← Check.run] at noted
  rw [check_eq_of_checked looked, noted]
  refine ⟨more, v', _, run', ends.supervisor, ?_, ends.clock, ends.check, beside, ?_⟩
  · rw [Table.get?_insert, if_pos rfl, ends.state]
  · rw [count, checkCalls, looked]

end Stack

/-! ### A lamp that goes out at once -/

namespace Sample

def lamp : Service where
  name := "lamp"
  restart := .onFailure
  maxRestarts := 1

def lamps : Table Service := Table.ofList [("lamp", lamp)]

def patience : Backoff Int where
  first := 1
  longest := 3
  resetAfter := 10

def unlit : Supervision Int where
  supervisor := {}
  clock := 0
  state name := { name }
  check _ := .ended none
  looked _ := 0

/-- The lamp can be lit, but whenever it is looked at, it has gone out again; the time is that of
the world. -/
def flickering : Check.Surroundings Int Int where
  clock time := time
  call
    | .isRunning, desk => (.running false, desk)
    | .exitCode, desk => (.exited (some 1), desk)
    | .start, desk => (.started, desk)

theorem mild_flickering :
  flickering.Mild
  where
  isRunning _ := .inl ⟨false, rfl⟩
  exitCode _ := .inl ⟨some 1, rfl⟩
  start _ := .inl rfl
  keeps call d world := by cases call <;> exact ⟨rfl, rfl, rfl⟩
  state call d world := by cases call <;> rfl

theorem onward_flickering :
  flickering.Onward
  := fun call d world => by cases call <;> exact Timeline.Lawful.before_self world

theorem fresh_unlit :
  unlit.Fresh
  := ⟨rfl, rfl, rfl, fun _ => ⟨none, rfl⟩⟩

theorem get?_lamps :
  lamps.get? lamp.name = some lamp
  := by rfl

/-- What a check of the lamp works on when it has just been watched. -/
def watching : Desk Int where
  supervisor := unlit.supervisor.watch patience 0 "lamp"
  state := { name := "lamp" }

/-- The lamp is watched and goes out; a check puts off lighting it, and the next one lights it. -/
theorem exists_relit :
  ∃ journal v, Supervision.Run lamps patience unlit journal v
    ∧ Supervision.starts "lamp" journal = 1 ∧ v.supervisor.stopped = false
    ∧ v.supervisor.isWatching "lamp" = true ∧ v.supervisor.pending.get? "lamp" = none
    ∧ v.supervisor.delayOf patience "lamp" = 2 ∧ (v.state "lamp").restartCount = 1
  := by
  have watched : Supervision.Run lamps patience unlit [.begun "lamp" 0]
      { unlit with supervisor := watching.supervisor } :=
    Supervision.Run.start.step (.watch "lamp")
  have stands : Supervision.At { unlit with supervisor := watching.supervisor } lamp.name
      (.ended none) watching (flickering.clock (0 : Int)) := ⟨rfl, rfl, rfl, rfl⟩
  obtain ⟨first, v₁, run, stands, -, none⟩ :=
    watched.check mild_flickering onward_flickering get?_lamps stands
  have passed : Supervision.Run lamps patience unlit _ { v₁ with clock := 1 } :=
    run.step (.pass (stands.clock ▸ rfl))
  have stands : Supervision.At { v₁ with clock := 1 } lamp.name _ _ (flickering.clock (1 : Int)) :=
    ⟨stands.check, stands.supervisor, stands.state, rfl⟩
  obtain ⟨second, v₂, run, stands, -, one⟩ :=
    passed.check mild_flickering onward_flickering get?_lamps stands
  refine ⟨_, v₂, run, ?_, ?_⟩
  · rw [Option.toList_none, List.nil_append, Supervision.starts_append,
      Supervision.starts_append]
    exact congrArg₂ (· + ·) one (congrArg (· + 0) none)
  · have state : v₂.state "lamp" = _ := stands.state
    rw [stands.supervisor, state]
    exact ⟨rfl, rfl, rfl, rfl, rfl⟩

end Sample

end Muster
