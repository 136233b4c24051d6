import Muster.Proofs.Supervisor.Limit
/-!
# Restarts that are called off

A check asks the runner whether its service is running and how it has ended.  Before the runner has
answered, the service may be let go: it is not watched any longer, or supervising ends.  The check
goes on all the same.  But it carries a restart out only if it finds it pending, and it puts none
off for a service that is not watched; so nothing comes of it, even if the restart was due when the
check began.
-/

namespace Muster

variable {τ : Type}

/-! ### What stays forgotten -/

namespace Supervisor

variable {b : Backoff τ} {name : String} {sup sup' : Supervisor τ}

theorem Forgets.watched_eq_none (forgets : sup.Forgets b name sup')
    (absent : sup.watched.get? name = none) :
  sup'.watched.get? name = none
  := by
  apply Option.eq_none_iff_forall_ne_some.mpr
  intro time found
  cases absent.symm.trans (forgets.watched time found)

theorem Forgets.pending_eq_none (forgets : sup.Forgets b name sup')
    (absent : sup.pending.get? name = none) :
  sup'.pending.get? name = none
  := by
  apply Option.eq_none_iff_forall_ne_some.mpr
  intro due found
  cases absent.symm.trans (forgets.pending due found)

end Supervisor

/-! ### The places of a check -/

namespace Check

/-- A check that has not decided yet what becomes of its service. -/
def IsOpen : Check τ → Prop
  | entering | probing _ | looking _ | inspecting _ => True
  | _ => False

/-- A check that is carrying a restart out. -/
def IsRestart : Check τ → Prop
  | backingOff | relaunching | resuming => True
  | _ => False

variable {c : Check τ}

theorem IsOpen.not_isRestart (undecided : c.IsOpen) :
  ¬ c.IsRestart
  := by
  cases c with
  | backingOff | relaunching | resuming => cases undecided
  | _ => exact id

theorem isOpen_of_asks (asks : c.call? = some .isRunning ∨ c.call? = some .exitCode) :
  c.IsOpen
  := by
  cases c with
  | entering | probing | looking | inspecting => trivial
  | _ => rcases asks with asks | asks <;> cases asks

theorem counted_of_not_isRestart (still : ¬ c.IsRestart) :
  c.counted = 0
  := by
  cases c with
  | relaunching => exact absurd trivial still
  | _ => rfl

variable [Timeline τ] {s : Service} {b : Backoff τ} {clock : τ} {c' : Check τ}
  {sup sup' : Supervisor τ} {state state' : ServiceState}

/-- A check does not come back to what it has decided. -/
theorem Goes.isOpen (goes : Goes s b clock sup state c c' sup' state') (undecided : c'.IsOpen) :
  c.IsOpen
  := by
  cases goes with
  | look | down | ask => trivial
  | _ => cases undecided

/-- Only a check that carries a restart out or sees its service running changes the wait. -/
theorem Goes.delayOf (goes : Goes s b clock sup state c c' sup' state') (still : ¬ c.IsRestart)
    (unseen : ∀ now, c ≠ .crediting now) :
  sup'.delayOf b s.name = sup.delayOf b s.name
  := by
  cases goes with
  | credit => exact absurd rfl (unseen _)
  | backOff | resume => exact absurd trivial still
  | schedule =>
    rw [Supervisor.schedule]
    split <;> rfl
  | _ => rfl

end Check

/-! ### Services that are let go -/

namespace Supervision

variable {b : Backoff τ} {services : Table Service} {name : String} {u v v' x y z : Supervision τ}
  {journal earlier later : List (Note τ)} {note : Option (Note τ)}

/-- A service is let go: it is not watched any longer, or supervising ends. -/
inductive LetsGo (name : String) (v : Supervision τ) : Supervision τ → Prop where
  | unwatch : LetsGo name v { v with supervisor := v.supervisor.unwatch name }
  /-- The last section of a stop. -/
  | clear : LetsGo name v { v with supervisor := v.supervisor.clear }

/-- A service that has been let go: nothing is remembered that a restart could come from, and its
check carries none out. -/
structure Gone (name : String) (sup : Supervisor τ) (c : Check τ) : Prop where
  watched : sup.watched.get? name = none
  pending : sup.pending.get? name = none
  still : ¬ c.IsRestart

/-- Since a moment nothing has been done about restarts of a service: it has not been told to start,
no restart has been counted, and the wait is as it was, unless the service has been seen running. -/
structure Idle (b : Backoff τ) (name : String) (u : Supervision τ) (journal : List (Note τ))
    (v : Supervision τ) : Prop where
  starts : starts name journal = 0
  count : (v.state name).restartCount = (u.state name).restartCount
  delay : (∀ since now, .seen name since now ∉ journal) →
    v.supervisor.delayOf b name = u.supervisor.delayOf b name

theorem LetsGo.gone (letsGo : LetsGo name v v') (undecided : (v.check name).IsOpen) :
  Gone name v'.supervisor (v'.check name)
  := by
  cases letsGo with
  | unwatch =>
    have gone : (v.supervisor.watched.erase name).get? name = none :=
      (Table.get?_erase ..).trans (if_pos rfl)
    exact ⟨gone, v.supervisor.pending_unwatch name, undecided.not_isRestart⟩
  | clear => exact ⟨rfl, rfl, undecided.not_isRestart⟩

theorem LetsGo.idle (letsGo : LetsGo name v v') (idle : Idle b name u journal v) :
  Idle b name u journal v'
  := by
  cases letsGo <;> exact ⟨idle.starts, idle.count, idle.delay⟩

theorem Gone.isWatching {sup : Supervisor τ} {c : Check τ} (gone : Gone name sup c) :
  sup.isWatching name = false
  := by
  rw [Supervisor.isWatching, Table.contains, gone.watched]
  rfl

section Steps

variable [Timeline τ]

/-- The part of a run in which a check of a service goes on that has begun and not ended. -/
inductive Within (services : Table Service) (b : Backoff τ) (name : String) (u : Supervision τ) :
    List (Note τ) → Supervision τ → Prop where
  | start (begins : u.check name = .entering) : Within services b name u [] u
  | step {journal : List (Note τ)} {v v' : Supervision τ} {note : Option (Note τ)}
      (within : Within services b name u journal v)
      (step : Step services b v note v') (going : ∀ fault, v'.check name ≠ .ended fault) :
      Within services b name u (note.toList ++ journal) v'

theorem Within.going (within : Within services b name u journal v) (fault : Option Fault) :
  v.check name ≠ .ended fault
  := by
  cases within with
  | start begins =>
    rw [begins]
    nofun
  | step _ _ going => exact going fault

/-- Unless a restart is carried out, nothing is done about restarts. -/
theorem Idle.step (idle : Idle b name u journal v) (step : Step services b v note v')
    (still : ¬ (v.check name).IsRestart) (still' : ¬ (v'.check name).IsRestart) :
  Idle b name u (note.toList ++ journal) v'
  := by
  have before (unseen : ∀ since now, .seen name since now ∉ note.toList ++ journal) :=
    idle.delay fun since now mem => unseen since now (List.mem_append_right _ mem)
  cases step.happens name with
  | apart apart =>
    constructor
    · rw [Note.eq_of_silent starts_cons apart.silent, idle.starts]
    · rw [apart.count, idle.count]
    · intro unseen
      rw [apart.forgets.delay, before unseen]
  | watch noted same =>
    subst noted same
    constructor
    · exact idle.starts
    · exact idle.count
    · intro unseen
      rw [Supervisor.delayOf_watch, before unseen]
  | turn same found turn =>
    subst same
    constructor
    · rw [starts_append, turn.note, Check.starts_notes, Check.counted_of_not_isRestart still,
        idle.starts]
    · rw [turn.goes.restartCount, Check.counted_of_not_isRestart still', Nat.add_zero, idle.count]
    · intro unseen
      rw [turn.goes.delayOf still ?_, before unseen]
      intro now same
      have noted := turn.note
      rw [same] at noted
      subst noted
      exact unseen _ _ List.mem_cons_self

/-- Before a check has decided, nothing has been done about restarts. -/
theorem Within.idle (within : Within services b name u journal v)
    (undecided : (v.check name).IsOpen) :
  Idle b name u journal v
  := by
  induction within with
  | start => exact ⟨rfl, rfl, fun _ => rfl⟩
  | @step journal v note v' within step _ ih =>
    suffices before : (v.check name).IsOpen from
      (ih before).step step before.not_isRestart undecided.not_isRestart
    cases step.happens name with
    | apart apart =>
      rcases apart.check with same | ⟨-, fault, ended⟩
      · rwa [← same]
      · exact absurd ended (within.going fault)
    | watch noted same =>
      subst same
      exact undecided
    | turn same found turn =>
      subst same
      exact turn.goes.isOpen undecided

/-- A check of a service that has been let go goes on without a restart. -/
theorem Gone.goes {s : Service} {clock : τ} {c c' : Check τ} {sup sup' : Supervisor τ}
    {state state' : ServiceState} (gone : Gone s.name sup c)
    (goes : Check.Goes s b clock sup state c c' sup' state') :
  Gone s.name sup' c'
  := by
  obtain ⟨watched, pending, still⟩ := gone
  cases goes with
  | credit =>
    constructor
    · rw [Supervisor.watched_credit, watched]
    · rw [(Supervisor.credit_eq sup b _ s.name).1, pending]
    · exact id
  | retire =>
    constructor
    · apply (Table.get?_erase ..).trans (if_pos rfl)
    · apply sup.pending_unwatch
    · exact id
  | schedule =>
    -- Only for a service that is watched is a restart put off.
    rw [Supervisor.schedule, Table.contains, watched]
    exact ⟨watched, pending, id⟩
  | fallDue found => cases pending.symm.trans found
  | backOff | start | fail | resume => exact absurd trivial still
  | _ => exact ⟨watched, pending, id⟩

/-- As long as a service that has been let go is not watched again, it stays so. -/
theorem Gone.step (gone : Gone name v.supervisor (v.check name))
    (step : Step services b v note v') (alone : ∀ time, note ≠ some (.begun name time)) :
  Gone name v'.supervisor (v'.check name)
  := by
  cases step.happens name with
  | apart apart =>
    constructor
    · apply apart.forgets.watched_eq_none gone.watched
    · apply apart.forgets.pending_eq_none gone.pending
    · rcases apart.check with same | ⟨entered, -⟩
      · rw [same]
        exact gone.still
      · rw [entered]
        exact id
  | watch noted same => exact absurd noted (alone _)
  | turn same found turn =>
    subst same
    exact gone.goes turn.goes

/-- Nothing is done about restarts of a service that has been let go. -/
theorem Run.gone (run : Run services b y later z) (gone : Gone name y.supervisor (y.check name))
    (idle : Idle b name u earlier y) (alone : ∀ time, .begun name time ∉ later) :
  Gone name z.supervisor (z.check name) ∧ Idle b name u (later ++ earlier) z
  := by
  induction run with
  | start => exact ⟨gone, idle⟩
  | @step later v note z run step ih =>
    obtain ⟨gone, idle⟩ := ih fun time mem => alone time (List.mem_append_right _ mem)
    have after : Gone name z.supervisor (z.check name) := by
      apply gone.step step
      rintro time rfl
      exact alone time List.mem_cons_self
    rw [List.append_assoc]
    exact ⟨after, idle.step step gone.still after.still⟩

/-- A check whose service is let go while the runner is asked about it comes to nothing, wherever
the restart stood and whatever others do meanwhile, as long as the service is not watched again: the
service is not told to start, no restart is counted, and the service is neither watched nor is a
restart of it pending.  If the service is not seen running, the wait is as it was. -/
theorem Within.called_off (before : Within services b name u earlier x)
    (asks : (x.check name).call? = some .isRunning ∨ (x.check name).call? = some .exitCode)
    (letsGo : LetsGo name x y) (after : Run services b y later z)
    (alone : ∀ time, .begun name time ∉ later) :
  starts name (later ++ earlier) = 0 ∧ (z.check name).call? ≠ some .start
    ∧ (z.state name).restartCount = (u.state name).restartCount
    ∧ z.supervisor.isWatching name = false ∧ z.supervisor.pending.get? name = none
    ∧ ((∀ since now, .seen name since now ∉ later ++ earlier) →
      z.supervisor.delayOf b name = u.supervisor.delayOf b name)
  := by
  have undecided := Check.isOpen_of_asks asks
  have idle := letsGo.idle (before.idle undecided)
  obtain ⟨gone, idle⟩ := after.gone (letsGo.gone undecided) idle alone
  refine ⟨idle.starts, ?_, idle.count, gone.isWatching, gone.pending, idle.delay⟩
  intro calls
  have still := Check.counted_of_not_isRestart gone.still
  rw [Check.counted_of_call calls] at still
  cases still

end Steps

end Supervision

/-! ### A lamp that is let go when it is due to be lit -/

namespace Sample

/-- A check of the lamp begins. -/
def enters (v : Supervision Int) : Supervision Int :=
  { v with check := Function.update v.check lamp.name .entering }

/-- The check of the lamp goes on by itself. -/
def goesOn (v : Supervision Int) : Supervision Int :=
  v.goOn lamp.name (Check.step lamp patience v.clock (v.check lamp.name) (v.desk lamp.name []))

/-- The check of the lamp goes on with what it is told. -/
def hears (reply : RunnerReply) (v : Supervision Int) : Supervision Int :=
  v.goOn lamp.name (Check.hear lamp patience (v.check lamp.name) reply (v.desk lamp.name []))

/-- The check of the lamp goes on with the news that the lamp has gone out. -/
def findsOut (v : Supervision Int) : Supervision Int :=
  goesOn <| goesOn <| hears (.exited (some 1)) <| goesOn <| hears (.running false) v

/-- The lamp has gone out, and a check has put off lighting it again. -/
def putOff : Supervision Int :=
  findsOut <| goesOn <| enters { unlit with supervisor := watching.supervisor }

/-- The time has come to light the lamp, and the next check begins. -/
def lampDue : Supervision Int :=
  enters { putOff with clock := 1 }

/-- The check has asked whether the lamp is lit when a stop is asked for. -/
def asked : Supervision Int :=
  { goesOn lampDue with supervisor := (goesOn lampDue).supervisor.requestStop }

/-- The stop has been carried out. -/
def cleared : Supervision Int :=
  { asked with supervisor := asked.supervisor.clear }

/-- The check has found out that the lamp has gone out, and has ended. -/
def leftDark : Supervision Int :=
  findsOut cleared

section Runs

variable {v₀ v : Supervision Int} {journal : List (Note Int)}

theorem run_goesOn (run : Supervision.Run lamps patience v₀ journal v)
    (calls : (v.check lamp.name).call? = none) :
  Supervision.Run lamps patience v₀
    (((v.check lamp.name).notes lamp.name v.clock (v.looked lamp.name) v.supervisor).toList
      ++ journal) (goesOn v)
  := run.step (.own [] get?_lamps calls)

theorem run_hears (run : Supervision.Run lamps patience v₀ journal v) (reply : RunnerReply)
    {call : RunnerCall} (calls : (v.check lamp.name).call? = some call)
    (answers : call.Answers reply) :
  Supervision.Run lamps patience v₀
    (((v.check lamp.name).notes lamp.name v.clock (v.looked lamp.name) v.supervisor).toList
      ++ journal) (hears reply v)
  := run.step (.reply [] get?_lamps calls answers)

end Runs

theorem run_lampDue :
  ∃ journal, Supervision.Run lamps patience unlit journal lampDue
  := by
  have watched : Supervision.Run lamps patience unlit _ _ := .step .start (.watch "lamp")
  have asks := run_goesOn (watched.step (.enter get?_lamps rfl)) rfl
  have down := run_goesOn (run_hears asks (.running false) rfl trivial) rfl
  have told := run_goesOn (run_hears down (.exited (some 1)) rfl trivial) rfl
  have waits : Supervision.Run lamps patience unlit _ putOff := run_goesOn told rfl
  have passed : Supervision.Run lamps patience unlit _ { putOff with clock := 1 } :=
    waits.step (.pass rfl)
  exact ⟨_, passed.step (.enter get?_lamps rfl)⟩

theorem within_asked :
  Supervision.Within lamps patience "lamp" lampDue [] asked
  := by
  have begun : Supervision.Within lamps patience "lamp" lampDue [] lampDue := .start rfl
  have looked : Supervision.Within lamps patience "lamp" lampDue [] (goesOn lampDue) :=
    begun.step (.own [] get?_lamps rfl) nofun
  exact looked.step .requestStop nofun

theorem run_leftDark :
  Supervision.Run lamps patience cleared [] leftDark
  := by
  have begun : Supervision.Run lamps patience cleared [] cleared := .start
  have down := run_goesOn (run_hears begun (.running false) rfl trivial) rfl
  have told := run_goesOn (run_hears down (.exited (some 1)) rfl trivial) rfl
  exact run_goesOn told rfl

end Sample

/-- The lamp is due to be lit, but it is let go while a check asks about it, and it stays dark. -/
theorem Supervision.Within.called_off_due :
  (∃ journal, Run Sample.lamps Sample.patience Sample.unlit journal Sample.lampDue)
    ∧ Sample.lampDue.supervisor.pending.get? "lamp" = some 1 ∧ Sample.lampDue.clock = 1
    ∧ Within Sample.lamps Sample.patience "lamp" Sample.lampDue [] Sample.asked
    ∧ (Sample.asked.check "lamp").call? = some .isRunning
    ∧ LetsGo "lamp" Sample.asked Sample.cleared
    ∧ Run Sample.lamps Sample.patience Sample.cleared [] Sample.leftDark
    ∧ Sample.leftDark.check "lamp" = .ended none
    ∧ (Sample.leftDark.state "lamp").restartCount = (Sample.lampDue.state "lamp").restartCount
    ∧ Sample.leftDark.supervisor.isWatching "lamp" = false
    ∧ Sample.leftDark.supervisor.delayOf Sample.patience "lamp" = 1
  := by
  obtain ⟨-, -, count, watched, -, wait⟩ := Sample.within_asked.called_off (.inl rfl) .clear
    Sample.run_leftDark nofun
  exact ⟨Sample.run_lampDue, rfl, rfl, Sample.within_asked, rfl, .clear, Sample.run_leftDark, rfl,
    count, watched, wait nofun⟩

end Muster
