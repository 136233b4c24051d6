import Muster.Proofs.Supervisor.Whole
/-!
# A crew on one supervisor

A supervisor is shared by any number of threads.  Each of them watches services or watches them no
longer, stops supervising, or checks a service, as often as it likes, and two of them may well check
the same service at the same time.  What a thread does is cut into sections under the lock of the
supervisor; between any two of them the others carry out theirs, the state of a service changes, and
the clock shows any time.  `Crew` is the situation at a moment, and `Crew.Reachable` says to which
situations this leads.

Whatever the order, a restart is scheduled only of a service that is watched, and every watched
service has a wait.  No section takes that for granted of the section before it: each one looks for
itself, under the lock, at what it goes by.
-/

namespace Muster

variable {τ : Type}

namespace Supervisor

/-- What a supervisor remembers hangs together. -/
structure Coherent (sup : Supervisor τ) : Prop where
  /-- A restart is scheduled only of a service that is watched. -/
  pending : sup.pending.keys ⊆ sup.watched.keys
  /-- Every watched service has a wait. -/
  watched : sup.watched.keys ⊆ sup.delays.keys

namespace Coherent

variable {sup : Supervisor τ}

/-- Watching a service gives it a wait if it has none. -/
theorem watch (coherent : sup.Coherent) (b : Backoff τ) (now : τ) (name : String) :
  (sup.watch b now name).Coherent
  where
  pending _ scheduled := Table.mem_keys_insert.mpr (.inr (coherent.pending scheduled))
  watched other watched := by
    simp only [Supervisor.watch]
    -- A service that has a wait from before keeps it.
    split
    · next there =>
      obtain rfl | old := Table.mem_keys_insert.mp watched
      · apply Table.contains_iff.mp there
      · apply coherent.watched old
    · apply Table.mem_keys_insert.mpr
      obtain rfl | old := Table.mem_keys_insert.mp watched
      · left; rfl
      · right; apply coherent.watched old

/-- With a service that is watched no longer its restart is forgotten. -/
theorem unwatch (coherent : sup.Coherent) (name : String) :
  (sup.unwatch name).Coherent
  where
  pending other scheduled := by
    obtain ⟨old, apart⟩ := Table.mem_keys_erase.mp scheduled
    apply Table.mem_keys_erase.mpr ⟨coherent.pending old, apart⟩
  watched _ watched := coherent.watched (Table.mem_keys_erase.mp watched).1

theorem clear (sup : Supervisor τ) :
  sup.clear.Coherent
  := ⟨List.nil_subset _, List.nil_subset _⟩

theorem requestStop (coherent : sup.Coherent) :
  sup.requestStop.Coherent
  := ⟨coherent.pending, coherent.watched⟩

theorem reopen (coherent : sup.Coherent) :
  sup.reopen.Coherent
  := ⟨coherent.pending, coherent.watched⟩

/-- A restart is scheduled only if the service is still watched. -/
theorem schedule (coherent : sup.Coherent) (name : String) (time : τ) :
  (sup.schedule name time).Coherent
  := by
  rw [Supervisor.schedule]
  split
  · next watched =>
    constructor
    · intro other scheduled
      obtain rfl | old := Table.mem_keys_insert.mp scheduled
      · apply Table.contains_iff.mp watched
      · apply coherent.pending old
    · apply coherent.watched
  · apply coherent

/-- A new run is noted only if the service is still watched. -/
theorem resume (coherent : sup.Coherent) (now : τ) (name : String) :
  (sup.resume now name).Coherent
  := by
  rw [Supervisor.resume]
  split
  · next watched =>
    constructor
    · intro other scheduled
      apply Table.mem_keys_insert.mpr (.inr (coherent.pending scheduled))
    · intro other noted
      apply coherent.watched
      obtain rfl | old := Table.mem_keys_insert.mp noted
      · apply Table.contains_iff.mp watched
      · apply old
  · apply coherent

variable [Timeline τ]

theorem credit (coherent : sup.Coherent) (b : Backoff τ) (now : τ) (name : String) :
  (sup.credit b now name).Coherent
  := by
  simp only [Supervisor.credit]
  split
  · constructor
    · apply coherent.pending
    · intro other watched
      apply Table.mem_keys_insert.mpr (.inr (coherent.watched watched))
  · apply coherent

/-- The service may be watched no longer when its restart is taken out; it has a wait then all the
same. -/
theorem backOff (coherent : sup.Coherent) (b : Backoff τ) (name : String) :
  (sup.backOff b name).Coherent
  where
  pending _ scheduled := coherent.pending (Table.mem_keys_erase.mp scheduled).1
  watched _ watched := Table.mem_keys_insert.mpr (.inr (coherent.watched watched))

end Coherent

end Supervisor

/-- However a check goes on, what the supervisor remembers still hangs together. -/
theorem Check.Goes.coherent [Timeline τ] {s : Service} {b : Backoff τ} {clock : τ}
    {sup sup' : Supervisor τ} {state state' : ServiceState} {c c' : Check τ}
    (goes : Goes s b clock sup state c c' sup' state') (coherent : sup.Coherent) :
  sup'.Coherent
  := by
  cases goes with
  | credit => apply coherent.credit
  | retire => apply coherent.unwatch
  | schedule => apply coherent.schedule
  | backOff => apply coherent.backOff
  | resume => apply coherent.resume
  | _ => apply coherent

/-- What a thread is about. -/
inductive Task (τ : Type) where
  | free
  /-- It has asked for a stop, and what is remembered is still to be cleared. -/
  | stopping
  /-- It checks a service. -/
  | checking (s : Service) (c : Check τ)

/-- Threads at work on one supervisor. -/
structure Crew (ι τ : Type) where
  supervisor : Supervisor τ
  clock : τ
  state : String → ServiceState
  task : ι → Task τ

namespace Crew

variable {ι : Type} [DecidableEq ι]

/-- What the check of a service works on, besides the log. -/
def desk (v : Crew ι τ) (s : Service) (log : List LogEntry) : Desk τ where
  supervisor := v.supervisor
  state := v.state s.name
  log := log

/-- A thread has carried out a section. -/
def turn (v : Crew ι τ) (i : ι) (task : Task τ) (sup : Supervisor τ) : Crew ι τ :=
  { v with supervisor := sup, task := Function.update v.task i task }

/-- The check that a thread carries out has gone on. -/
def goOn (v : Crew ι τ) (i : ι) (s : Service) (gone : Check τ × Desk τ) : Crew ι τ :=
  { v.turn i (.checking s gone.1) gone.2.supervisor with
    state := Function.update v.state s.name gone.2.state }

variable [Timeline τ]

/-- What may happen next. -/
inductive Step (b : Backoff τ) (v : Crew ι τ) : Crew ι τ → Prop where
  /-- The clock shows another time. -/
  | pass (time : τ) : Step b v { v with clock := time }
  /-- The state of a service changes. -/
  | mark (name : String) (state : ServiceState) :
    Step b v { v with state := Function.update v.state name state }
  | requestStop : Step b v { v with supervisor := v.supervisor.requestStop }
  | reopen : Step b v { v with supervisor := v.supervisor.reopen }
  | watch {i} (free : v.task i = .free) (name : String) :
    Step b v (v.turn i .free (v.supervisor.watch b v.clock name))
  | unwatch {i} (free : v.task i = .free) (name : String) :
    Step b v (v.turn i .free (v.supervisor.unwatch name))
  | stop {i} (free : v.task i = .free) : Step b v (v.turn i .stopping v.supervisor.requestStop)
  | clear {i} (stops : v.task i = .stopping) : Step b v (v.turn i .free v.supervisor.clear)
  /-- A thread begins to check a service, whatever the others are about. -/
  | enter {i} (free : v.task i = .free) (s : Service) :
    Step b v (v.turn i (.checking s .entering) v.supervisor)
  /-- A check goes on by itself. -/
  | own {i s c} (log : List LogEntry) (checks : v.task i = .checking s c) (calls : c.call? = none) :
    Step b v (v.goOn i s (Check.step s b v.clock c (v.desk s log)))
  /-- The runner of a service comes back from a call. -/
  | reply {i s c call reply} (log : List LogEntry) (checks : v.task i = .checking s c)
      (calls : c.call? = some call) (answers : call.Answers reply) :
    Step b v (v.goOn i s (Check.hear s b c reply (v.desk s log)))
  /-- A check has ended. -/
  | leave {i s fault} (checks : v.task i = .checking s (.ended fault)) :
    Step b v (v.turn i .free v.supervisor)

/-- Nothing is remembered yet, and no thread is about anything. -/
structure Fresh (v : Crew ι τ) : Prop where
  watched : v.supervisor.watched = ∅
  delays : v.supervisor.delays = ∅
  pending : v.supervisor.pending = ∅
  free : ∀ i, v.task i = .free

/-- The situations that a crew comes to. -/
inductive Reachable (b : Backoff τ) : Crew ι τ → Prop where
  | start {v} (fresh : v.Fresh) : Reachable b v
  | step {v v'} (reachable : Reachable b v) (step : Step b v v') : Reachable b v'

variable {b : Backoff τ} {v v' : Crew ι τ}

/-- Whatever happens, what the supervisor remembers still hangs together. -/
theorem Step.coherent (step : Step b v v') (coherent : v.supervisor.Coherent) :
  v'.supervisor.Coherent
  := by
  cases step with
  | pass | mark | enter | leave => apply coherent
  | requestStop => apply coherent.requestStop
  | reopen => apply coherent.reopen
  | watch free name => apply coherent.watch
  | unwatch free name => apply coherent.unwatch
  | stop free => apply coherent.requestStop
  | clear stops => apply Supervisor.Coherent.clear
  | @own i s c log checks calls =>
    apply (Check.goes_step (d := v.desk s log) calls).coherent coherent
  | @reply i s c call reply log checks calls answers =>
    have goes : Check.Goes s b v.clock v.supervisor _ c _ _ _ :=
      Check.goes_hear (d := v.desk s log) calls answers
    apply goes.coherent coherent

omit [DecidableEq ι] [Timeline τ] in
theorem Fresh.coherent (fresh : v.Fresh) :
  v.supervisor.Coherent
  where
  pending := by
    rw [fresh.pending]
    apply List.nil_subset
  watched := by
    rw [fresh.watched]
    apply List.nil_subset

theorem Reachable.coherent (reachable : Reachable b v) :
  v.supervisor.Coherent
  := by
  induction reachable with
  | start fresh => apply fresh.coherent
  | step _ step ih => apply step.coherent ih

/-- Whatever the threads do, and in whatever order their sections come: a restart is scheduled only
of a service that is watched, and every watched service has a wait. -/
theorem keys_subset_keys (reachable : Reachable b v) :
  v.supervisor.pending.keys ⊆ v.supervisor.watched.keys
    ∧ v.supervisor.watched.keys ⊆ v.supervisor.delays.keys
  := ⟨reachable.coherent.pending, reachable.coherent.watched⟩

end Crew

namespace Sample

/-- Two threads, and a supervisor that remembers nothing yet. -/
def duo : Crew Bool Int where
  supervisor := {}
  clock := 0
  state name := { name }
  task _ := .free

/-- One thread checks the lamp.  When it has decided to put off lighting it, the other one watches
the lamp no longer, and then watches it again. -/
theorem exists_rewatched :
  ∃ v : Crew Bool Int, v.Reachable patience
    ∧ v.task true = .checking lamp (.scheduling 0 1) ∧ v.task false = .free
    ∧ v.supervisor.watched.entries = [("lamp", 5)] ∧ v.supervisor.pending = ∅
  := by
  have fresh : duo.Fresh := ⟨rfl, rfl, rfl, fun _ => rfl⟩
  have lit := (Crew.Reachable.start (b := patience) fresh).step (.watch (i := false) rfl "lamp")
  have asks := (lit.step (.enter (i := true) rfl lamp)).step (.own (i := true) [] rfl rfl)
  have out : RunnerCall.isRunning.Answers (.running false) := trivial
  have down := (asks.step (.reply (i := true) [] rfl rfl out)).step (.own (i := true) [] rfl rfl)
  have failed : RunnerCall.exitCode.Answers (.exited (some 1)) := trivial
  have decided := down.step (.reply (i := true) [] rfl rfl failed)
  have dropped := (decided.step (.pass 5)).step (.unwatch (i := false) rfl "lamp")
  have again := dropped.step (.watch (i := false) rfl "lamp")
  exact ⟨_, again, rfl, rfl, rfl, rfl⟩

end Sample

/-- The check of the lamp goes on, and the restart is scheduled. -/
theorem Crew.keys_subset_keys_rewatched :
  ∃ v : Crew Bool Int, v.Reachable Sample.patience ∧ v.supervisor.pending.keys = ["lamp"]
    ∧ v.supervisor.pending.keys ⊆ v.supervisor.watched.keys
    ∧ v.supervisor.watched.keys ⊆ v.supervisor.delays.keys
  := by
  obtain ⟨v, again, checks, -, watched, none⟩ := Sample.exists_rewatched
  have scheduled := again.step (.own (i := true) [] checks rfl)
  refine ⟨_, scheduled, ?_, keys_subset_keys scheduled⟩
  have watching : v.supervisor.watched.contains "lamp" = true := by
    rw [Table.contains, Table.get?, watched]
    rfl
  simp only [goOn, turn, desk, Check.step, Supervisor.schedule, Sample.lamp, watching, if_true,
    none]
  rfl

end Muster
