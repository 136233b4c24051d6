import Muster.Container.Project
/-!
# Errands

What it comes to when an errand is run, one equation for each way to put errands together, and what
can become of a call: the engine is out of reach, or it refuses the call for a cause of its own, or
it answers.
-/

namespace Muster

namespace Engine

variable {α β : Type}

/-! ### Running an errand -/

theorem run_pure (a : α) (e : Engine) :
  (pure a : Errand α).run e = (.ok a, e)
  := rfl

theorem run_throw (fault : Fault) (e : Engine) :
  (throw fault : Errand α).run e = (.error fault, e)
  := rfl

theorem run_get (e : Engine) :
  (get : Errand Engine).run e = (.ok e, e)
  := rfl

theorem run_set (e e' : Engine) :
  (set e' : Errand PUnit).run e = (.ok ⟨⟩, e')
  := rfl

theorem run_modify (f : Engine → Engine) (e : Engine) :
  (modify f : Errand PUnit).run e = (.ok ⟨⟩, f e)
  := rfl

theorem run_attempt (t : Errand α) (e : Engine) :
  (attempt t).run e = (.ok (t.run e).1, (t.run e).2)
  := rfl

theorem run_bind (t : Errand α) (f : α → Errand β) (e : Engine) :
  (t >>= f).run e = match t.run e with
    | (.ok a, e') => (f a).run e'
    | (.error fault, e') => (.error fault, e')
  := by
  unfold ExceptT.run
  simp only [bind, ExceptT.bind, ExceptT.mk, StateT.bind, ExceptT.bindCont]
  cases t e with
  | mk result e' => cases result <;> rfl

theorem run_bind_of_ok {t : Errand α} {e e' : Engine} {a : α} (first : t.run e = (.ok a, e'))
    (f : α → Errand β) :
  (t >>= f).run e = (f a).run e'
  := by
  rw [run_bind, first]

/-! ### Calls -/

/-- The engine after a call has been recorded. -/
def record (e : Engine) (c : EngineCall) : Engine :=
  { e with calls := e.calls ++ [c] }

/-- The engine can be reached and refuses a kind of call for a cause of its own. -/
def Refuses (e : Engine) (kind : EngineAction) (cause : EngineFault) : Prop :=
  e.unavailable = none ∧ e.faults.lookup kind = some (.engine cause)

/-- The engine can be reached and refuses no call of a kind. -/
def Answers (e : Engine) (kind : EngineAction) : Prop :=
  e.unavailable = none ∧ e.faults.lookup kind = none

/-- A run of a command that fails for no cause but one of the engine. -/
def PlainRun (item : ExecItem) : Prop :=
  ∀ fault, item.fault = some fault → ∃ cause, fault = .engine cause

/-- An engine whose refusals and runs of commands have no causes but its own. -/
structure Plain (e : Engine) : Prop where
  refusals : ∀ kind fault, e.faults.lookup kind = some fault → ∃ cause, fault = .engine cause
  runs : ∀ name items, e.execs.get? name = some items → ∀ item ∈ items, PlainRun item

theorem run_call (c : EngineCall) (e : Engine) :
  (call c).run e = match e.unavailable with
    | some reason =>
      (.error (.stack (.startFailed ("Docker is not available: " ++ reason))), e)
    | none =>
      match e.faults.lookup c.action with
      | some fault => (.error fault, e.record c)
      | none => (.ok (), e.record c)
  := by
  simp only [call, run_bind, run_get]
  cases away : e.unavailable with
  | some reason => rfl
  | none =>
    simp only [run_bind, run_set, record, away]
    cases e.faults.lookup c.action <;> rfl

/-- What is the same before and after some calls, and the calls. -/
structure After (e : Engine) (made : List EngineCall) (e' : Engine) : Prop where
  calls : e'.calls = e.calls ++ made
  faults : e'.faults = e.faults
  unavailable : e'.unavailable = e.unavailable
  /-- The runs of commands to come were to come before. -/
  runs : ∀ name items, e'.execs.get? name = some items →
    ∃ before, e.execs.get? name = some before ∧ items ⊆ before

theorem After.of_execs {e e' : Engine} {made : List EngineCall} (calls : e'.calls = e.calls ++ made)
    (faults : e'.faults = e.faults) (unavailable : e'.unavailable = e.unavailable)
    (execs : e'.execs = e.execs) :
  After e made e'
  := ⟨calls, faults, unavailable, fun _ items found => ⟨items, execs ▸ found, List.Subset.refl _⟩⟩

/-- Nothing has been called, and nothing has changed that decides how a call ends. -/
theorem After.of_silent {e e' : Engine} (calls : e'.calls = e.calls) (faults : e'.faults = e.faults)
    (unavailable : e'.unavailable = e.unavailable) (execs : e'.execs = e.execs) :
  After e [] e'
  := .of_execs (by rw [calls, List.append_nil]) faults unavailable execs

theorem After.refl (e : Engine) :
  After e [] e
  := .of_silent rfl rfl rfl rfl

theorem After.record (e : Engine) (c : EngineCall) :
  After e [c] (e.record c)
  := .of_execs rfl rfl rfl rfl

section After

variable {e e' e'' : Engine} {made more : List EngineCall}

theorem After.trans (first : After e made e') (second : After e' more e'') :
  After e (made ++ more) e''
  where
  calls := by rw [second.calls, first.calls, List.append_assoc]
  faults := second.faults.trans first.faults
  unavailable := second.unavailable.trans first.unavailable
  runs name items found := by
    obtain ⟨between, found, among⟩ := second.runs name items found
    obtain ⟨before, found, among'⟩ := first.runs name between found
    exact ⟨before, found, List.Subset.trans among among'⟩

theorem After.plain (after : After e made e') (plain : e.Plain) :
  e'.Plain
  where
  refusals := by
    rw [after.faults]
    exact plain.refusals
  runs name items found item mem := by
    obtain ⟨before, found, among⟩ := after.runs name items found
    exact plain.runs name before found item (among mem)

theorem After.refuses_iff (after : After e made e') {kind : EngineAction} {cause : EngineFault} :
  e'.Refuses kind cause ↔ e.Refuses kind cause
  := by
  rw [Refuses, after.faults, after.unavailable, Refuses]

end After

/-- What can become of an errand that makes a single call: the engine is out of reach, it refuses the
call for a cause of its own, it answers that there is no such thing, or all goes well. -/
inductive Outcome (e : Engine) (c : EngineCall) (absent : EngineFault → Prop) (good : α → Prop) :
    Except Fault α → Engine → Prop where
  | unreachable (reason : String) (away : e.unavailable = some reason) :
    Outcome e c absent good
      (.error (.stack (.startFailed ("Docker is not available: " ++ reason)))) e
  | refused {e'} (cause : EngineFault) (refuses : e.Refuses c.action cause)
      (after : After e [c] e') :
    Outcome e c absent good (.error (.engine cause)) e'
  | absent {e'} (cause : EngineFault) (missing : absent cause) (answers : e.Answers c.action)
      (after : After e [c] e') :
    Outcome e c absent good (.error (.engine cause)) e'
  | done {e'} (a : α) (isGood : good a) (answers : e.Answers c.action) (after : After e [c] e') :
    Outcome e c absent good (.ok a) e'

section Outcome

variable {e : Engine} {absent : EngineFault → Prop} {good : α → Prop}

/-- A call, and what is done once the engine has answered it. -/
theorem Plain.outcome (plain : e.Plain) (c : EngineCall) {next : Errand α}
    (answered : e.Answers c.action → Outcome e c absent good (next.run (e.record c)).1
      (next.run (e.record c)).2) :
  Outcome e c absent good ((do call c; next).run e).1 ((do call c; next).run e).2
  := by
  rw [run_bind, run_call]
  cases away : e.unavailable with
  | some reason => exact .unreachable reason away
  | none =>
    cases found : e.faults.lookup c.action with
    | some fault =>
      obtain ⟨cause, rfl⟩ := plain.refusals _ _ found
      exact .refused cause ⟨away, found⟩ (.record e c)
    | none => exact answered ⟨away, found⟩

/-- A call with an effect on nothing that decides how a call ends. -/
theorem Plain.outcome_modify (plain : e.Plain) (c : EngineCall) {f : Engine → Engine}
    (after : ∀ e, After e [] (f e)) :
  Outcome e c (fun _ => False) (fun _ => True) ((do call c; modify f : Errand PUnit).run e).1
    ((do call c; modify f : Errand PUnit).run e).2
  := plain.outcome c fun answers =>
    .done _ trivial answers ((After.record e c).trans (after _))

theorem Plain.outcome_findImage (plain : e.Plain) (name : String) :
  Outcome e (.findImage name) (fun cause => ∃ message, cause = .imageNotFound message)
    (fun _ => True) ((findImage name).run e).1 ((findImage name).run e).2
  := by
  apply plain.outcome
  intro answers
  rw [run_bind, run_get]
  simp only
  split
  · exact .absent _ ⟨_, rfl⟩ answers (.record e _)
  · exact .done _ trivial answers (.record e _)

theorem Plain.outcome_findNetwork (plain : e.Plain) (name : String) :
  Outcome e (.findNetwork name) (fun cause => cause.isMissing = true) (fun _ => True)
    ((findNetwork name).run e).1 ((findNetwork name).run e).2
  := by
  apply plain.outcome
  intro answers
  rw [run_bind, run_get]
  simp only
  split
  · exact .absent _ rfl answers (.record e _)
  · exact .done _ trivial answers (.record e _)

theorem Plain.outcome_findContainer (plain : e.Plain) (name : String) :
  Outcome e (.findContainer name) (fun cause => cause.isMissing = true) (fun _ => True)
    ((findContainer name).run e).1 ((findContainer name).run e).2
  := by
  apply plain.outcome
  intro answers
  rw [run_bind, run_get]
  simp only
  split
  · exact .done _ trivial answers (.record e _)
  · exact .absent _ rfl answers (.record e _)

/-- The next run is among the runs to come or goes well, and the runs after it are among them. -/
theorem nextExec_cases (items : List ExecItem) :
  ((nextExec items).1 ∈ items ∨ (nextExec items).1.fault = none) ∧ (nextExec items).2 ⊆ items
  := by
  match items with
  | [] => exact ⟨.inr rfl, List.Subset.refl _⟩
  | [item] => exact ⟨.inl (List.mem_singleton_self _), List.Subset.refl _⟩
  | item :: next :: r => exact ⟨.inl List.mem_cons_self, List.subset_cons_self _ _⟩

theorem Plain.outcome_execute (plain : e.Plain) (container : String) (argv : List String) :
  Outcome e (.execute container argv) (fun _ => False) PlainRun
    ((execute container argv).run e).1 ((execute container argv).run e).2
  := by
  apply plain.outcome
  intro answers
  have next := nextExec_cases ((e.execs.get? container).getD [])
  generalize ended : nextExec ((e.execs.get? container).getD []) = run at next
  have execs : (e.record (.execute container argv)).execs = e.execs := rfl
  simp only [run_bind, run_get, run_set, run_pure, execs, ended]
  apply Outcome.done _ _ answers
  · refine ⟨rfl, rfl, rfl, fun name items found => ?_⟩
    simp only [Table.get?_modify] at found
    split at found
    · next same =>
      obtain ⟨before, found', rfl⟩ := Option.map_eq_some_iff.mp found
      rw [found'] at next
      exact ⟨before, same ▸ found', next.2⟩
    · exact ⟨items, found, List.Subset.refl _⟩
  · intro fault failed
    rcases next.1 with mem | fine
    · cases found : e.execs.get? container with
      | none =>
        rw [found] at mem
        cases mem
      | some items =>
        rw [found] at mem
        exact plain.runs container items found _ mem fault failed
    · cases fine.symm.trans failed

end Outcome

end Engine

/-! ### A project with a service -/

namespace Sample

/-- A project without files. -/
def demo : Project where
  name := "demo"
  base := "."
  files := { current := [] }
  environ := ∅

/-- A service that needs nothing but its image. -/
def proxy : Service where
  name := "proxy"
  image := "nginx"

end Sample

end Muster
