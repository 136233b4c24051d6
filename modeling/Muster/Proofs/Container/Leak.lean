import Muster.Proofs.Container.Telling
import Muster.Proofs.Environment
/-!
# Faults of the engine that leak

Starting and checking a service are errands with an engine that may refuse any call for any cause.
Most causes are taken for an answer or told as a fault of the stack; the others leak, and reach
whoever has sent the errand as faults of the engine.  `EngineAction.leaks` says which do.
-/

namespace Muster

/-- A fault that a start is meant to have. -/
inductive Fault.OfStart : Fault → Prop where
  | imagePull (image : String) (reason : Option String) : OfStart (.stack (.imagePull image reason))
  | startFailed (message : String) : OfStart (.stack (.startFailed message))

/-- A fault of its own that a health check may have: the engine is out of reach, the check has no
test to run, or its timeout cannot be waited for. -/
inductive Fault.OfCheck (check : HealthCheck) : Fault → Prop where
  | startFailed (message : String) : OfCheck check (.stack (.startFailed message))
  | outOfRange (nothing : check.test = []) : OfCheck check .outOfRange
  | overflow (long : Host.longestWait < check.timeout) : OfCheck check .overflow

/-- Whether a cause for which the engine refuses a kind of call is told as it is. -/
def EngineAction.leaks : EngineAction → EngineFault → Bool
  | findImage, .imageNotFound _ => false
  | findImage, _ => true
  | findContainer, cause => !cause.isMissing
  | removeContainer, _ => true
  | execute, _ => false
  | _, cause => !cause.isAnswer

/-- The kinds of call that a start is made of. -/
def EngineAction.ofStart : List EngineAction :=
  [findImage, pullImage, findContainer, removeContainer, findNetwork, createNetwork,
    createContainer, connectNetwork, startContainer]

/-- The kinds of call that the launch of a container is made of. -/
def EngineAction.ofLaunch : List EngineAction :=
  [findNetwork, createNetwork, createContainer, connectNetwork, startContainer]

/-- Whether a cause for which the engine refuses a kind of call ends the launch of a container. -/
def EngineAction.endsLaunch : EngineAction → EngineFault → Bool
  | findNetwork, cause => !cause.isMissing
  | _, _ => true

/-- The kinds of call that a health check is made of. -/
def EngineAction.ofCheck : List EngineAction :=
  [findContainer, execute]

namespace Fault

theorem not_ofStart_engine (cause : EngineFault) :
  ¬ OfStart (.engine cause)
  := nofun

theorem not_ofCheck_engine (check : HealthCheck) (cause : EngineFault) :
  ¬ OfCheck check (.engine cause)
  := nofun

end Fault

namespace Project

open Engine

variable {own : Fault → Prop} {kinds : List EngineAction}
  {through : EngineAction → EngineFault → Bool}

/-! ### The pieces of a start -/

theorem honest_container? (apart : ∀ cause, ¬ own (.engine cause))
    (away : ∀ message, own (.stack (.startFailed message)))
    (mem : .findContainer ∈ kinds)
    (misses : ∀ cause, through .findContainer cause = !cause.isMissing)
    (p : Project) (s : Service) :
  Honest own kinds through (p.container? s)
  := by
  apply honest_attempt apart away (fun e plain => plain.outcome_findContainer (p.containerName s)) mem
  · intro c _
    exact honest_pure _
  · intro fault meant
    cases fault with
    | engine cause => exact absurd meant (apart cause)
    | _ => rfl
  · intro cause gets
    have found : cause.isMissing = false := by simpa [EngineCall.action, misses] using gets
    simp [found]
  · intro cause dealt
    have missing : cause.isMissing = true := by simpa [EngineCall.action, misses] using dealt
    simp only [missing, if_true]
    exact honest_pure _

theorem honest_pull (s : Service) :
  Honest Fault.OfStart EngineAction.ofStart EngineAction.leaks (pull s)
  := by
  apply honest_bind (honest_note _)
  intro _
  apply honest_attempt Fault.not_ofStart_engine .startFailed
    (fun e plain => plain.outcome_modify (.pullImage s.image) ?_)
    (show .pullImage ∈ EngineAction.ofStart by decide)
  · intro _ _
    exact honest_pure _
  · rintro _ (_ | _) <;> rfl
  · intro cause gets
    have trouble : cause.isAnswer = false := by
      simpa [EngineCall.action, EngineAction.leaks] using gets
    simp [trouble]
  · intro cause dealt
    have answers : cause.isAnswer = true := by
      simpa [EngineCall.action, EngineAction.leaks] using dealt
    simp only [answers, if_true]
    exact honest_throw Fault.not_ofStart_engine (.imagePull _ _)
  · intro e
    split
    · exact .refl e
    · exact .of_silent rfl rfl rfl rfl

theorem honest_ensureImage (s : Service) :
  Honest Fault.OfStart EngineAction.ofStart EngineAction.leaks (ensureImage s)
  := by
  apply honest_attempt Fault.not_ofStart_engine .startFailed
    (fun e plain => plain.outcome_findImage s.image)
    (show .findImage ∈ EngineAction.ofStart by decide)
  · intro _ _
    exact honest_pure _
  · rintro _ (_ | _) <;> rfl
  · rintro (_ | _ | _ | _) gets <;> first | rfl | cases gets
  · intro cause dealt
    have missing : ∃ message, cause = .imageNotFound message := by
      rcases dealt with kept | missing
      · cases cause <;> first | exact ⟨_, rfl⟩ | cases kept
      · exact missing
    obtain ⟨message, rfl⟩ := missing
    exact honest_pull s

/-- A call that has an effect on neither the calls nor the refusals, when all its faults get
through. -/
theorem honest_call_modify (c : EngineCall) {f : Engine → Engine} (after : ∀ e, After e [] (f e))
    (mem : c.action ∈ kinds) (all : ∀ cause, through c.action cause = true) :
  Honest Fault.OfStart kinds through (do call c; modify f : Errand PUnit)
  := honest_of_outcome Fault.not_ofStart_engine .startFailed
    (fun _ plain => plain.outcome_modify c after) mem all

theorem honest_ensureNetwork (p : Project) :
  Honest Fault.OfStart EngineAction.ofLaunch EngineAction.endsLaunch p.ensureNetwork
  := by
  apply honest_attempt Fault.not_ofStart_engine .startFailed
    (fun e plain => plain.outcome_findNetwork p.networkName)
    (show .findNetwork ∈ EngineAction.ofLaunch by decide)
  · intro _ _
    exact honest_pure _
  · rintro _ (_ | _) <;> rfl
  · intro cause gets
    have found : cause.isMissing = false := by
      simpa [EngineCall.action, EngineAction.endsLaunch] using gets
    simp [found]
  · intro cause dealt
    have missing : cause.isMissing = true := by
      simpa [EngineCall.action, EngineAction.endsLaunch] using dealt
    simp only [missing, if_true]
    apply honest_bind (honest_note _)
    intro _
    apply honest_call_modify
    · intro e
      split <;> exact .of_silent rfl rfl rfl rfl
    · exact (show .createNetwork ∈ EngineAction.ofLaunch by decide)
    · exact fun _ => rfl

theorem honest_launch (p : Project) (s : Service) (spec : ContainerSpec) :
  Honest Fault.OfStart EngineAction.ofLaunch EngineAction.endsLaunch (p.launch s spec)
  := by
  apply honest_bind p.honest_ensureNetwork
  intro _
  apply honest_bind
  · exact honest_call_modify _ (fun e => .of_silent rfl rfl rfl rfl)
      (show .createContainer ∈ EngineAction.ofLaunch by decide) fun _ => rfl
  intro _
  apply honest_bind
  · exact honest_call_modify _ (fun e => .of_silent rfl rfl rfl rfl)
      (show .connectNetwork ∈ EngineAction.ofLaunch by decide) fun _ => rfl
  intro _
  exact honest_call_modify _ (fun e => .of_silent rfl rfl rfl rfl)
    (show .startContainer ∈ EngineAction.ofLaunch by decide) fun _ => rfl

/-- An environment cannot be put together only for want of an environment file. -/
theorem startFailed_of_environment {p : Project} {s : Service} {fault : Fault}
    (failed : p.environment s = .error fault) :
  ∃ message, fault = .stack (.startFailed message)
  := by
  rw [environment, Environment.merge_eq] at failed
  split at failed
  · next missing =>
    cases failed
    obtain ⟨path, -, -, told⟩ := Environment.missing?_eq_some missing
    exact ⟨_, told⟩
  · cases failed

theorem honest_clear (p : Project) (s : Service) :
  Honest Fault.OfStart EngineAction.ofStart EngineAction.leaks (p.clear s)
  := by
  apply honest_bind (honest_container? Fault.not_ofStart_engine .startFailed (by decide)
    (fun _ => rfl) p s)
  rintro (_ | _)
  · exact honest_pure _
  · apply honest_bind (honest_note _)
    intro _
    exact honest_call_modify _ (fun e => .of_silent rfl rfl rfl rfl)
      (show .removeContainer ∈ EngineAction.ofStart by decide) fun _ => rfl

/-- Of the causes that end a launch, only those that are no answers leak. -/
theorem leaks_of_ofLaunch : ∀ kind ∈ EngineAction.ofLaunch, ∀ cause,
  kind.leaks cause = (kind.endsLaunch cause && !cause.isAnswer)
  := by
  simp only [EngineAction.ofLaunch, List.forall_mem_cons]
  refine ⟨?_, ?_, ?_, ?_, ?_, List.forall_mem_nil _⟩ <;> rintro (_ | _ | _ | _) <;> rfl

theorem honest_settle (p : Project) (s : Service) (environment : Table String) :
  Honest Fault.OfStart EngineAction.ofStart EngineAction.leaks (p.settle s environment)
  := by
  apply honest_retold Fault.not_ofStart_engine (p.honest_launch s (p.containerSpec s environment))
    (by decide) leaks_of_ofLaunch
  · intro _
    exact honest_note _
  · rintro _ (_ | _) <;> rfl
  · intro cause answers
    exact ⟨_, .startFailed ("Service " ++ s.name ++ " failed to start: " ++ cause.message),
      by simp only [answers, if_true]⟩
  · intro cause trouble
    simp [trouble]

theorem honest_start (p : Project) (s : Service) :
  Honest Fault.OfStart EngineAction.ofStart EngineAction.leaks (p.start s)
  := by
  unfold start
  split
  · exact honest_throw Fault.not_ofStart_engine (.startFailed _)
  · apply honest_bind (honest_ensureImage s)
    intro _
    apply honest_bind (p.honest_clear s)
    intro _
    apply honest_bind
    · apply honest_lift Fault.not_ofStart_engine
      intro fault failed
      obtain ⟨message, rfl⟩ := startFailed_of_environment failed
      exact .startFailed message
    · exact fun environment => p.honest_settle s environment

/-! ### A health check -/

theorem test_of_command?_eq_none {check : HealthCheck} (none : check.command? = none) :
  check.test = []
  := by
  unfold HealthCheck.command? at none
  split at none
  · assumption
  · split at none
    · cases none
    · split at none <;> cases none

theorem ofCheck_of_outwait {check : HealthCheck} {fault : Fault}
    (failed : outwait check.timeout = .error fault) :
  Fault.OfCheck check fault
  := by
  unfold outwait Host.waitFault? at failed
  split at failed
  · next refused =>
    split at refused
    · next long =>
      cases refused
      cases failed
      exact .overflow long
    · cases refused
  · cases failed

/-- A command that is run has a result whatever becomes of it, unless it does not come back and its
timeout cannot be waited for. -/
theorem honest_probe (p : Project) (s : Service) (check : HealthCheck) (argv : List String) :
  Honest (Fault.OfCheck check) EngineAction.ofCheck EngineAction.leaks
    (p.probe s check.timeout argv)
  := by
  have outwaits : Honest (Fault.OfCheck check) EngineAction.ofCheck EngineAction.leaks
      (outwait check.timeout : Engine.Errand CheckResult) :=
    honest_lift (Fault.not_ofCheck_engine check) fun _ => ofCheck_of_outwait
  apply honest_get
  intro now
  split
  · exact outwaits
  apply honest_attempt (Fault.not_ofCheck_engine check) .startFailed
    (fun e plain => plain.outcome_execute (p.containerName s) argv)
    (show .execute ∈ EngineAction.ofCheck by decide)
  · intro item plainRun
    simp only
    split
    · apply honest_bind
      · exact honest_modify fun e => .of_silent rfl rfl rfl rfl
      · exact fun _ => outwaits
    · split
      · exact honest_pure _
      · next fault other failed =>
        obtain ⟨cause, rfl⟩ := plainRun fault failed
        exact absurd rfl (other cause)
      · exact honest_pure _
  · rintro _ (_ | _) <;> rfl
  · rintro cause ⟨⟩
  · exact fun _ _ => honest_pure _

theorem honest_check (p : Project) (s : Service) (check : HealthCheck) :
  Honest (Fault.OfCheck check) EngineAction.ofCheck EngineAction.leaks (p.check s check)
  := by
  unfold Project.check
  apply honest_bind (honest_container? (Fault.not_ofCheck_engine check) .startFailed (by decide)
    (fun _ => rfl) p s)
  rintro (_ | _)
  · exact honest_pure _
  · simp only
    split
    · next nothing =>
      exact honest_throw (Fault.not_ofCheck_engine check)
        (.outOfRange (test_of_command?_eq_none nothing))
    · next command _ => exact p.honest_probe s check command.toWords

/-- A start of a service ends well, or tells that an image cannot be got or that the start has
failed, or has a fault of the engine: this exactly when the engine refuses one of its calls for a
cause that leaks.  A health check has a result, or tells that the engine is out of reach or that
there is no test, or fails since its timeout cannot be waited for, or has a fault of the engine, just
as a start. -/
theorem leaks_iff_refused (p : Project) (s : Service) {e : Engine} (plain : e.Plain) :
  (∃ made, Tells Fault.OfStart EngineAction.ofStart EngineAction.leaks e made
      ((p.start s).run e).1 ((p.start s).run e).2)
    ∧ ∀ check, ∃ made, Tells (Fault.OfCheck check) EngineAction.ofCheck EngineAction.leaks e made
      ((p.check s check).run e).1 ((p.check s check).run e).2
  := ⟨p.honest_start s e plain, fun check => p.honest_check s check e plain⟩

end Project

/-! ### An engine that refuses -/

namespace Sample

/-- An engine that refuses a kind of call. -/
def refusing (kind : EngineAction) : Engine where
  images := ["nginx"]
  faults := [(kind, .engine (.refused "too many requests"))]

theorem plain_refusing (kind : EngineAction) :
  (refusing kind).Plain
  where
  refusals other fault found := by
    rw [refusing, List.lookup_cons] at found
    split at found <;> cases found
    exact ⟨_, rfl⟩
  runs name items found := by cases found

end Sample

/-- When the engine refuses to make the container, the start has a fault, and it is its own. -/
theorem Project.leaks_iff_refused_createContainer :
  (Sample.refusing .createContainer).Plain
    ∧ ∃ fault, ((Sample.demo.start Sample.proxy).run (Sample.refusing .createContainer)).1
      = .error fault ∧ fault.OfStart
  := by
  obtain ⟨⟨made, tells⟩, -⟩ := Sample.demo.leaks_iff_refused Sample.proxy
    (Sample.plain_refusing .createContainer)
  refine ⟨Sample.plain_refusing _, _, rfl, ?_⟩
  rcases tells.others _ rfl with meant | ⟨cause, leaked⟩
  · exact meant
  · cases leaked

/-- A start may have a fault that is not its own: the engine may refuse to look for the image. -/
theorem start_leaks_refused_image :
  ¬ ∀ (p : Project) (s : Service) (e : Engine), e.Plain →
    ((∀ fault, ((p.start s).run e).1 = .error fault → fault.OfStart)
      ∧ ∀ check fault, ((p.check s check).run e).1 = .error fault → fault.isStack = true)
  := by
  intro law
  cases (law Sample.demo Sample.proxy (Sample.refusing .findImage) (Sample.plain_refusing _)).1
    (.engine (.refused "too many requests")) rfl

end Muster
