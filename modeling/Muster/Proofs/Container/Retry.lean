import Muster.Proofs.Container.Leftover
import Muster.Proofs.Supervisor.Attempt
/-!
# Restarts of a service in a container

The supervisor restarts a service on failure for as long as the engine tells an exit code that is
not zero.  An attempt that fails for want of an image leaves the exit code, and others follow.  An
attempt that fails later has removed the container: the next check is told no exit code, and the
service is let go.
-/

namespace Muster

open Engine Project

namespace Project

variable {τ : Type} {now : τ} {p : Project} {s : Service} {c : Container} {code : Int}
  {E : Option Container → Prop} {e : Engine}

/-- What an errand comes back with as a call to a host. -/
theorem perform_eq {α : Type} {t : Errand α} {result : Except Fault α} {e' : Engine}
    (ran : t.run { e with log := [] } = (result, e')) :
  perform t e = ({ result, log := e'.log }, { e' with log := [] })
  := by
  rw [perform, ran]

theorem host_isRunning (now : τ) (having : Having (p.containerName s) E e) :
  ((p.host now).isRunning s e).1.result = .ok ((e.containers.get? (p.containerName s)).any counts)
    ∧ Having (p.containerName s) E ((p.host now).isRunning s e).2
  := by
  have ran : (p.host now).isRunning s e = perform (p.isRunning s) e := rfl
  rw [ran, perform_eq (run_isRunning having.silent)]
  exact ⟨rfl, (having.silent.of_after (.record _ _) having.entry).silent⟩

theorem host_exitCode (now : τ) (having : Having (p.containerName s) E e) {code : Option Int}
    (told : ∀ e, Having (p.containerName s) E e → (p.exitCode s).run e
      = (.ok code, e.record (.findContainer (p.containerName s)))) :
  ((p.host now).exitCode s e).1.result = .ok code
    ∧ Having (p.containerName s) E ((p.host now).exitCode s e).2
  := by
  have ran : (p.host now).exitCode s e = perform (p.exitCode s) e := rfl
  rw [ran, perform_eq (told _ having.silent)]
  exact ⟨rfl, (having.silent.of_after (.record _ _) having.entry).silent⟩

theorem host_start (having : Having (p.containerName s) (· = some c) e) {cause : StackFault}
    (failed : ((p.host now).start s e).1.result = .error (.stack cause)) :
  Leaves s c cause (((p.host now).start s e).2.containers.get? (p.containerName s))
  := by
  have ran : (p.host now).start s e = perform (p.start s) e := rfl
  have brings := p.brings_start s c _ having.silent
  generalize ended : (p.start s).run { e with log := [] } = after at brings
  rw [ran, perform_eq ended] at failed ⊢
  obtain ⟨result, e'⟩ := after
  cases failed
  exact brings cause rfl

end Project

namespace Stack

variable {τ : Type} [Timeline τ] {now now' : τ} {p : Project} {s : Service} {c : Container}
  {code : Int} {cause : StackFault} {state : ServiceState} {k k' : Stack τ Engine}

/-- An attempt has failed for want of an image. -/
def WantsImage (s : Service) (cause : StackFault) : Prop :=
  s.image = "" ∨ ∃ reason, cause = .imagePull s.image reason

/-- What happens to a stack and its engine while a service and its container are left alone, no stop
is asked for and the engine goes on to tell about containers. -/
structure Undisturbed (p : Project) (s : Service) (k k' : Stack τ Engine) : Prop where
  descriptor : k'.descriptor = k.descriptor
  going : k'.stopping = false
  watched : k'.supervisor.isWatching s.name = k.supervisor.isWatching s.name
  pending : k'.supervisor.pending.get? s.name = k.supervisor.pending.get? s.name
  state : k'.states.get? s.name = k.states.get? s.name
  engine : Having (p.containerName s) (· = k.world.containers.get? (p.containerName s)) k'.world

/-- What a start that has failed leaves depends on whether it wanted an image. -/
theorem entry_of_leaves {entry : Option Container} (leaves : Leaves s c cause entry) :
  (WantsImage s cause ∧ entry = some c) ∨ (¬ WantsImage s cause ∧ Blank entry)
  := by
  cases leaves with
  | unnamed message image => exact .inl ⟨.inl image, rfl⟩
  | unpulled reason image => exact .inl ⟨.inr ⟨reason, rfl⟩, rfl⟩
  | blank message image blank =>
    refine .inr ⟨?_, blank⟩
    rintro (none | ⟨reason, same⟩)
    · exact image none
    · cases same

/-- What is known about a service after a failed attempt to restart it, however much has happened
elsewhere. -/
theorem after_attempt (looked : k.checked? s.name = some (s, state))
    (having : Having (p.containerName s) (· = some c) k.world) (exited : HasExited c code)
    (heard : (.start, .raised (.stack cause)) ∈ k.talk (p.host now) s.name)
    (later : Undisturbed p s (k.check (p.host now) s.name).2 k') :
  Leaves s c cause ((k.check (p.host now) s.name).2.world.containers.get? (p.containerName s))
    ∧ k'.supervisor.pending.get? s.name = none
    ∧ ∃ state', k'.checked? s.name = some (s, state')
      ∧ state'.restartCount = state.restartCount + 1
  := by
  obtain ⟨⟨world, holds, failed, ended⟩, watched, pending, state', there, restarts⟩ :=
    failed_of_start_raised (h := p.host now) (P := Having (p.containerName s) (· = some c)) looked
      (fun _ having => (host_isRunning now having).2)
      (fun _ having =>
        (host_exitCode now having fun _ having => run_exitCode_exited having exited).2)
      having heard
  refine ⟨ended ▸ host_start holds failed, later.pending.trans pending, state', ?_, restarts⟩
  obtain ⟨-, found, -⟩ := checked?_eq_some_iff.mp looked
  apply checked?_eq_some_iff.mpr
  refine ⟨⟨later.going, later.watched.trans watched⟩, ?_, later.state.trans there⟩
  rw [later.descriptor, (descriptor_check (p.host now) k s.name).1, found]

/-- What a check makes of a service whose container is not running. -/
theorem check_of_container (now : τ) {E : Option Container → Prop} {code : Option Int}
    (looked : k.checked? s.name = some (s, state))
    (pending : k.supervisor.pending.get? s.name = none)
    (engine : Having (p.containerName s) E k.world)
    (stopped : ∀ entry, E entry → entry.any counts = false)
    (told : ∀ e, Having (p.containerName s) E e → (p.exitCode s).run e
      = (.ok code, e.record (.findContainer (p.containerName s)))) :
  ((p.host now).exitCode s k.world).1.result = .ok code
    ∧ (Check.Allowed s code (k.desk state) →
      (k.check (p.host now) s.name).2.supervisor.isWatching s.name = true
        ∧ (.start ∈ k.checkCalls (p.host now) s.name ∨ ∃ time,
          (k.check (p.host now) s.name).2.supervisor.pending.get? s.name = some time))
    ∧ (¬ Check.Allowed s code (k.desk state) →
      (k.check (p.host now) s.name).2.supervisor.isWatching s.name = false
        ∧ ∃ state', (k.check (p.host now) s.name).2.states.get? s.name = some state'
          ∧ state'.status = .exited)
  := by
  obtain ⟨running, engine'⟩ := host_isRunning now engine
  rw [stopped _ engine.entry] at running
  exact ⟨(host_exitCode now engine told).1,
    check_of_told looked pending running (host_exitCode now engine' told).1⟩

/-- After a failed attempt to restart a service whose container has exited with an exit code that is
not zero, the service is watched.  If the attempt has failed for want of an image, the exit code of
the last run is still told, and the next check keeps watching the service and schedules or makes
another attempt; otherwise no exit code is told and the next check lets go of the service. -/
theorem retries_iff_wants_image (now' : τ) (looked : k.checked? s.name = some (s, state))
    (policy : s.restart = .onFailure)
    (limit : s.maxRestarts = 0 ∨ (state.restartCount : Int) + 1 < s.maxRestarts)
    (having : Having (p.containerName s) (· = some c) k.world) (exited : HasExited c code)
    (failure : code ≠ 0) (heard : (.start, .raised (.stack cause)) ∈ k.talk (p.host now) s.name)
    (later : Undisturbed p s (k.check (p.host now) s.name).2 k') :
  k'.supervisor.isWatching s.name = true
    ∧ (WantsImage s cause → ((p.host now').exitCode s k'.world).1.result = .ok (some code)
      ∧ (k'.check (p.host now') s.name).2.supervisor.isWatching s.name = true
      ∧ (.start ∈ k'.checkCalls (p.host now') s.name ∨ ∃ time,
        (k'.check (p.host now') s.name).2.supervisor.pending.get? s.name = some time))
    ∧ (¬ WantsImage s cause → ((p.host now').exitCode s k'.world).1.result = .ok none
      ∧ (k'.check (p.host now') s.name).2.supervisor.isWatching s.name = false
      ∧ ∃ state', (k'.check (p.host now') s.name).2.states.get? s.name = some state'
        ∧ state'.status = .exited)
  := by
  obtain ⟨leaves, pending, state', looked', restarts⟩ :=
    after_attempt looked having exited heard later
  refine ⟨(checked?_eq_some_iff.mp looked').1.2, ?_⟩
  have engine := later.engine
  -- The old container is still there exactly when the start has not got as far as to remove it.
  rcases entry_of_leaves leaves with ⟨wants, entry⟩ | ⟨other, blank⟩
  · rw [entry] at engine
    obtain ⟨told, goesOn, -⟩ := check_of_container now' looked' pending engine
      (by rintro _ rfl; exact exited.stopped) fun e having => run_exitCode_exited having exited
    refine ⟨fun _ => ⟨told, goesOn ⟨?_, ?_⟩⟩, fun other => absurd wants other⟩
    · simp [policy, RestartPolicy.restarts, failure]
    · simp only [Check.limitReached, desk, restarts]
      rcases limit with none | below
      · simp [none]
      · simp only [Bool.and_eq_false_iff, decide_eq_false_iff_not]
        omega
  · have engine' : Having (p.containerName s) Blank k'.world :=
      ⟨engine.plain, engine.answers, engine.entry ▸ blank⟩
    obtain ⟨told, -, gone⟩ := check_of_container now' looked' pending engine'
      (fun _ => not_any_counts_blank) fun e having => run_exitCode_blank having
    refine ⟨fun wants => absurd wants other, fun _ => ⟨told, gone ?_⟩⟩
    rintro ⟨restarts, -⟩
    rw [policy] at restarts
    cases restarts

end Stack

/-! ### A container that has crashed -/

namespace Sample

/-- The proxy, which is started again after a failure. -/
def keptProxy : Service :=
  { proxy with restart := .onFailure }

/-- A container whose run has ended with exit code 3. -/
def crashedContainer : Container where
  status := "exited"
  attributes := [(.str "State", .map [(.str "ExitCode", .int 3)])]

theorem hasExited_crashedContainer :
  HasExited crashedContainer 3
  where
  stopped := by decide
  hasRun := by decide
  told := rfl

/-- An engine with that container that has some images and refuses a kind of call. -/
def crashed (images : List String) (kind : EngineAction) : Engine :=
  { refusing kind with
    images
    containers := ⟨[("demo-proxy-1", crashedContainer)], by decide⟩ }

/-- A stack of the proxy with that engine, when a restart is due. -/
def due (images : List String) (kind : EngineAction) : Stack Int Engine where
  descriptor := {
    project := "demo"
    services := ⟨[("proxy", keptProxy)], by decide⟩
    named := by simp [keptProxy, proxy]
    closed := by decide }
  backoff := ⟨1, 30, 10⟩
  stopTimeout := 10
  states := ⟨[("proxy", { name := "proxy" })], by decide⟩
  supervisor := {
    watched := ⟨[("proxy", 0)], by decide⟩
    pending := ⟨[("proxy", 0)], by decide⟩ }
  world := crashed images kind

theorem having_crashed (images : List String) (kind : EngineAction) (other : kind ≠ .findContainer) :
  Having (demo.containerName keptProxy) (· = some crashedContainer) (crashed images kind)
  where
  plain := ⟨(plain_refusing kind).refusals, nofun⟩
  answers := by
    refine ⟨rfl, ?_⟩
    have differs : (EngineAction.findContainer == kind) = false := by
      rw [beq_eq_false_iff_ne]
      exact Ne.symm other
    rw [crashed, refusing, List.lookup_cons, differs]
    rfl
  entry := rfl

end Sample

/-- When the image of the proxy cannot be got, the proxy stays watched after the next check, and
another attempt is on its way. -/
theorem Stack.retries_iff_wants_image_due :
  (.start, .raised (.stack (.imagePull "nginx" (some "too many requests"))))
      ∈ (Sample.due [] .pullImage).talk (Sample.demo.host 0) "proxy"
    ∧ (((Sample.due [] .pullImage).check (Sample.demo.host 0) "proxy").2.check
      (Sample.demo.host 5) "proxy").2.supervisor.isWatching "proxy" = true
  := by
  have heard : (.start, .raised (.stack (.imagePull "nginx" (some "too many requests"))))
      ∈ (Sample.due [] .pullImage).talk (Sample.demo.host 0) "proxy" :=
    .tail _ (.head _)
  have later : Undisturbed Sample.demo Sample.keptProxy
      ((Sample.due [] .pullImage).check (Sample.demo.host 0) "proxy").2
      ((Sample.due [] .pullImage).check (Sample.demo.host 0) "proxy").2 :=
    ⟨rfl, rfl, rfl, rfl, rfl, ⟨(Sample.plain_refusing .pullImage).refusals, nofun⟩, ⟨rfl, rfl⟩, rfl⟩
  obtain ⟨-, retries, -⟩ := Stack.retries_iff_wants_image 5 (s := Sample.keptProxy) rfl rfl
    (.inl rfl) (Sample.having_crashed [] .pullImage (by decide)) Sample.hasExited_crashedContainer
    (by decide) heard later
  exact ⟨heard, (retries (.inr ⟨_, rfl⟩)).2.1⟩

/-- When the container of the proxy cannot be made, the exit code is lost, and the proxy is let
go. -/
theorem let_go_after_refusal :
  ¬ ∀ (p : Project) (s : Service) (k : Stack Int Engine) (c : Container) (code : Int) state cause,
    s.restart = .onFailure → s.maxRestarts = 0 → k.checked? s.name = some (s, state) →
    Having (p.containerName s) (· = some c) k.world → HasExited c code → code ≠ 0 →
    (.start, .raised (.stack cause)) ∈ k.talk (p.host 0) s.name →
    ((p.host 5).exitCode s (k.check (p.host 0) s.name).2.world).1.result = .ok (some code)
      ∧ ((k.check (p.host 0) s.name).2.check (p.host 5) s.name).2.supervisor.isWatching s.name = true
  := by
  intro law
  have kept := law Sample.demo Sample.keptProxy (Sample.due ["nginx"] .createContainer)
    Sample.crashedContainer 3 _ (.startFailed "Service proxy failed to start: too many requests")
    rfl rfl rfl (Sample.having_crashed ["nginx"] .createContainer (by decide))
    Sample.hasExited_crashedContainer (by decide) (.tail _ (.head _))
  cases kept.1

end Muster
