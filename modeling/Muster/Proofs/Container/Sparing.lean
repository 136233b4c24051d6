import Mathlib.Logic.Relation
import Muster.Proofs.Container.Obliging
/-!
# What is not a project's own

The runners of a project's services and its runtime may be called in any order, the engine may refuse
any call for any cause, and what is left half made may be found by the next call.  However that may
be, every call of the engine concerns a container of one of the services, the image of one of them or
the network of the project; so other containers and networks stay as they are, and no image is lost.
A stop that the engine obliges leaves no container of its service.
-/

namespace Muster

namespace Project

open Engine

variable {α β : Type} {p : Project} {services : List Service} {s : Service} {e e' e'' : Engine}

/-! ### A project's own -/

/-- The names of the containers of some services. -/
def OwnContainer (p : Project) (services : List Service) (name : String) : Prop :=
  ∃ s ∈ services, p.containerName s = name

/-- The calls of the engine that concern only containers and images of some services and the network
of their project. -/
inductive Concerns (p : Project) (services : List Service) : EngineCall → Prop where
  | findImage {s : Service} (mem : s ∈ services) : Concerns p services (.findImage s.image)
  | pullImage {s : Service} (mem : s ∈ services) : Concerns p services (.pullImage s.image)
  | findContainer {s : Service} (mem : s ∈ services) :
    Concerns p services (.findContainer (p.containerName s))
  | createContainer {s : Service} (mem : s ∈ services) (environment : Table String) :
    Concerns p services (.createContainer (p.containerSpec s environment))
  | startContainer {s : Service} (mem : s ∈ services) :
    Concerns p services (.startContainer (p.containerName s))
  | stopContainer {s : Service} (mem : s ∈ services) (timeout : Int) :
    Concerns p services (.stopContainer (p.containerName s) timeout)
  | removeContainer {s : Service} (mem : s ∈ services) (force : Bool) :
    Concerns p services (.removeContainer (p.containerName s) force)
  | findNetwork : Concerns p services (.findNetwork p.networkName)
  | createNetwork (driver : String) (labels : Table String) :
    Concerns p services (.createNetwork p.networkName driver labels)
  | connectNetwork {s : Service} (mem : s ∈ services) (aliases : List String) :
    Concerns p services (.connectNetwork p.networkName (p.containerName s) aliases)
  | removeNetwork : Concerns p services (.removeNetwork p.networkName)
  | execute {s : Service} (mem : s ∈ services) (argv : List String) :
    Concerns p services (.execute (p.containerName s) argv)

/-- What is not a project's own is as it was, and the images are still there. -/
structure Untouched (p : Project) (services : List Service) (e e' : Engine) : Prop where
  containers : ∀ name, ¬ p.OwnContainer services name →
    e'.containers.get? name = e.containers.get? name
  networks : ∀ name, name ≠ p.networkName → (name ∈ e'.networks ↔ name ∈ e.networks)
  images : ∀ name ∈ e.images, name ∈ e'.images

/-- Some calls have been made that concern only what is a project's own, and all else is as it
was. -/
structure Spares (p : Project) (services : List Service) (e e' : Engine) : Prop
    extends Untouched p services e e' where
  calls : ∃ made, e'.calls = e.calls ++ made ∧ ∀ c ∈ made, p.Concerns services c

theorem Untouched.of_same (containers : e'.containers = e.containers)
    (networks : e'.networks = e.networks) (images : e'.images = e.images) :
  p.Untouched services e e'
  where
  containers _ _ := by rw [containers]
  networks _ _ := by rw [networks]
  images _ mem := by rwa [images]

theorem Untouched.spares (untouched : p.Untouched services e e') (calls : e'.calls = e.calls) :
  p.Spares services e e'
  := ⟨untouched, [], by rw [calls, List.append_nil], nofun⟩

theorem Spares.refl (e : Engine) :
  p.Spares services e e
  := (Untouched.of_same rfl rfl rfl).spares rfl

theorem Spares.trans (first : p.Spares services e e') (second : p.Spares services e' e'') :
  p.Spares services e e''
  where
  containers name foreign :=
    (second.containers name foreign).trans (first.containers name foreign)
  networks name other := (second.networks name other).trans (first.networks name other)
  images name mem := second.images name (first.images name mem)
  calls := by
    obtain ⟨made, added, own⟩ := first.calls
    obtain ⟨more, added', own'⟩ := second.calls
    refine ⟨made ++ more, by rw [added', added, List.append_assoc], fun c mem => ?_⟩
    rcases List.mem_append.mp mem with mem | mem
    · exact own c mem
    · exact own' c mem

/-! ### Errands that spare all else -/

/-- An errand that spares what is not a project's own, whatever the engine refuses. -/
def Sparing (p : Project) (services : List Service) (t : Errand α) : Prop :=
  ∀ e, p.Spares services e (t.run e).2

theorem sparing_pure (a : α) :
  p.Sparing services (pure a : Errand α)
  := Spares.refl

theorem sparing_throw (fault : Fault) :
  p.Sparing services (throw fault : Errand α)
  := Spares.refl

theorem sparing_lift (result : Except Fault α) :
  p.Sparing services (liftM result : Errand α)
  := by
  cases result
  · apply sparing_throw
  · apply sparing_pure

theorem sparing_modify {f : Engine → Engine} (untouched : ∀ e, p.Untouched services e (f e))
    (calls : ∀ e, (f e).calls = e.calls) :
  p.Sparing services (modify f : Errand PUnit)
  := fun e => (untouched e).spares (calls e)

theorem sparing_note (entry : LogEntry) :
  p.Sparing services (note entry)
  := sparing_modify (fun _ => .of_same rfl rfl rfl) fun _ => rfl

theorem sparing_call {c : EngineCall} (own : p.Concerns services c) :
  p.Sparing services (call c)
  := by
  intro e
  have recorded : p.Spares services e (e.record c) :=
    ⟨.of_same rfl rfl rfl, [c], rfl, by simpa using own⟩
  rw [run_call]
  cases e.unavailable with
  | some reason => exact .refl e
  | none => cases e.faults.lookup c.action <;> exact recorded

theorem sparing_bind {t : Errand α} {f : α → Errand β} (first : p.Sparing services t)
    (next : ∀ a, p.Sparing services (f a)) :
  p.Sparing services (t >>= f)
  := by
  intro e
  have spared := first e
  rw [run_bind]
  generalize t.run e = ended at spared
  obtain ⟨fault | a, e'⟩ := ended
  · exact spared
  · exact spared.trans (next a e')

/-- An errand that looks at the engine. -/
theorem sparing_get {f : Engine → Errand β} (next : ∀ now, p.Sparing services (f now)) :
  p.Sparing services (do f (← get))
  := sparing_bind (t := get) Spares.refl next

/-- An errand whose fault is dealt with. -/
theorem sparing_attempt {t : Errand α} {f : Except Fault α → Errand β}
    (first : p.Sparing services t) (next : ∀ result, p.Sparing services (f result)) :
  p.Sparing services (do f (← attempt t))
  := sparing_bind (t := attempt t) first next

/-! ### Calls -/

/-- A call with an effect. -/
theorem sparing_change {c : EngineCall} (own : p.Concerns services c) {f : Engine → Engine}
    (untouched : ∀ e, p.Untouched services e (f e)) (calls : ∀ e, (f e).calls = e.calls) :
  p.Sparing services (do call c; modify f : Errand PUnit)
  := sparing_bind (sparing_call own) fun _ => sparing_modify untouched calls

/-- A call with an effect on the container of a service. -/
theorem sparing_container (mem : s ∈ services) {c : EngineCall} (own : p.Concerns services c)
    {f : Table Container → Table Container}
    (others : ∀ t name, name ≠ p.containerName s → (f t).get? name = t.get? name) :
  p.Sparing services
    (do call c; modify fun e => { e with containers := f e.containers } : Errand PUnit)
  := by
  apply sparing_change own
  · intro e
    refine ⟨fun name foreign => others e.containers name ?_, fun _ _ => .rfl, fun _ mem => mem⟩
    rintro rfl
    exact foreign ⟨s, mem, rfl⟩
  · exact fun _ => rfl

/-- A call that changes the container of a service. -/
theorem sparing_modify_container (mem : s ∈ services) {c : EngineCall}
    (own : p.Concerns services c) (f : Container → Container) :
  p.Sparing services
    (do
      call c
      modify fun e => { e with containers := e.containers.modify (p.containerName s) f } :
      Errand PUnit)
  := sparing_container mem own (f := (·.modify (p.containerName s) f))
    fun t name other => by rw [Table.get?_modify, if_neg other]

/-- A call that looks whether there is something. -/
theorem sparing_look {c : EngineCall} (own : p.Concerns services c) (there : Engine → Bool)
    (fault : Fault) :
  p.Sparing services (do call c; if !there (← get) then throw fault : Errand Unit)
  := by
  apply sparing_bind (sparing_call own)
  intro _
  apply sparing_get
  intro now
  split
  · apply sparing_throw
  · apply sparing_pure

theorem sparing_findContainer (mem : s ∈ services) :
  p.Sparing services (findContainer (p.containerName s))
  := by
  apply sparing_bind (sparing_call (.findContainer mem))
  intro _
  apply sparing_get
  intro now
  split
  · apply sparing_pure
  · apply sparing_throw

theorem sparing_removeContainer (mem : s ∈ services) :
  p.Sparing services (removeContainer (p.containerName s))
  := sparing_container mem (.removeContainer mem true) (f := (·.erase (p.containerName s)))
    fun t name other => by rw [Table.get?_erase, if_neg other]

theorem sparing_createContainer (mem : s ∈ services) (environment : Table String) :
  p.Sparing services (createContainer (p.containerSpec s environment))
  := sparing_container mem (.createContainer mem environment)
    (f := (·.insert (p.containerName s) ⟨"created", [], some (p.containerSpec s environment), ∅⟩))
    fun t name other => by rw [Table.get?_insert, if_neg other]

theorem sparing_pullImage (mem : s ∈ services) :
  p.Sparing services (pullImage s.image)
  := by
  apply sparing_change (.pullImage mem)
  · intro e
    split
    · exact .of_same rfl rfl rfl
    · exact ⟨fun _ _ => rfl, fun _ _ => .rfl, fun _ mem => List.mem_append_left _ mem⟩
  · intro e
    split <;> rfl

theorem sparing_createNetwork (driver : String) (labels : Table String) :
  p.Sparing services (createNetwork p.networkName driver labels)
  := by
  apply sparing_change (.createNetwork driver labels)
  · intro e
    split
    · exact .of_same rfl rfl rfl
    · refine ⟨fun _ _ => rfl, fun name other => ?_, fun _ mem => mem⟩
      simp [other]
  · intro e
    split <;> rfl

theorem sparing_removeNetwork :
  p.Sparing services (removeNetwork p.networkName)
  := by
  apply sparing_change .removeNetwork
  · intro e
    refine ⟨fun _ _ => rfl, fun name other => ?_, fun _ mem => mem⟩
    simp [other]
  · exact fun _ => rfl

theorem sparing_execute (mem : s ∈ services) (argv : List String) :
  p.Sparing services (execute (p.containerName s) argv)
  := by
  apply sparing_bind (sparing_call (.execute mem argv))
  intro _ e
  simp only [run_bind, run_get, run_set, run_pure]
  apply Untouched.spares
  · exact .of_same rfl rfl rfl
  · rfl

/-! ### What the runners and the runtime do -/

theorem sparing_container? (mem : s ∈ services) :
  p.Sparing services (p.container? s)
  := by
  apply sparing_attempt (sparing_findContainer mem)
  intro result
  split
  · apply sparing_pure
  · split
    · apply sparing_pure
    · apply sparing_throw
  · apply sparing_throw

theorem sparing_pull (mem : s ∈ services) :
  p.Sparing services (pull s)
  := by
  apply sparing_bind (sparing_note _)
  intro _
  apply sparing_attempt (sparing_pullImage mem)
  intro result
  split
  · apply sparing_pure
  · split <;> apply sparing_throw
  · apply sparing_throw

theorem sparing_ensureImage (mem : s ∈ services) :
  p.Sparing services (ensureImage s)
  := by
  apply sparing_attempt (sparing_look (.findImage mem) (·.images.contains s.image) _)
  intro result
  split
  · apply sparing_pure
  · exact sparing_pull mem
  · apply sparing_throw

theorem sparing_clear (mem : s ∈ services) :
  p.Sparing services (p.clear s)
  := by
  apply sparing_bind (sparing_container? mem)
  rintro (_ | _)
  · apply sparing_pure
  · apply sparing_bind (sparing_note _)
    exact fun _ => sparing_removeContainer mem

theorem sparing_ensureNetwork :
  p.Sparing services p.ensureNetwork
  := by
  apply sparing_attempt (sparing_look .findNetwork (·.networks.contains p.networkName) _)
  intro result
  split
  · apply sparing_pure
  · split
    · apply sparing_bind (sparing_note _)
      exact fun _ => sparing_createNetwork _ _
    · apply sparing_throw
  · apply sparing_throw

theorem sparing_launch (mem : s ∈ services) (environment : Table String) :
  p.Sparing services (p.launch s (p.containerSpec s environment))
  := by
  apply sparing_bind sparing_ensureNetwork
  intro _
  apply sparing_bind (sparing_createContainer mem environment)
  intro _
  apply sparing_bind (sparing_modify_container mem (.connectNetwork mem [s.name]) _)
  intro _
  exact sparing_modify_container mem (.startContainer mem) _

theorem sparing_settle (mem : s ∈ services) (environment : Table String) :
  p.Sparing services (p.settle s environment)
  := by
  apply sparing_attempt (sparing_launch mem environment)
  intro result
  split
  · apply sparing_note
  · split <;> apply sparing_throw
  · apply sparing_throw

theorem sparing_start (mem : s ∈ services) :
  p.Sparing services (p.start s)
  := by
  unfold start
  split
  · apply sparing_throw
  · apply sparing_bind (sparing_ensureImage mem)
    intro _
    apply sparing_bind (sparing_clear mem)
    intro _
    apply sparing_bind (sparing_lift _)
    exact sparing_settle mem

theorem sparing_stop (mem : s ∈ services) (timeout : Float) :
  p.Sparing services (p.stop s timeout)
  := by
  apply sparing_bind (sparing_container? mem)
  intro found
  split
  · apply sparing_bind (sparing_note _)
    intro _
    apply sparing_attempt
    · apply sparing_bind (sparing_lift _)
      intro seconds
      apply sparing_bind (sparing_modify_container mem (.stopContainer mem seconds) _)
      exact fun _ => sparing_removeContainer mem
    intro result
    split
    · apply sparing_pure
    · split
      · apply sparing_pure
      · apply sparing_throw
    · apply sparing_throw
  · apply sparing_pure

theorem sparing_isRunning (mem : s ∈ services) :
  p.Sparing services (p.isRunning s)
  := by
  apply sparing_bind (sparing_container? mem)
  exact fun _ => sparing_pure _

theorem sparing_exitCode (mem : s ∈ services) :
  p.Sparing services (p.exitCode s)
  := by
  apply sparing_bind (sparing_container? mem)
  rintro (_ | c)
  · apply sparing_pure
  · simp only
    split
    · apply sparing_pure
    · apply sparing_lift

theorem sparing_probe (mem : s ∈ services) (timeout : Float) (argv : List String) :
  p.Sparing services (p.probe s timeout argv)
  := by
  apply sparing_get
  intro now
  split
  · apply sparing_lift
  · apply sparing_attempt (sparing_execute mem argv)
    intro result
    split
    · apply sparing_pure
    · apply sparing_throw
    · split
      · apply sparing_bind (sparing_modify _ _)
        · exact fun _ => sparing_lift _
        · exact fun _ => .of_same rfl rfl rfl
        · exact fun _ => rfl
      · split
        · apply sparing_pure
        · apply sparing_throw
        · apply sparing_pure

theorem sparing_check (mem : s ∈ services) (check : HealthCheck) :
  p.Sparing services (p.check s check)
  := by
  apply sparing_bind (sparing_container? mem)
  rintro (_ | _)
  · apply sparing_pure
  · simp only
    split
    · apply sparing_throw
    · exact sparing_probe mem _ _

theorem sparing_teardown :
  p.Sparing services p.teardown
  := by
  apply sparing_attempt
  · apply sparing_bind (sparing_look .findNetwork (·.networks.contains p.networkName) _)
    exact fun _ => sparing_removeNetwork
  intro result
  split
  · apply sparing_note
  · split
    · apply sparing_pure
    · split
      · apply sparing_note
      · apply sparing_throw
  · apply sparing_throw

/-! ### Runs -/

/-- What may happen to the engine: something is done for one of the services or for the project, or,
while nothing is done, everything but what belongs to others may change, such as the status of a
container or the faults that the engine refuses calls with. -/
inductive Step (p : Project) (services : List Service) (e : Engine) : Engine → Prop where
  | start {s : Service} (mem : s ∈ services) : Step p services e ((p.start s).run e).2
  | stop {s : Service} (mem : s ∈ services) (timeout : Float) :
    Step p services e ((p.stop s timeout).run e).2
  | isRunning {s : Service} (mem : s ∈ services) : Step p services e ((p.isRunning s).run e).2
  | exitCode {s : Service} (mem : s ∈ services) : Step p services e ((p.exitCode s).run e).2
  | check {s : Service} (mem : s ∈ services) (check : HealthCheck) :
    Step p services e ((p.check s check).run e).2
  | teardown : Step p services e (p.teardown.run e).2
  | meanwhile {e' : Engine} (untouched : p.Untouched services e e') (calls : e'.calls = e.calls) :
    Step p services e e'

theorem Step.spares (step : p.Step services e e') :
  p.Spares services e e'
  := by
  cases step with
  | start mem => exact sparing_start mem e
  | stop mem timeout => exact sparing_stop mem timeout e
  | isRunning mem => exact sparing_isRunning mem e
  | exitCode mem => exact sparing_exitCode mem e
  | check mem check => exact sparing_check mem check e
  | teardown => exact sparing_teardown e
  | meanwhile untouched calls => exact untouched.spares calls

theorem spares_of_steps (run : Relation.ReflTransGen (p.Step services) e e') :
  p.Spares services e e'
  := by
  induction run with
  | refl => exact .refl e
  | tail _ step spared => exact spared.trans step.spares

/-! ### A stop that is obliged -/

/-- What is removed is gone. -/
theorem obliged_removeContainer (name : String) {F : Fault → Engine → Prop} :
  Obliged (fun _ => True) (removeContainer name) (fun _ e => e.containers.get? name = none) F
  := by
  apply obliged_bind (Q := fun _ _ => True) (obliged_call fun _ _ => trivial)
  intro _
  apply obliged_modify
  · exact fun _ => .of_silent rfl rfl rfl rfl
  · intro e _
    rw [Table.get?_erase, if_pos rfl]

theorem truncate_ne_engine {timeout : Float} (cause : EngineFault) :
  Value.truncate timeout ≠ .error (.engine cause)
  := by
  unfold Value.truncate
  split <;> nofun

/-- A stop that the engine obliges leaves no container of its service, unless its time is no number
of seconds. -/
theorem obliged_stop (p : Project) (s : Service) (timeout : Float) {k : Stock}
    {calls : List EngineCall} :
  Obliged (Stocked k calls) (p.stop s timeout)
    (fun _ e => e.containers.get? (p.containerName s) = none)
    (fun fault _ => Value.truncate timeout = .error fault)
  := by
  apply obliged_bind (p.obliged_container? s)
  intro found
  split
  · apply Obliged.narrow (P := fun _ => True) fun _ _ => trivial
    apply obliged_bind (obliged_note _ fun _ _ => id)
    intro _
    apply obliged_attempt (Q := fun _ e => e.containers.get? (p.containerName s) = none)
      (F := fun fault _ => Value.truncate timeout = .error fault)
    · apply obliged_bind (Q := fun _ _ => True)
      · exact obliged_lift (fun _ _ _ => id) fun _ failed _ _ => failed
      intro seconds
      apply obliged_bind (Q := fun _ _ => True)
      · apply obliged_bind (Q := fun _ _ => True) (obliged_call fun _ _ => trivial)
        exact fun _ => obliged_modify (fun _ => .of_silent rfl rfl rfl rfl) fun _ => id
      · exact fun _ => obliged_removeContainer _
    · exact fun _ => obliged_pure fun _ gone => gone
    · intro fault
      split
      · next same => cases same
      · next cause same =>
        cases same
        split
        · exact obliged_pure fun _ failed => absurd failed (truncate_ne_engine cause)
        · exact obliged_throw fun _ => id
      · next same =>
        cases same
        exact obliged_throw fun _ => id
  · next absent =>
    apply obliged_pure
    rintro e ⟨rfl, stocked⟩
    rw [← stocked.stock] at absent
    exact Option.not_isSome_iff_eq_none.mp absent

/-- Whatever is done for some services of a project, and whatever the engine refuses meanwhile, the
containers of others, the other networks and the images are spared; and a stop that the engine
obliges and that ends well leaves no container of its service.  It ends well unless its time is no
number of seconds. -/
theorem spares_others (run : Relation.ReflTransGen (p.Step services) e e') :
  p.Spares services e e'
    ∧ ∀ s timeout, e'.Obliges (p.stop s timeout) →
      (((p.stop s timeout).run e').1 = .ok () →
        ((p.stop s timeout).run e').2.containers.get? (p.containerName s) = none)
      ∧ ∀ fault, ((p.stop s timeout).run e').1 = .error fault → Value.truncate timeout = .error fault
  := by
  use spares_of_steps run
  intro s timeout obliges
  have stopped := (p.obliged_stop s timeout).brings e' ⟨⟨rfl, rfl⟩, obliges⟩
  generalize (p.stop s timeout).run e' = ended at stopped
  obtain ⟨fault | _, e''⟩ := ended
  · constructor
    · nofun
    · rintro _ ⟨⟩
      exact stopped
  · constructor
    · exact fun _ => stopped
    · nofun

end Project

/-! ### A container that is left half made -/

namespace Sample

/-- An engine where a database runs and where no container can be connected to a network. -/
def disconnecting : Engine where
  images := ["nginx"]
  networks := ["bridge"]
  containers := Table.ofList [("db", { status := "running" })]
  faults := [(.connectNetwork, .engine (.refused "no more addresses"))]

/-- That engine after the proxy could not be started, when it refuses nothing any more. -/
def halfMade : Engine :=
  { ((demo.start proxy).run disconnecting).2 with faults := [] }

theorem run_halfMade :
  Relation.ReflTransGen (demo.Step [proxy]) disconnecting halfMade
  := by
  apply Relation.ReflTransGen.tail (.single (.start (List.mem_singleton_self proxy)))
  exact .meanwhile (.of_same rfl rfl rfl) rfl

end Sample

/-- A start that has failed leaves a container behind, which the next stop removes; the database and
the network are spared. -/
theorem Project.spares_others_halfMade :
  Relation.ReflTransGen (Sample.demo.Step [Sample.proxy]) Sample.disconnecting Sample.halfMade
    ∧ (Sample.halfMade.containers.get? "demo-proxy-1").map (·.status) = some "created"
    ∧ Sample.halfMade.containers.get? "db" = some { status := "running" }
    ∧ "bridge" ∈ Sample.halfMade.networks
    ∧ ∀ timeout seconds, Value.truncate timeout = .ok seconds →
      ((Sample.demo.stop Sample.proxy timeout).run Sample.halfMade).1 = .ok ()
      ∧ ((Sample.demo.stop Sample.proxy timeout).run Sample.halfMade).2.containers.get?
        "demo-proxy-1" = none
  := by
  obtain ⟨spared, stops⟩ := Project.spares_others Sample.run_halfMade
  refine ⟨Sample.run_halfMade, rfl, spared.containers "db" ?_, (spared.networks "bridge" ?_).mpr ?_,
    fun timeout seconds whole => ?_⟩
  · rintro ⟨s, mem, same⟩
    cases List.mem_singleton.mp mem
    revert same
    decide
  · decide
  · decide
  · have stopped := stops Sample.proxy timeout ⟨rfl, fun _ _ => rfl⟩
    have ended : ((Sample.demo.stop Sample.proxy timeout).run Sample.halfMade).1 = .ok () := by
      cases result : ((Sample.demo.stop Sample.proxy timeout).run Sample.halfMade).1 with
      | ok => rfl
      | error fault => cases whole.symm.trans (stopped.2 fault result)
    exact ⟨ended, stopped.1 ended⟩

end Muster
