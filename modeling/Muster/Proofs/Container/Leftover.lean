import Muster.Proofs.Container.Leak
/-!
# What a failed start leaves of a container

A start removes the container that is left over before it makes the new one.  If it fails for want of
an image, the old container is still there, with its exit code.  If it fails later, there is no
container or one that has never run, and nothing tells about the last run any more.

The proof follows an errand from what holds before it to what holds when it has ended well and when
it has a fault.
-/

namespace Muster

namespace Engine

variable {α β : Type} {P : Engine → Prop} {Q : α → Engine → Prop} {R : β → Engine → Prop}
  {F G : Fault → Engine → Prop} {t : Errand α}

/-! ### Before and after an errand -/

/-- What holds after an errand that starts from what holds before: one thing when it ends well,
another when it has a fault. -/
def Brings (P : Engine → Prop) (t : Errand α) (Q : α → Engine → Prop)
    (F : Fault → Engine → Prop) : Prop :=
  ∀ e, P e → match t.run e with
    | (.ok a, e') => Q a e'
    | (.error fault, e') => F fault e'

theorem brings_pure {a : α} (holds : ∀ e, P e → Q a e) :
  Brings P (pure a) Q F
  := holds

theorem brings_throw {fault : Fault} (holds : ∀ e, P e → F fault e) :
  Brings P (throw fault : Errand α) Q F
  := holds

theorem brings_lift {result : Except Fault α} (ok : ∀ a, result = .ok a → ∀ e, P e → Q a e)
    (failed : ∀ fault, result = .error fault → ∀ e, P e → F fault e) :
  Brings P (liftM result : Errand α) Q F
  := by
  cases result with
  | ok a => exact ok a rfl
  | error fault => exact failed fault rfl

theorem brings_modify {f : Engine → Engine} {Q : PUnit → Engine → Prop}
    (holds : ∀ e, P e → Q ⟨⟩ (f e)) :
  Brings P (modify f : Errand PUnit) Q F
  := holds

theorem brings_bind {f : α → Errand β} (first : Brings P t Q F)
    (next : ∀ a, Brings (Q a) (f a) R F) :
  Brings P (t >>= f) R F
  := by
  intro e holds
  have first := first e holds
  rw [run_bind]
  generalize t.run e = ended at first
  obtain ⟨_ | a, e'⟩ := ended
  · exact first
  · exact next a e' first

/-- An errand that looks at the engine. -/
theorem brings_get {f : Engine → Errand β}
    (next : ∀ now, P now → Brings (fun e => P e ∧ e = now) (f now) R F) :
  Brings P (do f (← get)) R F
  := by
  intro e holds
  rw [run_bind, run_get]
  exact next e holds e ⟨holds, rfl⟩

/-- An errand whose fault is dealt with. -/
theorem brings_attempt {f : Except Fault α → Errand β} (first : Brings P t Q F)
    (ok : ∀ a, Brings (Q a) (f (.ok a)) R G)
    (failed : ∀ fault, Brings (F fault) (f (.error fault)) R G) :
  Brings P (do f (← attempt t)) R G
  := by
  intro e holds
  have first := first e holds
  rw [run_bind, run_attempt]
  generalize t.run e = ended at first
  obtain ⟨fault | a, e'⟩ := ended
  · exact failed fault e' first
  · exact ok a e' first

theorem Brings.weaken {Q' : α → Engine → Prop} (brings : Brings P t Q F)
    (ok : ∀ a e, Q a e → Q' a e) (failed : ∀ fault e, F fault e → G fault e) :
  Brings P t Q' G
  := by
  intro e holds
  have brings := brings e holds
  generalize t.run e = ended at brings
  obtain ⟨fault | a, e'⟩ := ended
  · exact failed fault e' brings
  · exact ok a e' brings

theorem Brings.narrow {P' : Engine → Prop} (less : ∀ e, P' e → P e) (brings : Brings P t Q F) :
  Brings P' t Q F
  := fun e holds => brings e (less e holds)

/-! ### What stands under the name of a container -/

/-- An engine that is in reach and tells about containers, where something holds of what stands under
a name. -/
structure Having (name : String) (E : Option Container → Prop) (e : Engine) : Prop where
  plain : e.Plain
  answers : e.Answers .findContainer
  entry : E (e.containers.get? name)

/-- A call has been refused for a cause of the engine, and still something holds of what stands under
a name. -/
def Refused (name : String) (E : Option Container → Prop) (fault : Fault) (e : Engine) : Prop :=
  Having name E e ∧ ∃ cause, fault = .engine cause

variable {name : String} {D E : Option Container → Prop} {e e' : Engine}

theorem Having.of_after {made : List EngineCall} (having : Having name E e) (after : After e made e')
    (entry : D (e'.containers.get? name)) :
  Having name D e'
  where
  plain := after.plain having.plain
  answers := by rw [Answers, after.faults, after.unavailable]; exact having.answers
  entry := entry

/-- The log does not count. -/
theorem Having.silent (having : Having name E e) :
  Having name E { e with log := [] }
  := having.of_after (After.of_silent rfl rfl rfl rfl) having.entry

theorem brings_call (c : EngineCall) :
  Brings (Having name E) (call c) (fun _ => Having name E) (Refused name E)
  := by
  intro e having
  have recorded : Having name E (e.record c) := having.of_after (.record e c) having.entry
  rw [run_call, having.answers.1]
  cases found : e.faults.lookup c.action with
  | none => exact recorded
  | some fault => exact ⟨recorded, having.plain.refusals _ _ found⟩

/-- A call with an effect. -/
theorem brings_call_modify (c : EngineCall) {f : Engine → Engine} (after : ∀ e, After e [] (f e))
    (entry : ∀ e, E (e.containers.get? name) → D ((f e).containers.get? name)) :
  Brings (Having name E) (do call c; modify f : Errand PUnit) (fun _ => Having name D)
    (Refused name E)
  := by
  apply brings_bind (brings_call c)
  intro _
  exact brings_modify fun _ having => having.of_after (after _) (entry _ having.entry)

/-- A call with an effect on the containers. -/
theorem brings_containers (c : EngineCall) (f : Table Container → Table Container)
    (entry : ∀ t, E (t.get? name) → D ((f t).get? name)) :
  Brings (Having name E)
    (do call c; modify fun e => { e with containers := f e.containers } : Errand PUnit)
    (fun _ => Having name D) (Refused name E)
  := brings_call_modify c (fun _ => .of_silent rfl rfl rfl rfl)
    fun e => entry e.containers

theorem brings_note (entry : LogEntry) :
  Brings (Having name E) (note entry) (fun _ => Having name E) F
  := brings_modify fun _ having =>
    having.of_after (After.of_silent rfl rfl rfl rfl) having.entry

/-- What follows a refusal deals with a cause of the engine. -/
theorem brings_refused {f : Fault → Errand β}
    (next : ∀ cause, Brings (Having name E) (f (.engine cause)) R G) (fault : Fault) :
  Brings (Refused name E fault) (f fault) R G
  := by
  rintro e ⟨having, cause, rfl⟩
  exact next cause e having

theorem brings_findImage (image : String) :
  Brings (Having name E) (findImage image) (fun _ => Having name E) (Refused name E)
  := by
  apply brings_bind (brings_call _)
  intro _
  apply brings_get
  intro now having
  split
  · exact brings_throw fun e holds => ⟨holds.1, _, rfl⟩
  · exact brings_pure fun e holds => holds.1

theorem brings_findNetwork (network : String) :
  Brings (Having name E) (findNetwork network) (fun _ => Having name E) (Refused name E)
  := by
  apply brings_bind (brings_call _)
  intro _
  apply brings_get
  intro now having
  split
  · exact brings_throw fun e holds => ⟨holds.1, _, rfl⟩
  · exact brings_pure fun e holds => holds.1

end Engine

namespace Project

open Engine

variable {p : Project} {s : Service} {c : Container} {name : String}
  {E : Option Container → Prop}

/-- There is no container, or one that has never run. -/
def Blank (entry : Option Container) : Prop :=
  ∀ c, entry = some c → c.status = "created"

/-- What a start that fails with a fault of the stack leaves of a container. -/
inductive Leaves (s : Service) (c : Container) : StackFault → Option Container → Prop where
  | unnamed (message : String) (image : s.image = "") : Leaves s c (.startFailed message) (some c)
  | unpulled (reason : Option String) (image : s.image ≠ "") :
    Leaves s c (.imagePull s.image reason) (some c)
  | blank (message : String) (image : s.image ≠ "") {entry} (blank : Blank entry) :
    Leaves s c (.startFailed message) entry

theorem brings_pull (s : Service) :
  Brings (Having name E) (pull s) (fun _ => Having name E)
    (fun fault e => Having name E e ∧ ((∃ cause, fault = .engine cause)
      ∨ ∃ reason, fault = .stack (.imagePull s.image reason)))
  := by
  apply brings_bind (brings_note _)
  intro _
  apply brings_attempt (brings_call_modify (D := E) (.pullImage s.image) ?_ ?_)
  · exact fun _ => brings_pure fun _ having => having
  · apply brings_refused
    intro cause
    simp only
    split
    · exact brings_throw fun _ having => ⟨having, .inr ⟨_, rfl⟩⟩
    · exact brings_throw fun _ having => ⟨having, .inl ⟨_, rfl⟩⟩
  · intro e
    split
    · exact .refl e
    · exact .of_silent rfl rfl rfl rfl
  · intro e having
    split <;> exact having

/-- The image is got, or it is not, and then the fault says so; a container stays as it is. -/
theorem brings_ensureImage (s : Service) :
  Brings (Having name E) (ensureImage s) (fun _ => Having name E)
    (fun fault e => Having name E e ∧ ((∃ cause, fault = .engine cause)
      ∨ ∃ reason, fault = .stack (.imagePull s.image reason)))
  := by
  apply brings_attempt (brings_findImage s.image)
  · exact fun _ => brings_pure fun _ having => having
  · apply brings_refused
    intro cause
    cases cause with
    | imageNotFound message => exact brings_pull s
    | _ => exact brings_throw fun _ having => ⟨having, .inl ⟨_, rfl⟩⟩

/-- What stands under the name of a container is found. -/
theorem run_container? {e : Engine} (having : Having (p.containerName s) E e) :
  (p.container? s).run e = (.ok (e.containers.get? (p.containerName s)),
    e.record (.findContainer (p.containerName s)))
  := by
  have none : e.faults.lookup (EngineCall.findContainer (p.containerName s)).action = none :=
    having.answers.2
  have kept : (e.record (.findContainer (p.containerName s))).containers = e.containers := rfl
  simp only [container?, findContainer, run_bind, run_attempt, run_call, run_get,
    having.answers.1, none, kept]
  cases e.containers.get? (p.containerName s) <;> rfl

/-- The container that is left over is removed, or the engine has refused to. -/
theorem brings_clear (p : Project) (s : Service) (c : Container) :
  Brings (Having (p.containerName s) (· = some c)) (p.clear s)
    (fun _ => Having (p.containerName s) (· = none)) (fun fault _ => ∃ cause, fault = .engine cause)
  := by
  have found : Brings (Having (p.containerName s) (· = some c)) (p.container? s)
      (fun found e => found = some c ∧ Having (p.containerName s) (· = some c) e)
      (fun fault _ => ∃ cause, fault = .engine cause) := by
    intro e having
    rw [run_container? having]
    exact ⟨having.entry, having.of_after (.record e _) having.entry⟩
  apply brings_bind found
  rintro (_ | c')
  · rintro e ⟨⟨⟩, -⟩
  · have removed (t : Table Container) (_ : t.get? (p.containerName s) = some c) :
        (t.erase (p.containerName s)).get? (p.containerName s) = none := by
      rw [Table.get?_erase, if_pos rfl]
    apply Brings.narrow (P := Having (p.containerName s) (· = some c)) fun _ holds => holds.2
    apply brings_bind (brings_note _)
    intro _
    apply (brings_containers (D := (· = none)) (.removeContainer (p.containerName s) true) _
      removed).weaken
    · exact fun _ _ gone => gone
    · exact fun _ _ refused => refused.2

theorem brings_launch (p : Project) (s : Service) (environment : Table String) :
  Brings (Having (p.containerName s) Blank) (p.launch s (p.containerSpec s environment))
    (fun _ _ => True) (Refused (p.containerName s) Blank)
  := by
  apply brings_bind (Q := fun _ => Having (p.containerName s) Blank)
  · apply brings_attempt (brings_findNetwork p.networkName)
    · exact fun _ => brings_pure fun _ having => having
    · apply brings_refused
      intro cause
      simp only
      split
      · apply brings_bind (brings_note _)
        intro _
        apply brings_call_modify
        · intro e
          split <;> exact .of_silent rfl rfl rfl rfl
        · intro e blank
          split <;> exact blank
      · exact brings_throw fun _ having => ⟨having, _, rfl⟩
  intro _
  have created (t : Table Container) (_ : Blank (t.get? (p.containerName s))) : Blank ((t.insert
      (p.containerName s) ⟨"created", [], some (p.containerSpec s environment), ∅⟩).get?
      (p.containerName s)) := by
    rw [Table.get?_insert, if_pos rfl]
    rintro _ ⟨⟩
    rfl
  apply brings_bind (brings_containers (D := Blank) (.createContainer _) _ created)
  intro _
  have connected (t : Table Container) (blank : Blank (t.get? (p.containerName s))) :
      Blank ((t.modify (p.containerName s) fun c =>
        { c with networks := c.networks.insert p.networkName [s.name] }).get?
          (p.containerName s)) := by
    rw [Table.get?_modify, if_pos rfl]
    intro c found
    obtain ⟨before, there, rfl⟩ := Option.map_eq_some_iff.mp found
    exact blank before there
  apply brings_bind (brings_containers (D := Blank) (.connectNetwork ..) _ connected)
  intro _
  apply (brings_containers (D := fun _ => True) (.startContainer (p.containerName s))
    (·.modify (p.containerName s) fun c => { c with status := "running" })
    fun _ _ => trivial).weaken
  · exact fun _ _ _ => trivial
  · exact fun _ _ refused => refused

theorem brings_settle (p : Project) (s : Service) (environment : Table String) :
  Brings (Having (p.containerName s) Blank) (p.settle s environment) (fun _ _ => True)
    (fun fault e => Blank (e.containers.get? (p.containerName s))
      ∧ ((∃ cause, fault = .engine cause) ∨ ∃ message, fault = .stack (.startFailed message)))
  := by
  apply brings_attempt (p.brings_launch s environment)
  · exact fun _ _ _ => trivial
  · apply brings_refused
    intro cause
    simp only
    split
    · exact brings_throw fun _ having => ⟨having.entry, .inr ⟨_, rfl⟩⟩
    · exact brings_throw fun _ having => ⟨having.entry, .inl ⟨_, rfl⟩⟩

theorem brings_start (p : Project) (s : Service) (c : Container) :
  Brings (Having (p.containerName s) (· = some c)) (p.start s) (fun _ _ => True)
    (fun fault e => ∀ cause, fault = .stack cause →
      Leaves s c cause (e.containers.get? (p.containerName s)))
  := by
  unfold start
  split
  · next none =>
    apply brings_throw
    rintro e having _ ⟨⟩
    rw [having.entry]
    exact .unnamed _ none
  · next image =>
    apply brings_bind
    · apply (brings_ensureImage s).weaken fun _ _ having => having
      rintro fault e ⟨having, leaked | ⟨reason, rfl⟩⟩ cause same
      · obtain ⟨_, rfl⟩ := leaked
        cases same
      · cases same
        rw [having.entry]
        exact .unpulled reason image
    intro _
    apply brings_bind
    · apply (p.brings_clear s c).weaken fun _ _ having => having
      rintro _ e ⟨_, rfl⟩ cause ⟨⟩
    intro _
    -- From here on the old container is gone, and a new one has not run.
    apply brings_bind
    · apply brings_lift (Q := fun _ => Having (p.containerName s) Blank)
      · intro environment _ e having
        exact ⟨having.plain, having.answers, by rw [having.entry]; nofun⟩
      · rintro fault failed e having cause same
        obtain ⟨message, rfl⟩ := startFailed_of_environment failed
        cases same
        exact .blank message image (by rw [having.entry]; nofun)
    intro environment
    apply (p.brings_settle s environment).weaken fun _ _ _ => trivial
    rintro fault e ⟨blank, leaked | ⟨message, rfl⟩⟩ cause same
    · obtain ⟨_, rfl⟩ := leaked
      cases same
    · cases same
      exact .blank message image blank

/-! ### The exit code of the last run -/

/-- A container that has exited with a code. -/
structure HasExited (c : Container) (code : Int) : Prop where
  stopped : counts c = false
  hasRun : c.status ≠ "created"
  told : exitCodeOf c = .ok (some code)

theorem run_isRunning {e : Engine} (having : Having (p.containerName s) E e) :
  (p.isRunning s).run e = (.ok ((e.containers.get? (p.containerName s)).any counts),
    e.record (.findContainer (p.containerName s)))
  := by
  rw [isRunning, run_bind_of_ok (run_container? having)]
  rfl

theorem run_exitCode_exited {e : Engine} {code : Int}
    (having : Having (p.containerName s) (· = some c) e) (exited : HasExited c code) :
  (p.exitCode s).run e = (.ok (some code), e.record (.findContainer (p.containerName s)))
  := by
  rw [exitCode, run_bind_of_ok (run_container? having), having.entry]
  simp only [exited.stopped, Bool.false_or, beq_iff_eq, exited.hasRun, if_false, exited.told]
  rfl

theorem run_exitCode_blank {e : Engine} (having : Having (p.containerName s) Blank e) :
  (p.exitCode s).run e = (.ok none, e.record (.findContainer (p.containerName s)))
  := by
  rw [exitCode, run_bind_of_ok (run_container? having)]
  have blank := having.entry
  cases found : e.containers.get? (p.containerName s) with
  | none => rfl
  | some c => simp [blank c found, run_pure]

theorem not_any_counts_blank {entry : Option Container} (blank : Blank entry) :
  entry.any counts = false
  := by
  cases entry with
  | none => rfl
  | some c =>
    rw [Option.any_some, counts, blank c rfl]
    decide

end Project

end Muster
