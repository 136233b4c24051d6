import Mathlib.Data.Set.Insert
import Muster.Proofs.Supervisor.Monitor
/-!
# Checks that keep to themselves

A check of a service reads and changes only what is remembered of this service, its state, and what
its runner works on, as long as the runners do not get in each other's way.  Every section of a
check `Concerns` its service only: two supervisors that agree on the service still agree on it
afterwards, whatever they remember of others.  From this it follows for the whole check, by
induction on its way.
-/

namespace Muster

/-! ### What stands under a name -/

namespace Table

variable {α : Type} {t t' : Table α} {name : String} {value : α}

theorem get?_insert_others :
  ∀ other ∈ ({name}ᶜ : Set String), (t.insert name value).get? other = t.get? other
  := fun _ apart => (get?_insert ..).trans (if_neg apart)

theorem get?_erase_others :
  ∀ other ∈ ({name}ᶜ : Set String), (t.erase name).get? other = t.get? other
  := fun _ apart => (get?_erase ..).trans (if_neg apart)

theorem get?_insert_own :
  ∀ own ∈ ({name} : Set String), (t'.insert name value).get? own = (t.insert name value).get? own
  := by
  rintro own rfl
  simp

theorem get?_erase_own :
  ∀ own ∈ ({name} : Set String), (t'.erase name).get? own = (t.erase name).get? own
  := by
  rintro own rfl
  simp

end Table

/-! ### What is remembered of a service -/

namespace Supervisor

variable {τ : Type} {sup sup' sup'' : Supervisor τ} {on on' : Set String} {name : String}

/-- Two supervisors remember the same of some services, and both have ended or neither has. -/
structure Agrees (on : Set String) (sup sup' : Supervisor τ) : Prop where
  stopped : sup'.stopped = sup.stopped
  watched : ∀ name ∈ on, sup'.watched.get? name = sup.watched.get? name
  delays : ∀ name ∈ on, sup'.delays.get? name = sup.delays.get? name
  pending : ∀ name ∈ on, sup'.pending.get? name = sup.pending.get? name

namespace Agrees

theorem refl (on : Set String) (sup : Supervisor τ) :
  sup.Agrees on sup
  := ⟨rfl, fun _ _ => rfl, fun _ _ => rfl, fun _ _ => rfl⟩

theorem symm (agrees : sup.Agrees on sup') :
  sup'.Agrees on sup
  where
  stopped := agrees.stopped.symm
  watched name mem := (agrees.watched name mem).symm
  delays name mem := (agrees.delays name mem).symm
  pending name mem := (agrees.pending name mem).symm

theorem trans (first : sup.Agrees on sup') (second : sup'.Agrees on sup'') :
  sup.Agrees on sup''
  where
  stopped := second.stopped.trans first.stopped
  watched name mem := (second.watched name mem).trans (first.watched name mem)
  delays name mem := (second.delays name mem).trans (first.delays name mem)
  pending name mem := (second.pending name mem).trans (first.pending name mem)

theorem mono (agrees : sup.Agrees on sup') (fewer : on' ⊆ on) :
  sup.Agrees on' sup'
  where
  stopped := agrees.stopped
  watched name mem := agrees.watched name (fewer mem)
  delays name mem := agrees.delays name (fewer mem)
  pending name mem := agrees.pending name (fewer mem)

theorem isWatching (agrees : sup.Agrees on sup') (mem : name ∈ on) :
  sup'.isWatching name = sup.isWatching name
  := by
  rw [Supervisor.isWatching, Table.contains, agrees.watched name mem]
  rfl

theorem delayOf (agrees : sup.Agrees on sup') (mem : name ∈ on) (b : Backoff τ) :
  sup'.delayOf b name = sup.delayOf b name
  := by
  rw [Supervisor.delayOf, agrees.delays name mem, Supervisor.delayOf]

end Agrees

/-- A change of what is remembered concerns one service: it keeps what is remembered of the others,
and what becomes of this one depends on nothing else. -/
structure Concerns (name : String) (f : Supervisor τ → Supervisor τ) : Prop where
  others : ∀ sup : Supervisor τ, sup.Agrees {name}ᶜ (f sup)
  own : ∀ {sup sup' : Supervisor τ}, sup.Agrees {name} sup' → (f sup).Agrees {name} (f sup')

theorem concerns_credit [Timeline τ] (b : Backoff τ) (now : τ) (name : String) :
  Concerns name fun sup => sup.credit b now name
  where
  others sup := by
    simp only [credit]
    split
    · exact ⟨rfl, fun _ _ => rfl, Table.get?_insert_others, fun _ _ => rfl⟩
    · exact .refl _ sup
  own agrees := by
    simp only [credit, agrees.watched name rfl]
    split
    · exact ⟨agrees.stopped, agrees.watched, Table.get?_insert_own, agrees.pending⟩
    · exact agrees

theorem concerns_unwatch (name : String) :
  Concerns name fun sup : Supervisor τ => sup.unwatch name
  where
  others _ := ⟨rfl, Table.get?_erase_others, fun _ _ => rfl, Table.get?_erase_others⟩
  own agrees := ⟨agrees.stopped, Table.get?_erase_own, agrees.delays, Table.get?_erase_own⟩

theorem concerns_schedule (name : String) (time : τ) :
  Concerns name fun sup : Supervisor τ => sup.schedule name time
  where
  others sup := by
    simp only [schedule]
    split
    · exact ⟨rfl, fun _ _ => rfl, fun _ _ => rfl, Table.get?_insert_others⟩
    · exact .refl _ sup
  own {sup sup'} agrees := by
    have same : sup'.watched.contains name = sup.watched.contains name := agrees.isWatching rfl
    simp only [schedule, same]
    split
    · exact ⟨agrees.stopped, agrees.watched, agrees.delays, Table.get?_insert_own⟩
    · exact agrees

theorem concerns_backOff [Timeline τ] (b : Backoff τ) (name : String) :
  Concerns name fun sup => sup.backOff b name
  where
  others _ := ⟨rfl, fun _ _ => rfl, Table.get?_insert_others, Table.get?_erase_others⟩
  own agrees := by
    refine ⟨agrees.stopped, agrees.watched, ?_, Table.get?_erase_own⟩
    simp only [backOff, agrees.delayOf rfl]
    apply Table.get?_insert_own

theorem concerns_resume (now : τ) (name : String) :
  Concerns name fun sup : Supervisor τ => sup.resume now name
  where
  others sup := by
    simp only [resume]
    split
    · exact ⟨rfl, Table.get?_insert_others, fun _ _ => rfl, fun _ _ => rfl⟩
    · exact .refl _ sup
  own {sup sup'} agrees := by
    have same : sup'.watched.contains name = sup.watched.contains name := agrees.isWatching rfl
    simp only [resume, same]
    split
    · exact ⟨agrees.stopped, Table.get?_insert_own, agrees.delays, agrees.pending⟩
    · exact agrees

end Supervisor

/-! ### The runner of a service -/

namespace Host

variable {τ σ ρ : Type} {h : Host τ σ} {part : String → σ → ρ} {on on' : Set String} {w w' w'' : σ}

/-- Two states of a host are at one time and have the same parts for some services. -/
structure Agrees (h : Host τ σ) (part : String → σ → ρ) (on : Set String) (w w' : σ) : Prop where
  clock : h.clock w' = h.clock w
  parts : ∀ name ∈ on, part name w' = part name w

theorem Agrees.refl (h : Host τ σ) (part : String → σ → ρ) (on : Set String) (w : σ) :
  h.Agrees part on w w
  := ⟨rfl, fun _ _ => rfl⟩

theorem Agrees.symm (agrees : h.Agrees part on w w') :
  h.Agrees part on w' w
  := ⟨agrees.clock.symm, fun name mem => (agrees.parts name mem).symm⟩

theorem Agrees.trans (first : h.Agrees part on w w') (second : h.Agrees part on w' w'') :
  h.Agrees part on w w''
  := ⟨second.clock.trans first.clock,
    fun name mem => (second.parts name mem).trans (first.parts name mem)⟩

theorem Agrees.mono (agrees : h.Agrees part on w w') (fewer : on' ⊆ on) :
  h.Agrees part on' w w'
  := ⟨agrees.clock, fun name mem => agrees.parts name (fewer mem)⟩

/-- A call of the runner of a service works on the part of this service only: it keeps the parts of
the others, and what it comes back with and what becomes of this part depends on nothing else.  No
time passes meanwhile, and the call does not lead to a request to stop. -/
structure Minds {α : Type} (h : Host τ σ) (part : String → σ → ρ)
    (call : Service → σ → Reply α × σ) : Prop where
  others : ∀ s w, h.Agrees part {s.name}ᶜ w (call s w).2
  reply : ∀ s w w', h.Agrees part {s.name} w w' → (call s w').1 = (call s w).1
  own : ∀ s w w', h.Agrees part {s.name} w w' → h.Agrees part {s.name} (call s w).2 (call s w').2
  calm : ∀ s w, (call s w).1.stops = false

/-- The runners of the services do not get in each other's way. -/
structure Separate (h : Host τ σ) (part : String → σ → ρ) : Prop where
  isRunning : h.Minds part h.isRunning
  exitCode : h.Minds part h.exitCode
  start : h.Minds part h.start

end Host

/-! ### The way of a check -/

/-- Two desks agree on a service: what is remembered of it and its state are the same. -/
structure Desk.Agrees {τ : Type} (name : String) (d d' : Desk τ) : Prop where
  supervisor : d.supervisor.Agrees {name} d'.supervisor
  state : d'.state = d.state

namespace Check

variable {τ σ ρ : Type} {h : Host τ σ} {part : String → σ → ρ} {s : Service} {d d' : Desk τ}
  {world world' : σ}

open Stack (surroundings)

theorem call_congr (separate : h.Separate part) (call : RunnerCall) (agrees : d.Agrees s.name d')
    (worlds : h.Agrees part {s.name} world world') :
  ((surroundings h s).call call (d', world')).1 = ((surroundings h s).call call (d, world)).1
    ∧ ((surroundings h s).call call (d, world)).2.1.Agrees s.name
      ((surroundings h s).call call (d', world')).2.1
    ∧ h.Agrees part {s.name} ((surroundings h s).call call (d, world)).2.2
      ((surroundings h s).call call (d', world')).2.2
  := by
  obtain ⟨supervisor, state⟩ := agrees
  cases call with
  | isRunning =>
    have minds := separate.isRunning
    refine ⟨?_, ⟨?_, state⟩, minds.own s _ _ worlds⟩
    all_goals simp only [surroundings, Stack.answerCheck, minds.reply s _ _ worlds, minds.calm]
    exact supervisor
  | exitCode =>
    have minds := separate.exitCode
    refine ⟨?_, ⟨?_, state⟩, minds.own s _ _ worlds⟩
    all_goals simp only [surroundings, Stack.answerCheck, minds.reply s _ _ worlds, minds.calm]
    exact supervisor
  | start =>
    have minds := separate.start
    refine ⟨?_, ⟨?_, state⟩, minds.own s _ _ worlds⟩
    all_goals simp only [surroundings, Stack.answerCheck, minds.reply s _ _ worlds, minds.calm]
    exact supervisor

theorem agrees_call (separate : h.Separate part) (call : RunnerCall) (d : Desk τ) (world : σ) :
  ((surroundings h s).call call (d, world)).2.1.supervisor = d.supervisor
    ∧ h.Agrees part {s.name}ᶜ world ((surroundings h s).call call (d, world)).2.2
  := by
  cases call with
  | isRunning => exact ⟨if_neg (by simp [separate.isRunning.calm]), separate.isRunning.others ..⟩
  | exitCode => exact ⟨if_neg (by simp [separate.exitCode.calm]), separate.exitCode.others ..⟩
  | start => exact ⟨if_neg (by simp [separate.start.calm]), separate.start.others ..⟩

variable [Timeline τ] {b : Backoff τ}

theorem agrees_step (clock : τ) (c : Check τ) (d : Desk τ) :
  d.supervisor.Agrees {s.name}ᶜ (step s b clock c d).2.supervisor
  := by
  cases c with
  | crediting now => exact (Supervisor.concerns_credit b now s.name).others _
  | retiring => exact (Supervisor.concerns_unwatch s.name).others _
  | scheduling now delay => exact (Supervisor.concerns_schedule s.name _).others _
  | backingOff => exact (Supervisor.concerns_backOff b s.name).others _
  | resuming => exact (Supervisor.concerns_resume clock s.name).others _
  | awaiting now =>
    simp only [step]
    split <;> exact .refl ..
  | _ => exact .refl ..

/-- A section of a check goes the same way wherever what it works on agrees on its service. -/
theorem step_congr (agrees : d.Agrees s.name d') (clock : τ) (c : Check τ) :
  (step s b clock c d').1 = (step s b clock c d).1
    ∧ (step s b clock c d).2.Agrees s.name (step s b clock c d').2
  := by
  have own := agrees.supervisor
  cases c with
  | entering =>
    simp only [step, own.stopped, own.isWatching rfl]
    exact ⟨trivial, agrees⟩
  | looking now =>
    have same : d'.supervisor.pending.contains s.name = d.supervisor.pending.contains s.name := by
      rw [Table.contains, own.pending _ rfl, Table.contains]
    simp only [step, same]
    exact ⟨trivial, agrees⟩
  | awaiting now =>
    simp only [step, own.pending _ rfl]
    split <;> exact ⟨rfl, agrees⟩
  | crediting now => exact ⟨rfl, (Supervisor.concerns_credit b now s.name).own own, agrees.state⟩
  | retiring => exact ⟨rfl, (Supervisor.concerns_unwatch s.name).own own, agrees.state⟩
  | scheduling now delay =>
    exact ⟨rfl, (Supervisor.concerns_schedule s.name _).own own, agrees.state⟩
  | resuming => exact ⟨rfl, (Supervisor.concerns_resume clock s.name).own own, agrees.state⟩
  | backingOff =>
    refine ⟨rfl, (Supervisor.concerns_backOff b s.name).own own, ?_⟩
    exact congrArg ServiceState.recordRestart agrees.state
  | _ => exact ⟨rfl, agrees⟩

theorem judge_congr (agrees : d.Agrees s.name d') (now : τ) (code : Option Int) :
  (judge s b now code d').1 = (judge s b now code d).1
    ∧ (judge s b now code d).2.Agrees s.name (judge s b now code d').2
  := by
  have own := agrees.supervisor
  simp only [judge, Desk.note, agrees.state, own.delayOf rfl]
  split
  · exact ⟨rfl, own, rfl⟩
  · split <;> exact ⟨rfl, own, rfl⟩

/-- A check goes on in the same way when it hears the same. -/
theorem hear_congr (agrees : d.Agrees s.name d') (c : Check τ) (reply : RunnerReply) :
  (hear s b c reply d').1 = (hear s b c reply d).1
    ∧ (hear s b c reply d).2.Agrees s.name (hear s b c reply d').2
  := by
  cases c with
  | inspecting now =>
    cases reply with
    | exited code => apply judge_congr agrees now code
    | _ => exact ⟨rfl, agrees⟩
  | relaunching =>
    cases reply with
    | started => exact ⟨rfl, agrees.supervisor, by simp [hear, agrees.state]⟩
    | raised fault =>
      simp only [hear]
      split
      · exact ⟨rfl, agrees.supervisor, by simp [Desk.note, agrees.state]⟩
      · exact ⟨rfl, agrees⟩
    | _ => exact ⟨rfl, agrees⟩
  | _ => cases reply <;> exact ⟨rfl, agrees⟩

/-- A check keeps what is remembered of the other services and the parts of their runners. -/
theorem agrees_drive (separate : h.Separate part) (fuel : Nat) (c : Check τ) (d : Desk τ)
    (world : σ) :
  d.supervisor.Agrees {s.name}ᶜ (drive (surroundings h s) s b fuel c (d, world)).2.1.supervisor
    ∧ h.Agrees part {s.name}ᶜ world (drive (surroundings h s) s b fuel c (d, world)).2.2
  := by
  induction fuel generalizing c d world with
  | zero => cases c <;> exact ⟨.refl .., .refl ..⟩
  | succ fuel ih =>
    cases c.move with
    | ended fault => exact ⟨.refl .., .refl ..⟩
    | step calls going =>
      rw [drive_step calls going]
      obtain ⟨supervisor, later⟩ := ih (step s b ((surroundings h s).clock world) c d).1
        (step s b ((surroundings h s).clock world) c d).2 world
      exact ⟨(agrees_step ..).trans supervisor, later⟩
    | call call calls =>
      rw [drive_call calls]
      obtain ⟨same, world'⟩ := agrees_call separate call d world
      have heard := supervisor_hear (s := s) (b := b) c ((surroundings h s).call call (d, world)).1
        ((surroundings h s).call call (d, world)).2.1
      obtain ⟨supervisor, later⟩ := ih
        (hear s b c ((surroundings h s).call call (d, world)).1
          ((surroundings h s).call call (d, world)).2.1).1 _
        ((surroundings h s).call call (d, world)).2.2
      rw [heard, same] at supervisor
      exact ⟨supervisor, world'.trans later⟩

/-- Two checks of a service have come to the same: they end in the same way, have heard the same,
and what they worked on agrees. -/
structure Matches (h : Host τ σ) (part : String → σ → ρ) (name : String)
    (r r' : Option Fault × Desk τ × σ × List Exchange) : Prop where
  fault : r'.1 = r.1
  desk : r.2.1.Agrees name r'.2.1
  world : h.Agrees part {name} r.2.2.1 r'.2.2.1
  talk : r'.2.2.2 = r.2.2.2

/-- A check goes the same way wherever what it works on agrees on its service. -/
theorem drive_congr (separate : h.Separate part) (fuel : Nat) (c : Check τ)
    (agrees : d.Agrees s.name d') (worlds : h.Agrees part {s.name} world world')
    (talk : List Exchange) :
  Matches h part s.name (drive (surroundings h s).hearing s b fuel c (d, world, talk))
    (drive (surroundings h s).hearing s b fuel c (d', world', talk))
  := by
  induction fuel generalizing c d d' world world' talk with
  | zero => cases c <;> exact ⟨rfl, agrees, worlds, rfl⟩
  | succ fuel ih =>
    cases c.move with
    | ended fault => exact ⟨rfl, agrees, worlds, rfl⟩
    | step calls going =>
      have clock : (surroundings h s).hearing.clock (world', talk)
        = (surroundings h s).hearing.clock (world, talk) := worlds.clock
      obtain ⟨next, kept⟩ := step_congr (b := b) agrees
        ((surroundings h s).hearing.clock (world, talk)) c
      rw [drive_step calls going, drive_step calls going, clock, next]
      apply ih _ kept worlds
    | call call calls =>
      obtain ⟨reply, desk, there⟩ := call_congr separate call agrees worlds
      rw [drive_call calls, drive_call calls, call_hearing, call_hearing, reply]
      obtain ⟨next, kept⟩ := hear_congr (b := b) desk c ((surroundings h s).call call (d, world)).1
      simp only
      rw [next]
      apply ih _ kept there

end Check

end Muster
