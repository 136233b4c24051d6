import Muster.Proofs.Chronicle.Retain
/-!
# What a check hears

A check calls the runner of its service, and its talk is the list of these calls with what came back.
An exception that a runner raises is always the last that a check hears.  A check deals with one kind
of exception only, a fault of the stack that a start comes back with; every other one escapes from
it.
-/

namespace Muster

/-- A call of a runner and what it comes back with. -/
abbrev Exchange := RunnerCall × RunnerReply

/-- Whether an exception that a call of a runner raises is one that a check does not deal with. -/
def RunnerCall.escapes (call : RunnerCall) (fault : Fault) : Bool :=
  call != .start || !fault.isStack

namespace Check

variable {τ σ : Type}

/-- Surroundings that put down every call with its reply. -/
def Surroundings.hearing (w : Surroundings τ σ) : Surroundings τ (σ × List Exchange) where
  clock world := w.clock world.1
  call call desk :=
    let (reply, d, world) := w.call call (desk.1, desk.2.1)
    (reply, d, world, desk.2.2 ++ [(call, reply)])

theorem call_hearing (w : Surroundings τ σ) (call : RunnerCall) (d : Desk τ) (world : σ)
    (talk : List Exchange) :
  w.hearing.call call (d, world, talk)
    = ((w.call call (d, world)).1, (w.call call (d, world)).2.1, (w.call call (d, world)).2.2,
      talk ++ [(call, (w.call call (d, world)).1)])
  := rfl

variable [Timeline τ] {w : Surroundings τ σ} {s : Service} {b : Backoff τ}

/-- Putting down what is heard changes nothing else. -/
theorem drive_hearing (fuel : Nat) (c : Check τ) (d : Desk τ) (world : σ) (talk : List Exchange) :
  drive w s b fuel c (d, world)
    = ((drive w.hearing s b fuel c (d, world, talk)).1,
      (drive w.hearing s b fuel c (d, world, talk)).2.1,
      (drive w.hearing s b fuel c (d, world, talk)).2.2.1)
  := drive_view (fun _ _ => rfl) (fun _ _ _ _ => ⟨_, rfl⟩) fuel c d world talk

/-- A check that hears an exception has ended, with the exception if this escapes. -/
theorem hear_raised {c : Check τ} {call : RunnerCall} (calls : c.call? = some call) (fault : Fault)
    (d : Desk τ) :
  (hear s b c (.raised fault) d).1 = .ended (if call.escapes fault then some fault else none)
  := by
  cases c with
  | probing now => cases calls; rfl
  | inspecting now => cases calls; rfl
  | relaunching =>
    cases calls
    rw [hear]
    cases stack : fault.isStack with
    | true => simp [RunnerCall.escapes, stack]
    | false => simp [RunnerCall.escapes, stack]
  | _ => cases calls

/-- A check that has heard anything else goes on. -/
theorem hear_goes_on {c : Check τ} {call : RunnerCall} (calls : c.call? = some call)
    {reply : RunnerReply} (answer : ∀ fault, reply ≠ .raised fault) (d : Desk τ)
    (left : Option Fault) :
  (hear s b c reply d).1 ≠ .ended left
  := by
  cases reply with
  | raised fault => exact absurd rfl (answer fault)
  | running yes =>
    cases c with
    | probing now => cases yes <;> simp [hear]
    | inspecting now => simp [hear]
    | relaunching => simp [hear]
    | _ => cases calls
  | exited code =>
    cases c with
    | inspecting now =>
      by_cases allowed : Allowed s code d
      · simp [hear, (judge_of_allowed b now allowed).1]
      · simp [hear, (judge_of_not_allowed b now allowed).1]
    | probing now => simp [hear]
    | relaunching => simp [hear]
    | _ => cases calls
  | started =>
    cases c with
    | probing now => simp [hear]
    | inspecting now => simp [hear]
    | relaunching => simp [hear]
    | _ => cases calls

/-- A check ends with an exception only when it hears one. -/
theorem step_ne_ended {c : Check τ} (going : ∀ left, c ≠ .ended left) (clock : τ) (d : Desk τ)
    (fault : Fault) :
  (step s b clock c d).1 ≠ .ended (some fault)
  := by
  cases c with
  | entering =>
    simp only [step]
    split <;> simp
  | looking now =>
    simp only [step]
    split <;> simp
  | awaiting now =>
    simp only [step]
    split
    · simp
    · simp only
      split <;> simp
  | ended left => exact absurd rfl (going left)
  | _ => simp [step]

/-- From wherever a check goes on, it ends with an exception exactly when it hears one that escapes,
and whatever exception it hears is the last that it hears. -/
theorem drive_talk (fuel : Nat) (c : Check τ) (d : Desk τ) (world : σ) (talk : List Exchange) :
  ∃ heard, (drive w.hearing s b fuel c (d, world, talk)).2.2.2 = talk ++ heard
    ∧ (∀ call fault, (call, .raised fault) ∈ heard → heard.getLast? = some (call, .raised fault))
    ∧ ∀ fault, (drive w.hearing s b fuel c (d, world, talk)).1 = some fault
      ↔ c = .ended (some fault) ∨ ∃ call, (call, .raised fault) ∈ heard ∧ call.escapes fault = true
  := by
  induction fuel generalizing c d world talk with
  | zero =>
    refine ⟨[], ?_⟩
    cases c <;> simp [drive]
  | succ fuel ih =>
    cases c.move with
    | ended left =>
      refine ⟨[], ?_⟩
      simp [drive_ended]
    | step calls going =>
      rw [drive_step calls going]
      obtain ⟨heard, said, last, ends⟩ := ih
        (step s b (w.hearing.clock (world, talk)) c d).1 _ world talk
      refine ⟨heard, said, last, fun fault => ?_⟩
      rw [ends]
      simp [step_ne_ended going, going]
    | call call calls =>
      have going := ne_ended_of_call calls
      rw [drive_call calls, call_hearing]
      generalize w.call call (d, world) = replied
      obtain ⟨reply, d', world'⟩ := replied
      -- An exception ends the check, whether it escapes or not, so that nothing is heard after it.
      by_cases raises : ∃ fault, reply = .raised fault
      · obtain ⟨fault, rfl⟩ := raises
        refine ⟨[(call, .raised fault)], ?_⟩
        simp only [hear_raised calls fault d', drive_ended]
        refine ⟨trivial, by simp, fun f => ⟨fun ends => ?_, ?_⟩⟩
        · obtain ⟨escapes, same⟩ := Option.ite_none_right_eq_some.mp ends
          cases same
          exact .inr ⟨call, List.mem_singleton_self _, escapes⟩
        · rintro (same | ⟨call', mem, escapes⟩)
          · exact absurd same (going _)
          · obtain ⟨rfl, rfl⟩ : call' = call ∧ f = fault := by simpa using mem
            exact if_pos escapes
      · have answer : ∀ fault, reply ≠ .raised fault := fun fault same => raises ⟨fault, same⟩
        obtain ⟨heard, said, last, ends⟩ := ih (hear s b c reply d').1 (hear s b c reply d').2 world'
          (talk ++ [(call, reply)])
        refine ⟨(call, reply) :: heard, by rw [said, List.append_assoc]; rfl, ?_, fun fault => ?_⟩
        · intro call' fault mem
          rcases List.mem_cons.mp mem with same | mem
          · cases same
            exact absurd rfl (answer fault)
          · rw [List.getLast?_cons, last call' fault mem]
            rfl
        · rw [ends]
          simp [hear_goes_on calls answer, going, answer fault |>.symm]

end Check

/-! ### The talk of a check of a stack -/

namespace Stack

variable {τ σ : Type} [Timeline τ] {h : Host τ σ} {k : Stack τ σ} {name : String} {s : Service}
  {state : ServiceState}

/-- What a check of a service hears from its runner. -/
def talk (h : Host τ σ) (k : Stack τ σ) (name : String) : List Exchange :=
  match k.checked? name with
  | some (s, state) =>
    (Check.run (surroundings h s).hearing s k.backoff (k.desk state) (k.world, [])).2.2.2
  | none => []

/-- Every watched service is one of the stack, and something is known about it. -/
def Furnished (k : Stack τ σ) : Prop :=
  ∀ name, k.supervisor.isWatching name = true →
    k.descriptor.services.contains name = true ∧ k.states.contains name = true

theorem fault_check_of_checked (looked : k.checked? name = some (s, state)) :
  (k.check h name).1 = match (Check.run (surroundings h s) s k.backoff (k.desk state) k.world).1 with
    | none => .ok ()
    | some fault => .error fault
  := by
  obtain ⟨idle, found, there⟩ := checked?_eq_some_iff.mp looked
  rw [check, if_neg (by simpa using idle), found, there]
  rfl

theorem exists_states_check (looked : k.checked? name = some (s, state)) :
  ∃ state', (k.check h name).2.states = k.states.insert name state'
  := by
  obtain ⟨idle, found, there⟩ := checked?_eq_some_iff.mp looked
  rw [check, if_neg (by simpa using idle), found, there]
  exact ⟨_, rfl⟩

/-- A check that has a service to look at ends with an exception exactly when it hears one that
escapes. -/
theorem check_eq_error_of_checked (looked : k.checked? name = some (s, state)) {fault : Fault} :
  (k.check h name).1 = .error fault
    ↔ ∃ call, (call, .raised fault) ∈ k.talk h name ∧ call.escapes fault = true
  := by
  obtain ⟨heard, said, -, ends⟩ := Check.drive_talk (w := surroundings h s) (s := s)
    (b := k.backoff) (Check.rank (.entering : Check τ)) .entering (k.desk state) k.world []
  have same := Check.drive_hearing (w := surroundings h s) (s := s) (b := k.backoff)
    (Check.rank (.entering : Check τ)) .entering (k.desk state) k.world []
  have talk : k.talk h name = heard := by
    rw [Stack.talk, looked]
    exact said
  specialize ends fault
  simp only [reduceCtorEq, false_or] at ends
  rw [fault_check_of_checked looked, talk, ← ends, Check.run, same]
  split <;> simp_all

namespace Furnished

/-- What a check that has nothing to look at comes to. -/
theorem check_of_none (furnished : k.Furnished) (nothing : k.checked? name = none) :
  k.check h name = (.ok (), k) ∧ k.talk h name = []
  := by
  refine ⟨?_, by rw [talk, nothing]⟩
  rw [check]
  by_cases idle : (k.stopping || !k.supervisor.isWatching name) = true
  · rw [if_pos idle]
  · rw [if_neg idle]
    have watched : k.stopping = false ∧ k.supervisor.isWatching name = true := by simpa using idle
    obtain ⟨listed, known⟩ := furnished name watched.2
    obtain ⟨s, found⟩ := Option.isSome_iff_exists.mp listed
    obtain ⟨state, there⟩ := Option.isSome_iff_exists.mp known
    cases nothing.symm.trans (checked?_eq_some_iff.mpr ⟨watched, found, there⟩)

/-- A check of a furnished stack ends with an exception exactly when it hears one that escapes. -/
theorem check_eq_error_iff (furnished : k.Furnished) {fault : Fault} :
  (k.check h name).1 = .error fault
    ↔ ∃ call, (call, .raised fault) ∈ k.talk h name ∧ call.escapes fault = true
  := by
  cases looked : k.checked? name with
  | none =>
    obtain ⟨same, talk⟩ := furnished.check_of_none (h := h) looked
    simp [same, talk]
  | some found => exact check_eq_error_of_checked looked

/-- A stack stays furnished when a service is checked. -/
theorem check (furnished : k.Furnished) (name : String) :
  (k.check h name).2.Furnished
  := by
  intro other watched
  obtain ⟨listed, known⟩ := furnished other ((retains_check k name).releases.watched other watched)
  rw [(descriptor_check h k name).1]
  refine ⟨listed, ?_⟩
  cases looked : k.checked? name with
  | none => rwa [Stack.check_of_none looked]
  | some found =>
    obtain ⟨state', same⟩ := exists_states_check (h := h) looked
    rw [same, Table.contains, Table.get?_insert]
    split
    · rfl
    · exact known

end Furnished

end Stack

end Muster
