import Muster.Proofs.Supervisor.Separate
/-!
# Checks in any order

The services of a stack can be checked in any order if their runners do not get in each other's way:
every check goes as if it were the only one, and in the end the stack is the same but for its log.
So a round of the monitor does not depend on the order in which the services came to be watched.
-/

namespace Muster

namespace Stack

variable {τ σ ρ : Type} {h : Host τ σ} {part : String → σ → ρ} {k k' k'' : Stack τ σ}
  {on on' : Set String} {name : String} {names names' : List String}

/-! ### Stacks that agree -/

/-- Two stacks are made of the same and agree on some services: what the supervisor remembers of
them, their states, and the parts of their runners. -/
structure Agrees (h : Host τ σ) (part : String → σ → ρ) (on : Set String) (k k' : Stack τ σ) :
    Prop where
  descriptor : k'.descriptor = k.descriptor
  backoff : k'.backoff = k.backoff
  supervisor : k.supervisor.Agrees on k'.supervisor
  states : ∀ name ∈ on, k'.states.get? name = k.states.get? name
  world : h.Agrees part on k.world k'.world

namespace Agrees

theorem refl (h : Host τ σ) (part : String → σ → ρ) (on : Set String) (k : Stack τ σ) :
  k.Agrees h part on k
  := ⟨rfl, rfl, .refl .., fun _ _ => rfl, .refl ..⟩

theorem symm (agrees : k.Agrees h part on k') :
  k'.Agrees h part on k
  where
  descriptor := agrees.descriptor.symm
  backoff := agrees.backoff.symm
  supervisor := agrees.supervisor.symm
  states name mem := (agrees.states name mem).symm
  world := agrees.world.symm

theorem trans (first : k.Agrees h part on k') (second : k'.Agrees h part on k'') :
  k.Agrees h part on k''
  where
  descriptor := second.descriptor.trans first.descriptor
  backoff := second.backoff.trans first.backoff
  supervisor := first.supervisor.trans second.supervisor
  states name mem := (second.states name mem).trans (first.states name mem)
  world := first.world.trans second.world

theorem mono (agrees : k.Agrees h part on k') (fewer : on' ⊆ on) :
  k.Agrees h part on' k'
  where
  descriptor := agrees.descriptor
  backoff := agrees.backoff
  supervisor := agrees.supervisor.mono fewer
  states name mem := agrees.states name (fewer mem)
  world := agrees.world.mono fewer

/-- Stacks agree on everything if they agree on every single service. -/
theorem of_forall (each : ∀ name, k.Agrees h part {name} k') :
  k.Agrees h part Set.univ k'
  where
  descriptor := (each "").descriptor
  backoff := (each "").backoff
  supervisor := {
    stopped := (each "").supervisor.stopped
    watched := fun name _ => (each name).supervisor.watched name rfl
    delays := fun name _ => (each name).supervisor.delays name rfl
    pending := fun name _ => (each name).supervisor.pending name rfl }
  states name _ := (each name).states name rfl
  world := ⟨(each "").world.clock, fun name _ => (each name).world.parts name rfl⟩

theorem checked? (agrees : k.Agrees h part on k') (mem : name ∈ on) :
  k'.checked? name = k.checked? name
  := by
  have stopping : k'.stopping = k.stopping := agrees.supervisor.stopped
  rw [Stack.checked?, stopping, agrees.supervisor.isWatching mem, agrees.descriptor,
    agrees.states name mem, Stack.checked?]

end Agrees

/-- Stacks that agree watch the same services, maybe in another order. -/
theorem Agrees.perm_watched (agrees : k.Agrees h part Set.univ k') :
  k.supervisor.watched.keys.Perm k'.supervisor.watched.keys
  := by
  apply (List.perm_ext_iff_of_nodup k.supervisor.watched.nodup_keys
    k'.supervisor.watched.nodup_keys).mpr
  intro name
  rw [← Table.contains_iff, ← Table.contains_iff, Table.contains, Table.contains,
    agrees.supervisor.watched name trivial]

/-! ### Single checks -/

variable [Timeline τ] {s : Service} {state : ServiceState}

/-- How a check ends that has nothing to look at. -/
theorem fst_check_of_none (nothing : k.checked? name = none) :
  (k.check h name).1
    = if k.stopping || !k.supervisor.isWatching name then .ok () else .error .missingKey
  := by
  rw [checked?] at nothing
  rw [check]
  by_cases idle : (k.stopping || !k.supervisor.isWatching name) = true
  · rw [if_pos idle, if_pos idle]
  · rw [if_neg idle] at nothing ⊢
    rw [if_neg idle]
    cases found : k.descriptor.services.get? name with
    | none => rfl
    | some s =>
      cases there : k.states.get? name with
      | none => rfl
      | some state =>
        rw [found, there] at nothing
        cases nothing

/-- The check of a service that there is to look at, with what it hears. -/
def hearing (h : Host τ σ) (k : Stack τ σ) (s : Service) (state : ServiceState) :
    Option Fault × Desk τ × σ × List Exchange :=
  Check.run (surroundings h s).hearing s k.backoff (k.desk state) (k.world, [])

theorem run_eq_hearing (h : Host τ σ) (k : Stack τ σ) (s : Service) (state : ServiceState) :
  Check.run (surroundings h s) s k.backoff (k.desk state) k.world
    = ((k.hearing h s state).1, (k.hearing h s state).2.1, (k.hearing h s state).2.2.1)
  := Check.drive_hearing ..

/-- What a check comes to that has a service to look at. -/
theorem snd_check_of_checked (looked : k.checked? name = some (s, state)) :
  ∃ log, (k.check h name).2 = { k with
    log
    supervisor := (k.hearing h s state).2.1.supervisor
    states := k.states.insert name (k.hearing h s state).2.1.state
    world := (k.hearing h s state).2.2.1 }
  := by
  obtain ⟨idle, found, there⟩ := checked?_eq_some_iff.mp looked
  have run := run_eq_hearing h k s state
  rw [check]
  rw [if_neg (by simpa using idle), found, there]
  simp only [desk, surroundings] at run ⊢
  rw [run]
  exact ⟨_, rfl⟩

/-- A check of a service changes nothing of another one. -/
theorem agrees_check (separate : h.Separate part) (k : Stack τ σ) (name : String) :
  k.Agrees h part {name}ᶜ (k.check h name).2
  := by
  cases looked : k.checked? name with
  | none =>
    rw [check_of_none looked]
    apply Agrees.refl
  | some found =>
    obtain ⟨s, state⟩ := found
    obtain ⟨-, rfl⟩ := name_of_checked looked
    obtain ⟨log, same⟩ := snd_check_of_checked (h := h) looked
    obtain ⟨supervisor, world⟩ := Check.agrees_drive (s := s) (b := k.backoff) separate
      (Check.rank (.entering : Check τ)) .entering (k.desk state) k.world
    have run := run_eq_hearing h k s state
    rw [Check.run] at run
    rw [run] at supervisor world
    rw [same]
    exact ⟨rfl, rfl, supervisor, Table.get?_insert_others, world⟩

/-- How a check of a service comes out: how it ends, and what it hears. -/
structure Checkup where
  service : String
  result : Except Fault Unit
  talk : List Exchange

/-- The check of a service. -/
def checkup (h : Host τ σ) (k : Stack τ σ) (name : String) : Checkup :=
  ⟨name, (k.check h name).1, k.talk h name⟩

theorem checkup_of_checked (looked : k.checked? name = some (s, state)) :
  k.checkup h name = {
    service := name
    result := match (k.hearing h s state).1 with
      | none => .ok ()
      | some fault => .error fault
    talk := (k.hearing h s state).2.2.2 }
  := by
  rw [checkup, fault_check_of_checked looked, run_eq_hearing, talk, looked]
  rfl

/-- A check of a service reads nothing of another one. -/
theorem check_congr (separate : h.Separate part) (agrees : k.Agrees h part {name} k') :
  k'.checkup h name = k.checkup h name
    ∧ (k.check h name).2.Agrees h part {name} (k'.check h name).2
  := by
  have same := agrees.checked? rfl
  cases looked : k.checked? name with
  | none =>
    have looked' := same.trans looked
    have stopping : k'.stopping = k.stopping := agrees.supervisor.stopped
    rw [checkup, checkup, talk, talk, fst_check_of_none looked, fst_check_of_none looked',
      check_of_none looked, check_of_none looked', looked, looked', stopping,
      agrees.supervisor.isWatching rfl]
    exact ⟨rfl, agrees⟩
  | some found =>
    have looked' := same.trans looked
    obtain ⟨s, state⟩ := found
    obtain ⟨-, rfl⟩ := name_of_checked looked
    have desks : (k.desk state).Agrees s.name (k'.desk state) := ⟨agrees.supervisor, rfl⟩
    have runs : Check.Matches h part s.name (k.hearing h s state) (k'.hearing h s state) := by
      rw [hearing, hearing, agrees.backoff]
      apply Check.drive_congr separate _ _ desks agrees.world
    constructor
    · rw [checkup_of_checked looked, checkup_of_checked looked', runs.fault, runs.talk]
    · obtain ⟨log, one⟩ := snd_check_of_checked (h := h) looked
      obtain ⟨log', two⟩ := snd_check_of_checked (h := h) looked'
      rw [one, two]
      refine ⟨agrees.descriptor, agrees.backoff, runs.desk.supervisor, ?_, runs.world⟩
      rw [runs.desk.state]
      apply Table.get?_insert_own

/-! ### Checks of several services -/

/-- Checks some services, one after the other, and tells how each check comes out. -/
def checkups (h : Host τ σ) : List String → Stack τ σ → List Checkup × Stack τ σ
  | [], k => ([], k)
  | name :: rest, k =>
    let (told, last) := checkups h rest (k.check h name).2
    (k.checkup h name :: told, last)

/-- Checks of several services go as if each were the only one. -/
theorem checkups_alone (separate : h.Separate part) (nodup : names.Nodup) (k : Stack τ σ) :
  (checkups h names k).1 = names.map (k.checkup h)
    ∧ (∀ name ∈ names, (k.check h name).2.Agrees h part {name} (checkups h names k).2)
    ∧ ∀ name, name ∉ names → k.Agrees h part {name} (checkups h names k).2
  := by
  induction names generalizing k with
  | nil => exact ⟨rfl, nofun, fun name _ => .refl ..⟩
  | cons first rest ih =>
    obtain ⟨new, nodup⟩ := List.nodup_cons.mp nodup
    obtain ⟨told, checked, others⟩ := ih nodup (k.check h first).2
    -- The first check is none of the business of any other service.
    have aside (name : String) (apart : name ≠ first) :
        k.Agrees h part {name} (k.check h first).2 := by
      apply (agrees_check separate k first).mono
      rintro other rfl
      exact apart
    refine ⟨?_, fun name mem => ?_, fun name late => ?_⟩
    · rw [checkups, List.map_cons]
      simp only
      rw [told]
      congr 1
      apply List.map_congr_left
      intro name mem
      apply (check_congr separate (aside name (ne_of_mem_of_not_mem mem new))).1
    · rcases List.mem_cons.mp mem with rfl | mem
      · apply others name new
      · have apart := aside name (ne_of_mem_of_not_mem mem new)
        apply (check_congr separate apart).2.trans (checked name mem)
    · rw [List.mem_cons, not_or] at late
      obtain ⟨apart, late⟩ := late
      apply (aside name apart).trans (others name late)

/-- The order in which some services are checked does not matter. -/
theorem checkups_perm (separate : h.Separate part) (agrees : k.Agrees h part Set.univ k')
    (nodup : names.Nodup) (perm : names.Perm names') :
  (checkups h names' k').1 = names'.map (k.checkup h)
    ∧ (checkups h names k).2.Agrees h part Set.univ (checkups h names' k').2
  := by
  have each (name : String) : k.Agrees h part {name} k' := agrees.mono (Set.subset_univ _)
  obtain ⟨-, checked, others⟩ := checkups_alone separate nodup k
  obtain ⟨told', checked', others'⟩ := checkups_alone separate (perm.nodup_iff.mp nodup) k'
  refine ⟨?_, .of_forall fun name => ?_⟩
  · rw [told']
    apply List.map_congr_left
    intro name _
    apply (check_congr separate (each name)).1
  · by_cases mem : name ∈ names
    · have both := (check_congr separate (each name)).2
      apply ((checked name mem).symm.trans both).trans (checked' name (perm.mem_iff.mp mem))
    · have late : name ∉ names' := fun there => mem (perm.mem_iff.mpr there)
      apply ((others name mem).symm.trans (each name)).trans (others' name late)

end Stack

/-! ### Rounds -/

namespace Host

variable {τ σ : Type} {h : Host τ σ} {s : Service}

/-- The runners raise no exceptions, but for faults of the stack that come out of a start. -/
structure Contained (h : Host τ σ) : Prop where
  isRunning : ∀ s w fault, (h.isRunning s w).1.result ≠ .error fault
  exitCode : ∀ s w fault, (h.exitCode s w).1.result ≠ .error fault
  start : ∀ s w fault, (h.start s w).1.result = .error fault → fault.isStack = true

theorem Contained.not_escapes (contained : h.Contained) {call : RunnerCall} {desk : Desk τ × σ}
    {fault : Fault} (raised : ((Stack.surroundings h s).call call desk).1 = .raised fault) :
  call.escapes fault = false
  := by
  cases call with
  | isRunning =>
    simp only [Stack.surroundings, Stack.answerCheck] at raised
    split at raised
    · cases raised
    · next failed => exact (contained.isRunning _ _ _ failed).elim
  | exitCode =>
    simp only [Stack.surroundings, Stack.answerCheck] at raised
    split at raised
    · cases raised
    · next failed => exact (contained.exitCode _ _ _ failed).elim
  | start =>
    simp only [Stack.surroundings, Stack.answerCheck] at raised
    split at raised
    · cases raised
    · next failed =>
      cases raised
      simp [RunnerCall.escapes, contained.start _ _ _ failed]

end Host

/-- No exception escapes from a check if the runners raise none that would. -/
theorem Check.fst_drive {τ σ : Type} [Timeline τ] {h : Host τ σ} {s : Service} {b : Backoff τ}
    (contained : h.Contained) (fuel : Nat) {c : Check τ} (whole : ∀ fault, c ≠ .ended (some fault))
    (d : Desk τ) (world : σ) :
  (drive (Stack.surroundings h s) s b fuel c (d, world)).1 = none
  := by
  induction fuel generalizing c d world with
  | zero =>
    cases c with
    | ended fault =>
      cases fault with
      | none => rfl
      | some fault => apply absurd rfl (whole fault)
    | _ => rfl
  | succ fuel ih =>
    cases c.move with
    | ended fault =>
      cases fault with
      | none => rfl
      | some fault => apply absurd rfl (whole fault)
    | step calls going =>
      rw [drive_step calls going]
      apply ih (step_ne_ended going _ d)
    | call call calls =>
      rw [drive_call calls]
      apply ih
      intro fault
      cases reply : ((Stack.surroundings h s).call call (d, world)).1 with
      | raised raised =>
        rw [hear_raised calls, contained.not_escapes reply]
        nofun
      | _ =>
        apply hear_goes_on calls
        simp

namespace Monitor

variable {τ σ ρ : Type} [Timeline τ] {h : Host τ σ} {part : String → σ → ρ} {k k' : Stack τ σ}
  {names : List String}

theorem steps_ended {α : Type} (b : Beat α) (n : Nat) (fault : Option Fault) (a : α) :
  steps b n (.ended fault) a = (.ended fault, a)
  := by
  induction n with
  | zero => rfl
  | succ n ih => exact ih

/-- A monitor that checks some services gets through with them, or a check fails and ends it. -/
theorem steps_checking (h : Host τ σ) (names : List String) (k : Stack τ σ) :
  ((∀ c ∈ (Stack.checkups h names k).1, c.result = .ok ())
      ∧ steps (Stack.beat h) (names.length + 1) (.checking names) k
        = (.waiting, (Stack.checkups h names k).2))
    ∨ ((∃ c ∈ (Stack.checkups h names k).1, c.result ≠ .ok ())
      ∧ ∃ fault, (steps (Stack.beat h) (names.length + 1) (.checking names) k).1
        = .ended (some fault))
  := by
  induction names generalizing k with
  | nil => exact .inl ⟨nofun, rfl⟩
  | cons name rest ih =>
    have told : (Stack.checkups h (name :: rest) k).1
        = k.checkup h name :: (Stack.checkups h rest (k.check h name).2).1 := rfl
    have last : (Stack.checkups h (name :: rest) k).2
        = (Stack.checkups h rest (k.check h name).2).2 := rfl
    rw [List.length_cons, steps, step_check, told, last]
    cases result : (k.check h name).1 with
    | ok =>
      simp only [List.forall_mem_cons, List.exists_mem_cons_iff, Stack.checkup, result, true_and,
        ne_eq, not_true_eq_false, false_or]
      apply ih
    | error fault =>
      simp only [steps_ended]
      exact .inr ⟨⟨_, List.mem_cons_self .., by simp [Stack.checkup, result]⟩, fault, rfl⟩

/-- How a monitor gets through a round, if it does. -/
theorem round_cases (h : Host τ σ) (k : Stack τ σ) :
  (k.stopping = true ∧ round (Stack.beat h) k = (.ended none, k))
    ∨ (k.stopping = false
      ∧ (∀ c ∈ (Stack.checkups h k.supervisor.watched.keys k).1, c.result = .ok ())
      ∧ round (Stack.beat h) k = (.waiting, (Stack.checkups h k.supervisor.watched.keys k).2))
    ∨ (k.stopping = false
      ∧ (∃ c ∈ (Stack.checkups h k.supervisor.watched.keys k).1, c.result ≠ .ok ())
      ∧ ∃ fault, (round (Stack.beat h) k).1 = .ended (some fault))
  := by
  have first : round (Stack.beat h) k = steps (Stack.beat h)
      (k.supervisor.watched.keys.length + 1)
      (if k.stopping then .ended none else .checking k.supervisor.watched.keys) k := rfl
  rw [first]
  cases stopping : k.stopping with
  | true =>
    left
    rw [if_pos rfl, steps_ended]
    exact ⟨rfl, rfl⟩
  | false =>
    rw [if_neg (by simp)]
    rcases steps_checking h k.supervisor.watched.keys k with ⟨well, ends⟩ | ⟨ill, ends⟩
    · exact .inr (.inl ⟨rfl, well, ends⟩)
    · exact .inr (.inr ⟨rfl, ill, ends⟩)

/-- The rounds of two monitors come to the same: both break off or neither does, and then they stand
at the same place and their stacks agree. -/
structure RoundsAgree (h : Host τ σ) (part : String → σ → ρ) (k k' : Stack τ σ) : Prop where
  breaks : (∃ fault, (round (Stack.beat h) k').1 = .ended (some fault))
    ↔ ∃ fault, (round (Stack.beat h) k).1 = .ended (some fault)
  whole : (∀ fault, (round (Stack.beat h) k).1 ≠ .ended (some fault)) →
    (round (Stack.beat h) k').1 = (round (Stack.beat h) k).1
      ∧ (round (Stack.beat h) k).2.Agrees h part Set.univ (round (Stack.beat h) k').2

end Monitor

namespace Stack

variable {τ σ ρ : Type} [Timeline τ] {h : Host τ σ} {part : String → σ → ρ} {k k' : Stack τ σ}

/-- A round of the monitor does not depend on the order in which the services are watched. -/
theorem Agrees.roundsAgree (separate : h.Separate part) (agrees : k.Agrees h part Set.univ k') :
  Monitor.RoundsAgree h part k k'
  := by
  have stopping : k'.stopping = k.stopping := agrees.supervisor.stopped
  have perm := agrees.perm_watched
  have nodup := k.supervisor.watched.nodup_keys
  obtain ⟨told, -, -⟩ := checkups_alone separate nodup k
  obtain ⟨told', last⟩ := checkups_perm separate agrees nodup perm
  have same : ∀ c, c ∈ (checkups h k'.supervisor.watched.keys k').1
      ↔ c ∈ (checkups h k.supervisor.watched.keys k).1 := by
    intro c
    rw [told, told']
    exact (perm.map _).mem_iff.symm
  rcases Monitor.round_cases h k with
    ⟨stop, ends⟩ | ⟨going, well, ends⟩ | ⟨going, ⟨c, mem, ill⟩, fault, ends⟩
  all_goals
    rcases Monitor.round_cases h k' with
      ⟨stop', ends'⟩ | ⟨going', well', ends'⟩ | ⟨going', ⟨c', mem', ill'⟩, fault', ends'⟩
  · exact ⟨by simp [ends, ends'], fun _ => by rw [ends, ends']; exact ⟨rfl, agrees⟩⟩
  · simp [stopping, stop] at going'
  · simp [stopping, stop] at going'
  · simp [stopping, going] at stop'
  · exact ⟨by simp [ends, ends'], fun _ => by rw [ends, ends']; exact ⟨rfl, last⟩⟩
  · apply absurd (well c' ((same c').mp mem')) ill'
  · simp [stopping, going] at stop'
  · apply absurd (well' c ((same c).mpr mem)) ill
  · refine ⟨⟨fun _ => ⟨fault, ends⟩, fun _ => ⟨fault', ends'⟩⟩, fun whole => ?_⟩
    apply absurd ends (whole fault)

/-- No check of a watched service fails if the runners raise no exception that escapes. -/
theorem Furnished.fst_check (furnished : k.Furnished) (contained : h.Contained) (name : String) :
  (k.check h name).1 = .ok ()
  := by
  cases looked : k.checked? name with
  | none => rw [(furnished.check_of_none looked).1]
  | some found =>
    have entering : ∀ fault, (.entering : Check τ) ≠ .ended (some fault) := nofun
    rw [fault_check_of_checked looked, Check.run, Check.fst_drive contained _ entering]

/-- A round of the monitor gets through if the runners raise no exception that escapes. -/
theorem Furnished.round_ne_ended (furnished : k.Furnished) (contained : h.Contained)
    (separate : h.Separate part) (fault : Fault) :
  (Monitor.round (beat h) k).1 ≠ .ended (some fault)
  := by
  obtain ⟨told, -, -⟩ := checkups_alone separate k.supervisor.watched.nodup_keys k
  rcases Monitor.round_cases h k with ⟨-, ends⟩ | ⟨-, -, ends⟩ | ⟨-, ⟨c, mem, ill⟩, -⟩
  · simp [ends]
  · simp [ends]
  · rw [told] at mem
    obtain ⟨name, -, rfl⟩ := List.mem_map.mp mem
    apply absurd (furnished.fst_check contained name) ill

/-- When the runners do not get in each other's way, a check of a service changes and reads nothing
of another one.  So it does not matter in which order some services are checked: each check comes
out as if it were the only one, and in the end what is remembered, the states and the parts of the
runners are the same.  Nor does a round of the monitor depend on the order in which the services are
watched: it breaks off with one order if it does with the other, and comes to the same if it does
not.  It does not if the runners raise nothing but faults of the stack out of a start. -/
theorem checks_in_any_order (separate : h.Separate part) :
  (∀ (k : Stack τ σ) name, k.Agrees h part {name}ᶜ (k.check h name).2)
    ∧ (∀ (k k' : Stack τ σ) name, k.Agrees h part {name} k' →
      k'.checkup h name = k.checkup h name
        ∧ (k.check h name).2.Agrees h part {name} (k'.check h name).2)
    ∧ (∀ (k k' : Stack τ σ) names names', k.Agrees h part Set.univ k' →
      names.Nodup → names.Perm names' →
        (checkups h names k).1 = names.map (k.checkup h)
          ∧ (checkups h names' k').1 = names'.map (k.checkup h)
          ∧ (checkups h names k).2.Agrees h part Set.univ (checkups h names' k').2)
    ∧ (∀ k k' : Stack τ σ, k.Agrees h part Set.univ k' → Monitor.RoundsAgree h part k k')
    ∧ ∀ k : Stack τ σ, k.Furnished → h.Contained →
      ∀ fault, (Monitor.round (beat h) k).1 ≠ .ended (some fault)
  := by
  refine ⟨agrees_check separate, fun k k' name => check_congr separate, ?_, ?_, ?_⟩
  · intro k k' names names' agrees nodup perm
    obtain ⟨told, -, -⟩ := checkups_alone separate nodup k
    exact ⟨told, checkups_perm separate agrees nodup perm⟩
  · intro k k' agrees
    apply agrees.roundsAgree separate
  · intro k furnished contained
    apply furnished.round_ne_ended contained separate

end Stack

/-! ### Two services that are down -/

namespace Bench

theorem separate_host :
  host.Separate course
  where
  isRunning := {
    others := fun _ _ => .refl ..
    reply := fun s w w' agrees => by simp [host, agrees.parts s.name rfl]
    own := fun _ _ _ => id
    calm := fun _ _ => rfl }
  exitCode := {
    others := fun _ _ => .refl ..
    reply := fun s w w' agrees => by simp [host, agrees.parts s.name rfl]
    own := fun _ _ _ => id
    calm := fun _ _ => rfl }
  start := {
    others := fun s w => ⟨rfl, fun other apart => if_neg apart⟩
    reply := fun _ _ _ _ => rfl
    own := fun s w w' agrees => by
      refine ⟨agrees.clock, ?_⟩
      rintro own rfl
      have run : (w'.courses s.name).run = (w.courses s.name).run :=
        congrArg Course.run (agrees.parts s.name rfl)
      simp [host, course, launch, run]
    calm := fun _ _ => rfl }

theorem contained_host :
  host.Contained
  where
  isRunning _ _ _ failed := by cases failed
  exitCode _ _ _ failed := by cases failed
  start _ _ _ failed := by cases failed

end Bench

namespace Sample

/-- The database has failed, and a restart of the mail server is due. -/
def lying (watched : Table Int) : Stack Int Bench :=
  { stack ⟨5, fun name => ⟨1, false, if name = "database" then some 1 else some 0⟩⟩ with
    states := ⟨[("mail", { name := "mail" }), ("database", { name := "database" })], by decide⟩
    supervisor := { watched, pending := ⟨[("mail", 5)], by decide⟩ } }

/-- The two services, watched in two orders. -/
def databaseFirst : Table Int :=
  ⟨[("database", 0), ("mail", 1)], by decide⟩

def mailFirst : Table Int :=
  ⟨[("mail", 1), ("database", 0)], by decide⟩

theorem agrees_lying :
  (lying databaseFirst).Agrees Bench.host Bench.course Set.univ (lying mailFirst)
  := by
  have watched : ∀ name ∈ Set.univ, (lying mailFirst).supervisor.watched.get? name
      = (lying databaseFirst).supervisor.watched.get? name := by
    intro name _
    simp only [lying, databaseFirst, mailFirst, Table.get?, Table.lookup]
    grind
  exact ⟨rfl, rfl, ⟨rfl, watched, fun _ _ => rfl, fun _ _ => rfl⟩, fun _ _ => rfl, .refl ..⟩

theorem furnished_lying :
  (lying databaseFirst).Furnished
  := by
  intro name watched
  have mem : name ∈ ["database", "mail"] := Table.contains_iff.mp watched
  rcases List.mem_pair.mp mem with rfl | rfl <;> decide

end Sample

/-- It does not matter whether the database or the mail server is checked first. -/
theorem Stack.checks_in_any_order_lying :
  Bench.host.Separate Bench.course
    ∧ (Sample.lying Sample.databaseFirst).Agrees Bench.host Bench.course Set.univ
      (Sample.lying Sample.mailFirst)
    ∧ (checkups Bench.host ["database", "mail"] (Sample.lying Sample.databaseFirst)).2.Agrees
      Bench.host Bench.course Set.univ
      (checkups Bench.host ["mail", "database"] (Sample.lying Sample.mailFirst)).2
    ∧ (Monitor.round (beat Bench.host) (Sample.lying Sample.databaseFirst)).2.Agrees
      Bench.host Bench.course Set.univ
      (Monitor.round (beat Bench.host) (Sample.lying Sample.mailFirst)).2
  := by
  obtain ⟨-, -, orders, rounds, whole⟩ := checks_in_any_order Bench.separate_host
  have agrees := Sample.agrees_lying
  refine ⟨Bench.separate_host, agrees, ?_, ?_⟩
  · exact (orders _ _ _ _ agrees (by decide) (List.Perm.swap ..)).2.2
  · apply ((rounds _ _ agrees).whole _).2
    apply whole _ Sample.furnished_lying Bench.contained_host

end Muster
