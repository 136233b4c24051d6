import Muster.Proofs.Launch.Run
/-!
# Workers and the states of their services

Where a worker stands says what the state of its service shows: which flags are set, and which
calls of the host have come back.  `Worker.Sound` puts this down for every place where a worker
can stand.  It is kept by the turns of the worker itself, and nothing that others do can spoil it;
so it holds throughout every run.  Whoever sees the flags of a service can read back from it what
the worker of the service has done.
-/

namespace Muster

/-- A service has been launched: its start came back well. -/
def Launched (trace : List Worker.Turn) (name : String) : Prop :=
  ⟨name, some (.start (.ok ()))⟩ ∈ trace

/-- A result of a health check has been heard. -/
def Heard (trace : List Worker.Turn) (name : String) (result : CheckResult) : Prop :=
  ⟨name, some (.check (.ok result))⟩ ∈ trace

/-- A service can be depended upon: it has been launched, and a check of it has succeeded if it
has one that is run. -/
structure Usable (trace : List Worker.Turn) (s : Service) : Prop where
  launched : Launched trace s.name
  checked : s.hasHealthCheck = true → ∃ result, result.success = true ∧ Heard trace s.name result

section Mono

variable {trace trace' : List Worker.Turn} {s : Service}

theorem Usable.mono (usable : Usable trace s) (goesOn : trace ⊆ trace') :
  Usable trace' s
  where
  launched := goesOn usable.launched
  checked has := by
    obtain ⟨result, success, heard⟩ := usable.checked has
    exact ⟨result, success, goesOn heard⟩

end Mono

/-- A service whose poll stands at `p`: a poll that ended well has seen a check succeed. -/
def Poll.Sound (s : Service) (trace : List Worker.Turn) (p : Poll) : Prop :=
  ∀ result, p = .ended (.healthy result) →
    result.success = true ∧ Heard trace s.name result

namespace ServiceState

/-- No flag is set. -/
def Idle (state : ServiceState) : Prop :=
  state.Shows (fun _ => False) []

/-- The service is on its way: it has been launched, and its only flag says so. -/
structure Going (s : Service) (trace : List Worker.Turn) (state : ServiceState) : Prop where
  launched : Launched trace s.name
  flags : state.Shows (· = .started) []

/-- The service is ready, apart from the marks that are left. -/
structure Readying (s : Service) (trace : List Worker.Turn) (left : List Mark)
    (state : ServiceState) : Prop where
  usable : Usable trace s
  making : state.Making (· = .started) (Mark.ofReady s.hasHealthCheck) left
  late : state.Late left

/-- The service has failed, apart from the marks that are left. -/
structure Failing (s : Service) (trace : List Worker.Turn) (left : List Mark)
    (state : ServiceState) : Prop where
  making : ∃ base status error, (∀ f, base f → f = .started ∧ Launched trace s.name)
    ∧ ¬ status.isEarly ∧ state.Making base (Mark.ofFailure status error) left
  late : state.Late left

/-- The worker of the service has died on the way, and the flags are left as they were. -/
structure Abandoned (s : Service) (trace : List Worker.Turn) (state : ServiceState) : Prop where
  flags : ∀ f, state.has f = true → f = .started ∧ Launched trace s.name

end ServiceState

/-- What the state of a service shows when its worker stands at a place. -/
def Worker.Sound (s : Service) (trace : List Worker.Turn) (state : ServiceState) : Worker → Prop
  | awaiting _ | judging .. | blaming _ | gating | starting => state.Idle
  | announcing left =>
    Launched trace s.name ∧ state.Making (fun _ => False) Mark.ofStart left
  | preparing | checking .. => state.Going s trace
  | polling p => state.Going s trace ∧ p.Sound s trace
  | hearing _ _ reply =>
    state.Going s trace ∧ ∀ result, reply = .ok result → Heard trace s.name result
  | readying left => state.Readying s trace left
  | failing left fault => state.Failing s trace left ∧ ∀ m, fault ≠ some (.interrupt m)
  | ended none => state.Readying s trace [] ∨ state.Failing s trace []
  | ended (some (.interrupt _)) => state.Abandoned s trace
  | ended (some _) => state.Failing s trace []

/-! ### What the state shows remains true -/

section Later

variable {s : Service} {trace trace' : List Worker.Turn} {state state' : ServiceState}
  {left : List Mark} {w : Worker}

theorem ServiceState.Late.disturb (late : state.Late left) (disturbed : state.Disturbs state') :
  state'.Late left
  := late.imp_right fun late early => late (disturbed.late early)

/-- Whatever leaves the flags alone leaves a service on its way. -/
theorem ServiceState.Going.later (going : state.Going s trace) (goesOn : trace ⊆ trace')
    (same : ∀ f, state'.has f = state.has f) :
  state'.Going s trace'
  := ⟨goesOn going.launched, going.flags.congr same⟩

theorem ServiceState.Readying.later (readying : state.Readying s trace left)
    (goesOn : trace ⊆ trace') (disturbed : state.Disturbs state') :
  state'.Readying s trace' left
  where
  usable := readying.usable.mono goesOn
  making := readying.making.congr disturbed.has
  late := readying.late.disturb disturbed

theorem ServiceState.Failing.later (failing : state.Failing s trace left)
    (goesOn : trace ⊆ trace') (disturbed : state.Disturbs state') :
  state'.Failing s trace' left
  where
  making := by
    obtain ⟨base, status, error, start, late, making⟩ := failing.making
    refine ⟨base, status, error, ?_, late, making.congr disturbed.has⟩
    intro f set
    exact ⟨(start f set).1, goesOn (start f set).2⟩
  late := failing.late.disturb disturbed

theorem ServiceState.Abandoned.later (abandoned : state.Abandoned s trace)
    (goesOn : trace ⊆ trace') (disturbed : state.Disturbs state') :
  state'.Abandoned s trace'
  where
  flags f set := by
    obtain ⟨started, launched⟩ := abandoned.flags f (disturbed.has f ▸ set)
    exact ⟨started, goesOn launched⟩

/-- What the state of a service shows stays true as the run goes on, and others do not spoil it. -/
theorem Worker.Sound.later (sound : w.Sound s trace state) (goesOn : trace ⊆ trace')
    (disturbed : state.Disturbs state') :
  w.Sound s trace' state'
  := by
  cases w with
  | awaiting | judging | blaming | gating | starting =>
    apply ServiceState.Shows.congr sound disturbed.has
  | announcing => exact ⟨goesOn sound.1, sound.2.congr disturbed.has⟩
  | preparing | checking => apply ServiceState.Going.later sound goesOn disturbed.has
  | polling p =>
    refine ⟨sound.1.later goesOn disturbed.has, fun result same => ?_⟩
    obtain ⟨success, heard⟩ := sound.2 result same
    exact ⟨success, goesOn heard⟩
  | hearing =>
    exact ⟨sound.1.later goesOn disturbed.has, fun result same => goesOn (sound.2 result same)⟩
  | readying => apply ServiceState.Readying.later sound goesOn disturbed
  | failing => exact ⟨sound.1.later goesOn disturbed, sound.2⟩
  | ended fault =>
    rcases fault with _ | fault
    · apply sound.imp (·.later goesOn disturbed) (·.later goesOn disturbed)
    · cases fault with
      | interrupt => apply ServiceState.Abandoned.later sound goesOn disturbed
      | _ => apply ServiceState.Failing.later sound goesOn disturbed

end Later

/-! ### The turns of a worker -/

section Turn

variable {τ σ : Type} {h : Host τ σ} {s : Service} {k : Stack τ σ} {trace : List Worker.Turn}
  {state state' : ServiceState} {w w' : Worker} {call : Option Worker.Call} {world : σ}

theorem ServiceState.Shows.failing {base : Flag → Prop} (shown : state.Shows base [])
    (start : ∀ f, base f → f = .started ∧ Launched trace s.name) {status : Status}
    (late : ¬ status.isEarly) (error : String) :
  state.Failing s trace (Mark.ofFailure status error)
  where
  making := ⟨base, status, error, start, late, shown.making _⟩
  late := .inl ⟨status, Mark.status_mem_ofFailure status error⟩

/-- A worker can give up as long as at most the launch of its service has been noted. -/
theorem Worker.sound_giveUp {base : Flag → Prop} (shown : state.Shows base [])
    (start : ∀ f, base f → f = .started ∧ Launched trace s.name) (fault : Fault) :
  (Worker.giveUp s fault).1.Sound s trace state
  := by
  have failing {status : Status} (late : ¬ status.isEarly) (error : String) :=
    shown.failing (s := s) start late error
  unfold Worker.giveUp
  split
  · exact ⟨failing (by simp [Status.isEarly]) _, by simp⟩
  · exact ⟨failing (by simp [Status.isEarly]) _, by simp⟩
  · exact ⟨failing (by simp [Status.isEarly]) _, by simp⟩
  · refine ⟨fun f set => ?_⟩
    rcases (shown f).mp set with set | made
    · apply start f set
    · cases made
  · next other =>
    refine ⟨failing (by simp [Status.isEarly]) _, fun m same => ?_⟩
    apply other m (Option.some.inj same)

theorem Worker.sound_giveUp_of_idle (idle : state.Idle) (fault : Fault) :
  (Worker.giveUp s fault).1.Sound s trace state
  := sound_giveUp idle (fun _ none => none.elim) fault

theorem ServiceState.Going.readying (going : state.Going s trace)
    (checked : s.hasHealthCheck = true →
      ∃ result, result.success = true ∧ Heard trace s.name result) :
  state.Readying s trace (Mark.ofReady s.hasHealthCheck)
  where
  usable := ⟨going.launched, checked⟩
  making := going.flags.making _
  late := .inl (Mark.exists_status_mem_ofReady _)

theorem ServiceState.Readying.mark {m : Mark} {left : List Mark}
    (readying : state.Readying s trace (m :: left)) :
  (state.mark m).Readying s trace left
  where
  usable := readying.usable
  making := readying.making.mark
  late := by
    obtain ⟨done, split, -⟩ := readying.making
    apply readying.late.mark
    rintro x rfl
    have mem : Mark.status x ∈ Mark.ofReady s.hasHealthCheck := by simp [← split]
    apply Mark.not_isEarly_of_mem_ofReady mem

theorem ServiceState.Failing.mark {m : Mark} {left : List Mark}
    (failing : state.Failing s trace (m :: left)) :
  (state.mark m).Failing s trace left
  := by
  obtain ⟨base, status, error, start, late, making⟩ := failing.making
  refine ⟨⟨base, status, error, start, late, making.mark⟩, failing.late.mark ?_⟩
  obtain ⟨done, split, -⟩ := making
  rintro x rfl
  have mem : Mark.status x ∈ Mark.ofFailure status error := by simp [← split]
  rwa [Mark.eq_of_mem_ofFailure mem]

/-- When the marks of a launch have been made, the service is on its way. -/
theorem ServiceState.going_of_making (launched : Launched trace s.name)
    (making : state.Making (fun _ => False) Mark.ofStart []) :
  state.Going s trace
  where
  launched := launched
  flags f := by
    rw [making.shows f]
    cases f <;> simp [Mark.ofStart, Flag.mark]

/-- A worker stands where there is nothing to be checked only while its service is on its way. -/
theorem Worker.Sound.going (sound : w.Sound s trace state)
    (stands : w = .announcing [] ∨ w = .preparing ∨ (∃ p, w = .polling p)
      ∨ ∃ spent left, w = .checking spent left) :
  state.Going s trace
  := by
  rcases stands with rfl | rfl | ⟨p, rfl⟩ | ⟨spent, left, rfl⟩
  · apply ServiceState.going_of_making sound.1 sound.2
  · exact sound
  · apply sound.1
  · exact sound

theorem Poll.Ending.eq_healthy {ending : Poll.Ending} {name : String} {result : CheckResult}
    (ok : ending.outcome name = .ok result) :
  ending = .healthy result
  := by
  cases ending <;> cases ok
  rfl

theorem Poll.sound_start (check : HealthCheck) :
  (Poll.start check).Sound s trace
  := by
  intro result same
  rw [Poll.start] at same
  split at same <;> cases same

theorem Poll.sound_wake {p : Poll} {check : HealthCheck} {time : Float}
    (waits : p.delay? check = some time) (stopped : Bool) :
  (p.wake stopped).Sound s trace
  := by
  rintro result same
  cases p with
  | settling left => cases stopped <;> cases same
  | resting spent left => cases same
  | due | ended => cases waits

theorem Poll.sound_hear {reply : Except Fault CheckResult}
    (heard : ∀ result, reply = .ok result → Heard trace s.name result) (stopped : Bool)
    (spent left : Nat) :
  (Poll.hear stopped spent left reply).Sound s trace
  := by
  intro result same
  unfold Poll.hear at same
  split at same
  · cases same
  · next result' =>
    split at same
    · next success =>
      cases same
      exact ⟨success, heard _ rfl⟩
    · split at same
      · cases same
      · split at same <;> cases same

/-- A turn of a worker keeps what the state of its service shows. -/
theorem Worker.Moves.sound (moves : Worker.Moves h s k state w call w' state' world)
    (sound : w.Sound s trace state) :
  w'.Sound s (trace ++ [⟨s.name, call⟩]) state'
  := by
  replace sound : w.Sound s (trace ++ [⟨s.name, call⟩]) state :=
    sound.later (List.subset_append_left ..) (.refl _)
  cases moves with
  | arrive | gather | pass | refuse | enter => exact sound
  | shutDown waits =>
    rcases waits with rfl | ⟨e, left, rfl⟩ <;> exact sound_giveUp_of_idle sound _
  | block =>
    exact ⟨ServiceState.Shows.failing sound (fun _ none => none.elim) (by simp [Status.isEarly]) _,
      by simp⟩
  | lose looks =>
    rcases looks with rfl | ⟨left, rfl⟩ <;> exact sound_giveUp_of_idle sound _
  | start => exact ⟨by simp [Launched], ServiceState.Shows.making sound _⟩
  | startFault => apply sound_giveUp_of_idle sound _
  | announce => exact ⟨sound.1, sound.2.mark⟩
  | watch => apply sound.going (.inl rfl)
  | skip unchecked stands =>
    have := (sound.going stands).readying (by simp [unchecked])
    rwa [unchecked] at this
  | prepare =>
    have going : (Poll.noteStart state).Going s _ :=
      ServiceState.Going.later sound (List.Subset.refl _) (by simp)
    exact ⟨going, Poll.sound_start _⟩
  | wake _ waits | rouse _ waits => exact ⟨sound.1, Poll.sound_wake waits _⟩
  | cancel | stall => exact ⟨sound.1, by rintro r ⟨⟩⟩
  | begin => apply sound.1
  | check =>
    refine ⟨sound, fun r same => ?_⟩
    simp [Heard, same]
  | hear =>
    exact ⟨sound.1.later (List.Subset.refl _) (by simp), Poll.sound_hear sound.2 _ _ _⟩
  | @pollOk ending result checked ok =>
    have := sound.1.readying fun _ => ⟨result, sound.2 result (by rw [Poll.Ending.eq_healthy ok])⟩
    rwa [checked] at this
  | pollFault => apply sound_giveUp sound.1.flags (fun f same => ⟨same, sound.1.launched⟩) _
  | ready => apply sound.mark
  | confirm => exact .inl sound
  | fail => exact ⟨sound.1.mark, sound.2⟩
  | @fall fault =>
    rcases fault with _ | fault
    · exact .inr sound.1
    · cases fault with
      | interrupt m => apply absurd rfl (sound.2 m)
      | _ => apply sound.1

end Turn

namespace Launch

variable {τ σ : Type} {h : Host τ σ} {others : Stack τ σ → Stack τ σ → Prop} {l₀ l l' : Launch τ σ}
  {trace : List Worker.Turn} {s : Service} {w w' : Worker} {state state' : ServiceState}

/-- The state of every service shows where its worker stands. -/
def Sound (trace : List Worker.Turn) (l : Launch τ σ) : Prop :=
  ∀ s w state, l.At s w state → w.Sound s trace state

theorem Fresh.sound (fresh : l.Fresh) :
  l.Sound []
  := by
  intro s w state here
  obtain ⟨rfl, rfl⟩ := fresh.start s w state here
  intro f
  cases f <;> simp [ServiceState.has]

theorem Sound.turn {call : Option Worker.Call} (sound : l.Sound trace)
    (takes : Takes h l s w state call w' state' l') :
  l'.Sound (trace ++ [⟨s.name, call⟩])
  := by
  intro r v seen here
  rcases takes.cases_after here with ⟨rfl, rfl, rfl⟩ | ⟨-, before⟩
  · apply takes.moves.sound (sound _ _ _ takes.before)
  · apply (sound _ _ _ before).later (List.subset_append_left ..) (.refl _)

theorem Sound.join (sound : l.Sound trace) :
  l.join.Sound trace
  := by
  intro s w state here
  apply sound s w state (at_join_iff.mp here)

theorem Sound.other {k : Stack τ σ} (staffed : l.Staffed) (sound : l.Sound trace)
    (change : l.stack.Disturbs k) :
  { l with stack := k }.Sound trace
  := by
  intro r v seen here
  obtain ⟨state, before, disturbed⟩ := here.of_disturb staffed change
  apply (sound _ _ _ before).later (List.Subset.refl _) disturbed

/-- In every run the state of every service shows where its worker stands. -/
theorem Run.sound (run : l₀.Run h others trace l) (fresh : l₀.Fresh)
    (bound : ∀ k k', others k k' → k.Disturbs k') :
  l.Sound trace
  := by
  refine run.invariant fresh.staffed bound fresh.sound ?_ ?_ ?_
  · intro trace l l' s w state call w' state' staffed sound takes
    apply sound.turn takes
  · intro trace l sound
    apply sound.join
  · intro trace l k staffed sound change
    apply sound.other staffed (bound _ _ change)

end Launch

/-! ### What the flags say -/

section Flags

variable {s : Service} {trace : List Worker.Turn} {state : ServiceState} {w : Worker}
  {left : List Mark}

/-- The flags of a service whose start has come to its end: it is ready or it has failed. -/
structure ServiceState.Done (state : ServiceState) (failed : Bool) : Prop where
  ready : state.ready = !failed
  failed : state.failed = failed
  started : state.started = true
  settled : state.settled = true
  late : ¬ state.status.isEarly

theorem ServiceState.Readying.eq_nil (readying : state.Readying s trace left)
    (settled : state.settled = true) :
  left = []
  := by
  obtain ⟨done, split, shown⟩ := readying.making
  rcases (shown .settled).mp settled with base | made
  · cases base
  · apply Mark.eq_nil_of_ofReady split made

theorem ServiceState.Readying.done (readying : state.Readying s trace []) :
  state.Done false
  := by
  have has (f : Flag) : state.has f = true ↔ f ≠ .failed := by
    rw [readying.making.shows f]
    cases f <;> cases s.hasHealthCheck <;> simp [Flag.mark, Mark.ofReady]
  exact ⟨(has .ready).mpr (by simp), Bool.eq_false_iff.mpr ((has .failed).not.mpr (by simp)),
    (has .started).mpr (by simp), (has .settled).mpr (by simp), readying.late.not_isEarly⟩

theorem ServiceState.Failing.eq_nil (failing : state.Failing s trace left)
    (settled : state.settled = true) :
  left = []
  := by
  obtain ⟨base, status, error, start, -, done, split, shown⟩ := failing.making
  rcases (shown .settled).mp settled with set | made
  · cases (start _ set).1
  · apply Mark.eq_nil_of_ofFailure split made

theorem ServiceState.Failing.done (failing : state.Failing s trace []) :
  state.Done true
  := by
  obtain ⟨base, status, error, start, -, making⟩ := failing.making
  have has (f : Flag) : state.has f = true ↔ f ≠ .ready := by
    rw [making.shows f]
    rw [Mark.ofFailure]
    constructor
    · rintro (set | made) rfl
      · cases (start _ set).1
      · split at made <;> simp [Flag.mark] at made
    · intro other
      right
      split <;> cases f <;> simp [Flag.mark] at other ⊢
  exact ⟨Bool.eq_false_iff.mpr ((has .ready).not.mpr (by simp)), (has .failed).mpr (by simp),
    (has .started).mpr (by simp), (has .settled).mpr (by simp), failing.late.not_isEarly⟩

/-- As long as a service that fails is not marked as failed, whoever waits for its launch has been
released by its launch only. -/
theorem ServiceState.Failing.launched (failing : state.Failing s trace left)
    (started : state.started = true) (well : state.failed = false) :
  Launched trace s.name
  := by
  obtain ⟨base, status, error, start, -, done, split, shown⟩ := failing.making
  rcases (shown .started).mp started with set | made
  · exact (start _ set).2
  · have first := Mark.failed_mem_of_ofFailure split made
    have failed : state.failed = true := (shown .failed).mpr (.inr first)
    rw [well] at failed
    cases failed

/-- A service that has settled is ready or has failed, and its worker has nothing left to mark. -/
theorem Worker.Sound.of_settled (sound : w.Sound s trace state) (settled : state.settled = true) :
  (state.Readying s trace [] ∧ (w = .readying [] ∨ w = .ended none))
    ∨ (state.Failing s trace [] ∧ ∃ fault, w = .failing [] fault ∨ w = .ended fault)
  := by
  have going (going : state.Going s trace) : False := by
    rcases (going.flags .settled).mp settled with set | set <;> cases set
  cases w with
  | awaiting | judging | blaming | gating | starting =>
    rcases (sound .settled).mp settled with set | set <;> cases set
  | announcing left =>
    obtain ⟨-, done, split, shown⟩ := sound
    rcases (shown .settled).mp settled with set | made
    · cases set
    · have mem := List.mem_append_left left made
      rw [split] at mem
      simp [Flag.mark, Mark.ofStart] at mem
  | preparing | checking => exact (going sound).elim
  | polling | hearing => exact (going sound.1).elim
  | readying left =>
    obtain rfl := ServiceState.Readying.eq_nil sound settled
    exact .inl ⟨sound, .inl rfl⟩
  | failing left fault =>
    obtain rfl := sound.1.eq_nil settled
    exact .inr ⟨sound.1, fault, .inl rfl⟩
  | ended fault =>
    rcases fault with _ | fault
    · apply sound.imp (fun ready => ⟨ready, .inr rfl⟩) (fun failing => ⟨failing, none, .inr rfl⟩)
    · cases fault with
      | interrupt => cases (sound.flags .settled settled).1
      | _ => exact .inr ⟨sound, _, .inr rfl⟩

/-- A service whose launch releases those who wait, and that is not marked as failed, has been
launched. -/
theorem Worker.Sound.launched (sound : w.Sound s trace state) (started : state.started = true)
    (well : state.failed = false) :
  Launched trace s.name
  := by
  cases w with
  | awaiting | judging | blaming | gating | starting =>
    rcases (sound .started).mp started with set | set <;> cases set
  | announcing => apply sound.1
  | polling | hearing => apply sound.1.launched
  | preparing | checking => apply ServiceState.Going.launched sound
  | readying => exact (ServiceState.Readying.usable sound).launched
  | failing => apply sound.1.launched started well
  | ended fault =>
    rcases fault with _ | fault
    · rcases sound with ready | failing
      · apply ready.usable.launched
      · apply failing.launched started well
    · cases fault with
      | interrupt => exact (sound.flags .started started).2
      | _ => apply ServiceState.Failing.launched sound started well

end Flags

end Muster
