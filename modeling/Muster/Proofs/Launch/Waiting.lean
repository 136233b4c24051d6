import Muster.Proofs.Launch.Sound
/-!
# Waiting for dependencies

A worker goes through the dependencies of its service one by one.  At each of them it waits for a
flag, and then looks whether the dependency has failed; both flags are set by an ending of the
start as well, so it is the order of the marks that makes this enough.  What the worker has found
of a dependency remains true, so when it comes to start its service it can rely on all of them.
-/

namespace Muster

/-- The flag of a dependency that is waited for. -/
def Condition.flag : Condition → Flag
  | started => .started
  | healthy => .settled

/-- What is among the entries that a service waits for is one of its dependencies. -/
theorem mem_dependencies_of_split {s : Service} {past left : List (String × Condition)}
    {dependency : String} {condition : Condition}
    (split : past ++ (dependency, condition) :: left = s.dependsOn.entries) :
  dependency ∈ s.dependencies
  := by
  have mem : (dependency, condition) ∈ s.dependsOn.entries := by simp [← split]
  apply List.mem_map_of_mem (f := Prod.fst) mem

namespace Launch

variable {τ σ : Type}

/-- The worker of a service that is ready has made all its marks. -/
structure Confirmed (trace : List Worker.Turn) (l : Launch τ σ) (s : Service)
    (state : ServiceState) : Prop where
  stands : ∃ w, l.At s w state ∧ (w = .readying [] ∨ w = .ended none)
  readying : state.Readying s trace []

/-- What the services that depend on a service in a given way rely upon. -/
def Granted (trace : List Worker.Turn) (l : Launch τ σ) (dependency : String) : Condition → Prop
  | .started => Launched trace dependency
  | .healthy => ∃ r state, r.name = dependency ∧ l.Confirmed trace r state

/-- A worker has been granted what it has waited for so far. -/
def Waited (trace : List Worker.Turn) (l : Launch τ σ) (s : Service) : Worker → Prop
  | .awaiting left => ∃ past, past ++ left = s.dependsOn.entries
      ∧ ∀ e ∈ past, l.Granted trace e.1 e.2
  | .judging dependency left => ∃ past condition,
      past ++ (dependency, condition) :: left = s.dependsOn.entries
      ∧ (∀ e ∈ past, l.Granted trace e.1 e.2)
      ∧ Worker.arrived l.stack dependency condition = true
  | .gating | .starting => ∀ e ∈ s.dependsOn.entries, l.Granted trace e.1 e.2
  | _ => True

/-- All workers have been granted what they have waited for. -/
def Waiting (trace : List Worker.Turn) (l : Launch τ σ) : Prop :=
  ∀ s w state, l.At s w state → l.Waited trace s w

/-! ### What is found remains true -/

theorem arrived_iff {k : Stack τ σ} {dependency : String} {condition : Condition} :
  Worker.arrived k dependency condition = true
    ↔ ∃ state, k.states.get? dependency = some state ∧ state.has condition.flag = true
  := by
  unfold Worker.arrived
  cases condition <;> simp only [Option.any_eq_true] <;> rfl

section Later

variable {trace trace' : List Worker.Turn} {l l' : Launch τ σ}

/-- What a later moment of a run keeps of an earlier one. -/
structure Later (trace trace' : List Worker.Turn) (l l' : Launch τ σ) : Prop where
  goesOn : trace <+: trace'
  grows : ∀ name s, l.stack.states.get? name = some s →
    ∃ s', l'.stack.states.get? name = some s' ∧ s.Grows s'
  confirmed : ∀ s state, l.Confirmed trace s state → ∃ state', l'.Confirmed trace' s state'

theorem Later.granted {dependency : String} {condition : Condition}
    (later : Later trace trace' l l')
    (granted : l.Granted trace dependency condition) :
  l'.Granted trace' dependency condition
  := by
  cases condition with
  | started => apply later.goesOn.subset granted
  | healthy =>
    obtain ⟨r, state, named, confirmed⟩ := granted
    obtain ⟨state', kept⟩ := later.confirmed r state confirmed
    exact ⟨r, state', named, kept⟩

theorem Later.arrived {dependency : String} {condition : Condition}
    (later : Later trace trace' l l')
    (came : Worker.arrived l.stack dependency condition = true) :
  Worker.arrived l'.stack dependency condition = true
  := by
  rw [arrived_iff] at came ⊢
  obtain ⟨state, found, set⟩ := came
  obtain ⟨state', found', grows⟩ := later.grows _ _ found
  exact ⟨state', found', grows _ set⟩

theorem Later.waited {s : Service} {w : Worker} (later : Later trace trace' l l')
    (waited : l.Waited trace s w) :
  l'.Waited trace' s w
  := by
  cases w with
  | awaiting left =>
    obtain ⟨past, split, granted⟩ := waited
    exact ⟨past, split, fun e he => later.granted (granted e he)⟩
  | judging dependency left =>
    obtain ⟨past, condition, split, granted, came⟩ := waited
    exact ⟨past, condition, split, fun e he => later.granted (granted e he), later.arrived came⟩
  | gating | starting => apply fun e he => later.granted (waited e he)
  | _ => trivial

end Later

section Kinds

variable {h : Host τ σ} {trace : List Worker.Turn} {l l' : Launch τ σ} {s : Service} {w w' : Worker}
  {state state' : ServiceState} {call : Option Worker.Call}

/-- No turn of a worker takes a flag back. -/
theorem grows_of_moves {k : Stack τ σ} {world : σ}
    (moves : Worker.Moves h s k state w call w' state' world) :
  state.Grows state'
  := by
  cases moves with
  | announce | ready | fail => apply ServiceState.grows_mark
  | prepare | hear =>
    intro f set
    simpa using set
  | _ => exact .refl state

/-- A worker that has made all its marks stays where it is, or ends. -/
theorem stands_of_moves {k : Stack τ σ} {world : σ}
    (moves : Worker.Moves h s k state w call w' state' world)
    (stands : w = .readying [] ∨ w = .ended none) :
  w' = .ended none ∧ state' = state
  := by
  rcases stands with rfl | rfl
  · cases moves with
    | confirm => exact ⟨rfl, rfl⟩
    | shutDown waits => simp at waits
    | lose looks => simp at looks
    | skip _ stands => simp at stands
  · cases moves with
    | shutDown waits => simp at waits
    | lose looks => simp at looks
    | skip _ stands => simp at stands

theorem Takes.later (takes : Takes h l s w state call w' state' l') (trace : List Worker.Turn) :
  Later trace (trace ++ [⟨s.name, call⟩]) l l'
  where
  goesOn := List.prefix_append ..
  grows name seen found := by
    rw [takes.leaves.states]
    by_cases same : name = s.name
    · rw [same, takes.before.state] at found
      cases found
      exact ⟨state', if_pos same, grows_of_moves takes.moves⟩
    · exact ⟨seen, by rw [if_neg same, found], .refl seen⟩
  confirmed r seen := by
    rintro ⟨⟨v, here, stands⟩, readying⟩
    have goesOn : trace ⊆ trace ++ [⟨s.name, call⟩] := List.subset_append_left ..
    rcases takes.cases_before here with ⟨rfl, rfl, rfl⟩ | ⟨-, after⟩
    · obtain ⟨rfl, rfl⟩ := stands_of_moves takes.moves stands
      exact ⟨_, ⟨_, takes.after, .inr rfl⟩, readying.later goesOn (.refl _)⟩
    · exact ⟨seen, ⟨v, after, stands⟩, readying.later goesOn (.refl _)⟩

theorem later_join :
  Later trace trace l l.join
  where
  goesOn := List.prefix_refl trace
  grows name s found := ⟨s, by rw [states_join, found], .refl s⟩
  confirmed s state := by
    rintro ⟨⟨w, here, stands⟩, readying⟩
    exact ⟨state, ⟨w, at_join_iff.mpr here, stands⟩, readying⟩

theorem later_other {k : Stack τ σ} (change : l.stack.Disturbs k) :
  Later trace trace l { l with stack := k }
  where
  goesOn := List.prefix_refl trace
  grows name s found := by
    obtain ⟨s', found', disturbed⟩ := change.states name s found
    exact ⟨s', found', disturbed.grows⟩
  confirmed s state := by
    rintro ⟨⟨w, here, stands⟩, readying⟩
    obtain ⟨state', there, disturbed⟩ := here.disturb change
    exact ⟨state', ⟨w, there, stands⟩, readying.later (List.Subset.refl _) disturbed⟩

end Kinds

/-! ### All workers wait -/

section Run

variable {h : Host τ σ} {others : Stack τ σ → Stack τ σ → Prop} {trace : List Worker.Turn}
  {l₀ l l' : Launch τ σ} {s : Service} {w w' : Worker} {state state' : ServiceState}
  {call : Option Worker.Call}

/-- A dependency whose flag has come and that has not failed can be relied upon. -/
theorem Sound.granted {r : Service} {v : Worker} {seen : ServiceState} (sound : l.Sound trace)
    (here : l.At r v seen) {condition : Condition} (came : seen.has condition.flag = true)
    (well : seen.failed = false) :
  l.Granted trace r.name condition
  := by
  have sound := sound r v seen here
  cases condition with
  | started => apply sound.launched came well
  | healthy =>
    rcases sound.of_settled came with ⟨readying, stands⟩ | ⟨failing, -⟩
    · exact ⟨r, seen, rfl, ⟨v, here, stands⟩, readying⟩
    · rw [failing.done.failed] at well
      cases well

theorem waited_giveUp (fault : Fault) :
  l.Waited trace s (Worker.giveUp s fault).1
  := by
  unfold Worker.giveUp
  split <;> trivial

/-- A worker goes on to the next dependency only when it has been granted the one before. -/
theorem Staffed.waited {world : σ} (staffed : l.Staffed) (sound : l.Sound trace)
    (service : l.services.get? s.name = some s) (waited : l.Waited trace s w)
    (moves : Worker.Moves h s l.stack state w call w' state' world) :
  l.Waited trace s w'
  := by
  cases moves with
  | arrive came =>
    obtain ⟨past, split, granted⟩ := waited
    exact ⟨past, _, split, granted, came⟩
  | gather =>
    obtain ⟨past, split, granted⟩ := waited
    rw [List.append_nil] at split
    intro e he
    apply granted e (split ▸ he)
  | @pass dependency left other found well =>
    obtain ⟨past, condition, split, granted, came⟩ := waited
    refine ⟨past ++ [(dependency, condition)], by simpa using split, ?_⟩
    intro e he
    rcases List.mem_append.mp he with old | new
    · apply granted e old
    · obtain rfl := List.mem_singleton.mp new
      have depends := mem_dependencies_of_split split
      obtain ⟨r, v, seen, rfl, here⟩ := staffed.exists_dependency service depends
      obtain rfl : other = seen := Option.some.inj (found.symm.trans here.state)
      obtain ⟨state, same, set⟩ := arrived_iff.mp came
      obtain rfl : state = other := Option.some.inj (same.symm.trans found)
      apply sound.granted here set well
  | enter => exact waited
  | shutDown | lose | startFault | pollFault => apply waited_giveUp _
  | _ => trivial

theorem Fresh.waiting (fresh : l.Fresh) :
  l.Waiting []
  := by
  intro s w state here
  obtain ⟨rfl, -⟩ := fresh.start s w state here
  exact ⟨[], rfl, by simp⟩

/-- In every run all workers have been granted what they have waited for. -/
theorem Run.waiting (run : l₀.Run h others trace l) (fresh : l₀.Fresh)
    (bound : ∀ k k', others k k' → k.Disturbs k') :
  l.Sound trace ∧ l.Waiting trace
  := by
  refine run.invariant (P := fun trace l => l.Sound trace ∧ l.Waiting trace) fresh.staffed bound
    ⟨fresh.sound, fresh.waiting⟩ ?_ ?_ ?_
  · rintro trace l l' s w state call w' state' staffed ⟨sound, waiting⟩ takes
    refine ⟨sound.turn takes, ?_⟩
    intro r v seen here
    rcases takes.cases_after here with ⟨rfl, rfl, rfl⟩ | ⟨-, before⟩
    · apply (takes.later trace).waited
      apply staffed.waited sound takes.before.service (waiting _ _ _ takes.before) takes.moves
    · apply (takes.later trace).waited (waiting r v seen before)
  · rintro trace l ⟨sound, waiting⟩
    refine ⟨sound.join, ?_⟩
    intro s w state here
    apply later_join.waited (waiting s w state (at_join_iff.mp here))
  · rintro trace l k staffed ⟨sound, waiting⟩ change
    refine ⟨sound.other staffed (bound _ _ change), ?_⟩
    intro s w state here
    obtain ⟨seen, before, -⟩ := here.of_disturb staffed (bound _ _ change)
    exact (later_other (bound _ _ change)).waited (waiting s w seen before)

end Run

/-! ### The start of a service -/

section Start

variable {h : Host τ σ} {k : Stack τ σ} {profiles services : List String} {active : Descriptor}

/-- Only a worker that stands at the start of its service calls the host for it. -/
theorem exists_starting {l : Launch τ σ} {name : String} {result : Except Fault Unit}
    (calls : l.call? h name = some (.start result)) :
  ∃ s, l.services.get? name = some s ∧ l.workers.get? name = some .starting
  := by
  rw [Launch.call?] at calls
  split at calls
  · next s w found there =>
    cases w with
    | starting => exact ⟨s, found, there⟩
    | checking spent left =>
      obtain ⟨check, -, wrong⟩ := Option.map_eq_some_iff.mp calls
      cases wrong
    | _ => cases calls
  · cases calls

/-- Whenever a worker calls the host to start its service, every dependency that has to be healthy
is ready: its worker has made all its marks, it has been launched, and a check of it has succeeded
if it has one.  Every dependency that has to be started has been launched. -/
theorem start_after_dependencies (accepted : k.plan profiles services = .ok active) :
  ∃ l₀, k.launch profiles services = .ok l₀ ∧
    ∀ trace l, l₀.Run h Stack.Disturbs trace l →
      ∀ s result, active.services.get? s.name = some s →
        l.call? h s.name = some (.start result) →
        (∀ d, (d, .healthy) ∈ s.dependsOn.entries → ∃ r w state, r.name = d ∧ l.At r w state
          ∧ (w = .readying [] ∨ w = .ended none) ∧ state.ready = true ∧ state.failed = false
          ∧ Usable trace r)
        ∧ ∀ d, (d, .started) ∈ s.dependsOn.entries → Launched trace d
  := by
  obtain ⟨waves, ok, launched⟩ := exists_begin accepted
  refine ⟨_, launched, ?_⟩
  intro trace l run s result found calls
  have fresh : (begin k active waves).Fresh := fresh_begin ok
  obtain ⟨-, waiting⟩ := run.waiting fresh fun _ _ => id
  have service : l.services.get? s.name = some s := by rw [run.services]; exact found
  obtain ⟨-, -, starting⟩ := exists_starting calls
  obtain ⟨w, state, here⟩ := (run.staffed fresh.staffed fun _ _ => id).staffed s service
  obtain rfl : w = .starting := Option.some.inj (here.worker.symm.trans starting)
  have granted := waiting s _ state here
  constructor
  · intro d depends
    obtain ⟨r, seen, named, ⟨v, there, stands⟩, readying⟩ := granted _ depends
    have done := readying.done
    exact ⟨r, v, seen, named, there, stands, done.ready, done.failed, readying.usable⟩
  · intro d depends
    apply granted _ depends

/-- The web server of the sample is started once the database is ready, which has no health
check. -/
theorem start_after_dependencies_web :
  ∃ l₀, (Sample.stack ()).plan [] [] = .ok (Sample.stack ()).descriptor
    ∧ (Sample.stack ()).launch [] [] = .ok l₀
    ∧ ∃ trace l, l₀.Run Sample.host Stack.Disturbs trace l
      ∧ l.call? Sample.host "web" = some (.start (.ok ()))
      ∧ ∃ r w state, r.name = "database" ∧ l.At r w state
        ∧ (w = .readying [] ∨ w = .ended none) ∧ state.ready = true ∧ state.failed = false
        ∧ Usable trace r
  := by
  obtain ⟨l₀, launched, waits⟩ :=
    start_after_dependencies (h := Sample.host) (Sample.plan_stack ())
  refine ⟨l₀, Sample.plan_stack (), launched, ?_⟩
  cases (Sample.launch_stack ()).symm.trans launched
  have run : (Sample.launch ()).Run Sample.host Stack.Disturbs [] _ := .start
  obtain ⟨trace, run⟩ := run.turns false
    (List.replicate 12 "database" ++ List.replicate 4 "web")
  refine ⟨trace, _, run, rfl, ?_⟩
  exact (waits trace _ run Sample.web (.ok ()) rfl rfl).1 "database" (by simp [Sample.web])

end Start

end Launch

end Muster
