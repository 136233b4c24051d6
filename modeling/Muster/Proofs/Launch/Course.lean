import Muster.Proofs.Launch.Forecast
import Muster.Proofs.Launch.Waiting
/-!
# Workers in a scenario

When the host plays a scenario and nobody asks for a stop, each worker follows a course that is
laid down beforehand: wherever it stands, its service is bound for what the forecast says.  Other
workers matter only through the dependencies that have settled, and these have come to their
foretold ends, so the order in which the workers take turns makes no difference.  This goes on until
it is taken note of that a worker has died, as one does only if the forecast says so.
-/

namespace Muster

/-- Whether a turn is a call of the host to start the service of the given name. -/
def Worker.Turn.startsService (turn : Worker.Turn) (name : String) : Bool :=
  match turn.call with
  | some (.start _) => turn.service = name
  | _ => false

/-- How often the host has been called to start a service. -/
def starts (trace : List Worker.Turn) (name : String) : Nat :=
  trace.countP (·.startsService name)

theorem starts_concat (trace : List Worker.Turn) (turn : Worker.Turn) (name : String) :
  starts (trace ++ [turn]) name
    = starts trace name + if turn.startsService name then 1 else 0
  := by
  simp [starts, List.countP_append, List.countP_singleton]

/-- A host plays a scenario, and asks for no stop.  Its health checks of each service are counted,
and say what the scenario has at this place; nothing else changes the counts.  It waits as long as
it is to, unless the scenario says that this is too long. -/
structure Host.Plays {τ σ : Type} (h : Host τ σ) (scenario : Scenario)
    (played : String → σ → Nat) : Prop where
  start : ∀ s w, (h.start s w).1.result = (scenario.start s.name).result.mapError .stack
  check : ∀ s check w,
    (h.check s check w).1.result = .ok (scenario.check s.name (played s.name w))
  start_calm : ∀ s w, (h.start s w).1.stops = false
  check_calm : ∀ s check w, (h.check s check w).1.stops = false
  played_start : ∀ s w name, played name (h.start s w).2 = played name w
  wait : ∀ time w, scenario.accepts time = true →
    ∃ w', h.wait time w = .ok w' ∧ ∀ name, played name w' = played name w
  refuse : ∀ time w, scenario.accepts time = false → h.wait time w = .error .overflow
  played_check : ∀ s check w name, played name (h.check s check w).2
    = played name w + if name = s.name then 1 else 0

/-- A host that plays a scenario; its state says how often each health check has been run. -/
def Scenario.host (scenario : Scenario) : Host Int (String → Nat) where
  clock _ := 0
  start s played := ({ result := (scenario.start s.name).result.mapError .stack }, played)
  stop _ _ played := (.ok (), played)
  isRunning _ played := (.ok true, played)
  exitCode _ played := (.ok none, played)
  check s _ played := (.ok (scenario.check s.name (played s.name)),
    fun name => played name + if name = s.name then 1 else 0)
  teardown played := (.ok (), played)
  wait time played := if scenario.accepts time then .ok played else .error .overflow

/-- Every scenario is played by a host. -/
theorem Scenario.plays_host (scenario : Scenario) :
  scenario.host.Plays scenario fun name played => played name
  where
  start _ _ := rfl
  check _ _ _ := rfl
  start_calm _ _ := rfl
  check_calm _ _ _ := rfl
  played_start _ _ _ := rfl
  wait time w accepted := ⟨w, by simp [Scenario.host, accepted], fun _ => rfl⟩
  refuse time w refused := by simp [Scenario.host, refused]
  played_check _ _ _ _ := rfl

section Plays

variable {τ σ : Type} {h : Host τ σ} {scenario : Scenario} {played : String → σ → Nat}
  (plays : h.Plays scenario played) {time : Float} {world world' : σ} {fault : Fault}

include plays in
theorem Host.Plays.of_waited (waited : h.wait time world = .ok world') :
  scenario.accepts time = true ∧ ∀ name, played name world' = played name world
  := by
  cases accepted : scenario.accepts time with
  | true =>
    obtain ⟨w, same, keeps⟩ := plays.wait time world accepted
    cases waited.symm.trans same
    exact ⟨rfl, keeps⟩
  | false => cases waited.symm.trans (plays.refuse time world accepted)

include plays in
theorem Host.Plays.of_refused (refused : h.wait time world = .error fault) :
  scenario.accepts time = false ∧ fault = .overflow
  := by
  cases accepted : scenario.accepts time with
  | true =>
    obtain ⟨w, same, -⟩ := plays.wait time world accepted
    cases refused.symm.trans same
  | false =>
    cases refused.symm.trans (plays.refuse time world accepted)
    exact ⟨rfl, rfl⟩

end Plays

/-- What is known about a service while it is polled. -/
def ServiceState.polled (name : String) (output : String) : ServiceState :=
  { Poll.noteStart (ServiceState.markStarted { name }) with lastOutput := output }

/-- Where a poll stands on its course. -/
def Poll.OnCourse (scenario : Scenario) (s : Service) (check : HealthCheck) (fate : Fate)
    (checks : Nat) (state : ServiceState) : Poll → Prop
  | settling left =>
    fate = (if scenario.accepts check.startPeriod then scenario.poll s.name check.interval 0 left
      else .broken "") ∧ checks = 0 ∧ state = .polled s.name ""
  | due spent left =>
    fate = scenario.poll s.name check.interval spent left ∧ checks = spent
      ∧ ∃ output, state = .polled s.name output
  | resting spent left => ∃ output,
    fate = (if scenario.accepts check.interval then
      scenario.poll s.name check.interval spent left else .broken output) ∧ checks = spent
      ∧ state = .polled s.name output
  | ended (.healthy result) => fate = .healthy result.output ∧ state = .polled s.name result.output
  | ended (.exhausted attempts output) =>
    fate = .unhealthy attempts output ∧ state = .polled s.name output
  | ended (.broken fault) => ∃ output,
    fate = .broken output ∧ fault = .overflow ∧ state = .polled s.name output
  | ended .interrupted => False

/-- Nothing has been done for a service yet. -/
structure Untouched (s : Service) (starts checks : Nat) (state : ServiceState) : Prop where
  state : state = { name := s.name }
  starts : starts = 0
  checks : checks = 0

/-- A service has been started, once and well, and nothing held it back. -/
structure Underway (scenario : Scenario) (fates : Table Fate) (s : Service) (starts : Nat) :
    Prop where
  fate : scenario.fate fates s = scenario.alone s
  start : (scenario.start s.name).result = .ok ()
  starts : starts = 1

/-- The end of the start of a service is near: what it will be is certain, and with the marks that
are left its state is as foretold. -/
structure Bound (fate : Fate) (s : Service) (starts : Nat) (left : List Mark)
    (state : ServiceState) : Prop where
  starts : starts = if fate.isBlocked then 0 else 1
  state : state.markAll left = fate.state s.name

namespace Worker

/-- Where a worker stands on its course.  The dependencies for which `came` holds have settled;
`starts` and `checks` count the calls of the host for the service. -/
def OnCourse (scenario : Scenario) (fates : Table Fate) (s : Service) (came : String → Prop)
    (starts checks : Nat) (state : ServiceState) : Worker → Prop
  | awaiting left => Untouched s starts checks state
      ∧ ∃ past, past ++ left = s.dependsOn.entries ∧ ∀ e ∈ past, Scenario.fails fates e.1 = false
  | judging dependency left => Untouched s starts checks state
      ∧ (∃ past condition, past ++ (dependency, condition) :: left = s.dependsOn.entries
        ∧ ∀ e ∈ past, Scenario.fails fates e.1 = false)
      ∧ came dependency
  | blaming dependency => Untouched s starts checks state
      ∧ s.dependencies.find? (Scenario.fails fates) = some dependency ∧ came dependency
  | gating | starting => Untouched s starts checks state
      ∧ scenario.fate fates s = scenario.alone s
  | announcing left => Underway scenario fates s starts ∧ checks = 0
      ∧ state.markAll left = ServiceState.markStarted { name := s.name }
  | preparing => Underway scenario fates s starts ∧ checks = 0
      ∧ state = ServiceState.markStarted { name := s.name } ∧ s.hasHealthCheck = true
  | polling p => Underway scenario fates s starts ∧ ∃ check, s.activeCheck? = some check
      ∧ p.OnCourse scenario s check (scenario.fate fates s) checks state
  | checking spent left => Underway scenario fates s starts ∧ ∃ check, s.activeCheck? = some check
      ∧ (Poll.due spent left).OnCourse scenario s check (scenario.fate fates s) checks state
  | hearing spent left reply => Underway scenario fates s starts
      ∧ ∃ check, s.activeCheck? = some check ∧ reply = .ok (scenario.check s.name spent)
      ∧ scenario.fate fates s = scenario.poll s.name check.interval spent left
      ∧ checks = spent + 1 ∧ ∃ output, state = .polled s.name output
  | readying left => Bound (scenario.fate fates s) s starts left state
      ∧ (scenario.fate fates s).crash? = none
  | failing left fault => Bound (scenario.fate fates s) s starts left state
      ∧ (scenario.fate fates s).crash? = fault
  | ended fault => Bound (scenario.fate fates s) s starts [] state
      ∧ (scenario.fate fates s).crash? = fault

section Steps

variable {scenario : Scenario} {fates : Table Fate} {s : Service} {came came' : String → Prop}
  {begun checks : Nat} {state : ServiceState} {w : Worker}

theorem OnCourse.mono (course : w.OnCourse scenario fates s came begun checks state)
    (keeps : ∀ d, came d → came' d) :
  w.OnCourse scenario fates s came' begun checks state
  := by
  cases w with
  | judging => exact ⟨course.1, course.2.1, keeps _ course.2.2⟩
  | blaming => exact ⟨course.1, course.2.1, keeps _ course.2.2⟩
  | _ => exact course

/-- A service that has settled has come to its foretold end. -/
theorem OnCourse.state_eq {trace : List Worker.Turn}
    (course : w.OnCourse scenario fates s came begun checks state) (sound : w.Sound s trace state)
    (settled : state.settled = true) :
  state = (scenario.fate fates s).state s.name
  := by
  rcases sound.of_settled settled with ⟨-, rfl | rfl⟩ | ⟨-, fault, rfl | rfl⟩
  · apply course.1.state
  · apply course.1.state
  · apply course.1.state
  · apply course.1.state

end Steps

end Worker

/-! ### The turns of a worker -/

section Turns

variable {scenario : Scenario} {fates : Table Fate} {s : Service} {begun checks : Nat}
  {state : ServiceState}

theorem Underway.of_start (untouched : Untouched s begun checks state)
    (fate : scenario.fate fates s = scenario.alone s)
    (start : (scenario.start s.name).result = .ok ()) :
  Underway scenario fates s (begun + 1)
  := ⟨fate, start, by rw [untouched.starts]⟩

theorem StartOutcome.result_eq_ok {outcome : StartOutcome}
    (ok : outcome.result.mapError Fault.stack = .ok ()) :
  outcome.result = .ok ()
  := by
  cases outcome with
  | success => rfl
  | unpulled | refused => cases ok

/-- A worker whose service cannot be started gives up with the text of the fault. -/
theorem StartOutcome.exists_of_error (s : Service) {outcome : StartOutcome} {fault : Fault}
    (failed : outcome.result.mapError Fault.stack = .error fault) :
  ∃ cause, outcome.result = .error cause
    ∧ (Worker.giveUp s fault).1 = .failing (Mark.ofFailure .failed cause.message) none
  := by
  cases outcome with
  | success => cases failed
  | unpulled | refused =>
    cases failed
    exact ⟨_, rfl, rfl⟩

/-- A service that cannot be started fails. -/
theorem bound_of_startFault (untouched : Untouched s begun checks state)
    (fate : scenario.fate fates s = scenario.alone s) {fault : StackFault}
    (start : (scenario.start s.name).result = .error fault) :
  Bound (scenario.fate fates s) s (begun + 1) (Mark.ofFailure .failed fault.message) state
    ∧ (scenario.fate fates s).crash? = none
  := by
  have failed : scenario.fate fates s = .failed fault := by rw [fate, Scenario.alone, start]
  rw [failed, untouched.state, untouched.starts]
  exact ⟨⟨rfl, rfl⟩, rfl⟩

/-- A service without a check that is run is ready when it has been started. -/
theorem bound_of_unchecked (underway : Underway scenario fates s begun)
    (unchecked : s.hasHealthCheck = false)
    (marked : state = ServiceState.markStarted { name := s.name }) :
  Bound (scenario.fate fates s) s begun (Mark.ofReady false) state
    ∧ (scenario.fate fates s).crash? = none
  := by
  have none : s.activeCheck? = none := by simpa [Service.hasHealthCheck] using unchecked
  have running : scenario.fate fates s = .running := by
    rw [underway.fate, Scenario.alone, underway.start, none]
  rw [running, underway.starts, marked]
  exact ⟨⟨rfl, rfl⟩, rfl⟩

theorem bound_of_healthy {output : String} (underway : Underway scenario fates s begun)
    (healthy : scenario.fate fates s = .healthy output) :
  Bound (scenario.fate fates s) s begun (Mark.ofReady true) (.polled s.name output)
    ∧ (scenario.fate fates s).crash? = none
  := by
  rw [healthy, underway.starts]
  exact ⟨⟨rfl, rfl⟩, rfl⟩

theorem bound_of_unhealthy {attempts : Nat} {output : String}
    (underway : Underway scenario fates s begun)
    (unhealthy : scenario.fate fates s = .unhealthy attempts output) :
  Bound (scenario.fate fates s) s begun
    (Mark.ofFailure .unhealthy (StackFault.exhausted s.name attempts output).message)
    (.polled s.name output) ∧ (scenario.fate fates s).crash? = none
  := by
  rw [unhealthy, underway.starts]
  exact ⟨⟨rfl, rfl⟩, rfl⟩

/-- A service that cannot be waited for fails, and its worker dies. -/
theorem bound_of_broken {output : String} (underway : Underway scenario fates s begun)
    (broken : scenario.fate fates s = .broken output) :
  Bound (scenario.fate fates s) s begun (Mark.ofFailure .failed Fault.overflow.message)
    (.polled s.name output) ∧ (scenario.fate fates s).crash? = some .overflow
  := by
  rw [broken, underway.starts]
  exact ⟨⟨rfl, rfl⟩, rfl⟩

theorem bound_of_blocked {dependency : String} {status : Status}
    (untouched : Untouched s begun checks state)
    (blocked : scenario.fate fates s = .blocked dependency status) :
  Bound (scenario.fate fates s) s begun
    (Mark.ofFailure .blocked (Worker.blame dependency status)) state
    ∧ (scenario.fate fates s).crash? = none
  := by
  rw [blocked, untouched.state, untouched.starts]
  exact ⟨⟨rfl, rfl⟩, rfl⟩

theorem Bound.mark {fate : Fate} {m : Mark} {left : List Mark}
    (bound : Bound fate s begun (m :: left) state) :
  Bound fate s begun left (state.mark m)
  := ⟨bound.starts, bound.state⟩

/-- The poll of a service begins on its course. -/
theorem Poll.onCourse_start {check : HealthCheck} (underway : Underway scenario fates s begun)
    (active : s.activeCheck? = some check) :
  (Poll.start check).OnCourse scenario s check (scenario.fate fates s) 0 (.polled s.name "")
  := by
  have fate : scenario.fate fates s = scenario.pollAll s.name check := by
    rw [underway.fate, Scenario.alone, underway.start, active]
  rw [Scenario.pollAll] at fate
  unfold Poll.start
  simp only
  split
  · next settles =>
    refine ⟨?_, rfl, rfl⟩
    rw [fate]
    cases scenario.accepts check.startPeriod <;> simp [settles]
  · next unsettled =>
    refine ⟨?_, rfl, "", rfl⟩
    rw [fate, if_neg (by simp [unsettled])]

section Waits

variable {p : Poll} {check : HealthCheck} {fate : Fate} {time : Float}

/-- A poll that has waited is on its course afterwards. -/
theorem Poll.onCourse_wake (course : p.OnCourse scenario s check fate checks state)
    (waits : p.delay? check = some time) (accepted : scenario.accepts time = true) :
  (p.wake false).OnCourse scenario s check fate checks state
  := by
  cases p with
  | settling left =>
    cases waits
    obtain ⟨fate, checks, state⟩ := course
    rw [if_pos accepted] at fate
    exact ⟨fate, checks, "", state⟩
  | resting spent left =>
    cases waits
    obtain ⟨output, fate, checks, state⟩ := course
    rw [if_pos accepted] at fate
    exact ⟨fate, checks, output, state⟩
  | due | ended => cases waits

/-- A poll that cannot wait so long is on its course afterwards. -/
theorem Poll.onCourse_stall (course : p.OnCourse scenario s check fate checks state)
    (waits : p.delay? check = some time) (refused : scenario.accepts time = false) :
  (Poll.ended (.broken .overflow)).OnCourse scenario s check fate checks state
  := by
  cases p with
  | settling left =>
    cases waits
    obtain ⟨fate, -, state⟩ := course
    rw [refused, if_neg Bool.false_ne_true] at fate
    exact ⟨"", fate, rfl, state⟩
  | resting spent left =>
    cases waits
    obtain ⟨output, fate, -, state⟩ := course
    rw [refused, if_neg Bool.false_ne_true] at fate
    exact ⟨output, fate, rfl, state⟩
  | due | ended => cases waits

/-- A poll that hears what the scenario has to say is on its course afterwards. -/
theorem Poll.onCourse_hear {spent left : Nat}
    (foretold : fate = scenario.poll s.name check.interval spent left) :
  (Poll.hear false spent left (.ok (scenario.check s.name spent))).OnCourse scenario s check fate
    (spent + 1) (.polled s.name (scenario.check s.name spent).output)
  := by
  unfold Poll.hear
  simp only [Bool.false_eq_true, if_false]
  cases left with
  | zero =>
    simp only [Scenario.poll] at foretold
    split
    · next success =>
      rw [if_pos success] at foretold
      exact ⟨foretold, rfl⟩
    · next failure =>
      rw [if_neg failure] at foretold
      exact ⟨foretold, rfl⟩
  | succ left =>
    simp only [Scenario.poll] at foretold
    split
    · next success =>
      rw [if_pos success] at foretold
      exact ⟨foretold, rfl⟩
    · next failure =>
      rw [if_neg failure] at foretold
      exact ⟨_, foretold, rfl, rfl⟩

end Waits

end Turns

section Moves

variable {τ σ : Type} {h : Host τ σ} {scenario : Scenario} {played : String → σ → Nat}
  {fates : Table Fate} {s : Service} {k : Stack τ σ} {begun : Nat} {state state' : ServiceState}
  {w w' : Worker} {call : Option Worker.Call} {world : σ}

/-- What is known of the dependencies of a service: each has a state, and when it has settled, this
is as foretold. -/
structure Settles (fates : Table Fate) (s : Service) (k : Stack τ σ) : Prop where
  known : ∀ d ∈ s.dependencies, ∃ other, k.states.get? d = some other
  final : ∀ d ∈ s.dependencies, ∀ other, k.states.get? d = some other → other.settled = true →
    other.failed = Scenario.fails fates d ∧ (fates.get? d).map Fate.status = some other.status

/-- The dependencies that a worker can go past. -/
def Came (k : Stack τ σ) (dependency : String) : Prop :=
  Worker.arrived k dependency .healthy = true

theorem Settles.of_came {dependency : String} {other : ServiceState} (settles : Settles fates s k)
    (depends : dependency ∈ s.dependencies) (came : Came k dependency)
    (found : k.states.get? dependency = some other) :
  other.failed = Scenario.fails fates dependency
    ∧ (fates.get? dependency).map Fate.status = some other.status
  := by
  obtain ⟨state, same, settled⟩ := Launch.arrived_iff.mp came
  rw [found] at same
  cases same
  apply settles.final dependency depends other found settled

/-- The first dependency that fails is the one that a worker finds first. -/
theorem find?_dependencies {past left : List (String × Condition)} {e : String × Condition}
    (split : past ++ e :: left = s.dependsOn.entries)
    (well : ∀ e ∈ past, Scenario.fails fates e.1 = false)
    (ill : Scenario.fails fates e.1 = true) :
  s.dependencies.find? (Scenario.fails fates) = some e.1
  := by
  have listed : s.dependencies = past.map Prod.fst ++ e.1 :: left.map Prod.fst := by
    simp [Service.dependencies, Table.keys, ← split]
  have none : (past.map Prod.fst).find? (Scenario.fails fates) = none := by
    simpa [List.find?_eq_none] using fun d c mem => well (d, c) mem
  rw [listed, List.find?_append, none, Option.none_or, List.find?_cons_of_pos ill]

theorem fate_of_all_well {past : List (String × Condition)}
    (all : past = s.dependsOn.entries) (well : ∀ e ∈ past, Scenario.fails fates e.1 = false) :
  scenario.fate fates s = scenario.alone s
  := by
  have none : s.dependencies.find? (Scenario.fails fates) = none := by
    simpa [List.find?_eq_none, Service.dependencies, Table.keys, ← all] using
      fun d c mem => well (d, c) mem
  rw [Scenario.fate, none]

section Looks

variable {checks : Nat} {dependency : String} {left : List (String × Condition)}
  {other : ServiceState} (settles : Settles fates s k)

include settles in
/-- A worker goes past a dependency that it finds well. -/
theorem Worker.OnCourse.pass (found : k.states.get? dependency = some other) (well : other.failed = false)
    (course : (Worker.judging dependency left).OnCourse scenario fates s (Came k) begun checks
      state) :
  (Worker.awaiting left).OnCourse scenario fates s (Came k) begun checks state
  := by
  obtain ⟨untouched, ⟨past, condition, split, before⟩, came⟩ := course
  have depends := mem_dependencies_of_split split
  have fails := (settles.of_came depends came found).1
  refine ⟨untouched, past ++ [(dependency, condition)], by simpa using split, ?_⟩
  intro e mem
  rcases List.mem_append.mp mem with old | new
  · apply before e old
  · obtain rfl := List.mem_singleton.mp new
    rw [← fails, well]

include settles in
/-- The dependency that a worker finds failed is the first of those that fail. -/
theorem Worker.OnCourse.refuse (found : k.states.get? dependency = some other) (ill : other.failed = true)
    (course : (Worker.judging dependency left).OnCourse scenario fates s (Came k) begun checks
      state) :
  (Worker.blaming dependency).OnCourse scenario fates s (Came k) begun checks state
  := by
  obtain ⟨untouched, ⟨past, condition, split, before⟩, came⟩ := course
  have depends := mem_dependencies_of_split split
  have fails := (settles.of_came depends came found).1
  exact ⟨untouched, find?_dependencies split before (by rw [← fails, ill]), came⟩

include settles in
/-- A service is blocked by the dependency that its worker blames. -/
theorem Worker.OnCourse.block (found : k.states.get? dependency = some other)
    (course : (Worker.blaming dependency).OnCourse scenario fates s (Came k) begun checks state) :
  (Worker.failing (Mark.ofFailure .blocked (Worker.blame dependency other.status)) none).OnCourse
    scenario fates s (Came k) begun checks state
  := by
  obtain ⟨untouched, first, came⟩ := course
  have depends := List.mem_of_find?_eq_some first
  have status := (settles.of_came depends came found).2
  have blocked : scenario.fate fates s = .blocked dependency other.status := by
    rw [Scenario.fate, first]
    simp [status]
  exact bound_of_blocked untouched blocked

include settles in
/-- A worker looks at nothing but dependencies that have a state. -/
theorem Worker.OnCourse.found (looks : w = .blaming dependency ∨ ∃ left, w = .judging dependency left)
    (course : w.OnCourse scenario fates s (Came k) begun checks state) :
  k.states.get? dependency ≠ none
  := by
  have depends : dependency ∈ s.dependencies := by
    rcases looks with rfl | ⟨left, rfl⟩
    · apply List.mem_of_find?_eq_some course.2.1
    · obtain ⟨-, ⟨past, condition, split, -⟩, -⟩ := course
      apply mem_dependencies_of_split split
  obtain ⟨other, found⟩ := settles.known dependency depends
  rw [found]
  exact Option.some_ne_none other

end Looks

/-- A worker whose poll has not ended well gives up as foretold. -/
theorem Worker.OnCourse.giveUp {checks : Nat} {came : String → Prop} {ending : Poll.Ending}
    {fault : Fault} (failed : ending.outcome s.name = .error fault)
    (course : (Worker.polling (.ended ending)).OnCourse scenario fates s came begun checks state) :
  (Worker.giveUp s fault).1.OnCourse scenario fates s came begun checks state
  := by
  obtain ⟨underway, check, -, course⟩ := course
  cases ending with
  | healthy result => cases failed
  | exhausted attempts output =>
    cases failed
    rw [course.2]
    exact bound_of_unhealthy underway course.1
  | interrupted => apply course.elim
  | broken fault =>
    cases failed
    obtain ⟨output, broken, rfl, shown⟩ := course
    rw [shown]
    exact bound_of_broken underway broken

/-- A turn of a worker keeps it on its course. -/
theorem Worker.Moves.onCourse (moves : Worker.Moves h s k state w call w' state' world)
    (plays : h.Plays scenario played) (free : k.stopping = false) (settles : Settles fates s k)
    (healthy : ∀ e ∈ s.dependsOn.entries, e.2 = .healthy)
    (course : w.OnCourse scenario fates s (Came k) begun (played s.name k.world) state) :
  w'.OnCourse scenario fates s (Came k)
    (begun + if (Worker.Turn.mk s.name call).startsService s.name then 1 else 0)
    (played s.name world) state'
  := by
  cases moves with
  | @arrive dependency condition left came =>
    obtain ⟨untouched, past, split, well⟩ := course
    obtain rfl : condition = .healthy := healthy (dependency, condition) (by simp [← split])
    exact ⟨untouched, ⟨past, _, split, well⟩, came⟩
  | gather =>
    obtain ⟨untouched, past, split, well⟩ := course
    rw [List.append_nil] at split
    exact ⟨untouched, fate_of_all_well split well⟩
  | shutDown _ stop =>
    rw [free] at stop
    cases stop
  | pass found well => exact course.pass settles found well
  | refuse found ill => exact course.refuse settles found ill
  | block found => exact course.block settles found
  | lose looks missing => exact absurd missing (course.found settles looks)
  | enter => exact course
  | start ok =>
    obtain ⟨untouched, fate⟩ := course
    rw [plays.start] at ok
    have start := StartOutcome.result_eq_ok ok
    rw [plays.played_start]
    simp only [Worker.Turn.startsService, decide_true, if_true]
    exact ⟨.of_start untouched fate start, untouched.checks, by rw [untouched.state]; rfl⟩
  | @startFault fault failed =>
    obtain ⟨untouched, fate⟩ := course
    rw [plays.start] at failed
    obtain ⟨cause, start, gives⟩ := StartOutcome.exists_of_error s failed
    rw [plays.played_start, gives]
    simp only [Worker.Turn.startsService, decide_true, if_true]
    exact bound_of_startFault untouched fate start
  | announce => exact course
  | watch checked => exact ⟨course.1, course.2.1, course.2.2, checked⟩
  | skip unchecked stands =>
    rcases stands with rfl | rfl | ⟨p, rfl⟩ | ⟨spent, left, rfl⟩
    · apply bound_of_unchecked course.1 unchecked course.2.2
    · cases unchecked.symm.trans course.2.2.2
    · obtain ⟨check, active, -⟩ := course.2
      cases unchecked.symm.trans (Worker.hasHealthCheck_eq_true active)
    · obtain ⟨check, active, -⟩ := course.2
      cases unchecked.symm.trans (Worker.hasHealthCheck_eq_true active)
  | @prepare check found =>
    obtain ⟨underway, none, marked, -⟩ := course
    have start := Poll.onCourse_start underway found
    rw [none, marked]
    exact ⟨underway, check, found, start⟩
  | @wake p check time world active waits _ passed =>
    obtain ⟨underway, check', active', course⟩ := course
    cases active.symm.trans active'
    obtain ⟨accepted, same⟩ := plays.of_waited passed
    rw [same]
    exact ⟨underway, check, active, Poll.onCourse_wake course waits accepted⟩
  | rouse _ _ stop =>
    rw [free] at stop
    cases stop
  | @stall p check time fault active waits _ refused =>
    obtain ⟨underway, check', active', course⟩ := course
    cases active.symm.trans active'
    obtain ⟨unaccepted, rfl⟩ := plays.of_refused refused
    exact ⟨underway, check, active, Poll.onCourse_stall course waits unaccepted⟩
  | cancel stop =>
    rw [free] at stop
    cases stop
  | begin => exact course
  | @check spent left check found =>
    obtain ⟨underway, check', active, fate, count, shown⟩ := course
    rw [plays.check, plays.played_check, count]
    simp only [if_true]
    exact ⟨underway, check', active, rfl, fate, rfl, shown⟩
  | hear =>
    obtain ⟨underway, check, active, rfl, fate, count, output, shown⟩ := course
    rw [free, count, shown]
    exact ⟨underway, check, active, Poll.onCourse_hear fate⟩
  | pollOk checked ok =>
    obtain ⟨underway, check, -, course⟩ := course
    rw [Poll.Ending.eq_healthy ok] at course
    rw [course.2]
    apply bound_of_healthy underway course.1
  | pollFault failed => exact course.giveUp failed
  | ready => exact ⟨course.1.mark, course.2⟩
  | confirm => exact course
  | fail => exact ⟨course.1.mark, course.2⟩
  | fall => exact course

end Moves

/-! ### All workers are on their courses -/

namespace Launch

variable {τ σ : Type} {h : Host τ σ} {scenario : Scenario} {played : String → σ → Nat}
  {fates : Table Fate} {trace : List Worker.Turn} {l₀ l l' : Launch τ σ} {s : Service}
  {w w' : Worker} {state state' : ServiceState} {call : Option Worker.Call}

/-- All workers are on their courses, none has died of a fault, and no stop has been asked for. -/
structure OnCourse (scenario : Scenario) (played : String → σ → Nat) (fates : Table Fate)
    (trace : List Worker.Turn) (l : Launch τ σ) : Prop where
  workers : ∀ s w state, l.At s w state → w.OnCourse scenario fates s (Came l.stack)
    (starts trace s.name) (played s.name l.stack.world) state
  free : l.stack.stopping = false
  crash : l.crash = none

/-- It has been taken note of that a worker has died, and this was foretold. -/
structure BrokenOff (scenario : Scenario) (fates : Table Fate) (l : Launch τ σ) : Prop where
  crash : l.crash = some .overflow
  foretold : scenario.Crashes l.services fates

/-- What holds of a run in which the host plays a scenario: services wait for others to be
healthy, and there is a forecast. -/
structure Plain (scenario : Scenario) (fates : Table Fate) (services : Table Service) : Prop where
  healthy : ∀ s, services.get? s.name = some s → ∀ e ∈ s.dependsOn.entries, e.2 = .healthy
  foretells : scenario.Foretells services fates

/-- The dependencies of a service that have settled have come to their foretold ends. -/
theorem OnCourse.settles (course : l.OnCourse scenario played fates trace) (staffed : l.Staffed)
    (sound : l.Sound trace) (plain : Plain scenario fates l.services)
    (found : l.services.get? s.name = some s) :
  Settles fates s l.stack
  where
  known d hd := by
    obtain ⟨r, v, seen, rfl, here⟩ := staffed.exists_dependency found hd
    exact ⟨seen, here.state⟩
  final d hd other known settled := by
    obtain ⟨r, v, seen, rfl, here⟩ := staffed.exists_dependency found hd
    obtain rfl : seen = other := Option.some.inj (here.state.symm.trans known)
    have ended := (course.workers r v seen here).state_eq (sound r v seen here) settled
    have foretold := plain.foretells r here.service
    rw [Scenario.fails, foretold, ended]
    exact ⟨rfl, rfl⟩

/-- The turns of a worker count for its own service only. -/
theorem starts_other {name : String} (other : s.name ≠ name) :
  starts (trace ++ [⟨s.name, call⟩]) name = starts trace name
  := by
  have : (Worker.Turn.mk s.name call).startsService name = false := by
    rw [Worker.Turn.startsService]
    split
    · simpa using other
    · rfl
  simp [starts_concat, this]

theorem played_other {k : Stack τ σ} {world : σ} {name : String}
    (moves : Worker.Moves h s k state w call w' state' world) (plays : h.Plays scenario played)
    (other : name ≠ s.name) :
  played name world = played name k.world
  := by
  cases moves with
  | start | startFault => apply plays.played_start
  | wake _ _ _ passed => apply (plays.of_waited passed).2
  | check => simp [plays.played_check, other]
  | _ => rfl

theorem OnCourse.turn (course : l.OnCourse scenario played fates trace) (staffed : l.Staffed)
    (sound : l.Sound trace) (plain : Plain scenario fates l.services)
    (plays : h.Plays scenario played) (takes : Takes h l s w state call w' state' l') :
  l'.OnCourse scenario played fates (trace ++ [⟨s.name, call⟩])
  where
  workers r v seen here := by
    have came : ∀ d, Came l.stack d → Came l'.stack d := fun d => (takes.later trace).arrived
    rcases takes.cases_after here with ⟨rfl, rfl, rfl⟩ | ⟨other, before⟩
    · have settles := course.settles staffed sound plain takes.before.service
      have next := takes.moves.onCourse plays course.free settles
        (plain.healthy r takes.before.service) (course.workers _ _ _ takes.before)
      rw [starts_concat]
      apply next.mono came
    · rw [starts_other (Ne.symm other), played_other takes.moves plays other]
      apply (course.workers r v seen before).mono came
  free := by
    by_contra stop
    rcases takes.leaves.stops (by simpa using stop) with before | asked | ⟨check, asked⟩
    · cases course.free.symm.trans before
    · cases (plays.start_calm s l.stack.world).symm.trans asked
    · cases (plays.check_calm s check l.stack.world).symm.trans asked
  crash := takes.crash.trans course.crash

/-- A worker that dies was foretold to. -/
theorem OnCourse.join (course : l.OnCourse scenario played fates trace) (staffed : l.Staffed) :
  l.join.OnCourse scenario played fates trace ∨ l.join.BrokenOff scenario fates
  := by
  rw [Launch.join]
  split
  · next fault _ found =>
    right
    obtain ⟨w, hw, dead⟩ := List.exists_of_findSome?_eq_some found
    obtain ⟨s, state, here⟩ := staffed.exists_at hw
    have course := course.workers s w state here
    cases w with
    | ended fault' =>
      have crashes : (scenario.fate fates s).crash? = some fault := course.2.trans dead
      obtain rfl := Fate.eq_overflow_of_crash? crashes
      exact ⟨rfl, s, here.service, crashes⟩
    | _ => cases dead
  · exact .inl course

theorem BrokenOff.join (broken : l.BrokenOff scenario fates) :
  l.join.BrokenOff scenario fates
  := by
  have noted : l.join = l := by simp [Launch.join, broken.crash]
  rwa [noted]

/-- In every run in which the host plays a scenario all workers are on their courses, until it is
taken note of that one has died. -/
theorem Run.onCourse (run : l₀.Run h (fun _ _ => False) trace l) (fresh : l₀.Fresh)
    (plain : Plain scenario fates l₀.services) (plays : h.Plays scenario played)
    (unplayed : ∀ name, played name l₀.stack.world = 0) :
  l.OnCourse scenario played fates trace ∨ l.BrokenOff scenario fates
  := by
  induction run with
  | start =>
    refine .inl ⟨?_, fresh.free, fresh.crash⟩
    intro s w state here
    obtain ⟨rfl, rfl⟩ := fresh.start s w state here
    exact ⟨⟨rfl, rfl, unplayed _⟩, [], rfl, by simp⟩
  | turn run taken ih =>
    have staffed := run.staffed fresh.staffed (fun _ _ => False.elim)
    obtain ⟨s, w, state, w', state', rfl, takes⟩ := staffed.takes taken
    rcases ih with course | broken
    · have plain := run.services.symm ▸ plain
      have sound := run.sound fresh (fun _ _ => False.elim)
      exact .inl (course.turn staffed sound plain plays takes)
    · exact .inr ⟨takes.crash.trans broken.crash, takes.services.symm ▸ broken.foretold⟩
  | join run ih =>
    rcases ih with course | broken
    · have staffed := run.staffed fresh.staffed (fun _ _ => False.elim)
      exact course.join staffed
    · exact .inr broken.join
  | other run change ih => apply change.elim

end Launch

end Muster
