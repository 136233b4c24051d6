import Mathlib.Data.List.Find
import Mathlib.Logic.Relation
import Muster.Proofs.StartOrder
import Muster.Stack.Up
/-!
# What becomes of the services, foretold

A scenario says for every service how its start comes out and what its health checks say, and which
times can be waited for.  Where every service waits for those it depends on to be healthy, the
scenario settles what becomes of each of them, without any worker: a service is blocked by the first
of its dependencies that fails, and otherwise fares as it would alone.  This is a recursion on the
dependency graph, which `Scenario.forecast` carries out along a start order.
-/

namespace Muster

/-- How the start of a service comes out. -/
inductive StartOutcome where
  | success
  /-- The image of the service cannot be pulled. -/
  | unpulled (image : String) (reason : Option String)
  /-- The service cannot be started. -/
  | refused (message : String)

/-- What the host comes back with when it starts a service. -/
def StartOutcome.result : StartOutcome → Except StackFault Unit
  | success => .ok ()
  | unpulled image reason => .error (.imagePull image reason)
  | refused message => .error (.startFailed message)

/-- How the start of each service comes out, what its health checks say one after the other, and
which times can be waited for. -/
structure Scenario where
  start : String → StartOutcome
  check : String → Nat → CheckResult
  accepts : Float → Bool

/-- What becomes of a service. -/
inductive Fate where
  /-- It has no health check that is run. -/
  | running
  | healthy (output : String)
  | unhealthy (attempts : Nat) (output : String)
  | failed (fault : StackFault)
  /-- A dependency has failed, and ended with the given status. -/
  | blocked (dependency : String) (status : Status)
  /-- A time cannot be waited for; so far the health checks have said what is given. -/
  | broken (output : String)

namespace Fate

/-- The status in which a service ends. -/
def status : Fate → Status
  | running => .running
  | healthy _ => .healthy
  | unhealthy .. => .unhealthy
  | failed _ | broken _ => .failed
  | blocked .. => .blocked

/-- Whether a service fails. -/
def isFailed : Fate → Bool
  | running | healthy _ => false
  | unhealthy .. | failed _ | blocked .. | broken _ => true

/-- Whether a service is held back by another one. -/
def isBlocked : Fate → Bool
  | blocked .. => true
  | _ => false

/-- The fault that the worker of a service dies of. -/
def crash? : Fate → Option Fault
  | broken _ => some .overflow
  | _ => none

theorem eq_overflow_of_crash? {fate : Fate} {fault : Fault} (crashes : fate.crash? = some fault) :
  fault = .overflow
  := by
  cases fate with
  | broken output =>
    cases crashes
    rfl
  | _ => cases crashes

/-- Why a service of the given name fails. -/
def error? (name : String) : Fate → Option String
  | running | healthy _ => none
  | unhealthy attempts output => some (StackFault.exhausted name attempts output).message
  | failed fault => some fault.message
  | blocked dependency status => some ("dependency " ++ dependency ++ " is " ++ status.name)
  | broken _ => some Fault.overflow.message

/-- What is known in the end about a service of the given name. -/
def state (name : String) (fate : Fate) : ServiceState where
  name
  status := fate.status
  health := match fate with
    | healthy _ => .healthy
    | unhealthy .. => .unhealthy
    | broken _ => .starting
    | running | failed _ | blocked .. => .unchecked
  ready := !fate.isFailed
  failed := fate.isFailed
  error := fate.error? name
  lastOutput := match fate with
    | healthy output | unhealthy _ output | broken output => output
    | running | failed _ | blocked .. => ""
  launched := match fate with
    | running | healthy _ | unhealthy .. | broken _ => true
    | failed _ | blocked .. => false
  started := true
  settled := true

end Fate

namespace Scenario

/-- How the health checks of a service come out, when `spent` of them have been run and `left`
more may follow the next one, each after the given interval. -/
def poll (scenario : Scenario) (name : String) (interval : Float) (spent : Nat) :
    (left : Nat) → Fate
  | 0 =>
    let result := scenario.check name spent
    if result.success then .healthy result.output else .unhealthy (spent + 1) result.output
  | left + 1 =>
    let result := scenario.check name spent
    if result.success then .healthy result.output
    else if scenario.accepts interval then scenario.poll name interval (spent + 1) left
    else .broken result.output

/-- How the poll of a service comes out, which begins with the start period if there is one. -/
def pollAll (scenario : Scenario) (name : String) (check : HealthCheck) : Fate :=
  if Decimal.ofDecimal false 0 0 < check.startPeriod && !scenario.accepts check.startPeriod then
    .broken ""
  else scenario.poll name check.interval 0 (check.attempts - 1)

/-- What becomes of a service when nothing blocks it. -/
def alone (scenario : Scenario) (s : Service) : Fate :=
  match (scenario.start s.name).result with
  | .error fault => .failed fault
  | .ok () =>
    match s.activeCheck? with
    | none => .running
    | some check => scenario.pollAll s.name check

/-- Whether a service of a table fails. -/
def fails (fates : Table Fate) (name : String) : Bool :=
  (fates.get? name).any Fate.isFailed

/-- What becomes of a service when it is known what becomes of those it depends on. -/
def fate (scenario : Scenario) (fates : Table Fate) (s : Service) : Fate :=
  match s.dependencies.find? (fails fates) with
  | some d => .blocked d (((fates.get? d).map Fate.status).getD .pending)
  | none => scenario.alone s

/-- Adds what becomes of a service to what is known of those before it. -/
def foresee (scenario : Scenario) (services : Table Service) (fates : Table Fate)
    (name : String) : Table Fate :=
  match services.get? name with
  | some s => fates.insert name (scenario.fate fates s)
  | none => fates

/-- What becomes of the services of a start order. -/
def forecast (scenario : Scenario) (services : Table Service) (order : List String) : Table Fate :=
  order.foldl (scenario.foresee services) ∅

/-! ### The recursion -/

/-- What becomes of every service follows from what becomes of those it depends on. -/
def Foretells (scenario : Scenario) (services : Table Service) (fates : Table Fate) : Prop :=
  ∀ s, services.get? s.name = some s → fates.get? s.name = some (scenario.fate fates s)

section Recursion

variable {scenario : Scenario} {services : Table Service} {order : List String}
  {fates fates' : Table Fate} {s : Service} {name : String}

theorem fails_congr (same : fates.get? name = fates'.get? name) :
  fails fates name = fails fates' name
  := by
  rw [fails, same, fails]

/-- What becomes of a service depends only on what becomes of those it depends on. -/
theorem fate_congr (same : ∀ d ∈ s.dependencies, fates.get? d = fates'.get? d) :
  scenario.fate fates s = scenario.fate fates' s
  := by
  have first : s.dependencies.find? (fails fates) = s.dependencies.find? (fails fates') := by
    apply List.find?_congr
    intro d hd
    apply fails_congr (same d hd)
  unfold fate
  rw [← first]
  split
  · next d found => rw [same d (List.mem_of_find?_eq_some found)]
  · rfl

/-- Services that come later change nothing that is known. -/
theorem get?_foldl_foresee (later : name ∉ order) :
  (order.foldl (scenario.foresee services) fates).get? name = fates.get? name
  := by
  induction order generalizing fates with
  | nil => rfl
  | cons first rest ih =>
    obtain ⟨other, later⟩ : name ≠ first ∧ name ∉ rest := by simpa using later
    rw [List.foldl_cons, ih later]
    rw [foresee]
    split
    · rw [Table.get?_insert, if_neg other]
    · rfl

/-- The forecast satisfies the recursion on the dependency graph. -/
theorem get?_forecast (nodup : order.Nodup) (listed : s.name ∈ order)
    (found : services.get? s.name = some s)
    (sequence : ∀ before after, order = before ++ s.name :: after → ∀ d ∈ s.dependencies,
      d ∈ before) :
  (scenario.forecast services order).get? s.name
    = some (scenario.fate (scenario.forecast services order) s)
  := by
  obtain ⟨before, after, rfl⟩ := List.append_of_mem listed
  obtain ⟨-, behind, apart⟩ := List.nodup_append.mp nodup
  have last : s.name ∉ after := (List.nodup_cons.mp behind).1
  rw [forecast]
  rw [List.foldl_append, List.foldl_cons, get?_foldl_foresee last]
  generalize known : before.foldl (scenario.foresee services) ∅ = fates
  simp only [foresee, found, Table.get?_insert, if_pos]
  congr 1
  apply fate_congr
  intro d hd
  have early : d ∈ before := sequence before after rfl d hd
  have new : d ∉ after := fun late => apart d early d (List.mem_cons_of_mem _ late) rfl
  have other : d ≠ s.name := fun same => apart d early s.name (by simp) same
  rw [get?_foldl_foresee new, Table.get?_insert, if_neg other]

end Recursion

/-- The forecast along the waves of a stack satisfies the recursion on its dependency graph. -/
theorem foretells_forecast (scenario : Scenario) {active : Descriptor}
    {waves : List (List String)} (ok : active.startWaves = .ok waves) :
  scenario.Foretells active.services (scenario.forecast active.services waves.flatten)
  := by
  intro s found
  have perm := Descriptor.flatten_startWaves_perm ok
  have entry := Table.get?_eq_some_iff.mp found
  apply get?_forecast (perm.nodup_iff.mpr active.nodup_names) _ found
  · have node := List.mem_map_of_mem (f := fun e => (e.1, e.2.dependencies)) entry
    apply Descriptor.flatten_startWaves_sequences ok _ node
  · rw [perm.mem_iff]
    apply List.mem_map_of_mem (f := Prod.fst) entry

/-! ### Where all times can be waited for -/

/-- The worker of a service dies. -/
def Crashes (scenario : Scenario) (services : Table Service) (fates : Table Fate) : Prop :=
  ∃ s, services.get? s.name = some s ∧ (scenario.fate fates s).crash? = some .overflow

section Accepted

variable {scenario : Scenario}

theorem crash?_poll {interval : Float} (accepted : scenario.accepts interval = true)
    (name : String) (spent left : Nat) :
  (scenario.poll name interval spent left).crash? = none
  := by
  induction left generalizing spent with
  | zero =>
    simp only [poll]
    split <;> rfl
  | succ left ih =>
    simp only [poll, accepted, if_true]
    split
    · rfl
    · apply ih

/-- The worker of a service does not die if the times of its check can be waited for. -/
theorem crash?_fate {s : Service} (accepted : ∀ check, s.activeCheck? = some check →
      scenario.accepts check.startPeriod = true ∧ scenario.accepts check.interval = true)
    (fates : Table Fate) :
  (scenario.fate fates s).crash? = none
  := by
  unfold fate alone
  split
  · rfl
  · split
    · rfl
    · split
      · rfl
      · next check active =>
        obtain ⟨settles, rests⟩ := accepted check active
        rw [pollAll, settles, if_neg (by simp)]
        apply crash?_poll rests

end Accepted

/-! ### What a forecast depends on -/

/-- A service needs itself, the services it depends on, and all that these need. -/
def Needs (services : Table Service) : String → String → Prop :=
  Relation.ReflTransGen fun name d => ∃ s, services.get? name = some s ∧ d ∈ s.dependencies

section Congr

variable {scenario scenario' : Scenario} {services : Table Service} {fates fates' : Table Fate}

theorem poll_congr {name : String} (same : scenario'.check name = scenario.check name)
    (accepts : scenario'.accepts = scenario.accepts) (interval : Float) (spent left : Nat) :
  scenario'.poll name interval spent left = scenario.poll name interval spent left
  := by
  induction left generalizing spent with
  | zero => simp only [poll, same]
  | succ left ih => simp only [poll, same, accepts, ih]

theorem alone_congr {s : Service} (start : scenario'.start s.name = scenario.start s.name)
    (check : scenario'.check s.name = scenario.check s.name)
    (accepts : scenario'.accepts = scenario.accepts) :
  scenario'.alone s = scenario.alone s
  := by
  simp only [alone, start, pollAll, accepts, poll_congr check accepts]

/-- What becomes of a service depends only on the start and the checks of the services that it
needs. -/
theorem get?_congr {rank : String → Nat} {s : Service}
    (named : ∀ name s, services.get? name = some s → s.name = name)
    (closed : ∀ s, services.get? s.name = some s → ∀ d ∈ s.dependencies,
      ∃ r, services.get? d = some r)
    (ranked : ∀ s, services.get? s.name = some s → ∀ d ∈ s.dependencies, rank d < rank s.name)
    (foretells : scenario.Foretells services fates)
    (foretells' : scenario'.Foretells services fates')
    (found : services.get? s.name = some s) (accepts : scenario'.accepts = scenario.accepts)
    (same : ∀ name, Needs services s.name name → scenario'.start name = scenario.start name
      ∧ scenario'.check name = scenario.check name) :
  fates'.get? s.name = fates.get? s.name
  := by
  generalize place : rank s.name = n
  induction n using Nat.strongRecOn generalizing s with
  | ind n below =>
    subst place
    rw [foretells s found, foretells' s found]
    have alone : scenario'.alone s = scenario.alone s :=
      alone_congr (same _ .refl).1 (same _ .refl).2 accepts
    have step : ∀ d ∈ s.dependencies, fates'.get? d = fates.get? d := by
      intro d hd
      obtain ⟨r, there⟩ := closed s found d hd
      obtain rfl := named d r there
      apply below _ (ranked s found _ hd) there _ rfl
      intro name needs
      apply same name (.head ⟨s, found, hd⟩ needs)
    rw [fate_congr step]
    unfold fate
    rw [alone]

end Congr

end Scenario

end Muster
