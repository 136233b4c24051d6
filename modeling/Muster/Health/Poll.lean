import Muster.Fault
import Muster.Health.Check
import Muster.Log
import Muster.Service
import Muster.Service.State
/-!
# Waiting for a service to be healthy

A poll waits for the start period of a health check and then runs the check until it succeeds
or its attempts are used up, with a wait between two runs.  A stop ends it: before a check, or
when the attempt after which it was seen had failed.  So does a wait that cannot be made.

A poll is a small machine.  `Poll` says where it stands; `wake` and `hear` say how it goes on
after a wait and after a check.  `Poll.run` drives the machine in given surroundings.
-/

namespace Muster

/-- How a poll ends. -/
inductive Poll.Ending where
  | healthy (result : CheckResult)
  | exhausted (attempts : Nat) (output : String)
  | interrupted
  /-- A check could not be run at all, or a time could not be waited for. -/
  | broken (fault : Fault)

/-- Where a poll stands: `spent` checks have been run, and `left` more may follow the next one. -/
inductive Poll where
  /-- The start period has to pass. -/
  | settling (left : Nat)
  /-- The next check may begin. -/
  | due (spent left : Nat)
  /-- The time between two checks has to pass. -/
  | resting (spent left : Nat)
  | ended (ending : Poll.Ending)

namespace Poll

/-- The start of a poll.  There is a start period only if it is positive. -/
def start (check : HealthCheck) : Poll :=
  let left := check.attempts - 1
  if Decimal.ofDecimal false 0 0 < check.startPeriod then .settling left else .due 0 left

/-- How long a poll waits where it stands. -/
def delay? (check : HealthCheck) : Poll → Option Float
  | settling _ => some check.startPeriod
  | resting _ _ => some check.interval
  | _ => none

/-- Goes on after a wait.  A stop seen after the start period ends the poll at once; one seen
after a later wait does so before the next check. -/
def wake (stopped : Bool) : Poll → Poll
  | settling left => if stopped then .ended .interrupted else .due 0 left
  | resting spent left => .due spent left
  | p => p

/-- Goes on after a check; `stopped` says whether a stop has been seen by then. -/
def hear (stopped : Bool) (spent left : Nat) : Except Fault CheckResult → Poll
  | .error fault => .ended (.broken fault)
  | .ok result =>
    if result.success then .ended (.healthy result)
    else if stopped then .ended .interrupted
    else
      match left with
      | 0 => .ended (.exhausted (spent + 1) result.output)
      | left + 1 => .resting (spent + 1) left

/-- The steps that a poll has at most before it. -/
def rank : Poll → Nat
  | settling left => 2 * left + 2
  | due _ left => 2 * left + 1
  | resting _ left => 2 * left + 2
  | ended _ => 0

theorem rank_wake_settling_lt (stopped : Bool) (left : Nat) :
  (wake stopped (settling left)).rank < (settling left).rank
  := by
  cases stopped <;> simp [wake, rank]

theorem rank_hear_lt (stopped : Bool) (spent left : Nat) (reply : Except Fault CheckResult) :
  (hear stopped spent left reply).rank < (due spent left).rank
  := by
  unfold hear
  split
  · simp [rank]
  · split
    · simp [rank]
    · split
      · simp [rank]
      · split
        · simp [rank]
        · simp only [rank]
          omega

/-- What a poll writes to the log when it hears the result of a check. -/
def hearLog (name : String) (reply : Except Fault CheckResult) : List LogEntry :=
  match reply with
  | .error _ => []
  | .ok result =>
    if result.success then []
    else [.about .debug "healthcheck_failed" name [("output", .str result.output)]]

/-- What a poll writes to the log when it ends. -/
def endLog (name : String) : Ending → List LogEntry
  | .healthy _ => [.about .info "service_healthy" name []]
  | .exhausted attempts output =>
    [.about .warning "healthcheck_exhausted" name
      [("attempts", .int attempts), ("output", .str output)]]
  | .interrupted | .broken _ => []

/-- The state of a service after the result of a check. -/
def noteResult (reply : Except Fault CheckResult) (s : ServiceState) : ServiceState :=
  match reply with
  | .ok result => { s with lastOutput := result.output }
  | .error _ => s

/-- The state of a service whose poll begins. -/
def noteStart (s : ServiceState) : ServiceState :=
  { s with health := .starting }

/-- What the waiting for a service comes to. -/
def Ending.outcome (name : String) : Ending → Except Fault CheckResult
  | healthy result => .ok result
  | exhausted attempts output => .error (.stack (.exhausted name attempts output))
  | interrupted => .error (.stack (.interrupted ("Stopped while waiting for " ++ name)))
  | broken fault => .error fault

/-- The surroundings of a poll: whether a stop has been seen, a wait, and a run of the check. -/
structure Surroundings (σ : Type) where
  stopped : σ → Bool
  /-- Waits for so many seconds, unless that is too long. -/
  wait : Float → σ → Except Fault σ
  check : HealthCheck → σ → Except Fault CheckResult × σ

/-- A poll under way: the surroundings, what is known about the service, and what was written to
the log. -/
structure Progress (σ : Type) where
  world : σ
  state : ServiceState
  log : List LogEntry

/-- Drives a poll to its end. -/
def drive {σ : Type} (w : Surroundings σ) (name : String) (check : HealthCheck) :
    Poll → Progress σ → Ending × Progress σ
  | .ended ending, p => (ending, { p with log := p.log ++ endLog name ending })
  | .settling left, p =>
    match w.wait check.startPeriod p.world with
    | .ok world => drive w name check (wake (w.stopped world) (.settling left)) { p with world }
    | .error fault => drive w name check (.ended (.broken fault)) p
  | .resting spent left, p =>
    match w.wait check.interval p.world with
    | .ok world => drive w name check (wake (w.stopped world) (.resting spent left)) { p with world }
    | .error fault => drive w name check (.ended (.broken fault)) p
  | .due spent left, p =>
    if w.stopped p.world then drive w name check (.ended .interrupted) p
    else
      let (reply, world) := w.check check p.world
      let p : Progress σ :=
        ⟨world, noteResult reply p.state, p.log ++ hearLog name reply⟩
      drive w name check (hear (w.stopped world) spent left reply) p
termination_by poll => poll.rank
decreasing_by
  · exact rank_wake_settling_lt ..
  · simp [rank]
  · simp [rank, wake]
  · simp [rank]
  · simp [rank]
  · exact rank_hear_lt ..

/-- Waits until a service is healthy.  A service without a check that is run is healthy at once. -/
def run {σ : Type} (w : Surroundings σ) (s : Service) (p : Progress σ) :
    Except Fault CheckResult × Progress σ :=
  match s.activeCheck? with
  | none => (.ok ⟨true, "", none⟩, p)
  | some check =>
    let (ending, p) := drive w s.name check (start check) { p with state := noteStart p.state }
    (ending.outcome s.name, p)

end Poll

end Muster
