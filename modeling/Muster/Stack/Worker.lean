import Muster.Health.Poll
import Muster.Stack
/-!
# Workers

Every service that is brought up has a worker of its own.  It waits until each dependency of the
service has settled, or has been launched where that is enough, starts the service and polls its
health.  Workers meet only in the states of the services and in the stop flag.

A worker is a small machine: `Worker` says where it stands, and `Worker.step` takes the next
step, if there is one to take.  Whatever a step reads or writes it does at once.
-/

namespace Muster

/-- Where a worker stands. -/
inductive Worker where
  /-- It waits for the first of these dependencies. -/
  | awaiting (left : List (String × Condition))
  /-- A dependency has settled or has been launched. -/
  | judging (dependency : String) (left : List (String × Condition))
  /-- A dependency has failed. -/
  | blaming (dependency : String)
  /-- There is nothing left to wait for. -/
  | gating
  /-- The service is about to be started. -/
  | starting
  /-- The service has been started; these marks are to be made, and then it is watched. -/
  | announcing (left : List Mark)
  /-- The poll is about to begin. -/
  | preparing
  | polling (poll : Poll)
  /-- The health check is run: `spent` have been run before, and `left` more may follow. -/
  | checking (spent left : Nat)
  /-- The health check has come back. -/
  | hearing (spent left : Nat) (reply : Except Fault CheckResult)
  /-- The service is ready; these marks are to be made. -/
  | readying (left : List Mark)
  /-- The service has failed; these marks are to be made, and the fault ends the worker. -/
  | failing (left : List Mark) (fault : Option Fault)
  | ended (fault : Option Fault)

namespace Worker

variable {τ σ : Type}

/-- The worker of a service at its start. -/
def begin (s : Service) : Worker :=
  .awaiting s.dependsOn.entries

/-- Whether a worker has ended. -/
def isOver : Worker → Bool
  | ended _ => true
  | _ => false

/-- The fault that a worker has died of. -/
def crash? : Worker → Option Fault
  | ended fault => fault
  | _ => none

/-- Why a worker gives up when a stop has been asked for. -/
def shuttingDown : Fault :=
  .stack (.interrupted "Stack is shutting down")

/-- How a worker goes on after a fault, and what it writes to the log.  The faults of a stack are
its own business; all others end it, and the user's request to stop does so at once. -/
def giveUp (s : Service) (fault : Fault) : Worker × List LogEntry :=
  let error := fault.message
  match fault with
  | .stack (.exhausted _ attempts _) =>
    (.failing (Mark.ofFailure .unhealthy error) none,
      [.about .error "service_unhealthy" s.name [("attempts", .int attempts)]])
  | .stack (.interrupted _) => (.failing (Mark.ofFailure .stopped error) none, [])
  | .stack _ =>
    (.failing (Mark.ofFailure .failed error) none,
      [.about .error "service_failed" s.name [("error", .str error)]])
  | .interrupt _ => (.ended (some fault), [])
  | _ =>
    (.failing (Mark.ofFailure .failed error) (some fault),
      [.about .error "service_crashed" s.name []])

/-- Goes on after a fault. -/
def fail (s : Service) (fault : Fault) (k : Stack τ σ) : Worker × Stack τ σ :=
  let (w, log) := giveUp s fault
  (w, { k with log := k.log ++ log })

/-- Whether what is waited for has come: the launch of a dependency or the end of its start. -/
def arrived (k : Stack τ σ) (dependency : String) : Condition → Bool
  | .started => (k.states.get? dependency).any (·.started)
  | .healthy => (k.states.get? dependency).any (·.settled)

/-- A worker that waits gives up when it finds that a stop has been asked for. -/
def quit (s : Service) (w : Worker) (k : Stack τ σ) : Option (Worker × Stack τ σ) :=
  match w with
  | awaiting (_ :: _) => if k.stopping then some (fail s shuttingDown k) else none
  | _ => none

/-- Looks at a dependency that has settled or has been launched. -/
def judge (s : Service) (dependency : String) (left : List (String × Condition))
    (k : Stack τ σ) : Worker × Stack τ σ :=
  match k.states.get? dependency with
  | some state => (if state.failed then .blaming dependency else .awaiting left, k)
  | none => fail s .missingKey k

/-- Why a service is blocked by a dependency of the given status. -/
def blame (dependency : String) (status : Status) : String :=
  "dependency " ++ dependency ++ " is " ++ status.name

/-- Says that a dependency has failed. -/
def block (s : Service) (dependency : String) (k : Stack τ σ) : Worker × Stack τ σ :=
  match k.states.get? dependency with
  | some state =>
    (.failing (Mark.ofFailure .blocked (blame dependency state.status)) none,
      k.note (.about .warning "service_blocked" s.name [("dependency", .str dependency)]))
  | none => fail s .missingKey k

/-- Waits where a poll stands.  When a stop has been asked for there is nothing to wait for, and a
time that cannot be waited for ends the poll. -/
def pause (h : Host τ σ) (time : Float) (p : Poll) (k : Stack τ σ) : Worker × Stack τ σ :=
  if k.stopping then (.polling (p.wake true), k)
  else
    match h.wait time k.world with
    | .ok world => (.polling (p.wake false), { k with world })
    | .error fault => (.polling (.ended (.broken fault)), k)

/-- Takes a step of the poll of a service. -/
def stepPoll (h : Host τ σ) (s : Service) (check : HealthCheck) (p : Poll) (k : Stack τ σ) :
    Worker × Stack τ σ :=
  match p with
  | .settling _ => pause h check.startPeriod p k
  | .resting .. => pause h check.interval p k
  | .due spent left =>
    (if k.stopping then .polling (.ended .interrupted) else .checking spent left, k)
  | .ended ending =>
    let k := { k with log := k.log ++ Poll.endLog s.name ending }
    match ending.outcome s.name with
    | .ok _ => (.readying (Mark.ofReady s.hasHealthCheck), k)
    | .error fault => fail s fault k

/-- Takes note of the result of a health check. -/
def hear (s : Service) (spent left : Nat) (reply : Except Fault CheckResult) (k : Stack τ σ) :
    Worker × Stack τ σ :=
  let k := k.update s.name (Poll.noteResult reply)
  (.polling (Poll.hear k.stopping spent left reply),
    { k with log := k.log ++ Poll.hearLog s.name reply })

/-- The state of a service that is ready, as a worker reports it. -/
def readyEntry (s : Service) (k : Stack τ σ) : LogEntry :=
  let status := ((k.states.get? s.name).map (·.status.name)).getD ""
  .about .info "service_ready" s.name [("status", .str status)]

/-- Makes a mark in the state of a service. -/
def mark (s : Service) (m : Mark) (k : Stack τ σ) : Stack τ σ :=
  k.update s.name (·.mark m)

/-- Takes the next step of the worker of a service.  There is none while the worker waits for a
dependency, and none after its end. -/
def step (h : Host τ σ) (s : Service) (w : Worker) (k : Stack τ σ) :
    Option (Worker × Stack τ σ) :=
  match w with
  | awaiting [] => some (.gating, k)
  | awaiting ((dependency, condition) :: left) =>
    if arrived k dependency condition then some (.judging dependency left, k) else quit s w k
  | judging dependency left => some (judge s dependency left k)
  | blaming dependency => some (block s dependency k)
  | gating => some (if k.stopping then fail s shuttingDown k else (.starting, k))
  | starting =>
    let k := k.note (.about .info "service_starting" s.name [])
    match k.hear (h.start s k.world) with
    | (.ok (), k) => some (.announcing Mark.ofStart, k)
    | (.error fault, k) => some (fail s fault k)
  | announcing (m :: left) => some (.announcing left, mark s m k)
  | announcing [] =>
    let k := { k with supervisor := k.supervisor.watch k.backoff (h.clock k.world) s.name }
    some (if s.hasHealthCheck then .preparing else .readying (Mark.ofReady false), k)
  | preparing =>
    match s.activeCheck? with
    | none => some (.readying (Mark.ofReady false), k)
    | some check => some (.polling (Poll.start check), k.update s.name Poll.noteStart)
  | polling p =>
    match s.activeCheck? with
    | none => some (.readying (Mark.ofReady false), k)
    | some check => some (stepPoll h s check p k)
  | checking spent left =>
    match s.activeCheck? with
    | none => some (.readying (Mark.ofReady false), k)
    | some check =>
      let (reply, k) := k.hear (h.check s check k.world)
      some (.hearing spent left reply, k)
  | hearing spent left reply => some (hear s spent left reply k)
  | readying (m :: left) => some (.readying left, mark s m k)
  | readying [] => some (.ended none, k.note (readyEntry s k))
  | failing (m :: left) fault => some (.failing left fault, mark s m k)
  | failing [] fault => some (.ended fault, k)
  | ended _ => none

/-- The steps that the poll of a service has at most. -/
def pollRank (s : Service) : Nat :=
  (s.activeCheck?.map fun check => 3 * (Poll.start check).rank).getD 0

/-- The steps that a worker has at most before it. -/
def rank (s : Service) : Worker → Nat
  | awaiting left => 2 * left.length + pollRank s + 17
  | judging _ left => 2 * left.length + pollRank s + 18
  | blaming _ => 8
  | gating => pollRank s + 16
  | starting => pollRank s + 15
  | announcing left => left.length + pollRank s + 10
  | preparing => pollRank s + 9
  | polling p => 3 * p.rank + 8
  | checking _ left => 3 * (2 * left) + 10
  | hearing _ left _ => 3 * (2 * left) + 9
  | readying left => left.length + 1
  | failing left _ => left.length + 1
  | ended _ => 0

theorem rank_failing_le (s : Service) (status : Status) (error : String) (fault : Option Fault) :
  rank s (failing (Mark.ofFailure status error) fault) ≤ 7
  := by
  simp only [rank, Mark.ofFailure]
  split <;> simp

theorem rank_readying_le (s : Service) (checked : Bool) :
  rank s (readying (Mark.ofReady checked)) ≤ 6
  := by
  cases checked <;> simp [rank, Mark.ofReady]

theorem rank_fail_le (s : Service) (fault : Fault) (k : Stack τ σ) :
  rank s (fail s fault k).1 ≤ 7
  := by
  simp only [fail, giveUp]
  split
  case h_4 => simp [rank]
  all_goals apply rank_failing_le

theorem rank_judge_lt (s : Service) (dependency : String) (left : List (String × Condition))
    (k : Stack τ σ) :
  rank s (judge s dependency left k).1 < rank s (judging dependency left)
  := by
  unfold judge
  split
  · split <;> simp only [rank] <;> omega
  · have := rank_fail_le s .missingKey k
    simp only [rank] at this ⊢
    omega

theorem rank_block_lt (s : Service) (dependency : String) (k : Stack τ σ) :
  rank s (block s dependency k).1 < rank s (blaming dependency)
  := by
  apply Nat.lt_succ_of_le
  unfold block
  split
  · apply rank_failing_le
  · apply rank_fail_le

theorem rank_pause_lt (h : Host τ σ) (s : Service) (time : Float) {p : Poll} (k : Stack τ σ)
    (waking : ∀ stopped, (p.wake stopped).rank < p.rank) :
  rank s (pause h time p k).1 < rank s (polling p)
  := by
  have asleep := waking false
  have awake := waking true
  have ended (ending : Poll.Ending) : (Poll.ended ending).rank = 0 := rfl
  unfold pause
  split
  · simp only [rank]
    omega
  · split
    · simp only [rank]
      omega
    · simp only [rank, ended]
      omega

theorem rank_stepPoll_lt (h : Host τ σ) (s : Service) (check : HealthCheck) (p : Poll)
    (k : Stack τ σ) :
  rank s (stepPoll h s check p k).1 < rank s (polling p)
  := by
  cases p with
  | settling left =>
    exact rank_pause_lt h s _ k fun stopped => Poll.rank_wake_settling_lt stopped left
  | due spent left =>
    simp only [stepPoll]
    split
    · simp [rank, Poll.rank]
    · simp only [rank, Poll.rank]
      omega
  | resting spent left =>
    apply rank_pause_lt h s _ k
    intro stopped
    simp only [Poll.wake, Poll.rank]
    omega
  | ended ending =>
    simp only [stepPoll]
    split
    · have := rank_readying_le s s.hasHealthCheck
      simp only [rank] at this ⊢
      omega
    · next fault _ =>
      have := rank_fail_le s fault { k with log := k.log ++ Poll.endLog s.name ending }
      simp only [rank] at this ⊢
      omega

theorem rank_hear_lt (s : Service) (spent left : Nat) (reply : Except Fault CheckResult)
    (k : Stack τ σ) :
  rank s (hear s spent left reply k).1 < rank s (hearing spent left reply)
  := by
  have := Poll.rank_hear_lt (k.update s.name (Poll.noteResult reply)).stopping spent left reply
  have due : (Poll.due spent left).rank = 2 * left + 1 := rfl
  simp only [hear, rank]
  omega

/-- A worker that gives up is closer to its end. -/
theorem rank_quit_lt {s : Service} {w w' : Worker} {k k' : Stack τ σ}
    (quit : w.quit s k = some (w', k')) :
  rank s w' < rank s w
  := by
  unfold Worker.quit at quit
  split at quit
  · split at quit
    · have := rank_fail_le s shuttingDown k
      rw [Option.some.inj quit] at this
      exact Nat.lt_of_le_of_lt this (by simp only [rank]; omega)
    · cases quit
  · cases quit

/-- Every step brings a worker closer to its end. -/
theorem rank_step_lt {h : Host τ σ} {s : Service} {w w' : Worker} {k k' : Stack τ σ}
    (step : w.step h s k = some (w', k')) :
  rank s w' < rank s w
  := by
  have stop : rank s (fail s shuttingDown k).1 ≤ 7 := rank_fail_le ..
  have ready (checked : Bool) : rank s (readying (Mark.ofReady checked)) ≤ 6 := rank_readying_le ..
  cases w with
  | awaiting left =>
    cases left with
    | nil =>
      cases step
      simp [rank]
    | cons d left =>
      simp only [Worker.step] at step
      split at step
      · cases step
        simp only [rank, List.length_cons]
        omega
      · exact rank_quit_lt step
  | judging dependency left =>
    have := rank_judge_lt s dependency left k
    rwa [Option.some.inj step] at this
  | blaming dependency =>
    have := rank_block_lt s dependency k
    rwa [Option.some.inj step] at this
  | gating =>
    simp only [Worker.step, Option.some.injEq] at step
    split at step
    · rw [step] at stop
      exact Nat.lt_of_le_of_lt stop (by simp only [rank]; omega)
    · cases step
      simp [rank]
  | starting =>
    simp only [Worker.step] at step
    split at step
    · cases step
      simp only [rank, Mark.ofStart, List.length_cons, List.length_nil]
      omega
    · next fault k _ =>
      have := rank_fail_le s fault k
      rw [Option.some.inj step] at this
      exact Nat.lt_of_le_of_lt this (by simp only [rank]; omega)
  | announcing left =>
    cases left with
    | nil =>
      cases step
      split
      · simp [rank]
      · exact Nat.lt_of_le_of_lt (ready false) (by simp only [rank]; omega)
    | cons m left =>
      cases step
      simp [rank]
  | preparing =>
    simp only [Worker.step] at step
    split at step
    · cases step
      exact Nat.lt_of_le_of_lt (ready false) (by simp only [rank]; omega)
    · next check found =>
      cases step
      simp only [rank, pollRank, found, Option.map_some, Option.getD_some]
      omega
  | polling p =>
    simp only [Worker.step] at step
    split at step
    · cases step
      exact Nat.lt_of_le_of_lt (ready false) (by simp only [rank]; omega)
    · next check _ =>
      have := rank_stepPoll_lt h s check p k
      rwa [Option.some.inj step] at this
  | checking spent left =>
    simp only [Worker.step] at step
    split at step
    · cases step
      exact Nat.lt_of_le_of_lt (ready false) (by simp only [rank]; omega)
    · cases step
      simp [rank]
  | hearing spent left reply =>
    have := rank_hear_lt s spent left reply k
    rwa [Option.some.inj step] at this
  | readying left =>
    cases left <;> cases step <;> simp [rank]
  | failing left fault =>
    cases left <;> cases step <;> simp [rank]
  | ended fault => cases step

end Worker

end Muster
