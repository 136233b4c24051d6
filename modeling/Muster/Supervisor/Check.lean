import Muster.Fault
import Muster.Log
import Muster.Service
import Muster.Service.State
import Muster.Supervisor
/-!
# Checking a watched service

A check looks at one service: it lets a lasting run count, schedules a restart of a service
that has ended, and carries the restart out when it is due.  Between the sections under the
supervisor's lock it calls the runner of the service, and anything may happen to the
supervisor meanwhile.

A check is a small machine.  `Check` says where it stands, `Check.step` carries out one section,
and `Check.hear` goes on after a call of the runner.
-/

namespace Muster

/-- A call of a runner that a check makes. -/
inductive RunnerCall where
  | isRunning
  | exitCode
  | start
deriving Repr, DecidableEq

/-- What a call of a runner comes back with. -/
inductive RunnerReply where
  | running (yes : Bool)
  | exited (code : Option Int)
  | started
  | raised (fault : Fault)

/-- Where a check stands; `now` is the time at which it looked at the clock. -/
inductive Check (τ : Type) where
  | entering
  /-- The runner is asked whether the service is running. -/
  | probing (now : τ)
  /-- The service is running. -/
  | crediting (now : τ)
  /-- The service is not running. -/
  | looking (now : τ)
  /-- The runner is asked for the exit code. -/
  | inspecting (now : τ)
  /-- The service is not restarted any more. -/
  | retiring
  /-- A restart is put off until its time. -/
  | scheduling (now delay : τ)
  /-- A restart has been scheduled, unless something has come in between. -/
  | awaiting (now : τ)
  /-- The restart is due. -/
  | backingOff
  /-- The runner is told to start the service. -/
  | relaunching
  /-- The service has been started. -/
  | resuming
  | ended (fault : Option Fault)

/-- What a check works on: the supervisor, the state of the service and the log. -/
structure Desk (τ : Type) where
  supervisor : Supervisor τ
  state : ServiceState
  log : List LogEntry := []

namespace Desk

variable {τ : Type}

/-- Writes to the log. -/
def note (d : Desk τ) (e : LogEntry) : Desk τ :=
  { d with log := d.log ++ [e] }

end Desk

namespace Check

variable {τ : Type} [Timeline τ]

/-- The call of the runner that a check waits for. -/
def call? : Check τ → Option RunnerCall
  | probing _ => some .isRunning
  | inspecting _ => some .exitCode
  | relaunching => some .start
  | _ => none

/-- Whether a service has used up its restarts; a limit of zero is none. -/
def limitReached (s : Service) (state : ServiceState) : Bool :=
  s.maxRestarts != 0 && (state.restartCount : Int) ≥ s.maxRestarts

/-- What a check decides about a service that has ended with an exit code. -/
def judge (s : Service) (b : Backoff τ) (now : τ) (code : Option Int) (d : Desk τ) :
    Check τ × Desk τ :=
  let d := { d with state := { d.state with exitCode := code } }
  let exit := ("exit_code", LogEntry.optionalInt code)
  let retire (d : Desk τ) : Check τ × Desk τ :=
    (.retiring, { d with state := { d.state with status := .exited } })
  if !s.restart.restarts code then retire (d.note (.about .info "service_exited" s.name [exit]))
  else if limitReached s d.state then
    retire (d.note (.about .warning "restart_limit_reached" s.name
      [("restarts", .int d.state.restartCount), exit]))
  else
    let delay := d.supervisor.delayOf b s.name
    (.scheduling now delay,
      d.note (.about .info "service_restart_scheduled" s.name
        [exit, ("delay", Timeline.toValue delay)]))

/-- Carries out the next section; `clock` is the current time. -/
def step (s : Service) (b : Backoff τ) (clock : τ) (c : Check τ) (d : Desk τ) :
    Check τ × Desk τ :=
  let sup := d.supervisor
  match c with
  | entering =>
    (if sup.stopped || !sup.isWatching s.name then .ended none else .probing clock, d)
  | crediting now => (.ended none, { d with supervisor := sup.credit b now s.name })
  | looking now =>
    (if sup.pending.contains s.name then .awaiting now else .inspecting now, d)
  | retiring => (.ended none, { d with supervisor := sup.unwatch s.name })
  | scheduling now delay =>
    (.awaiting now, { d with supervisor := sup.schedule s.name (Timeline.add now delay) })
  | awaiting now =>
    match sup.pending.get? s.name with
    | none => (.ended none, d)
    | some time => (if Timeline.before now time then .ended none else .backingOff, d)
  | backingOff =>
    let d := { d with supervisor := sup.backOff b s.name }
    let d := d.note
      (.about .info "service_restarting" s.name [("attempt", .int (d.state.restartCount + 1))])
    (.relaunching, { d with state := d.state.recordRestart })
  | resuming => (.ended none, { d with supervisor := sup.resume clock s.name })
  | probing _ | inspecting _ | relaunching | ended _ => (c, d)

/-- Goes on after a call of the runner. -/
def hear (s : Service) (b : Backoff τ) (c : Check τ) (reply : RunnerReply) (d : Desk τ) :
    Check τ × Desk τ :=
  match c, reply with
  | probing now, .running yes => (if yes then .crediting now else .looking now, d)
  | inspecting now, .exited code => judge s b now code d
  | relaunching, .started =>
    (.resuming, { d with state := { d.state with status := .running, exitCode := none } })
  | relaunching, .raised fault =>
    if fault.isStack then
      let told := [("error", .str fault.message)]
      let d := d.note (.about .error "service_restart_failed" s.name told)
      (.ended none, { d with state := { d.state with error := some fault.message } })
    else (.ended (some fault), d)
  | _, .raised fault => (.ended (some fault), d)
  | c, _ => (c, d)

/-- The steps that a check has at most before it. -/
def rank : Check τ → Nat
  | entering => 10
  | probing _ => 9
  | crediting _ => 8
  | looking _ => 8
  | inspecting _ => 7
  | retiring => 6
  | scheduling .. => 6
  | awaiting _ => 5
  | backingOff => 4
  | relaunching => 3
  | resuming => 2
  | ended _ => 0

/-- The surroundings of a check: the clock, and the calls of the runner, during which anything may
happen to the supervisor. -/
structure Surroundings (τ σ : Type) where
  clock : σ → τ
  call : RunnerCall → Desk τ × σ → RunnerReply × Desk τ × σ

/-- Drives a check to its end, in at most `fuel` steps. -/
def drive {σ : Type} (w : Surroundings τ σ) (s : Service) (b : Backoff τ) :
    (fuel : Nat) → Check τ → Desk τ × σ → Option Fault × Desk τ × σ
  | _, ended fault, (d, world) => (fault, d, world)
  | 0, _, (d, world) => (none, d, world)
  | fuel + 1, c, (d, world) =>
    match c.call? with
    | some call =>
      let (reply, d, world) := w.call call (d, world)
      let (c, d) := hear s b c reply d
      drive w s b fuel c (d, world)
    | none =>
      let (c, d) := step s b (w.clock world) c d
      drive w s b fuel c (d, world)

/-- Checks a service. -/
def run {σ : Type} (w : Surroundings τ σ) (s : Service) (b : Backoff τ) (d : Desk τ) (world : σ) :
    Option Fault × Desk τ × σ :=
  drive w s b (rank (.entering : Check τ)) .entering (d, world)

end Check

end Muster
