import Muster.Fault
import Muster.Health.Check
import Muster.Log
import Muster.Service
/-!
# Hosts

A host is where services run: it starts and stops them, tells whether they run and how they
ended, and runs their health checks.  The host's own state is of any type.
-/

namespace Muster

/-- What a call to a host comes back with: a result, what was written to the log meanwhile, and
whether a request to stop came during the call. -/
structure Reply (α : Type) where
  result : Except Fault α
  log : List LogEntry := []
  stops : Bool := false

namespace Reply

variable {α β : Type}

/-- A call that succeeds. -/
def ok (a : α) : Reply α where
  result := .ok a

/-- A call that fails. -/
def fail (fault : Fault) : Reply α where
  result := .error fault

end Reply

/-- Where services run.  Times are of type `τ`, and `σ` is the state of the host. -/
structure Host (τ σ : Type) where
  clock : σ → τ
  start : Service → σ → Reply Unit × σ
  /-- Stops a service, forcefully once the given time has passed. -/
  stop : Service → Float → σ → Reply Unit × σ
  isRunning : Service → σ → Reply Bool × σ
  /-- The exit code of the last run, nothing while one is going on or when there was none. -/
  exitCode : Service → σ → Reply (Option Int) × σ
  /-- Runs the health check of a service once. -/
  check : Service → HealthCheck → σ → Reply CheckResult × σ
  /-- Whether a health check of the service would not come back yet. -/
  busy : Service → σ → Bool := fun _ _ => false
  /-- Releases what the services of a stack share. -/
  teardown : σ → Reply Unit × σ
  /-- Lets the given time pass between two health checks, unless it is too long to be waited for. -/
  wait : Float → σ → Except Fault σ := fun _ w => .ok w

namespace Host

variable {τ σ : Type}

/-- The longest time in seconds that can be waited for. -/
def longestWait : Float := 9223372036

/-- What is wrong with a time to wait for. -/
def waitFault? (seconds : Float) : Option Fault :=
  if longestWait < seconds then some .overflow else none

/-- How a run that is over is described by its exit code. -/
def exitText : Option Int → String
  | none => "stopped"
  | some code => "exited(" ++ toString code ++ ")"

/-- How a host describes a service. -/
def describe (h : Host τ σ) (s : Service) (w : σ) : Reply String × σ :=
  let (running, w) := h.isRunning s w
  match running.result with
  | .error fault => (⟨.error fault, running.log, running.stops⟩, w)
  | .ok true => (⟨.ok "running", running.log, running.stops⟩, w)
  | .ok false =>
    let (code, w) := h.exitCode s w
    (⟨code.result.map exitText, running.log ++ code.log, running.stops || code.stops⟩, w)

end Host

end Muster
