/-!
# The state of a service

What is known about a service while its stack is up.  The two flags `started` and `settled`
are never taken back: the first says that the service was launched or has failed, the second
that it is ready or has failed.  Others wait for these flags, so whatever else there is to note
is noted before they are set.

A change of a state is a list of marks, each of which changes one thing: others may look at the
state after any of them.
-/

namespace Muster

/-- Where a service stands in its life. -/
inductive Status where
  | pending
  | starting
  | running
  | healthy
  | unhealthy
  | blocked
  | failed
  | exited
  | stopped
deriving Repr, DecidableEq, Inhabited

namespace Status

/-- Every status. -/
def all : List Status :=
  [pending, starting, running, healthy, unhealthy, blocked, failed, exited, stopped]

/-- The written form of a status. -/
def name : Status → String
  | pending => "pending"
  | starting => "starting"
  | running => "running"
  | healthy => "healthy"
  | unhealthy => "unhealthy"
  | blocked => "blocked"
  | failed => "failed"
  | exited => "exited"
  | stopped => "stopped"

/-- The status with a written form. -/
def ofName? (s : String) : Option Status :=
  all.find? (·.name = s)

@[simp]
theorem ofName?_name (s : Status) :
  ofName? s.name = some s
  := by
  cases s <;> simp [name, ofName?, all]

end Status

/-- What the health check of a service says. -/
inductive Health where
  | starting
  | healthy
  | unhealthy
  | unchecked
deriving Repr, DecidableEq, Inhabited

/-- The written form of a health. -/
def Health.name : Health → String
  | starting => "starting"
  | healthy => "healthy"
  | unhealthy => "unhealthy"
  | unchecked => "none"

/-- What is known about a service while its stack is up. -/
structure ServiceState where
  name : String
  status : Status := .pending
  health : Health := .unchecked
  ready : Bool := false
  failed : Bool := false
  error : Option String := none
  exitCode : Option Int := none
  lastOutput : String := ""
  restartCount : Nat := 0
  launched : Bool := false
  started : Bool := false
  settled : Bool := false
deriving Repr, DecidableEq

/-- A single change of the state of a service. -/
inductive Mark where
  | status (status : Status)
  | health (health : Health)
  | error (error : String)
  | launched
  | ready
  | failed
  /-- Releases whoever waits for the launch of the service. -/
  | started
  /-- Releases whoever waits for the end of its start. -/
  | settled
deriving Repr, DecidableEq

namespace Mark

/-- The marks of a service that has been launched. -/
def ofStart : List Mark :=
  [status .starting, launched, started]

/-- The marks of a service that can be depended upon, after a health check or without one. -/
def ofReady (checked : Bool) : List Mark :=
  if checked then [ready, status .healthy, health .healthy, started, settled]
  else [ready, status .running, started, settled]

/-- The marks of a service that has failed for good. -/
def ofFailure (status : Status) (error : String) : List Mark :=
  if status = .unhealthy then
    [failed, .status status, .error error, health .unhealthy, started, settled]
  else [failed, .status status, .error error, started, settled]

end Mark

namespace ServiceState

/-- The state after a mark. -/
def mark (s : ServiceState) : Mark → ServiceState
  | .status status => { s with status }
  | .health health => { s with health }
  | .error error => { s with error := some error }
  | .launched => { s with launched := true }
  | .ready => { s with ready := true }
  | .failed => { s with failed := true }
  | .started => { s with started := true }
  | .settled => { s with settled := true }

/-- The state after some marks. -/
def markAll (s : ServiceState) (marks : List Mark) : ServiceState :=
  marks.foldl mark s

/-- The service has been launched. -/
def markStarted (s : ServiceState) : ServiceState :=
  s.markAll Mark.ofStart

/-- The service can be depended upon. -/
def markReady (s : ServiceState) (checked : Bool) : ServiceState :=
  s.markAll (Mark.ofReady checked)

/-- The service has failed for good. -/
def markFailed (s : ServiceState) (status : Status) (error : String) : ServiceState :=
  s.markAll (Mark.ofFailure status error)

/-- The service is about to be started again. -/
def recordRestart (s : ServiceState) : ServiceState :=
  { s with restartCount := s.restartCount + 1 }

/-- Whether the service has been started again. -/
def restarted (s : ServiceState) : Bool :=
  s.restartCount != 0

@[simp]
theorem settled_markReady (s : ServiceState) (checked : Bool) :
  (s.markReady checked).settled = true
  := by
  cases checked <;> rfl

@[simp]
theorem settled_markFailed (s : ServiceState) (status : Status) (error : String) :
  (s.markFailed status error).settled = true
  := by
  cases status <;> rfl

end ServiceState

end Muster
