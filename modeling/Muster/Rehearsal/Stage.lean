import Muster.Health.Script
import Muster.Host
import Muster.Rehearsal.Run
/-!
# Stages

A stage is a host on which all services are staged: whether a start or a stop fails, what the
health checks say and when they come back is fixed beforehand, and time passes by command.
-/

namespace Muster.Rehearsal

/-- A service on a stage. -/
structure StagedService where
  run : StagedRun := {}
  stopFault : Option Fault := none
  stopCalls : Nat := 0
  script : List ScriptItem := []
  checkCalls : Nat := 0
  /-- Whether a stop is asked for when the service has been started. -/
  stopsOnStart : Bool := false
  /-- The services that have to be started before a health check comes back. -/
  gate : List String := []

/-- A host on which all services are staged. -/
structure Stage where
  services : Table StagedService
  now : Float
  /-- The calls to stop a service so far, each with the time it was given. -/
  stops : List (String × Float) := []
  tornDown : Bool := false

namespace Stage

/-- A service of a stage. -/
def service (w : Stage) (name : String) : StagedService :=
  (w.services.get? name).getD {}

/-- Changes a service of a stage. -/
def set (w : Stage) (name : String) (s : StagedService) : Stage :=
  { w with services := w.services.insert name s }

/-- Starts a service. -/
def start (s : Service) (w : Stage) : Reply Unit × Stage :=
  let staged := w.service s.name
  let (result, run) := { staged.run with startCalls := staged.run.startCalls + 1 }.launch
  let stops := match result with
    | .ok () => staged.stopsOnStart
    | .error _ => false
  ({ result, stops }, w.set s.name { staged with run })

/-- Stops a service.  One that was running ends with exit code zero. -/
def stop (s : Service) (timeout : Float) (w : Stage) : Reply Unit × Stage :=
  let staged := w.service s.name
  let staged := { staged with stopCalls := staged.stopCalls + 1 }
  let w := { w with stops := w.stops ++ [(s.name, timeout)] }
  match staged.stopFault with
  | some fault => (.fail fault, w.set s.name staged)
  | none =>
    let run := staged.run
    let run := if run.running then { run with running := false, exitCode := some 0 } else run
    (.ok (), w.set s.name { staged with run })

/-- Runs the health check of a service. -/
def check (s : Service) (w : Stage) : Reply CheckResult × Stage :=
  let staged := w.service s.name
  let item := ScriptItem.at? staged.script staged.checkCalls
  ({ result := item.reply, stops := item.stops },
    w.set s.name { staged with checkCalls := staged.checkCalls + 1 })

/-- Whether a health check of a service would not come back yet. -/
def busy (s : Service) (w : Stage) : Bool :=
  (w.service s.name).gate.any fun name => (w.service name).run.startCalls == 0

/-- The run of a service ends by itself. -/
def exit (w : Stage) (name : String) (code : Option Int) : Stage :=
  let staged := w.service name
  w.set name { staged with run := { staged.run with running := false, exitCode := code } }

/-- Fixes whether the start of a service fails. -/
def setStartFault (w : Stage) (name : String) (fault : Option Fault) : Stage :=
  let staged := w.service name
  w.set name { staged with run := { staged.run with startFault := fault } }

/-- Lets time pass. -/
def advance (w : Stage) (seconds : Float) : Stage :=
  { w with now := w.now + seconds }

/-- The host that a stage makes. -/
def host : Host Float Stage where
  clock w := w.now
  start := start
  stop := stop
  isRunning s w := (.ok (w.service s.name).run.running, w)
  exitCode s w := (.ok (w.service s.name).run.lastCode, w)
  check s _ w := w.check s
  busy := busy
  teardown w := (.ok (), { w with tornDown := true })

end Stage

end Muster.Rehearsal
