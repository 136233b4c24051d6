import Muster.Fault
/-!
# Staged runs

A service whose runs are staged ends when a rehearsal says so, and its start fails when it is
told to.
-/

namespace Muster.Rehearsal

/-- A service whose runs are staged. -/
structure StagedRun where
  running : Bool := false
  exitCode : Option Int := none
  startFault : Option Fault := none
  startCalls : Nat := 0

namespace StagedRun

/-- The exit code of the last run, nothing while one is going on. -/
def lastCode (r : StagedRun) : Option Int :=
  if r.running then none else r.exitCode

/-- Tries to start a run. -/
def launch (r : StagedRun) : Except Fault Unit × StagedRun :=
  match r.startFault with
  | some fault => (.error fault, r)
  | none => (.ok (), { r with running := true, exitCode := none })

end StagedRun

end Muster.Rehearsal
