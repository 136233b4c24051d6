import Muster.Health.Poll
/-!
# Scripted health checks

Surroundings in which the results of a check are fixed beforehand: the first run takes the
first item of a script, the second run the second, and the last item counts for all further
runs.
-/

namespace Muster

/-- A scripted run of a health check: its result, and whether a stop comes during the run. -/
structure ScriptItem where
  reply : Except Fault CheckResult
  stops : Bool

namespace ScriptItem

/-- A run that succeeds. -/
def pass : ScriptItem :=
  ⟨.ok ⟨true, "ok", some 0⟩, false⟩

/-- A run that fails. -/
def fail : ScriptItem :=
  ⟨.ok ⟨false, "check failed", some 1⟩, false⟩

/-- The item for the next run after `n` runs; without a script every run succeeds. -/
def at? (script : List ScriptItem) (n : Nat) : ScriptItem :=
  (script[n]?.or script.getLast?).getD pass

end ScriptItem

/-- Scripted surroundings: the script of the check, what has happened so far, and the wait during
which a stop comes, if one does. -/
structure ScriptedWorld where
  script : List ScriptItem
  stopAtWait : Option Nat
  stopped : Bool
  checks : Nat := 0
  waits : List Float := []

namespace ScriptedWorld

/-- A wait.  The stop may come during it. -/
def wait (w : ScriptedWorld) (seconds : Float) : ScriptedWorld :=
  let waits := w.waits ++ [seconds]
  { w with waits, stopped := w.stopped || w.stopAtWait == some waits.length }

/-- A run of the check. -/
def check (w : ScriptedWorld) : Except Fault CheckResult × ScriptedWorld :=
  let item := ScriptItem.at? w.script w.checks
  (item.reply, { w with checks := w.checks + 1, stopped := w.stopped || item.stops })

/-- The surroundings that a scripted world makes. -/
def surroundings : Poll.Surroundings ScriptedWorld where
  stopped w := w.stopped
  wait seconds w := .ok (w.wait seconds)
  check _ w := w.check

end ScriptedWorld

end Muster
