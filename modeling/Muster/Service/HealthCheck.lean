/-!
# Health checks

The check that decides whether a service is ready: a test command, the times between its
runs and the number of runs it gets.
-/

namespace Muster

/-- A command that decides whether a service is ready.  The first word of the test says how
it is run. -/
structure HealthCheck where
  test : List String
  interval : Float
  timeout : Float
  retries : Int
  startPeriod : Float
  disabled : Bool
deriving Repr, Inhabited

/-- A command to run: a list of words, or a line for a shell. -/
inductive Command where
  | words (argv : List String)
  | line (script : String)
deriving Repr, DecidableEq

/-- The shell that lines are given to. -/
def shellPath : String := "/bin/sh"

/-- The words of a command; a line is given to a shell. -/
def Command.toWords : Command → List String
  | words argv => argv
  | line script => [shellPath, "-c", script]

namespace HealthCheck

/-- The greatest number of characters of a check's output that are kept. -/
def outputLimit : Nat := 500

/-- Whether the check is ever run. -/
def enabled (check : HealthCheck) : Bool :=
  !check.disabled && match check.test with
    | [] => false
    | kind :: _ => kind != "NONE"

/-- The number of runs before the service counts as unhealthy. -/
def attempts (check : HealthCheck) : Nat :=
  max check.retries.toNat 1

/-- There is always a first attempt. -/
theorem attempts_pos (check : HealthCheck) :
  0 < check.attempts
  := by
  unfold attempts
  omega

/-- The command of a test; an empty test has none. -/
def command? (check : HealthCheck) : Option Command :=
  match check.test with
  | [] => none
  | kind :: arguments =>
    if kind = "CMD-SHELL" then some (.line (" ".intercalate arguments))
    else if kind = "CMD" then some (.words arguments)
    else some (.words (kind :: arguments))

end HealthCheck

end Muster
