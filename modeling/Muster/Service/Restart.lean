/-!
# Restart policies

A restart policy says whether a service is started again when a run of it has ended.
-/

namespace Muster

/-- When an ended service is started again. -/
inductive RestartPolicy where
  | never
  | onFailure
  | always
deriving Repr, DecidableEq, Inhabited

namespace RestartPolicy

/-- The written form of a policy. -/
def name : RestartPolicy → String
  | never => "never"
  | onFailure => "on-failure"
  | always => "always"

/-- The policy with a written form. -/
def ofName? (s : String) : Option RestartPolicy :=
  if s = "never" then some never
  else if s = "on-failure" then some onFailure
  else if s = "always" then some always
  else none

@[simp]
theorem ofName?_name (p : RestartPolicy) :
  ofName? p.name = some p
  := by
  cases p <;> simp [name, ofName?]

/-- Whether a service with this policy is started again after a run that ended with an exit
code, if one is known. -/
def restarts (policy : RestartPolicy) (code : Option Int) : Bool :=
  match policy with
  | always => true
  | onFailure => code.any (· != 0)
  | never => false

@[simp]
theorem restarts_onFailure_zero :
  restarts onFailure (some 0) = false
  := rfl

end RestartPolicy

end Muster
