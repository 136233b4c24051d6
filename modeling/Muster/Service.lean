import Muster.Service.HealthCheck
import Muster.Service.Port
import Muster.Service.Restart
import Muster.Table
/-!
# Services

A service as its descriptor declares it.  It is made once and does not change afterwards.
-/

namespace Muster

/-- What a service waits for in a service it depends on. -/
inductive Condition where
  | started
  | healthy
deriving Repr, DecidableEq, Inhabited

namespace Condition

/-- The written form of a condition. -/
def name : Condition → String
  | started => "service_started"
  | healthy => "service_healthy"

/-- The condition with a written form. -/
def ofName? (s : String) : Option Condition :=
  if s = "service_started" then some started
  else if s = "service_healthy" then some healthy
  else none

@[simp]
theorem ofName?_name (c : Condition) :
  ofName? c.name = some c
  := by
  cases c <;> simp [name, ofName?]

end Condition

/-- The declaration of a service. -/
structure Service where
  name : String
  image : String := ""
  command : List String := []
  entrypoint : List String := []
  workingDir : Option String := none
  containerName : Option String := none
  environment : Table String := ∅
  envFiles : List String := []
  ports : List Port := []
  restart : RestartPolicy := .never
  maxRestarts : Int := 0
  healthCheck : Option HealthCheck := none
  dependsOn : Table Condition := ∅
  profiles : List String := []
  labels : Table String := ∅

namespace Service

/-- The words that are run: the entry point and then the command. -/
def fullCommand (s : Service) : List String :=
  s.entrypoint ++ s.command

/-- The health check of a service if it is ever run. -/
def activeCheck? (s : Service) : Option HealthCheck :=
  s.healthCheck.filter (·.enabled)

/-- Whether a service has a health check that is run. -/
def hasHealthCheck (s : Service) : Bool :=
  s.activeCheck?.isSome

/-- Whether a service takes part in a run with the given profiles: one without profiles always
does. -/
def isEnabled (s : Service) (profiles : List String) : Bool :=
  s.profiles.isEmpty || s.profiles.any profiles.contains

/-- The names of the services that a service depends on. -/
def dependencies (s : Service) : List String :=
  s.dependsOn.keys

end Service

end Muster
