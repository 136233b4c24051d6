import Muster.Value.Text
/-!
# What can go wrong

`DescriptorFault` names every way in which a descriptor can be refused, `StackFault` every
way in which a stack can fail to come up, and `EngineFault` what a container engine reports.
`Fault` adds the failures that belong to none of these: they come from a value that nothing
has checked before it is used, or from outside.  Each type has one function that words its
members.
-/

namespace Muster

/-- Why a descriptor is refused. -/
inductive DescriptorFault where
  /-- The text is no document; the details say what is wrong with it. -/
  | badYaml (details : String)
  | notMapping
  | servicesNotMapping
  | serviceNotMapping (service : String)
  | nothingToRun (service : String)
  | badRestartCount (service : String) (value : Value)
  | unknownRestart (service : String) (value : Value)
  | badEnvironment (value : Value)
  | badPort (service : String) (value : Value)
  | badHealthCheck (service : String)
  | badTest (service : String) (value : Value)
  | badRetries (service : String)
  | badDuration (value : Value)
  | badDependencies (service : String) (value : Value)
  | badCondition (service : String) (value : Value)
  /-- A variable that the template requires is missing; the template may word the reason. -/
  | missingVariable (name reason : String)
  | keyMismatch (key name : String)
  | undefinedDependency (service dependency : String)
  | unknownServices (names : List String)
  | disabledDependency (service dependency : String)
  | cycle (path : List String)
  | other (message : String)

namespace DescriptorFault

/-- The wording of a descriptor fault. -/
def message : DescriptorFault → String
  | badYaml details => "Invalid YAML: " ++ details
  | notMapping => "Descriptor must be a mapping"
  | servicesNotMapping => "'services' must be a mapping"
  | serviceNotMapping s => "Service " ++ s ++ " must be a mapping"
  | nothingToRun s => "Service " ++ s ++ " has neither an image nor a command"
  | badRestartCount s v => "Service " ++ s ++ ": invalid restart count in " ++ v.literal
  | unknownRestart s v => "Service " ++ s ++ ": unknown restart policy " ++ v.literal
  | badEnvironment v => "Invalid environment: " ++ v.literal
  | badPort s v => "Service " ++ s ++ ": invalid port " ++ v.literal
  | badHealthCheck s => "Service " ++ s ++ ": healthcheck must be a mapping"
  | badTest s v => "Service " ++ s ++ ": invalid healthcheck test " ++ v.literal
  | badRetries s => "Service " ++ s ++ ": invalid healthcheck retries"
  | badDuration v => "Invalid duration: " ++ v.literal
  | badDependencies s v => "Service " ++ s ++ ": invalid depends_on " ++ v.literal
  | badCondition s v => "Service " ++ s ++ ": unsupported depends_on condition " ++ v.literal
  | missingVariable x reason =>
    if reason = "" then "Required variable " ++ x ++ " is not set" else reason
  | keyMismatch key name =>
    "Service key " ++ Text.literal key ++ " does not match its name " ++ Text.literal name
  | undefinedDependency s d => "Service " ++ s ++ " depends on undefined service " ++ d
  | unknownServices names => "No such service: " ++ Value.commas names
  | disabledDependency s d =>
    "Service " ++ s ++ " depends on " ++ d ++ ", which is not enabled by the selected profiles"
  | cycle path => "Circular dependency detected: " ++ " -> ".intercalate path
  | other message => message

end DescriptorFault

/-- Why a stack does not come up. -/
inductive StackFault where
  | descriptor (cause : DescriptorFault)
  | exhausted (service : String) (attempts : Int) (lastOutput : String)
  | imagePull (image : String) (reason : Option String)
  | startFailed (message : String)
  | interrupted (message : String)
  | other (message : String)

namespace StackFault

/-- The wording of a stack fault. -/
def message : StackFault → String
  | descriptor cause => cause.message
  | exhausted service attempts lastOutput =>
    "Service " ++ service ++ " is unhealthy after " ++ toString attempts ++ " attempt(s)"
      ++ (if lastOutput = "" then "" else ": " ++ lastOutput)
  | imagePull image reason =>
    let why := match reason with
      | some r => if r = "" then "" else ": " ++ r
      | none => ""
    "Failed to pull image " ++ image ++ why
  | startFailed message => message
  | interrupted message => message
  | other message => message

end StackFault

/-- What a container engine reports: a refused call, something that does not exist, an image
that does not exist, or any other trouble with the engine. -/
inductive EngineFault where
  | refused (message : String)
  | notFound (message : String)
  | imageNotFound (message : String)
  | broken (message : String)
deriving Repr, DecidableEq

namespace EngineFault

/-- The engine's own wording. -/
def message : EngineFault → String
  | refused m | notFound m | imageNotFound m | broken m => m

/-- Whether the engine answered at all: everything but general trouble is an answer. -/
def isAnswer : EngineFault → Bool
  | broken _ => false
  | _ => true

/-- Whether the engine says that something does not exist. -/
def isMissing : EngineFault → Bool
  | notFound _ | imageNotFound _ => true
  | _ => false

end EngineFault

/-- A field that does not hold a value of its type: where it stands and what is wrong with it. -/
structure FieldFault where
  path : List String
  kind : String
deriving Repr, DecidableEq

/-- Why a file cannot be read or made. -/
inductive FileFault where
  | notFound
  | isDirectory
  | notDirectory
  /-- Something else stands there. -/
  | occupied
deriving Repr, DecidableEq

/-- Everything that can end an operation early. -/
inductive Fault where
  | stack (cause : StackFault)
  | engine (cause : EngineFault)
  /-- A failure outside the launcher, with its wording. -/
  | runtime (message : String)
  /-- The user's request to stop. -/
  | interrupt (message : String)
  | fields (faults : List FieldFault)
  | file (cause : FileFault)
  | unclosedQuote
  | danglingEscape
  /-- Bytes that are no text. -/
  | damagedText
  | wrongType
  | badValue
  | noAttribute
  | overflow
  | missingKey
  | outOfRange
  | tooDeep

namespace Fault

/-- The fault of a refused descriptor. -/
def descriptor (cause : DescriptorFault) : Fault :=
  stack (.descriptor cause)

/-- The wording of a fault. -/
def message : Fault → String
  | stack cause => cause.message
  | engine cause => cause.message
  | runtime m | interrupt m => m
  | unclosedQuote => "No closing quotation"
  | danglingEscape => "No escaped character"
  | _ => ""

/-- Whether a fault is one that the launcher reports about the stack itself. -/
def isStack : Fault → Bool
  | stack _ => true
  | _ => false

end Fault

end Muster
