import Muster.Descriptor
import Muster.Descriptor.Fields
/-!
# Normal forms

The normal form of a descriptor is a document that says everything about its services and leaves
out what has its default.
-/

namespace Muster

open Value

/-- The texts of a list. -/
def textList (l : List String) : Value :=
  .list (l.map .str)

/-- The entries of a table. -/
def textTable (t : Table String) : Value :=
  .map (t.entries.map fun e => (.str e.1, .str e.2))

/-- An entry, unless it says nothing. -/
def entryUnless (default : Bool) (name : String) (v : Value) : List (Value × Value) :=
  if default then [] else [(.str name, v)]

/-- The normal form of a health check. -/
def HealthCheck.normal (c : HealthCheck) : Value :=
  .map (entryUnless c.test.isEmpty "test" (textList c.test)
    ++ entryUnless (c.interval == Descriptor.defaultInterval) "interval" (.float c.interval)
    ++ entryUnless (c.timeout == Descriptor.defaultInterval) "timeout" (.float c.timeout)
    ++ entryUnless (c.retries == Descriptor.defaultRetries) "retries" (.int c.retries)
    ++ entryUnless (c.startPeriod == Descriptor.noTime) "start_period" (.float c.startPeriod)
    ++ entryUnless (!c.disabled) "disabled" (.bool c.disabled))

namespace Service

/-- An optional text, as an entry. -/
def optionalEntry (name : String) (v : Option String) : List (Value × Value) :=
  v.toList.map fun s => (.str name, .str s)

/-- The entries of the normal form of a service. -/
def normalEntries (s : Service) : List (Value × Value) :=
  entryUnless (s.image == "") "image" (.str s.image)
    ++ entryUnless s.command.isEmpty "command" (textList s.command)
    ++ entryUnless s.entrypoint.isEmpty "entrypoint" (textList s.entrypoint)
    ++ optionalEntry "working_dir" s.workingDir
    ++ optionalEntry "container_name" s.containerName
    ++ entryUnless s.environment.entries.isEmpty "environment" (textTable s.environment)
    ++ entryUnless s.envFiles.isEmpty "env_file" (textList s.envFiles)
    ++ entryUnless s.ports.isEmpty "ports" (textList (s.ports.map (·.text)))
    ++ entryUnless (s.restart == .never) "restart" (.str s.restart.name)
    ++ entryUnless (s.maxRestarts == 0) "max_restarts" (.int s.maxRestarts)
    ++ s.healthCheck.toList.map (fun c => (.str "healthcheck", c.normal))
    ++ entryUnless s.dependsOn.entries.isEmpty "depends_on"
      (textTable (s.dependsOn.map Condition.name))
    ++ entryUnless s.profiles.isEmpty "profiles" (textList s.profiles)
    ++ entryUnless s.labels.entries.isEmpty "labels" (textTable s.labels)

/-- The normal form of a service; its name stands outside. -/
def normal (s : Service) : Value :=
  .map s.normalEntries

end Service

/-- The normal form of a descriptor, with its services in a given order. -/
def Descriptor.normal (d : Descriptor) (order : List String) : Value :=
  let services := order.filterMap fun name =>
    (d.services.get? name).map fun s => (Value.str name, s.normal)
  .map [(.str "name", .str d.project), (.str "services", .map services)]

end Muster
