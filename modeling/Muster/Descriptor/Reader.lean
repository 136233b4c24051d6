import Muster.Descriptor.Expand
import Muster.Descriptor.Fields
import Muster.Descriptor.Overlong
/-!
# Reading descriptors

From a document to the descriptor of a stack: the variables are put in first, then every
service is read, then the services are fitted together.
-/

namespace Muster.Descriptor

open Value

/-- The service that the entries of a mapping declare under a name. -/
def readFields (name : String) (entries : List (Value × Value)) : Except Fault Service := do
  let get (key : String) := field key entries
  let image := imageText (get "image")
  let command ← readCommand (get "command")
  let entrypoint ← readCommand (get "entrypoint")
  if !(get "image").isGiven && command.isEmpty && entrypoint.isEmpty then
    throw (.descriptor (.nothingToRun name))
  let (restart, maxRestarts) ← readRestart name (get "restart")
  let environment ← readEnvironment (get "environment")
  let envFiles ← (get "env_file").toList
  let ports ← readPorts name (get "ports")
  let healthCheck ← readHealthCheck name (get "healthcheck")
  let dependsOn ← readDependencies name (get "depends_on")
  let profiles ← (get "profiles").toList
  let labels ← readEnvironment (get "labels")
  let faults := optionalTextFaults "working_dir" (get "working_dir")
    ++ optionalTextFaults "container_name" (get "container_name")
    ++ textFaults "env_file" envFiles
  if !faults.isEmpty then
    throw (.fields faults)
  return {
    name, image, command, entrypoint, environment, ports, restart, maxRestarts, healthCheck
    dependsOn, labels
    workingDir := (get "working_dir").toOptionalText.toOption.join
    containerName := (get "container_name").toOptionalText.toOption.join
    envFiles := envFiles.filterMap fun v => v.toText.toOption
    profiles := profiles.map text }

/-- The service that a value declares under a name; nothing stands for an empty mapping. -/
def readService (name : String) (v : Value) : Except Fault Service :=
  match v with
  | .map entries => readFields name entries
  | _ => if v.isGiven then .error (.descriptor (.serviceNotMapping name)) else readFields name []

/-- The services that the entries of a mapping declare, in its order. -/
def readServices (entries : List (Value × Value)) : Except Fault (Table Service) := do
  let services ← entries.mapM fun e => do
    let service ← readService e.1.text e.2
    return (e.1.text, service)
  return Table.ofList services

/-- The descriptor that a document declares, after its variables have been put in. -/
def ofDocument (project : String) (document : Value) : Except Fault Descriptor := do
  let entries ← match document with
    | .map entries => pure entries
    | v => if v.isGiven then throw (.descriptor .notMapping) else pure []
  let services ← match field "services" entries with
    | .map entries => readServices entries
    | v => if v.isGiven then throw (.descriptor .servicesNotMapping) else pure ∅
  (make project services).mapError .descriptor

/-- The descriptor that a document declares, unless a number in it cannot be written out.  Such
numbers are looked for beforehand: of a document that is refused as well, either may be found
first. -/
def ofExpanded (project : String) (document : Value) : Except Fault Descriptor :=
  if (written document).any isOverlong then .error .badValue else ofDocument project document

/-- The descriptor that a document declares under the variables of a context, with the names of
the variables it missed. -/
def read (project : String) (context : Table String) (document : Value) :
    Except Fault (Descriptor × List String) := do
  let (document, unset) ← (document.cut nestingLimit).expand context
  let descriptor ← ofExpanded project document
  return (descriptor, unset)

end Muster.Descriptor
