import Muster.Container.Engine
import Muster.Environment
import Muster.Host
import Muster.Text.Utf8
import Muster.Value.Convert
/-!
# Services in containers

Every service of a project runs in a container of its own on the network of the project.  A start
replaces a container that is left over; a stop removes the container.
-/

namespace Muster

/-- A project whose services run in containers: its name, the directory its files start at, and
where the environment files are read. -/
structure Project where
  name : String
  base : String
  files : Files
  environ : Table String

namespace Project

open Engine (Errand)

/-- The label that names the project of a container or network. -/
def projectLabel : String := "io.stackup.project"

/-- The label that names the service of a container. -/
def serviceLabel : String := "io.stackup.service"

/-- The statuses of a container that counts as running. -/
def runningStatuses : List String := ["running", "restarting"]

/-- The network of a project. -/
def networkName (p : Project) : String :=
  p.name ++ "_default"

/-- The container of a service. -/
def containerName (p : Project) (s : Service) : String :=
  let given := s.containerName.getD ""
  if given = "" then p.name ++ "-" ++ s.name ++ "-1" else given

/-- Makes sure of the network of a project. -/
def ensureNetwork (p : Project) : Errand Unit := do
  match ← Engine.attempt (Engine.findNetwork p.networkName) with
  | .ok () => pure ()
  | .error (.engine cause) =>
    if cause.isMissing then
      Engine.note ⟨.info, "network_creating", [("network", .str p.networkName)]⟩
      Engine.createNetwork p.networkName "bridge" (Table.ofList [(projectLabel, p.name)])
    else throw (.engine cause)
  | .error fault => throw fault

/-- Removes the network of a project, if there is one. -/
def teardown (p : Project) : Errand Unit := do
  let remove : Errand Unit := do
    Engine.findNetwork p.networkName
    Engine.removeNetwork p.networkName
  let network := ("network", Value.str p.networkName)
  match ← Engine.attempt remove with
  | .ok () => Engine.note ⟨.info, "network_removed", [network]⟩
  | .error (.engine cause) =>
    if cause.isMissing then pure ()
    else if cause.isAnswer then
      Engine.note ⟨.warning, "network_remove_failed", [network, ("error", .str cause.message)]⟩
    else throw (.engine cause)
  | .error fault => throw fault

/-- The container of a service, if there is one. -/
def container? (p : Project) (s : Service) : Errand (Option Container) := do
  match ← Engine.attempt (Engine.findContainer (p.containerName s)) with
  | .ok c => pure (some c)
  | .error (.engine cause) => if cause.isMissing then pure none else throw (.engine cause)
  | .error fault => throw fault

/-- Gets the image of a service from elsewhere. -/
def pull (s : Service) : Errand Unit := do
  Engine.note (.about .info "image_pulling" s.name [("image", .str s.image)])
  match ← Engine.attempt (Engine.pullImage s.image) with
  | .ok () => pure ()
  | .error (.engine cause) =>
    if cause.isAnswer then throw (.stack (.imagePull s.image (some cause.message)))
    else throw (.engine cause)
  | .error fault => throw fault

/-- Makes sure of the image of a service. -/
def ensureImage (s : Service) : Errand Unit := do
  match ← Engine.attempt (Engine.findImage s.image) with
  | .ok () => pure ()
  | .error (.engine (.imageNotFound _)) => pull s
  | .error fault => throw fault

/-- What a port is published as. -/
def binding (port : Port) : Binding :=
  match port.hostIp with
  | some ip => if ip = "" then .everywhere port.host else .address ip port.host
  | none => .everywhere port.host

/-- What the ports of a service are published as, each under its container port and protocol. -/
def bindings (s : Service) : Table Binding :=
  Table.ofList (s.ports.map fun port =>
    (toString port.container ++ "/" ++ port.protocol, binding port))

/-- What the container of a service is made of in an environment. -/
def containerSpec (p : Project) (s : Service) (environment : Table String) : ContainerSpec where
  name := p.containerName s
  image := s.image
  command := s.command
  entrypoint := s.entrypoint
  environment := environment
  ports := bindings s
  labels := (s.labels.insert projectLabel p.name).insert serviceLabel s.name
  workingDir := s.workingDir

/-- The environment of a service's container; that of the host is no part of it. -/
def environment (p : Project) (s : Service) : Except Fault (Table String) :=
  Environment.merge p.files p.environ p.base false s.envFiles s.environment ∅

/-- Makes a container on the network of the project and starts it. -/
def launch (p : Project) (s : Service) (spec : ContainerSpec) : Errand Unit := do
  p.ensureNetwork
  Engine.createContainer spec
  Engine.connectNetwork p.networkName spec.name [s.name]
  Engine.startContainer spec.name

/-- Removes a container that is left over from before. -/
def clear (p : Project) (s : Service) : Errand Unit := do
  match ← p.container? s with
  | none => pure ()
  | some _ =>
    Engine.note (.about .info "container_replacing" s.name
      [("container", .str (p.containerName s))])
    Engine.removeContainer (p.containerName s)

/-- Launches the container of a service in an environment, and tells what has become of it. -/
def settle (p : Project) (s : Service) (environment : Table String) : Errand Unit := do
  match ← Engine.attempt (p.launch s (p.containerSpec s environment)) with
  | .ok () =>
    Engine.note (.about .info "container_started" s.name
      [("container", .str (p.containerName s))])
  | .error (.engine cause) =>
    if cause.isAnswer then
      throw (.stack (.startFailed
        ("Service " ++ s.name ++ " failed to start: " ++ cause.message)))
    else throw (.engine cause)
  | .error fault => throw fault

/-- Starts a service in a fresh container. -/
def start (p : Project) (s : Service) : Errand Unit := do
  if s.image = "" then
    throw (.stack (.startFailed ("Service " ++ s.name ++ " has no image")))
  else
    ensureImage s
    p.clear s
    let environment ← p.environment s
    p.settle s environment

/-- Stops a service and removes its container. -/
def stop (p : Project) (s : Service) (timeout : Float) : Errand Unit := do
  if (← p.container? s).isSome then
    let name := p.containerName s
    Engine.note (.about .info "container_stopping" s.name [("container", .str name)])
    let remove : Errand Unit := do
      let seconds ← Value.truncate timeout
      Engine.stopContainer name seconds
      Engine.removeContainer name
    match ← Engine.attempt remove with
    | .ok () => pure ()
    | .error (.engine cause) => if cause.isMissing then pure () else throw (.engine cause)
    | .error fault => throw fault

/-- Whether a container counts as running. -/
def counts (c : Container) : Bool :=
  runningStatuses.contains c.status

/-- Whether the container of a service is running. -/
def isRunning (p : Project) (s : Service) : Errand Bool := do
  return (← p.container? s).any counts

/-- The exit code that the engine tells about a container. -/
def exitCodeOf (c : Container) : Except Fault (Option Int) :=
  let state := (Value.field? "State" c.attributes).getD (.map [])
  match state with
  | .map entries =>
    match Value.field "ExitCode" entries with
    | .int code => .ok (some code)
    | _ => .ok none
  | _ => .error .noAttribute

/-- The exit code of the last run of a service. -/
def exitCode (p : Project) (s : Service) : Errand (Option Int) := do
  match ← p.container? s with
  | none => pure none
  | some c => if counts c || c.status == "created" then pure none else exitCodeOf c

/-- The beginning of a command's output as text. -/
def outputText (output : ExecOutput) : String :=
  let cs := match output with
    | .nothing => []
    | .text s => s.toList
    | .bytes bs => Text.decodeUtf8 bs
  String.ofList (cs.take HealthCheck.outputLimit)

/-- The result of a health check that does not come back in time. -/
def timedOut : CheckResult where
  success := false
  output := "Health check timed out"

/-- Waits for a command that does not come back. -/
def outwait (timeout : Float) : Except Fault CheckResult :=
  match Host.waitFault? timeout with
  | some fault => .error fault
  | none => .ok timedOut

/-- Runs a command in the container of a service to see how the service is.  Only one command runs
at a time: while one hangs, no other begins. -/
def probe (p : Project) (s : Service) (timeout : Float) (argv : List String) :
    Errand CheckResult := do
  if (← get).stuck.contains s.name then outwait timeout
  else
    match ← Engine.attempt (Engine.execute (p.containerName s) argv) with
    | .error (.engine cause) => pure { success := false, output := cause.message }
    | .error fault => throw fault
    | .ok item =>
      if item.hangs then
        modify fun e => { e with stuck := e.stuck ++ [s.name] }
        outwait timeout
      else
        match item.fault with
        | some (.engine cause) => pure { success := false, output := cause.message }
        | some fault => throw fault
        | none =>
          pure {
            success := item.exitCode == some 0
            output := outputText item.output
            exitCode := item.exitCode }

/-- Runs a health check of a service in its container. -/
def check (p : Project) (s : Service) (check : HealthCheck) : Errand CheckResult := do
  match ← p.container? s with
  | none => pure { success := false, output := "Container not found" }
  | some _ =>
    match check.command? with
    | none => throw .outOfRange
    | some command => p.probe s check.timeout command.toWords

/-- What an errand comes back with, as a call to a host. -/
def perform {α : Type} (t : Errand α) (e : Engine) : Reply α × Engine :=
  let (result, e) := t.run { e with log := [] }
  ({ result, log := e.log }, { e with log := [] })

/-- The host that runs the services of a project in containers. -/
def host {τ : Type} (p : Project) (now : τ) : Host τ Engine where
  clock _ := now
  start s := perform (p.start s)
  stop s timeout := perform (p.stop s timeout)
  isRunning s := perform (p.isRunning s)
  exitCode s := perform (p.exitCode s)
  check s c := perform (p.check s c)
  teardown := perform p.teardown
  wait seconds e :=
    match Host.waitFault? seconds with
    | some fault => .error fault
    | none => .ok e

end Project

end Muster
