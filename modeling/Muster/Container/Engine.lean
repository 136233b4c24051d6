import Muster.Fault
import Muster.Log
import Muster.Table
/-!
# A container engine

The engine holds images, networks and containers.  It keeps a list of the calls made to it, and
it can be told to refuse a kind of call, or to be out of reach altogether.

An `Errand` is what is done with the engine: it changes the engine, writes to the log and may fail.
-/

namespace Muster

/-- What a container port is published as. -/
inductive Binding where
  /-- On every address of the host, at a given port or at any. -/
  | everywhere (port : Option Int)
  | address (ip : String) (port : Option Int)
deriving Repr, DecidableEq

/-- What a container is made of.  An empty command or entry point is the image's own. -/
structure ContainerSpec where
  name : String
  image : String
  command : List String
  entrypoint : List String
  environment : Table String
  ports : Table Binding
  labels : Table String
  workingDir : Option String

/-- A container: its status, what the engine tells about it, what it was made of if the engine
has made it, and the networks it is connected to, each with its names there. -/
structure Container where
  status : String
  attributes : List (Value × Value) := []
  spec : Option ContainerSpec := none
  networks : Table (List String) := ∅

/-- A call of the engine. -/
inductive EngineCall where
  | findImage (name : String)
  | pullImage (name : String)
  | findContainer (name : String)
  | createContainer (spec : ContainerSpec)
  | startContainer (name : String)
  | stopContainer (name : String) (timeout : Int)
  | removeContainer (name : String) (force : Bool)
  | findNetwork (name : String)
  | createNetwork (name driver : String) (labels : Table String)
  | connectNetwork (network container : String) (aliases : List String)
  | removeNetwork (name : String)
  | execute (container : String) (argv : List String)

/-- A kind of call. -/
inductive EngineAction where
  | findImage
  | pullImage
  | findContainer
  | createContainer
  | startContainer
  | stopContainer
  | removeContainer
  | findNetwork
  | createNetwork
  | connectNetwork
  | removeNetwork
  | execute
deriving Repr, DecidableEq

/-- The kind of a call. -/
def EngineCall.action : EngineCall → EngineAction
  | findImage .. => .findImage
  | pullImage .. => .pullImage
  | findContainer .. => .findContainer
  | createContainer .. => .createContainer
  | startContainer .. => .startContainer
  | stopContainer .. => .stopContainer
  | removeContainer .. => .removeContainer
  | findNetwork .. => .findNetwork
  | createNetwork .. => .createNetwork
  | connectNetwork .. => .connectNetwork
  | removeNetwork .. => .removeNetwork
  | execute .. => .execute

/-- What a command writes while it runs in a container. -/
inductive ExecOutput where
  | nothing
  | text (s : String)
  | bytes (bs : List UInt8)

/-- A run of a command in a container.  One that hangs comes back only when it is released. -/
structure ExecItem where
  exitCode : Option Int := some 0
  output : ExecOutput := .nothing
  fault : Option Fault := none
  hangs : Bool := false

/-- The state of a container engine. -/
structure Engine where
  images : List String := []
  networks : List String := []
  containers : Table Container := ∅
  /-- Why the engine is out of reach. -/
  unavailable : Option String := none
  /-- The faults of the kinds of call that the engine refuses. -/
  faults : List (EngineAction × Fault) := []
  /-- The runs of commands to come in each container; the last one repeats. -/
  execs : Table (List ExecItem) := ∅
  /-- Whether commands that hang come back. -/
  released : Bool := false
  /-- The services with a health check that hangs. -/
  stuck : List String := []
  calls : List EngineCall := []
  log : List LogEntry := []

namespace Engine

/-- Something done with an engine. -/
abbrev Errand := ExceptT Fault (StateM Engine)

/-- The outcome of an errand as a value, so that an errand can go on after a fault. -/
def attempt {α : Type} (t : Errand α) : Errand (Except Fault α) :=
  fun e =>
    let (result, e) := t.run e
    (.ok result, e)

/-- Writes to the log. -/
def note (entry : LogEntry) : Errand Unit :=
  modify fun e => { e with log := e.log ++ [entry] }

/-- Makes a call: it is recorded, unless the engine is out of reach, and it may be refused. -/
def call (c : EngineCall) : Errand Unit := do
  let e ← get
  match e.unavailable with
  | some reason => throw (.stack (.startFailed ("Docker is not available: " ++ reason)))
  | none =>
    set { e with calls := e.calls ++ [c] }
    match e.faults.lookup c.action with
    | some fault => throw fault
    | none => pure ()

/-- Looks for an image. -/
def findImage (name : String) : Errand Unit := do
  call (.findImage name)
  if !(← get).images.contains name then
    throw (.engine (.imageNotFound ("No such image: " ++ name)))

/-- Gets an image from elsewhere. -/
def pullImage (name : String) : Errand Unit := do
  call (.pullImage name)
  modify fun e =>
    if e.images.contains name then e else { e with images := e.images ++ [name] }

/-- Looks for a container. -/
def findContainer (name : String) : Errand Container := do
  call (.findContainer name)
  match (← get).containers.get? name with
  | some c => pure c
  | none => throw (.engine (.notFound ("No such container: " ++ name)))

/-- Makes a container. -/
def createContainer (spec : ContainerSpec) : Errand Unit := do
  call (.createContainer spec)
  let c : Container := { status := "created", spec := some spec }
  modify fun e => { e with containers := e.containers.insert spec.name c }

/-- Starts a container. -/
def startContainer (name : String) : Errand Unit := do
  call (.startContainer name)
  modify fun e => { e with
    containers := e.containers.modify name fun c => { c with status := "running" } }

/-- Stops a container, forcefully after some seconds. -/
def stopContainer (name : String) (timeout : Int) : Errand Unit := do
  call (.stopContainer name timeout)
  let exited := [(Value.str "State", Value.map [(.str "ExitCode", .int 0)])]
  modify fun e => { e with
    containers := e.containers.modify name fun c =>
      { c with status := "exited", attributes := exited } }

/-- Removes a container, running or not. -/
def removeContainer (name : String) : Errand Unit := do
  call (.removeContainer name true)
  modify fun e => { e with containers := e.containers.erase name }

/-- Looks for a network. -/
def findNetwork (name : String) : Errand Unit := do
  call (.findNetwork name)
  if !(← get).networks.contains name then
    throw (.engine (.notFound ("No such network: " ++ name)))

/-- Makes a network. -/
def createNetwork (name driver : String) (labels : Table String) : Errand Unit := do
  call (.createNetwork name driver labels)
  modify fun e =>
    if e.networks.contains name then e else { e with networks := e.networks ++ [name] }

/-- Connects a container to a network, where it has some names. -/
def connectNetwork (network container : String) (aliases : List String) : Errand Unit := do
  call (.connectNetwork network container aliases)
  modify fun e => { e with
    containers := e.containers.modify container fun c =>
      { c with networks := c.networks.insert network aliases } }

/-- Removes a network. -/
def removeNetwork (name : String) : Errand Unit := do
  call (.removeNetwork name)
  modify fun e => { e with networks := e.networks.filter (· != name) }

/-- The next run of a command in a container, and the runs after it. -/
def nextExec : List ExecItem → ExecItem × List ExecItem
  | [] => ({}, [])
  | [item] => (item, [item])
  | item :: r => (item, r)

/-- Begins to run a command in a container. -/
def execute (container : String) (argv : List String) : Errand ExecItem := do
  call (.execute container argv)
  let e ← get
  let (item, rest) := nextExec ((e.execs.get? container).getD [])
  set { e with execs := e.execs.modify container fun _ => rest }
  pure { item with hangs := item.hangs && !e.released }

/-- Lets the commands that hang come back, now and from now on. -/
def release (e : Engine) : Engine :=
  { e with released := true, stuck := [] }

end Engine

end Muster
