import Muster.Descriptor.Select
import Muster.Host
import Muster.Service.State
import Muster.StartOrder
import Muster.Supervisor.Check
import Muster.Supervisor.Monitor
/-!
# Stacks

A stack is a descriptor together with what has become of its services on a host: the order in
which they were started, their states, and the supervisor that watches them.  The stop flag of
the supervisor is the stop flag of the whole stack.
-/

namespace Muster

/-- A stack on a host whose state is of type `σ`. -/
structure Stack (τ σ : Type) where
  descriptor : Descriptor
  backoff : Backoff τ
  stopTimeout : Float
  /-- The services of the last run in the order of their start. -/
  order : List String := []
  /-- The services that the host has been told about, oldest first. -/
  known : List String := []
  states : Table ServiceState := ∅
  supervisor : Supervisor τ := {}
  world : σ
  log : List LogEntry := []

namespace Stack

variable {τ σ : Type}

/-- Writes to the log. -/
def note (k : Stack τ σ) (e : LogEntry) : Stack τ σ :=
  { k with log := k.log ++ [e] }

/-- Asks for a stop. -/
def requestStop (k : Stack τ σ) : Stack τ σ :=
  { k with supervisor := k.supervisor.requestStop }

/-- Whether a stop has been asked for. -/
def stopping (k : Stack τ σ) : Bool :=
  k.supervisor.stopped

/-- Takes note of what a call to the host came back with. -/
def hear {α : Type} (k : Stack τ σ) (r : Reply α × σ) : Except Fault α × Stack τ σ :=
  let supervisor := if r.1.stops then k.supervisor.requestStop else k.supervisor
  (r.1.result, { k with world := r.2, log := k.log ++ r.1.log, supervisor := supervisor })

section Hear

variable {α : Type} (k : Stack τ σ) (r : Reply α × σ)

@[simp]
theorem fst_hear :
  (k.hear r).1 = r.1.result
  := rfl

@[simp]
theorem world_hear :
  (k.hear r).2.world = r.2
  := rfl

@[simp]
theorem states_hear :
  (k.hear r).2.states = k.states
  := rfl

@[simp]
theorem order_hear :
  (k.hear r).2.order = k.order
  := rfl

@[simp]
theorem stopping_hear :
  (k.hear r).2.stopping = (k.stopping || r.1.stops)
  := by
  cases stops : r.1.stops <;> simp [hear, stopping, stops, Supervisor.requestStop]

end Hear

/-- Tells the host about a service. -/
def meet (k : Stack τ σ) (name : String) : Stack τ σ :=
  if k.known.contains name then k else { k with known := k.known ++ [name] }

/-- Changes the state of a service. -/
def update (k : Stack τ σ) (name : String) (f : ServiceState → ServiceState) : Stack τ σ :=
  { k with states := k.states.modify name f }

@[simp]
theorem world_update (k : Stack τ σ) (name : String) (f : ServiceState → ServiceState) :
  (k.update name f).world = k.world
  := rfl

@[simp]
theorem order_update (k : Stack τ σ) (name : String) (f : ServiceState → ServiceState) :
  (k.update name f).order = k.order
  := rfl

@[simp]
theorem stopping_update (k : Stack τ σ) (name : String) (f : ServiceState → ServiceState) :
  (k.update name f).stopping = k.stopping
  := rfl

/-- The part of the stack that takes part in a run; the whole stack has to be free of cycles. -/
def plan (k : Stack τ σ) (profiles services : List String) : Except Fault Descriptor :=
  match k.descriptor.startOrder with
  | .error fault => .error fault
  | .ok _ => (k.descriptor.select profiles services).mapError .descriptor

/-- The order of the last run, or that of the whole stack before the first. -/
def currentOrder (k : Stack τ σ) : Except Fault (List String) :=
  if k.order.isEmpty then k.descriptor.startOrder else .ok k.order

/-- Calls the host about a service while it is being checked. -/
def answerCheck (h : Host τ σ) (s : Service) (call : RunnerCall) (d : Desk τ × σ) :
    RunnerReply × Desk τ × σ :=
  let hear {α : Type} (r : Reply α × σ) (f : α → RunnerReply) : RunnerReply × Desk τ × σ :=
    let supervisor := if r.1.stops then d.1.supervisor.requestStop else d.1.supervisor
    let reply := match r.1.result with
      | .ok a => f a
      | .error fault => .raised fault
    (reply, { d.1 with supervisor := supervisor, log := d.1.log ++ r.1.log }, r.2)
  match call with
  | .isRunning => hear (h.isRunning s d.2) .running
  | .exitCode => hear (h.exitCode s d.2) .exited
  | .start => hear (h.start s d.2) fun _ => .started

/-- Has the supervisor check a service. -/
def check [Timeline τ] (h : Host τ σ) (k : Stack τ σ) (name : String) :
    Except Fault Unit × Stack τ σ :=
  if k.stopping || !k.supervisor.isWatching name then (.ok (), k)
  else
    match k.descriptor.services.get? name, k.states.get? name with
    | some s, some state =>
      let w : Check.Surroundings τ σ := ⟨h.clock, answerCheck h s⟩
      let (fault, d, world) := Check.run w s k.backoff ⟨k.supervisor, state, k.log⟩ k.world
      let k := { k with
        supervisor := d.supervisor, states := k.states.insert name d.state, log := d.log
        world := world }
      (match fault with
        | none => .ok ()
        | some fault => .error fault, k)
    | _, _ => (.error .missingKey, k)

/-- What the monitor of a stack works on. -/
def beat [Timeline τ] (h : Host τ σ) : Beat (Stack τ σ) where
  stopped := stopping
  watched k := k.supervisor.watched.keys
  check k name :=
    match k.check h name with
    | (.ok (), k) => (none, k)
    | (.error fault, k) => (some fault, k)

/-- Stops a service; a failure is noted and keeps nothing else from being stopped. -/
def stopService (h : Host τ σ) (k : Stack τ σ) (s : Service) : Except Fault Unit × Stack τ σ :=
  let k := (k.note (.about .info "service_stopping" s.name [])).meet s.name
  match k.hear (h.stop s k.stopTimeout k.world) with
  | (.ok (), k) => (.ok (), k.update s.name fun state => { state with status := .stopped })
  | (.error (.interrupt m), k) => (.error (.interrupt m), k)
  | (.error fault, k) =>
    (.ok (), k.note (.about .error "service_stop_failed" s.name [("error", .str fault.message)]))

/-- Stops some services, one after the other. -/
def stopServices (h : Host τ σ) : List Service → Stack τ σ → Except Fault Unit × Stack τ σ
  | [], k => (.ok (), k)
  | s :: r, k =>
    match k.stopService h s with
    | (.ok (), k) => stopServices h r k
    | failed => failed

/-- Takes a stack down: ends supervising, stops every service before those it depends on, and
releases what they share. -/
def down (h : Host τ σ) (k : Stack τ σ) : Except Fault Unit × Stack τ σ :=
  let k := { k with supervisor := k.supervisor.stop }
  match k.currentOrder with
  | .error fault => (.error fault, k)
  | .ok order =>
    let services := order.reverse.filterMap k.descriptor.services.get?
    match k.stopServices h services with
    | (.error fault, k) => (.error fault, k)
    | (.ok (), k) =>
      match k.hear (h.teardown k.world) with
      | (.error fault, k) => (.error fault, k)
      | (.ok (), k) =>
        (.ok (), k.note ⟨.info, "stack_stopped", [("project", .str k.descriptor.project)]⟩)

/-- What is said about a service: that it could not come up, or how the host describes it. -/
def report (h : Host τ σ) (k : Stack τ σ) (s : Service) : Except Fault String × Stack τ σ :=
  let described (k : Stack τ σ) := (k.meet s.name).hear (h.describe s k.world)
  match k.states.get? s.name with
  | some state =>
    if state.status = .blocked ∨ state.status = .unhealthy then (.ok state.status.name, k)
    else described k
  | none => described k

/-- What is said about some services, one after the other. -/
def reports (h : Host τ σ) : List Service → Stack τ σ →
    Except Fault (List (String × String)) × Stack τ σ
  | [], k => (.ok [], k)
  | s :: r, k =>
    match k.report h s with
    | (.error fault, k) => (.error fault, k)
    | (.ok text, k) =>
      match reports h r k with
      | (.ok rest, k) => (.ok ((s.name, text) :: rest), k)
      | failed => failed

/-- The services of the stack, each with what is said about it. -/
def ps (h : Host τ σ) (k : Stack τ σ) : Except Fault (List (String × String)) × Stack τ σ :=
  match k.currentOrder with
  | .error fault => (.error fault, k)
  | .ok order => reports h (order.filterMap k.descriptor.services.get?) k

end Stack

end Muster
