import Muster.Counting
import Muster.Stack.Worker
/-!
# Bringing a stack up

The selected services are brought up side by side, each by its worker.  A `Launch` is such a run
in progress: the workers, the stack that they share, and the fault that ended it, if one did.
`Launch.step` takes a step of one worker, so that any sequence of names is an interleaving;
`Launch.run` is the fair one in which all workers take turns.
-/

namespace Muster

/-- What has become of the services that were brought up, in the order of their start. -/
structure UpReport where
  order : List String
  states : Table ServiceState

namespace UpReport

/-- The services that did not come up, each with the reason. -/
def failures (r : UpReport) : List (String × String) :=
  (r.states.filter fun _ s => s.failed).entries.map fun e =>
    let reason := e.2.error.getD ""
    (e.1, if reason = "" then e.2.status.name else reason)

/-- Whether all services came up. -/
def ok (r : UpReport) : Bool :=
  r.failures.isEmpty

end UpReport

/-- Gives a service that is to be brought up a new state, and tells the host about it. -/
def Stack.enroll {τ σ : Type} (k : Stack τ σ) (name : String) : Stack τ σ :=
  { k with states := k.states.insert name { name } }.meet name

/-- A run in which services are brought up. -/
structure Launch (τ σ : Type) where
  services : Table Service
  workers : Table Worker
  stack : Stack τ σ
  /-- The fault of a worker that has ended the run. -/
  crash : Option Fault := none

namespace Launch

variable {τ σ : Type}

/-- The start of a run of the selected services in the given waves. -/
def begin (k : Stack τ σ) (active : Descriptor) (waves : List (List String)) : Launch τ σ :=
  let order := waves.flatten
  let k := { k with order := order }
  let k := k.note ⟨.info, "stack_starting",
    [("project", .str k.descriptor.project),
      ("waves", .list (waves.map fun wave => .list (wave.map .str)))]⟩
  let k := { k with supervisor := k.supervisor.reopen }
  { services := active.services
    workers := active.services.map Worker.begin
    stack := order.foldl Stack.enroll k }

/-- Lets the worker of a service act on the stack, if there is anything for it to do. -/
def act (l : Launch τ σ) (name : String)
    (f : Service → Worker → Stack τ σ → Option (Worker × Stack τ σ)) : Option (Launch τ σ) :=
  match l.services.get? name, l.workers.get? name with
  | some s, some w =>
    (f s w l.stack).map fun (w, k) => { l with workers := l.workers.insert name w, stack := k }
  | _, _ => none

/-- A step of the worker of a service, if there is one to take. -/
def step (h : Host τ σ) (l : Launch τ σ) (name : String) : Option (Launch τ σ) :=
  l.act name fun s w k => w.step h s k

/-- The worker of a service gives up waiting, if a stop has been asked for.  It may do so even when
what it waits for has come since it looked last. -/
def quit (l : Launch τ σ) (name : String) : Option (Launch τ σ) :=
  l.act name fun s w k => w.quit s k

/-- Takes note of the first worker that has died of a fault, and then asks for a stop. -/
def join (l : Launch τ σ) : Launch τ σ :=
  match l.crash, l.workers.values.findSome? Worker.crash? with
  | none, some fault => { l with crash := some fault, stack := l.stack.requestStop }
  | _, _ => l

/-- Whether all workers have ended. -/
def isOver (l : Launch τ σ) : Bool :=
  l.workers.values.all Worker.isOver

/-- The steps that the workers have at most before them. -/
def rank (l : Launch τ σ) : Nat :=
  total (l.services.entries.map fun e => (l.workers.get? e.1).elim 0 (·.rank e.2))

@[simp]
theorem rank_join (l : Launch τ σ) :
  l.join.rank = l.rank
  := by
  unfold join
  split <;> rfl

/-- A worker that comes closer to its end brings the run closer to its end. -/
theorem rank_act_lt {l l' : Launch τ σ} {name : String}
    {f : Service → Worker → Stack τ σ → Option (Worker × Stack τ σ)}
    (closer : ∀ s w k w' k', f s w k = some (w', k') → w'.rank s < w.rank s)
    (act : l.act name f = some l') :
  l'.rank < l.rank
  := by
  unfold Launch.act at act
  split at act
  · next s w foundService foundWorker =>
    obtain ⟨⟨w', k'⟩, taken, rfl⟩ := Option.map_eq_some_iff.mp act
    have lt := closer _ _ _ _ _ taken
    have mem : (name, s) ∈ l.services.entries := Table.get?_eq_some_iff.mp foundService
    unfold rank
    refine total_map_lt (a := (name, s)) mem ?_ ?_
    · simpa [foundWorker] using lt
    · intro e he
      by_cases same : e.1 = name
      · have : e.2 = s := by
          have := Table.get?_eq_some_iff.mpr (show (e.1, e.2) ∈ l.services.entries from he)
          rw [same, foundService] at this
          exact (Option.some.inj this).symm
        simpa [same, this, foundWorker] using Nat.le_of_lt lt
      · simp [same]
  · cases act

/-- Every step brings a run closer to its end. -/
theorem rank_step_lt {h : Host τ σ} {l l' : Launch τ σ} {name : String}
    (step : l.step h name = some l') :
  l'.rank < l.rank
  := rank_act_lt (fun _ _ _ _ _ => Worker.rank_step_lt) step

/-- A worker that gives up brings a run closer to its end. -/
theorem rank_quit_lt {l l' : Launch τ σ} {name : String} (quit : l.quit name = some l') :
  l'.rank < l.rank
  := rank_act_lt (fun _ _ _ _ _ => Worker.rank_quit_lt) quit

/-- Whether a worker waits for a dependency that has not come, or for a health check that would
not come back yet. -/
def isHeld (h : Host τ σ) (l : Launch τ σ) (name : String) : Bool :=
  match l.services.get? name, l.workers.get? name with
  | some _, some (.awaiting ((dependency, condition) :: _)) =>
    !Worker.arrived l.stack dependency condition
  | some s, some (.polling (.due ..)) => h.busy s l.stack.world
  | _, _ => false

/-- A turn of the worker of a service, in which it stays where it is if it has no step to take.
A worker that is held is left alone if `patient` says so: while it waits, it looks only now and
then whether a stop has been asked for. -/
def turn (h : Host τ σ) (patient : Bool) (l : Launch τ σ) (name : String) : Launch τ σ :=
  if patient && l.isHeld h name then l else (l.step h name).getD l

/-- How many turns a worker takes in a row before it is another one's time. -/
def slice : Nat := 100

/-- Turns of every worker, one worker after the other. -/
def round (h : Host τ σ) (patient : Bool) (l : Launch τ σ) : Launch τ σ :=
  (l.services.keys.flatMap (List.replicate slice)).foldl (turn h patient) l

/-- Lets the workers take turns until none of them has a step to take.  Those that are held are
left alone as long as others get on. -/
def run (h : Host τ σ) (l : Launch τ σ) : Launch τ σ :=
  let next := l.round h true
  if _closer : next.rank < l.rank then run h next.join
  else
    let next := l.round h false
    if _closer : next.rank < l.rank then run h next.join else l
termination_by l.rank
decreasing_by
  · rwa [rank_join]
  · rwa [rank_join]

/-- The end of a run: the fault that ended it, or what has become of the services. -/
def finish (l : Launch τ σ) : Except Fault UpReport × Stack τ σ :=
  match l.crash with
  | some fault => (.error fault, l.stack)
  | none =>
    let k := l.stack
    let report : UpReport := {
      order := k.order
      states := Table.ofList (k.order.filterMap fun name =>
        (k.states.get? name).map fun s => (name, s)) }
    let project := ("project", Value.str k.descriptor.project)
    if report.ok then
      (.ok report,
        k.note ⟨.info, "stack_started", [project, ("services", .list (k.order.map .str))]⟩)
    else
      let failures := report.failures.map fun e => (Value.str e.1, Value.str e.2)
      (.ok report, k.note ⟨.warning, "stack_degraded", [project, ("failures", .map failures)]⟩)

end Launch

/-- The start of the run in which the selected services are brought up. -/
def Stack.launch {τ σ : Type} (k : Stack τ σ) (profiles services : List String) :
    Except Fault (Launch τ σ) :=
  match k.plan profiles services with
  | .error fault => .error fault
  | .ok active => active.startWaves.map (Launch.begin k active)

/-- Brings the selected services up, each one once its dependencies are ready. -/
def Stack.up {τ σ : Type} (h : Host τ σ) (k : Stack τ σ) (profiles services : List String) :
    Except Fault UpReport × Stack τ σ :=
  match k.launch profiles services with
  | .error fault => (.error fault, k)
  | .ok l => (l.run h).finish

end Muster
