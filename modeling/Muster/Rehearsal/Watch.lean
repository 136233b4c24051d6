import Muster.Rehearsal.Run
import Muster.Supervisor.Check
import Muster.Supervisor.Monitor
/-!
# Rehearsing supervision

A supervisor over services whose runs are staged; time passes by command.  A hook makes something
happen to the supervisor during a call of a runner, as another thread might do.
-/

namespace Muster.Rehearsal

/-- What happens to the supervisor during a call of a runner. -/
inductive Interference where
  | stop
  | unwatch
deriving Repr, DecidableEq

/-- A hook on a call of a service's runner. -/
structure Hook where
  name : String
  call : RunnerCall
  action : Interference
deriving Repr, DecidableEq

/-- The background thread of the supervisor. -/
inductive WatchThread where
  | absent
  | alive
  | ended
deriving Repr, DecidableEq

/-- A rehearsal of supervision. -/
structure Watch where
  services : Table Service
  states : Table ServiceState
  runs : Table StagedRun
  hooks : List Hook := []
  supervisor : Supervisor Float := {}
  backoff : Backoff Float
  pollInterval : Float
  now : Float
  thread : WatchThread := .absent
  log : List LogEntry := []

/-- A step of a rehearsal. -/
inductive WatchStep where
  | launch (name : String) (healthy : Bool)
  | watch (name : String)
  | unwatch (name : String)
  | exit (name : String) (code : Option Int)
  | revive (name : String)
  | advance (seconds : Float)
  | check (name : String)
  | startFault (name : String) (fault : Option Fault)
  | hook (h : Hook)
  | monitor (rounds : Nat) (exits : List (Nat × String × Option Int))
  | start
  | stop

/-- What a step comes to. -/
inductive WatchReply where
  | done
  | failed (fault : Fault)
  | count (n : Nat)
  /-- Whether the thread is the one from before, and whether it goes on. -/
  | thread (same : Bool) (alive : Option Bool)
  | alive (yes : Option Bool)

namespace Watch

/-- Ends supervising, and with it the thread. -/
def stop (w : Watch) : Watch :=
  { w with
    supervisor := w.supervisor.stop
    thread := if w.thread = .absent then .absent else .ended }

/-- Lets something happen to the supervisor. -/
def interfere (w : Watch) (name : String) : Interference → Watch
  | .stop => w.stop
  | .unwatch => { w with supervisor := w.supervisor.unwatch name }

/-- Lets the hooks on a call take effect. -/
def runHooks (w : Watch) (name : String) (call : RunnerCall) : Watch :=
  (w.hooks.filter fun h => h.name = name ∧ h.call = call).foldl
    (fun w h => w.interfere name h.action) w

/-- Calls the runner of a service. -/
def call (w : Watch) (name : String) (c : RunnerCall) : RunnerReply × Watch :=
  match c with
  | .isRunning => (.running ((w.runs.get? name).any (·.running)), w)
  | .exitCode =>
    let w := w.runHooks name .exitCode
    (.exited ((w.runs.get? name).bind (·.lastCode)), w)
  | .start =>
    let w := { w with
      runs := w.runs.modify name fun r => { r with startCalls := r.startCalls + 1 } }
    let w := w.runHooks name .start
    match w.runs.get? name with
    | some r =>
      let (result, r) := r.launch
      let reply := match result with
        | .ok () => RunnerReply.started
        | .error fault => .raised fault
      (reply, { w with runs := w.runs.insert name r })
    | none => (.raised .missingKey, w)

/-- The surroundings of a check in a rehearsal. -/
def surroundings (name : String) : Check.Surroundings Float Watch where
  clock w := w.now
  call c := fun (d, w) =>
    let (reply, w) := ({ w with supervisor := d.supervisor } : Watch).call name c
    (reply, { d with supervisor := w.supervisor }, w)

/-- Checks a service. -/
def check (w : Watch) (name : String) : Option Fault × Watch :=
  if w.supervisor.stopped || !w.supervisor.isWatching name then (none, w)
  else
    match w.services.get? name, w.states.get? name with
    | some s, some state =>
      let (fault, d, w) := Check.run (surroundings name) s w.backoff ⟨w.supervisor, state, w.log⟩ w
      (fault, { w with
        supervisor := d.supervisor, states := w.states.insert name d.state, log := d.log })
    | _, _ => (some .missingKey, w)

/-- What the monitor of a rehearsal works on. -/
def beat : Beat Watch where
  stopped w := w.supervisor.stopped
  watched w := w.supervisor.watched.keys
  check := check

/-- The run of a service ends. -/
def exit (w : Watch) (name : String) (code : Option Int) : Watch :=
  { w with runs := w.runs.modify name fun r => { r with running := false, exitCode := code } }

/-- Lets the rounds of the background loop pass; `round` is the number of waits so far. -/
def monitor (exits : List (Nat × String × Option Int)) :
    (left round : Nat) → Watch → WatchReply × Watch
  | left, round, w =>
    let w := { w with now := w.now + w.pollInterval }
    let round := round + 1
    match left with
    | 0 => (.count round, w)
    | left + 1 =>
      let ending := if w.supervisor.stopped then [] else exits.filter (·.1 = round)
      let w := ending.foldl (fun w e => w.exit e.2.1 e.2.2) w
      match Monitor.round beat w with
      | (.ended none, w) => (.count round, w)
      | (.ended (some fault), w) => (.failed fault, w)
      | (_, w) => monitor exits left round w

/-- Carries out a step. -/
def apply (w : Watch) : WatchStep → WatchReply × Watch
  | .launch name healthy =>
    match w.call name .start with
    | (.raised fault, w) => (.failed fault, w)
    | (_, w) =>
      (.done, { w with
        states := w.states.modify name (·.markReady healthy)
        supervisor := w.supervisor.watch w.backoff w.now name })
  | .watch name => (.done, { w with supervisor := w.supervisor.watch w.backoff w.now name })
  | .unwatch name => (.done, { w with supervisor := w.supervisor.unwatch name })
  | .exit name code => (.done, w.exit name code)
  | .revive name =>
    (.done, { w with runs := w.runs.modify name fun r => { r with running := true } })
  | .advance seconds => (.done, { w with now := w.now + seconds })
  | .check name =>
    match w.check name with
    | (some fault, w) => (.failed fault, w)
    | (none, w) => (.done, w)
  | .startFault name fault =>
    (.done, { w with runs := w.runs.modify name fun r => { r with startFault := fault } })
  | .hook h => (.done, { w with hooks := w.hooks ++ [h] })
  | .monitor rounds exits => monitor exits rounds 0 w
  | .start =>
    if w.thread = .alive then (.thread true (some true), w)
    else if w.supervisor.stopped then (.thread false none, { w with thread := .ended })
    else (.thread false (some true), { w with thread := .alive })
  | .stop =>
    let alive := if w.thread = .absent then none else some false
    (.alive alive, w.stop)

/-- A rehearsal of some services at a time. -/
def ofServices (services : List Service) (backoff : Backoff Float) (pollInterval now : Float) :
    Watch where
  services := Table.ofList (services.map fun s => (s.name, s))
  states := Table.ofList (services.map fun s => (s.name, { name := s.name }))
  runs := Table.ofList (services.map fun s => (s.name, {}))
  backoff := backoff
  pollInterval := pollInterval
  now := now

end Watch

end Muster.Rehearsal
