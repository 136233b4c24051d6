import Muster.Environment
import Muster.Host
import Muster.Machine.Launch
/-!
# Services as processes

Every service runs as a process of a machine, whose output goes to a log file.  A roster keeps
which process belongs to which service, and how it has ended once that has been asked for.
-/

namespace Muster

/-- The last run of a service as a process. -/
structure ProcessRun where
  process : Nat
  /-- The exit code, once it is known. -/
  code : Option Int := none

/-- The services that run as processes of a machine. -/
structure Roster where
  machine : Machine
  environ : Table String
  /-- The directory that relative paths of the services start at. -/
  base : String
  /-- The log file, if it is not the usual one. -/
  log? : Option String := none
  runs : Table ProcessRun := ∅

namespace Roster

/-- The length of a time in millionths of a second. -/
def ticks (seconds : Float) : Nat :=
  (seconds * 1000000).toUInt64.toNat

/-- The log file of a service. -/
def logFile (r : Roster) (s : Service) : String :=
  let given := r.log?.getD ""
  if given.isEmpty then
    Path.join (Path.join (Path.join r.base ".stackup") "logs") (s.name ++ ".log")
  else given

/-- The directory that a service runs in. -/
def workingDir (r : Roster) (s : Service) : String :=
  let given := s.workingDir.getD ""
  if given.isEmpty then r.base else Path.join r.base given

/-- The environment of a service, which includes that of the host. -/
def environment (r : Roster) (s : Service) : Except Fault (Table String) :=
  Environment.merge r.machine.texts r.environ r.base true s.envFiles s.environment ∅

/-- Whether words and an environment can be handed to a program at all. -/
def canPass (words : List String) (environment : Table String) : Bool :=
  let plain (s : String) : Bool := !s.contains '\x00'
  words.all plain && environment.entries.all fun e => plain e.1 && plain e.2 && !e.1.contains '='

/-- Makes a directory unless something is there. -/
def prepare (m : Machine) (path : String) : Except Fault Machine :=
  if path.isEmpty || m.files.exists (Text.toOctets path) then .ok m
  else ((m.files.makeDirectories (Text.toOctets path)).mapError .file).map fun files =>
    { m with files }

/-- Opens a log file to write after what it holds. -/
def openLog (m : Machine) (path : String) : Except Fault (Nat × Machine) := do
  let directory := Path.directory path
  let m ← if directory.isEmpty then pure m
    else ((m.files.makeDirectories (Text.toOctets directory)).mapError .file).map fun files =>
      { m with files }
  let octets := Text.toOctets path
  match m.files.find octets with
  | .ok .directory => .error (.file .isDirectory)
  | .error .notDirectory => .error (.file .notDirectory)
  | found =>
    let path := if directory.isEmpty then "." else Text.toOctets directory
    let parts ← (m.files.locate path).mapError .file
    let parts := parts ++ [Path.name octets]
    let m := match found with
      | .ok _ => m
      | .error _ => { m with files := m.files.put parts (.file "") }
    return m.openChannel (.file parts)

/-- The log entry of a start. -/
def startEntry (s : Service) : LogEntry :=
  .about .info "process_starting" s.name [("command", .str (" ".intercalate s.fullCommand))]

/-- Starts the process of a service on a machine that is prepared for it. -/
def launch (r : Roster) (m : Machine) (s : Service) (environment : Table String) (log : Nat) :
    Except Fault Unit × Roster :=
  let (input, m) := m.openChannel .null
  let descriptors := [(0, input), (1, log), (2, log)]
  if canPass s.fullCommand environment then
    match m.launch environment (r.workingDir s) s.fullCommand descriptors with
    | .ok (id, m) =>
      (.ok (), { r with machine := m, runs := r.runs.insert s.name { process := id } })
    | .error fault =>
      (.error (.stack (.startFailed
        ("Service " ++ s.name ++ " failed to start: " ++ fault.message))), { r with machine := m })
  else (.error .badValue, { r with machine := m })

/-- Starts a service.  A failure leaves what is known about its last run as it was. -/
def start (s : Service) (r : Roster) : Reply Unit × Roster :=
  if s.fullCommand.isEmpty then
    let message := "Service " ++ s.name ++ " has no command to run as a process"
    (.fail (.stack (.startFailed message)), r)
  else
    match r.environment s with
    | .error fault => (.fail fault, r)
    | .ok environment =>
      match prepare r.machine (r.workingDir s) with
      | .error fault => (.fail fault, r)
      | .ok m =>
        match openLog m (r.logFile s) with
        | .error fault => (.fail fault, { r with machine := m })
        | .ok (log, m) =>
          let (result, r) := r.launch m s environment log
          ({ result, log := [startEntry s] }, r)

/-- Finds out how the last run of a service has ended, if it has. -/
def poll (s : Service) (r : Roster) : Option Int × Roster :=
  match r.runs.get? s.name with
  | none => (none, r)
  | some run =>
    match run.code, r.machine.endOf? run.process with
    | some code, _ => (some code, r)
    | none, some how =>
      (some how.code, { r with runs := r.runs.insert s.name { run with code := some how.code } })
    | none, none => (none, r)

/-- Whether a service is running. -/
def isRunning (s : Service) (r : Roster) : Reply Bool × Roster :=
  let (code, r) := r.poll s
  (.ok ((r.runs.get? s.name).isSome && code.isNone), r)

/-- The exit code of the last run of a service. -/
def exitCode (s : Service) (r : Roster) : Reply (Option Int) × Roster :=
  let (code, r) := r.poll s
  (.ok code, r)

/-- Ends a running process and those below it: whether the process had to be killed, and how many
of them had to. -/
def terminate (m : Machine) (root time : Nat) : Bool × Nat × Machine :=
  let tree := m.tree root
  let m := tree.foldl (fun m id => m.signal id .terminate) m
  let m := m.run (fun m => tree.all (!m.isAlive ·)) (m.now + time)
  let left := tree.filter m.isAlive
  (left.contains root, left.length, left.foldl (fun m id => m.signal id .kill) m)

/-- Stops a service.  Of a run that ends within the given time the exit code is lost and reads as
zero. -/
def stop (s : Service) (timeout : Float) (r : Roster) : Reply Unit × Roster :=
  let (code, r) := r.poll s
  match r.runs.get? s.name, code with
  | some run, none =>
    let entry := LogEntry.about .info "process_stopping" s.name []
    if timeout.isNaN || timeout < 0 then
      let (_, _, machine) := terminate r.machine run.process 0
      ({ result := .error .badValue, log := [entry] }, { r with machine })
    else
      let (killed, count, machine) := terminate r.machine run.process (ticks timeout)
      let warning := LogEntry.about .warning "process_killed" s.name []
      let code : Int := if killed then ProcessEnd.code (.killed .kill) else 0
      ({ result := .ok (), log := entry :: List.replicate count warning },
        { r with machine, runs := r.runs.insert s.name { run with code := some code } })
  | _, _ => (.ok (), r)

/-- The text that a program has written, with line feeds at the ends of its lines. -/
def outputText (octets : String) : Except Fault String :=
  match Text.ofOctets? octets with
  | some s => .ok (String.ofList (Text.unifyLineEnds s.toList))
  | none => .error .damagedText

/-- The result of a health check by what its program has written and how it has ended. -/
def judge (t : Machine.Transcript) : Except Fault CheckResult := do
  let output ← outputText t.output
  let complaints ← outputText t.complaints
  let code := t.how.code
  if code = 0 then return ⟨true, Text.clip HealthCheck.outputLimit output, some 0⟩
  else
    let said := [complaints, output, "Exit code: " ++ toString code].find? (· ≠ "")
    return ⟨false, Text.clip HealthCheck.outputLimit (said.getD ""), some code⟩

/-- The result of a health check that takes too long. -/
def timedOut : CheckResult where
  success := false
  output := "Health check timed out"

/-- The greatest time in thousandths of a second that can be waited for. -/
def longestWait : Nat := twoTo 31 - 1

/-- What is wrong with a time to wait for. -/
def waitFault? (seconds : Float) : Option Fault :=
  if seconds.isNaN then some .badValue
  else if (seconds * 1000).ceil > Float.ofNat longestWait then some .overflow
  else none

/-- Runs a health check of a service within a time. -/
def checkWithin (s : Service) (check : HealthCheck) (timeout : Float) (r : Roster) :
    Reply CheckResult × Roster :=
  match check.command? with
  | none => (.fail .outOfRange, r)
  | some command =>
    match r.environment s with
    | .error fault => (.fail fault, r)
    | .ok environment =>
      let words := command.toWords
      if words.isEmpty then (.fail .outOfRange, r)
      else if !canPass words environment then (.fail .badValue, r)
      else
        let time := if (waitFault? timeout).isSome then 0 else ticks timeout
        match r.machine.runToEnd environment (r.workingDir s) words time with
        | .error fault => (.ok { success := false, output := fault.message }, r)
        | .ok (transcript, machine) =>
          let r := { r with machine }
          match waitFault? timeout, transcript with
          | some fault, _ => (.fail fault, r)
          | none, none => (.ok timedOut, r)
          | none, some t =>
            if timeout ≤ 0 then (.ok timedOut, r)
            else ({ result := judge t }, r)

/-- Waits until the last run of a service has ended. -/
def join (s : Service) (r : Roster) : Except Fault Int × Roster :=
  match r.runs.get? s.name with
  | none => (.error .noAttribute, r)
  | some run =>
    let machine := r.machine.run (fun m => !m.isAlive run.process) Machine.never
    let (code, r) := Roster.poll s { r with machine }
    (.ok (code.getD 0), r)

/-- The text of a file. -/
def read (path : String) (r : Roster) : Except Fault String :=
  (r.machine.texts.read path).mapError .file

/-- Waits until a text is part of the log of a service, and for what comes at the same moment. -/
def awaitLog (s : Service) (text : String) (r : Roster) : Roster :=
  let path := Text.toOctets (r.logFile s)
  let wanted := Text.toOctets text
  let isThere (m : Machine) : Bool :=
    match m.files.content path with
    | .ok content => (content.splitOn wanted).length > 1
    | .error _ => false
  { r with machine := (r.machine.run isThere Machine.never).pass 0 }

/-- The host that runs services as processes. -/
def host : Host Float Roster where
  clock r := Float.ofNat r.machine.now / 1000000
  start := start
  stop := stop
  isRunning := isRunning
  exitCode := exitCode
  check s c := checkWithin s c c.timeout
  teardown r := (.ok (), r)
  wait seconds r :=
    match Host.waitFault? seconds with
    | some fault => .error fault
    | none => .ok { r with machine := r.machine.pass (ticks seconds) }

end Roster

end Muster
