import Muster.Machine.Clock
import Muster.Service.HealthCheck
/-!
# Starting programs

How the host starts a program on a machine, and how it runs one to its end and takes its output.
-/

namespace Muster

open Shell

/-- Why a program cannot be started: the number and the wording of the trouble, and what it is
about. -/
structure LaunchFault where
  number : Nat
  reason : String
  subject : String
deriving Repr, DecidableEq

namespace LaunchFault

/-- The wording of a fault. -/
def message (f : LaunchFault) : String :=
  "[Errno " ++ toString f.number ++ "] " ++ f.reason ++ ": " ++ Text.literal f.subject

/-- Something is not there. -/
def missing (subject : String) : LaunchFault :=
  ⟨2, "No such file or directory", subject⟩

/-- Something may not be run. -/
def denied (subject : String) : LaunchFault :=
  ⟨13, "Permission denied", subject⟩

/-- Something is no directory. -/
def noDirectory (subject : String) : LaunchFault :=
  ⟨20, "Not a directory", subject⟩

end LaunchFault

namespace Machine

/-- The absolute path of the current directory. -/
def directory (m : Machine) : String :=
  "/" ++ Files.key m.files.current

/-- The directory that a program is to be run in, if it is one. -/
def enter (m : Machine) (directory : String) : Except LaunchFault String :=
  let path := Text.toOctets directory
  match m.files.find (Path.join m.directory path) with
  | .ok .directory => .ok (Path.absolute m.directory path)
  | .ok (.file _) => .error (.noDirectory directory)
  | .error .notDirectory => .error (.noDirectory directory)
  | .error _ => .error (.missing directory)

/-- The program that the first of some words stands for, and the words after it. -/
def findProgram (m : Machine) (environment : Table String) (directory : String)
    (words : List String) : Except LaunchFault (List String) :=
  let name := words.headD ""
  if name.isEmpty then .error (.denied name)
  else
    let search := (environment.get? "PATH").getD "/bin:/usr/bin"
    match Program.find m.files search directory (Text.toOctets name) with
    | .ok program => .ok (program :: (words.drop 1).map Text.toOctets)
    | .error .denied => .error (.denied name)
    | .error .notDirectory => .error (.noDirectory name)
    | .error .notFound => .error (.missing name)

/-- Starts a program in an environment and a directory, with its descriptors open. -/
def launch (m : Machine) (environment : Table String) (directory : String) (words : List String)
    (descriptors : List (Nat × Nat)) : Except LaunchFault (Nat × Machine) := do
  let directory ← m.enter directory
  let program ← m.findProgram environment directory words
  let vars := Table.ofList (environment.entries.map fun (name, value) =>
    (Text.toOctets name, Text.toOctets value))
  let (id, m) := m.fresh
  let session : Session := {
    name := Text.toOctets (words.headD "")
    vars
    exported := vars.keys
    directory }
  return (id, m.setProcess id { parent := host, session, todo := [.program program], descriptors })

/-- The end of a process that the host has started. -/
def endOf? (m : Machine) (id : Nat) : Option ProcessEnd :=
  m.ends.lookup id

/-- What a program that was run to its end has written, and how it has ended. -/
structure Transcript where
  output : String
  complaints : String
  how : ProcessEnd

/-- The process that reads what programs write to the host; it never has a turn. -/
def listener : Nat := 2

/-- Runs a program to its end and to the end of all output, unless that takes longer than a given
time; then the program is killed. -/
def runToEnd (m : Machine) (environment : Table String) (directory : String)
    (words : List String) (time : Nat) : Except LaunchFault (Option Transcript × Machine) := do
  let (outPipe, m) := m.openPipe
  let (errPipe, m) := m.openPipe
  let (input, m) := m.openChannel .null
  let (out, m) := m.openChannel (.drain outPipe)
  let (err, m) := m.openChannel (.drain errPipe)
  let (id, m) ← m.launch environment directory words [(0, input), (1, out), (2, err)]
  let reading := [Frame.substitute outPipe id, .substitute errPipe id, .sleep never]
  let m := m.setProcess listener
    { parent := 0, session := {}, todo := .sleep never :: reading, descriptors := [] }
  let isOver (m : Machine) : Bool :=
    !m.isAlive id && !m.isHeld (.drain outPipe) && !m.isHeld (.drain errPipe)
  let m := m.run isOver (m.now + time)
  let finished := isOver m
  let text (pipe : Nat) : String := (m.pipes.lookup pipe).getD ""
  let result := (m.endOf? id).map fun how => Transcript.mk (text outPipe) (text errPipe) how
  let m := if finished then m else m.signal id .kill
  let m := { m with
    processes := m.processes.filter (·.1 ≠ listener)
    ends := m.ends.filter (·.1 ≠ id) }
  return (if finished then result else none, m)

end Machine

end Muster
