import Muster.Machine.Step
import Muster.Text.Octets
/-!
# The clock of a machine

What a process does takes no time; time passes only while all processes wait.  `Machine.run` lets
a machine run until something has come about or a moment has passed.
-/

namespace Muster.Machine

/-- The rounds of turns that fit into a moment.  Processes that are still busy after that many go
on in the next one. -/
def roundLimit : Nat := 200000

/-- The moments at which a machine may wake before what is waited for. -/
def wakeLimit : Nat := 100000

/-- Whether any process can do anything. -/
def isBusy (m : Machine) : Bool :=
  m.processes.any fun e => m.isReady e.2

/-- Lets every process have its turn. -/
def round (m : Machine) : Machine :=
  (m.processes.map (·.1)).foldl turn m

/-- Lets the processes have their turns until none of them can do anything, or until something
has come about. -/
def settle (done : Machine → Bool) : (fuel : Nat) → Machine → Machine
  | 0, m => m
  | n + 1, m => if done m || !m.isBusy then m else settle done n m.round

/-- The moment at which the next process wakes. -/
def nextWake? (m : Machine) : Option Nat :=
  let deadlines := m.processes.filterMap fun e =>
    match e.2.todo with
    | .sleep deadline :: _ => if m.now < deadline then some deadline else none
    | _ => none
  deadlines.min?

/-- Lets a machine run until something has come about, with at most `fuel` waits, but not beyond a
moment. -/
def runFrom (done : Machine → Bool) (deadline : Nat) : (fuel : Nat) → Machine → Machine
  | 0, m => { m with now := max m.now deadline }
  | n + 1, m =>
    let m := settle done roundLimit m
    if done m then m
    else
      match m.nextWake? with
      | some t => if t ≤ deadline then runFrom done deadline n { m with now := t }
        else { m with now := max m.now deadline }
      | none => { m with now := max m.now deadline }

/-- Lets a machine run until something has come about, but not beyond a moment. -/
def run (done : Machine → Bool) (deadline : Nat) (m : Machine) : Machine :=
  runFrom done deadline wakeLimit m

/-- Lets a machine run for a time. -/
def pass (time : Nat) (m : Machine) : Machine :=
  m.run (fun _ => false) (m.now + time)

/-- A moment that is never reached. -/
def never : Nat := tenTo 30

/-- The directories that every machine has. -/
def standing : List (List String) :=
  [["bin"], ["dev"], ["etc"], ["home"], ["root"], ["tmp"], ["usr", "bin"], ["var", "tmp"]]

/-- The machine whose files are given; they hold octets in it. -/
def ofFiles (files : Files) : Machine where
  files :=
    let nodes := files.nodes.map fun
      | .file s => .file (Text.toOctets s)
      | .directory => .directory
    standing.foldl (fun files parts =>
      if (files.at? parts).isSome then files else files.put parts .directory) { files with nodes }

/-- The files of a machine as texts. -/
def texts (m : Machine) : Files :=
  { m.files with
    nodes := m.files.nodes.map fun
      | .file s => .file (Text.ofOctets s)
      | .directory => .directory }

end Muster.Machine
