import Muster.Files
import Muster.Machine.Signal
import Muster.Shell.Expansion
import Muster.Shell.Grammar
/-!
# Machines

A machine runs processes.  Each process has a stack of frames that say what it does next; what
processes share are the files, the pipes between them and the clock, which counts millionths of a
second.  The files of a machine hold octets.
-/

namespace Muster

open Shell

/-- What a descriptor leads to. -/
inductive Channel where
  | null
  | zeros
  | file (path : List String)
  | source (pipe : Nat)
  | drain (pipe : Nat)
deriving Repr, DecidableEq

/-- A channel that has been opened, and how far a file has been read. -/
structure Opening where
  channel : Channel
  position : Nat := 0

/-- A part of what a process is about to do. -/
inductive Frame where
  /-- To read and carry out a script. -/
  | script (source : Source)
  /-- To carry out a part of a script; the answers belong to the commands in its words. -/
  | run (s : Script) (answers : List Answer)
  /-- To run a program with arguments. -/
  | program (words : List String)
  | andThen (s : Script)
  | orElse (s : Script)
  | negate
  | choice (yes no : Script)
  /-- To decide by the status whether a loop goes on; `last` is the status of its body. -/
  | loopTest (negated : Bool) (condition body : Script) (seen : Nat) (last : Int)
  /-- To begin a loop again.  `seen` tells how much had happened when it began last. -/
  | loopAgain (negated : Bool) (condition body : Script) (seen : Nat)
  | each (name : String) (values : List String) (body : Script)
  /-- To wait for processes and to take over the status of the last one, which is zero for the
  number zero.  A wait that was asked for can be broken off. -/
  | collect (processes : List Nat) (asked : Bool)
  /-- To wait for the output of a process as an answer for the frame below. -/
  | substitute (pipe process : Nat)
  /-- To lead descriptors back to where they led before. -/
  | restore (saved : List (Nat × Option Nat))
  /-- To give variables back the values that they had before. -/
  | reset (saved : List (String × Option String))
  /-- To come back from a function. -/
  | leave (parameters : List String) (saved : List (String × Option String))
  /-- To go on after a trap. -/
  | resume (status : Int)
  | sleep (deadline : Nat)
  /-- To read all input before a program goes on. -/
  | gather (words : List String) (input : String)
  /-- To read a line into variables. -/
  | readLine (names : List String) (raw : Bool) (input : String)
deriving Inhabited

/-- A process. -/
structure Process where
  parent : Nat
  session : Session
  todo : List Frame
  /-- The openings that its descriptors lead to. -/
  descriptors : List (Nat × Nat)
  /-- The signals that it has still to do something about. -/
  pending : List Signal := []
  /-- Whether the last program of its script takes its place. -/
  yields : Bool := false

/-- A machine. -/
structure Machine where
  files : Files
  now : Nat := 0
  openings : List (Nat × Opening) := []
  /-- What has been written into the pipes and not been read. -/
  pipes : List (Nat × String) := []
  processes : List (Nat × Process) := []
  /-- How processes have ended whose ends nobody has asked about. -/
  ends : List (Nat × ProcessEnd) := []
  /-- The number of the next process, pipe or opening. -/
  next : Nat := 100
  /-- How much has happened: what a process does in vain does not count. -/
  happened : Nat := 0

namespace Machine

/-- A value put under a number. -/
def put {α : Type} (n : Nat) (a : α) : List (Nat × α) → List (Nat × α)
  | [] => [(n, a)]
  | (k, b) :: r => if k = n then (n, a) :: r else (k, b) :: put n a r

/-- A process of a machine. -/
def process? (m : Machine) (id : Nat) : Option Process :=
  m.processes.lookup id

/-- Whether a process has not ended. -/
def isAlive (m : Machine) (id : Nat) : Bool :=
  (m.process? id).isSome

/-- A machine in which a process is in a given state. -/
def setProcess (m : Machine) (id : Nat) (p : Process) : Machine :=
  { m with processes := put id p m.processes }

/-- Notes that something has happened. -/
def happen (m : Machine) : Machine :=
  { m with happened := m.happened + 1 }

/-- Takes the next number. -/
def fresh (m : Machine) : Nat × Machine :=
  (m.next, { m with next := m.next + 1 })

/-- Opens a channel. -/
def openChannel (m : Machine) (c : Channel) : Nat × Machine :=
  let (id, m) := m.fresh
  (id, { m with openings := (id, { channel := c }) :: m.openings })

/-- Makes a pipe. -/
def openPipe (m : Machine) : Nat × Machine :=
  let (id, m) := m.fresh
  (id, { m with pipes := (id, "") :: m.pipes })

/-- The openings that a process holds. -/
def held (p : Process) : List Nat :=
  p.descriptors.map (·.2) ++ p.todo.flatMap fun
    | .restore saved => saved.filterMap (·.2)
    | _ => []

/-- Whether a process waits for the output that comes out of a pipe. -/
def substitutes (p : Process) (pipe : Nat) : Bool :=
  p.todo.any fun
    | .substitute n _ => n == pipe
    | _ => false

/-- Whether any process holds a channel. -/
def isHeld (m : Machine) (c : Channel) : Bool :=
  m.processes.any fun e =>
    ((held e.2).any fun id => (m.openings.lookup id).any (·.channel == c))
      || match c with
        | .source pipe => substitutes e.2 pipe
        | _ => false

/-- The content of a file. -/
def contentAt (m : Machine) (path : List String) : String :=
  match m.files.at? path with
  | some (.file s) => s
  | _ => ""

/-- The number of the host, which is the parent of the processes that it starts. -/
def host : Nat := 1

/-- Takes a process out of a machine that has ended. -/
def finish (m : Machine) (id : Nat) (how : ProcessEnd) : Machine :=
  match m.process? id with
  | none => m
  | some p =>
    let orphaned (e : Nat × Process) : Nat × Process :=
      if e.2.parent = id then (e.1, { e.2 with parent := 0 }) else e
    let known := p.parent = host || m.isAlive p.parent
    { m with
      processes := (m.processes.filter (·.1 ≠ id)).map orphaned
      ends := if known then (id, how) :: m.ends else m.ends
      happened := m.happened + 1 }

/-- Tells a process something. -/
def signal (m : Machine) (id : Nat) (s : Signal) : Machine :=
  match m.process? id with
  | none => m
  | some p =>
    if s = .kill then m.finish id (.killed s)
    else
      match p.session.traps.get? s.name with
      | some "" => m
      | some _ =>
        let pending := if p.pending.contains s then p.pending else p.pending ++ [s]
        (m.setProcess id { p with pending }).happen
      | none => if s.isDeadly then m.finish id (.killed s) else m

/-- The processes below a process. -/
def descendants (m : Machine) : (fuel : Nat) → Nat → List Nat
  | 0, _ => []
  | n + 1, id =>
    let children := (m.processes.filter (·.2.parent = id)).map (·.1)
    children ++ children.flatMap (descendants m n)

/-- The processes of a tree, the root last. -/
def tree (m : Machine) (root : Nat) : List Nat :=
  m.descendants m.processes.length root ++ [root]

end Machine

end Muster
