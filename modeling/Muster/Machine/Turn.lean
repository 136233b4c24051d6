import Muster.Machine
/-!
# Turns

A turn is what a process does at once when it is its turn.  During a turn the process stands
outside the machine.
-/

namespace Muster

open Shell

/-- A process in its turn. -/
structure Turn where
  id : Nat
  self : Process
  machine : Machine
  /-- How the process ends with this turn, if it does. -/
  ends : Option ProcessEnd := none

/-- Something that a process does in its turn. -/
abbrev Act := StateM Turn

namespace Act

/-- The session of the process. -/
def session : Act Session :=
  return (← get).self.session

/-- Changes the session of the process. -/
def modifySession (f : Session → Session) : Act Unit :=
  modify fun t => { t with self := { t.self with session := f t.self.session } }

/-- Changes the machine. -/
def modifyMachine (f : Machine → Machine) : Act Unit :=
  modify fun t => { t with machine := f t.machine }

/-- Does something with the machine that has a result. -/
def withMachine {α : Type} (f : Machine → α × Machine) : Act α := do
  let t ← get
  let (a, machine) := f t.machine
  set { t with machine }
  return a

/-- Puts frames on top of the stack. -/
def push (frames : List Frame) : Act Unit :=
  modify fun t => { t with self := { t.self with todo := frames ++ t.self.todo } }

/-- Gives the process a new stack. -/
def setTodo (frames : List Frame) : Act Unit :=
  modify fun t => { t with self := { t.self with todo := frames } }

/-- Ends the process. -/
def die (how : ProcessEnd) : Act Unit :=
  modify fun t => { t with ends := some how, self := { t.self with todo := [] } }

/-- Notes that something has happened. -/
def happen : Act Unit :=
  modifyMachine Machine.happen

/-- Sets the status of the last command. -/
def setStatus (status : Int) : Act Unit :=
  modifySession fun s => { s with status }

/-- The opening that a descriptor leads to. -/
def opening? (descriptor : Nat) : Act (Option (Nat × Opening)) := do
  let t ← get
  return (t.self.descriptors.lookup descriptor).bind fun id =>
    (t.machine.openings.lookup id).map fun o => (id, o)

/-- Leads a descriptor to an opening, or to none. -/
def plug (descriptor : Nat) (target : Option Nat) : Act Unit :=
  modify fun t =>
    let others := t.self.descriptors.filter (·.1 ≠ descriptor)
    let descriptors := match target with
      | some id => (descriptor, id) :: others
      | none => others
    { t with self := { t.self with descriptors } }

/-- Whether a pipe is read by any process, or by the process itself. -/
def isRead (pipe : Nat) : Act Bool := do
  let t ← get
  let own := (Machine.held t.self).any fun id =>
    (t.machine.openings.lookup id).any (·.channel == .source pipe)
  return own || t.machine.isHeld (.source pipe)

/-- Writes to a channel. -/
def writeChannel (c : Channel) (s : String) : Act Unit := do
  match c with
  | .file path =>
    modifyMachine fun m =>
      { m.happen with files := m.files.put path (.file (m.contentAt path ++ s)) }
  | .drain pipe =>
    if ← isRead pipe then
      modifyMachine fun m =>
        { m.happen with pipes := Machine.put pipe ((m.pipes.lookup pipe).getD "" ++ s) m.pipes }
    else
      match (← session).traps.get? Signal.pipe.name with
      | some "" => pure ()
      | _ => die (.killed .pipe)
  | .null | .zeros | .source _ => pure ()

/-- Writes to a descriptor. -/
def write (descriptor : Nat) (s : String) : Act Unit := do
  if s.isEmpty then pure ()
  else
    match ← opening? descriptor with
    | some (_, o) => writeChannel o.channel s
    | none => pure ()

/-- Complains. -/
def complain (message : String) : Act Unit := do
  write 2 ((← session).complaint message)

/-- Changes how far an opening has been read. -/
def moveOpening (id position : Nat) : Act Unit :=
  modifyMachine fun m => { m with
    openings := m.openings.map fun (k, o) => if k = id then (k, { o with position }) else (k, o) }

/-- What can be read from a descriptor now, and whether that is all there will be. -/
def available (descriptor : Nat) : Act (String × Bool) := do
  match ← opening? descriptor with
  | none => return ("", true)
  | some (_, o) =>
    let m := (← get).machine
    match o.channel with
    | .file path => return (String.ofList ((m.contentAt path).toList.drop o.position), true)
    | .source pipe => return ((m.pipes.lookup pipe).getD "", !m.isHeld (.drain pipe))
    | .null | .zeros | .drain _ => return ("", true)

/-- Leaves characters of the input of a descriptor behind. -/
def consume (descriptor count : Nat) : Act Unit := do
  match ← opening? descriptor with
  | none => pure ()
  | some (id, o) =>
    match o.channel with
    | .file _ => moveOpening id (o.position + count)
    | .source pipe =>
      modifyMachine fun m => { m with
        pipes := Machine.put pipe
          (String.ofList (((m.pipes.lookup pipe).getD "").toList.drop count)) m.pipes }
    | .null | .zeros | .drain _ => pure ()

/-- A path as it is seen from the directory of the process. -/
def pathOf (path : String) : Act String :=
  return Path.join (← session).directory path

/-- Where a file that may not exist yet stands. -/
def place (path : String) : Act (Except FileFault (List String)) := do
  let m := (← get).machine
  let full ← pathOf path
  if path.isEmpty then return .error .notFound
  else
    match m.files.locate full with
    | .ok parts => return .ok parts
    | .error .notFound =>
      match m.files.locate (Path.directory full) with
      | .ok parts =>
        match m.files.at? parts with
        | some .directory => return .ok (parts ++ [Path.name full])
        | _ => return .error .notDirectory
      | .error fault => return .error fault
    | .error fault => return .error fault

/-- What a path leads to. -/
def nodeAt (path : String) : Act (Except FileFault FileNode) := do
  if path.isEmpty then return .error .notFound
  else return (← get).machine.files.find (← pathOf path)

/-- The channel of a device. -/
def device? (path : String) : Option Channel :=
  match path with
  | "/dev/null" | "/dev/tty" => some .null
  | "/dev/zero" => some .zeros
  | _ => none

/-- The descriptor that a path stands for. -/
def descriptorAt? (path : String) : Option Nat :=
  match path with
  | "/dev/stdin" => some 0
  | "/dev/stdout" => some 1
  | "/dev/stderr" => some 2
  | _ => none

/-- Opens a file to read it. -/
def openToRead (path : String) : Act (Except FileFault Nat) := do
  match device? path with
  | some c => return .ok (← withMachine (·.openChannel c))
  | none =>
    match descriptorAt? path with
    | some d => return ((← opening? d).map fun o => Except.ok o.1).getD (.error .notFound)
    | none =>
      match ← nodeAt path with
      | .ok (.file _) =>
        match ← place path with
        | .ok parts => return .ok (← withMachine (·.openChannel (.file parts)))
        | .error fault => return .error fault
      | .ok .directory => return .ok (← withMachine (·.openChannel .null))
      | .error fault => return .error fault

/-- Opens a file to write to it, after what it holds or in its place. -/
def openToWrite (path : String) (append : Bool) : Act (Except FileFault Nat) := do
  match device? path with
  | some c => return .ok (← withMachine (·.openChannel c))
  | none =>
    match descriptorAt? path with
    | some d => return ((← opening? d).map fun o => Except.ok o.1).getD (.error .notFound)
    | none =>
      match ← place path with
      | .error fault => return .error fault
      | .ok parts =>
        let m := (← get).machine
        match m.files.at? parts with
        | some .directory => return .error .isDirectory
        | some (.file _) =>
          if !append then
            modifyMachine fun m => { m.happen with files := m.files.put parts (.file "") }
          return .ok (← withMachine (·.openChannel (.file parts)))
        | none =>
          modifyMachine fun m => { m.happen with files := m.files.put parts (.file "") }
          return .ok (← withMachine (·.openChannel (.file parts)))

/-- Starts a process that shares what this one has and carries out some frames. -/
def fork (frames : List Frame) (descriptors : List (Nat × Nat)) : Act Nat := do
  let t ← get
  let id := t.machine.next
  let ignored := t.self.session.traps.filter fun _ action => action.isEmpty
  let child : Process := {
    parent := t.id
    session := { t.self.session with traps := ignored }
    todo := frames
    descriptors
    yields := true }
  set { t with machine := { t.machine.happen with
    next := id + 1, processes := t.machine.processes ++ [(id, child)] } }
  return id

/-- Takes the end of a process over. -/
def takeEnd (id : Nat) : Act (Option ProcessEnd) := do
  let t ← get
  set { t with machine := { t.machine with ends := t.machine.ends.filter (·.1 ≠ id) } }
  return t.machine.ends.lookup id

/-- Leads descriptors back to where they led before. -/
def unplug (saved : List (Nat × Option Nat)) : Act Unit := do
  for (descriptor, target) in saved do
    plug descriptor target

/-- Gives variables back the values that they had before. -/
def resetVariables (saved : List (String × Option String)) : Act Unit :=
  modifySession fun s => saved.foldl (fun s (name, value) =>
    match value with
    | some v => { s with vars := s.vars.insert name v }
    | none => { s with vars := s.vars.erase name }) s

end Act

end Muster
