import Muster.Machine.Builtin
import Muster.Machine.Redirection
/-!
# Steps

What a process does with the frame on top of its stack, when it can do anything with it, and how
a machine lets a process have its turn.
-/

namespace Muster

open Shell

namespace Act

/-- Whether nothing is left of a stack but scripts that have been read to their end. -/
def isSpent (todo : List Frame) : Bool :=
  todo.all fun
    | .script source => source.left.all fun c => c == ' ' || c == '\n' || c == '\t'
    | _ => false

/-- Goes on with what a script expands to.  If a command in it has to be carried out first, the
script is kept until its output is there. -/
def expanding {α : Type} (script : Script) (answers : List Answer) (e : Expand α)
    (go : α → Act Unit) : Act Unit := do
  let s ← session
  match e.run (s, answers) with
  | .ok (a, s', _) =>
    modifySession fun _ => s'
    if s'.vars.entries != s.vars.entries then happen
    go a
  | .error (.complaint message) =>
    complain message
    quit 2
  | .error (.needs inner) =>
    let pipe ← withMachine (·.openPipe)
    let drain ← withMachine (·.openChannel (.drain pipe))
    let descriptors := (← get).self.descriptors
    let child ← fork [.script ⟨inner.toList, s.line⟩]
      ((1, drain) :: descriptors.filter (·.1 ≠ 1))
    push [.substitute pipe child, .run script answers]

/-- The names of the files that a field describes, or the field itself. -/
def expandNames (field : List Glob.Sign) : Act (List String) := do
  let plain := String.ofList (field.map (·.1))
  let pattern := Glob.compile field
  let t ← get
  if t.self.session.switches.contains 'f' || !Glob.isOpen pattern then return [plain]
  else
    let lead := (plain.toList.reverse.dropWhile (· != '/')).reverse
    let patternHere := Glob.compile (field.drop lead.length)
    let directory ← pathOf (if lead.isEmpty then "." else String.ofList lead)
    match t.machine.files.locate directory with
    | .error _ => return [plain]
    | .ok parts =>
      let names := (namesIn t.machine.files parts).filter fun n =>
        (!n.startsWith "." || plain.toList[lead.length]? = some '.')
          && Glob.matches patternHere n.toList
      if names.isEmpty then return [plain]
      else return names.map (String.ofList lead ++ ·)

/-- Takes a program in the place of the process, under the name that it was called by. -/
def become (name : String) (words : List String) : Act Unit := do
  modifySession fun s =>
    { s with name, traps := s.traps.filter fun _ action => action.isEmpty }
  setTodo [.program words]

/-- A session with some variables that are part of the environment. -/
def lend (assignments : List (String × String)) (s : Session) : Session :=
  assignments.foldl (fun s (name, value) => (s.assign name value).publish name) s

/-- Whether there is anything that the process does on a signal or at its end. -/
def hasTraps : Act Bool :=
  return (← session).traps.entries.any fun e => !e.2.isEmpty

/-- Finds a program, or says why there is none. -/
def findProgram (search : Option String) (words : List String) (lead : String) :
    Act (Option (List String)) := do
  let s ← session
  let name := words.headD ""
  let search := search.getD ((s.vars.get? "PATH").getD "")
  match Program.find (← get).machine.files search s.directory name with
  | .ok program => return some (program :: words.drop 1)
  | .error .denied =>
    complain (lead ++ name ++ ": Permission denied")
    setStatus 126
    return none
  | .error _ =>
    complain (lead ++ name ++ ": not found")
    setStatus 127
    return none

/-- Starts a program and waits for it. -/
def external (assignments : List (String × String)) (words : List String)
    (saved : List (Nat × Option Nat)) : Act Unit := do
  match ← findProgram (assignments.lookup "PATH") words "" with
  | none =>
    unplug saved
    settle (← session).status
  | some program =>
    let t ← get
    if t.self.yields && isSpent t.self.todo && !(← hasTraps) then
      modifySession (lend assignments)
      become (words.headD "") program
    else
      let child ← fork [.program program] t.self.descriptors
      modifyMachine fun m =>
        match m.process? child with
        | some p =>
          let session := { lend assignments p.session with name := words.headD "" }
          m.setProcess child { p with session }
        | none => m
      unplug saved
      push [.collect [child] false]

/-- Carries out a command whose words have been expanded. -/
def execute (assignments : List (String × String)) (words : List String)
    (saved : List (Nat × Option Nat)) (answered : Option Int) : Act Unit := do
  let s ← session
  let restoring : List Frame := if saved.isEmpty then [] else [.restore saved]
  let lendingAround : Act (List Frame) := do
    let before := assignments.map fun a => (a.1, s.vars.get? a.1)
    modifySession (lend assignments)
    return (if before.isEmpty then [] else [.reset before]) ++ restoring
  match words with
  | [] =>
    for (name, value) in assignments do
      assign name value
    unplug saved
    settle (answered.getD 0)
  | "exec" :: r =>
    modifySession (lend assignments)
    if r.isEmpty then setStatus 0
    else
      match ← findProgram none r "exec: " with
      | some program => become (r.headD "") program
      | none => quit (← session).status
  | "command" :: "-v" :: r | "command" :: "-V" :: r =>
    push restoring
    let found ← r.mapM (explain (words[1]? = some "-V"))
    settle (if found.all id then 0 else 127)
  | name :: r =>
    match s.functions.get? name with
    | some body =>
      let around ← lendingAround
      happen
      push ([.run body [], .leave s.parameters []] ++ around)
      modifySession fun s => { s with parameters := r }
    | none =>
      let (name, r) := if name = "command" then (r.headD "", r.drop 1) else (name, r)
      if name.isEmpty && words.headD "" = "command" then
        unplug saved
        settle 0
      else if Builtin.special.contains name then
        for (x, value) in assignments do
          assign x value
        push restoring
        builtin name r
      else if Builtin.regular.contains name then
        push (← lendingAround)
        builtin name r
      else external assignments (name :: r) saved

/-- What a simple command expands to. -/
structure Expanded where
  fields : List (List Glob.Sign)
  assignments : List (String × String)
  plugs : List (Nat × Plug)
  /-- The status of the last command in the words, if there is one. -/
  answered : Option Int

/-- Expands a simple command. -/
def expandSimple (assignments : List (String × Word)) (words : List Word)
    (redirects : List Redirect) (answers : List Answer) : Expand Expanded := do
  let fields ← words.mapM Expand.fields
  let plugs ← redirects.mapM Plug.ofRedirect
  let assigned ← assignments.mapM fun (name, w) => do
    let value ← Expand.text w
    modify fun (s, left) => (if words.isEmpty then s.assign name value else s, left)
    return (name, value)
  return ⟨fields.flatten, assigned, plugs, answers.getLast?.map (·.status)⟩

/-- Carries out a simple command. -/
def runSimple (script : Script) (answers : List Answer) (line : Nat)
    (assignments : List (String × Word)) (words : List Word) (redirects : List Redirect) :
    Act Unit := do
  modifySession fun s => { s with line }
  expanding script answers (expandSimple assignments words redirects answers) fun x => do
    let names ← x.fields.mapM expandNames
    let words := names.flatten
    if (← session).switches.contains 'x' then
      let shown := x.assignments.map (fun a => a.1 ++ "=" ++ a.2) ++ words
      write 2 ("+ " ++ " ".intercalate shown ++ "\n")
    let (saved, fault) ← connect x.plugs []
    match fault with
    | some message =>
      unplug saved
      complain message
      if Builtin.special.contains (words.headD "") then quit 2 else settle 2
    | none => execute x.assignments words saved x.answered

/-- Starts the commands of a pipeline. -/
def startStages (input : Option Nat) : List Script → Act (List Nat)
  | [] => return []
  | s :: r => do
    let descriptors := (← get).self.descriptors
    let plugIn (ds : List (Nat × Nat)) : List (Nat × Nat) := match input with
      | some id => (0, id) :: ds.filter (·.1 ≠ 0)
      | none => ds
    if r.isEmpty then return [← fork [.run s []] (plugIn descriptors)]
    else
      let pipe ← withMachine (·.openPipe)
      let drain ← withMachine (·.openChannel (.drain pipe))
      let source ← withMachine (·.openChannel (.source pipe))
      let child ← fork [.run s []]
        ((1, drain) :: (plugIn descriptors).filter (·.1 ≠ 1))
      return child :: (← startStages (some source) r)

/-- The first part of a choice by pattern that a text matches. -/
def choosePart (subject : String) : List (List Word × Script) → Expand (Option Script)
  | [] => return none
  | (patterns, body) :: r => do
    let found ← patterns.mapM fun w => do
      let atoms ← Expand.word w
      return Glob.matches (Glob.compile (Expand.signs atoms)) subject.toList
    if found.any id then return some body else choosePart subject r

/-- Carries out a part of a script. -/
def runScript (script : Script) (answers : List Answer) : Act Unit := do
  match script with
  | .nothing => setStatus 0
  | .simple line assignments words redirects =>
    runSimple script answers line assignments words redirects
  | .pipeline stages => push [.collect (← startStages none stages) false]
  | .negate s => push [.run s [], .negate]
  | .both a b => push [.run a [], .andThen b]
  | .either a b => push [.run a [], .orElse b]
  | .sequence a b => push [.run a [], .run b []]
  | .background s =>
    let input ← withMachine (·.openChannel .null)
    let others := (← get).self.descriptors.filter (·.1 ≠ 0)
    let child ← fork [.run s []] ((0, input) :: others)
    modifyMachine fun m =>
      match m.process? child with
      | some p =>
        let traps := (p.session.traps.insert "INT" "").insert "QUIT" ""
        m.setProcess child { p with session := { p.session with traps } }
      | none => m
    modifySession fun s => { s with lastBackground := some child, status := 0 }
  | .redirected line s redirects =>
    modifySession fun s => { s with line }
    expanding script answers (redirects.mapM Plug.ofRedirect) fun plugs => do
      let (saved, fault) ← connect plugs []
      match fault with
      | some message =>
        unplug saved
        complain message
        settle 2
      | none => push [.run s [], .restore saved]
  | .subshell s =>
    let child ← fork [.run s []] (← get).self.descriptors
    push [.collect [child] false]
  | .choice condition yes no => push [.run condition [], .choice yes no]
  | .loop negated condition body =>
    let seen := (← get).machine.happened
    push [.run condition [], .loopTest negated condition body seen 0]
  | .each line name values body =>
    modifySession fun s => { s with line }
    expanding script answers (values.mapM Expand.fields) fun fields => do
      let names ← fields.flatten.mapM expandNames
      setStatus 0
      push [.each name names.flatten body]
  | .cases line subject parts =>
    modifySession fun s => { s with line }
    let choose : Expand (Option Script) := do choosePart (← Expand.text subject) parts
    expanding script answers choose fun part => do
      setStatus 0
      match part with
      | some body => push [.run body []]
      | none => pure ()
  | .function name body =>
    modifySession fun s => { s with functions := s.functions.insert name body }
    happen
    setStatus 0

/-- Reads the next part of a script and carries it out. -/
def continueScript (source : Source) : Act Unit := do
  match Reader.readComplete.run source with
  | .ok (none, _) => pure ()
  | .ok (some s, rest) => push [.run s [], .script rest]
  | .error fault =>
    modifySession fun s => { s with line := fault.line }
    complain ("Syntax error: " ++ fault.message)
    quit 2

/-- Says how a process has ended if a signal has ended it. -/
def lament (how : ProcessEnd) : Act Unit := do
  if let .killed s := how then
    if let some text := s.epitaph? then write 2 (text ++ "\n")

/-- Takes over the ends of processes. -/
def collect (asked : Bool) : List Nat → Act Unit
  | [] => settle 0
  | [0] => settle 0
  | [id] => do
    match ← takeEnd id with
    | some how =>
      lament how
      settle how.status
    | none => settle 127
  | id :: r => do
    let _ ← takeEnd id
    collect asked r

/-- The parts of a line for some variables.  The last one gets the rest. -/
def readFields (separators : List Char) : (count : Nat) → List Char → List (List Char)
  | 0, _ => []
  | n + 1, cs =>
    let blank (c : Char) : Bool := separators.contains c && (c == ' ' || c == '\t' || c == '\n')
    let cs := cs.dropWhile blank
    if n = 0 then [(cs.reverse.dropWhile blank).reverse]
    else
      let field := cs.takeWhile (!separators.contains ·)
      let rest := (cs.drop field.length).dropWhile blank
      let rest := match rest with
        | c :: r =>
          if separators.contains c && !(cs.drop field.length).head?.any blank then r
          else if separators.contains c then r
          else rest
        | [] => []
      field :: readFields separators n rest

/-- Gives the parts of a line to variables. -/
def readInto (names : List String) (raw ended : Bool) (line : String) : Act Unit := do
  let cs := if raw then line.toList else line.toList.filter (· != '\\')
  let fields := readFields (Expand.separators (← session)) names.length cs
  for (name, value) in names.zip fields do
    assign name (String.ofList value)
  settle (if ended then 0 else 1)

/-- Takes a line from the input. -/
def takeLine (names : List String) (raw : Bool) (sofar : String) : Act Unit := do
  let (s, last) ← available 0
  let line := s.toList.takeWhile (· != '\n')
  let ended := decide (line.length < s.length)
  consume 0 (line.length + if ended then 1 else 0)
  let line := sofar ++ String.ofList line
  if ended && !raw && line.endsWith "\\" then
    push [.readLine names raw (String.ofList line.toList.dropLast)]
  else if ended || last then readInto names raw ended line
  else push [.readLine names raw line]

/-- Does what the frame that has been on top of the stack says. -/
def frame (f : Frame) : Act Unit := do
  let status := (← session).status
  match f with
  | .script source => continueScript source
  | .run s answers => runScript s answers
  | .program words => runProgram words
  | .andThen s => if status = 0 then push [.run s []]
  | .orElse s => if status ≠ 0 then push [.run s []]
  | .negate => setStatus (if status = 0 then 1 else 0)
  | .choice yes no => if status = 0 then push [.run yes []] else push [.run no []]
  | .loopTest negated condition body seen last =>
    if (status == 0) != negated then push [.run body [], .loopAgain negated condition body seen]
    else setStatus last
  | .loopAgain negated condition body _ =>
    let seen := (← get).machine.happened
    push [.run condition [], .loopTest negated condition body seen status]
  | .each name values body =>
    match values with
    | [] => pure ()
    | v :: r =>
      assign name v
      push [.run body [], .each name r body]
  | .collect processes asked => collect asked processes
  | .substitute pipe process =>
    let how ← takeEnd process
    let m := (← get).machine
    let output := ((m.pipes.lookup pipe).getD "").toList.filter (· != '\x00')
    let output := String.ofList (output.reverse.dropWhile (· == '\n')).reverse
    let a : Answer := ⟨output, (how.map (·.status)).getD 0⟩
    match (← get).self.todo with
    | .run s answers :: r => setTodo (.run s (answers ++ [a]) :: r)
    | _ => pure ()
  | .restore _ | .reset _ | .leave .. => undo f
  | .resume before => setStatus before
  | .sleep _ => exit 0
  | .gather words input =>
    let (s, last) ← available 0
    consume 0 s.length
    let input := input ++ s
    if last || enough words input then goOn words input else push [.gather words input]
  | .readLine names raw input => takeLine names raw input

/-- Begins what is done on a signal. -/
def answerSignal (s : Signal) : Act Unit := do
  let t ← get
  let action := (t.self.session.traps.get? s.name).getD ""
  let before := t.self.session.status
  set { t with self := { t.self with pending := t.self.pending.drop 1 } }
  match t.self.todo with
  | .collect _ true :: r =>
    setTodo r
    setStatus (128 + s.number)
    push [.script ⟨action.toList, 1⟩, .resume (128 + s.number)]
  | _ => push [.script ⟨action.toList, 1⟩, .resume before]

/-- Ends a process that has nothing more to do, once it has done what it does at its end. -/
def conclude : Act Unit := do
  let s ← session
  match s.traps.get? "EXIT" with
  | some action =>
    modifySession fun s => { s with traps := s.traps.erase "EXIT" }
    push [.script ⟨action.toList, 1⟩, .resume s.status]
  | none => die (.exited (s.status % 256).toNat)

/-- Does what comes next.  What is done on a signal waits until a command in the foreground has
ended. -/
def step : Act Unit := do
  let t ← get
  let next (f : Frame) (r : List Frame) : Act Unit := do
    setTodo r
    frame f
  match t.self.pending, t.self.todo with
  | _ :: _, .collect ids false :: r => next (.collect ids false) r
  | s :: _, _ => answerSignal s
  | [], [] => conclude
  | [], f :: r => next f r

end Act

namespace Machine

/-- Whether there is something to read, or nothing more to come. -/
def hasInput (m : Machine) (p : Process) : Bool :=
  let input : Option Opening := (p.descriptors.lookup 0).bind fun id => m.openings.lookup id
  match input.map Opening.channel with
  | some (.source pipe) =>
    !((m.pipes.lookup pipe).getD "").isEmpty || !m.isHeld (.drain pipe)
  | _ => true

/-- Whether a process can do anything now. -/
def isReady (m : Machine) (p : Process) : Bool :=
  match p.todo with
  | .collect ids false :: _ => ids.all (!m.isAlive ·)
  | .collect ids true :: _ => ids.all (!m.isAlive ·) || !p.pending.isEmpty
  | .sleep deadline :: _ => decide (deadline ≤ m.now)
  | .gather .. :: _ | .readLine .. :: _ => m.hasInput p || !p.pending.isEmpty
  | .substitute pipe process :: _ => !m.isAlive process && !m.isHeld (.drain pipe)
  | .loopAgain _ _ _ seen :: _ => m.happened != seen || !p.pending.isEmpty
  | _ => true

/-- Lets a process have its turn. -/
def turn (m : Machine) (id : Nat) : Machine :=
  match m.process? id with
  | none => m
  | some p =>
    if m.isReady p then
      let (_, t) := Act.step.run { id, self := p, machine := m }
      let m := t.machine.setProcess id t.self
      match t.ends with
      | some how => m.finish id how
      | none => m
    else m

end Machine

end Muster
