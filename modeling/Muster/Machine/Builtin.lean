import Muster.Machine.Program
/-!
# Built-in commands

The commands that a shell carries out by itself, because they change what it knows or what it
does next.
-/

namespace Muster

open Shell

namespace Builtin

/-- The commands whose assignments last, and whose failure ends the shell. -/
def special : List String :=
  [":", ".", "break", "continue", "eval", "exec", "exit", "export", "readonly", "return", "set",
    "shift", "times", "trap", "unset"]

/-- The other commands. -/
def regular : List String :=
  ["true", "false", "echo", "printf", "test", "[", "cd", "pwd", "read", "kill", "wait", "command",
    "type", "umask", "ulimit", "local", "hash", "jobs"]

/-- The commands that change nothing. -/
def inert : List String := [":", "true", "false", "test", "[", "break", "continue"]

end Builtin

namespace Act

/-- Whether a failure is looked at by what comes next. -/
def isTested (todo : List Frame) : Bool :=
  todo.any fun
    | .andThen _ | .orElse _ | .negate | .choice .. | .loopTest .. => true
    | _ => false

/-- Ends the script with a status. -/
def quit (status : Int) : Act Unit := do
  setStatus status
  setTodo []

/-- Sets the status of the last command.  A failure that nothing looks at ends the script if that
is wanted. -/
def settle (status : Int) : Act Unit := do
  let t ← get
  let strict := t.self.session.switches.contains 'e'
  if status ≠ 0 ∧ strict ∧ !isTested t.self.todo then quit status else setStatus status

/-- Complains about a built-in command and sets its status; the failure of a special one ends the
script. -/
def refuse (name message : String) (status : Int) : Act Unit := do
  complain (name ++ ": " ++ message)
  if Builtin.special.contains name then quit status else settle status

/-- Whether a frame is that of a loop. -/
def isLoop : Frame → Bool
  | .loopTest .. | .loopAgain .. | .each .. => true
  | _ => false

/-- Undoes what a frame would have undone. -/
def undo : Frame → Act Unit
  | .restore saved => unplug saved
  | .reset saved => resetVariables saved
  | .leave parameters saved => do
    modifySession fun s => { s with parameters }
    resetVariables saved
  | _ => pure ()

/-- Leaves loops: the frames that are left. -/
def leaveLoops (again : Bool) : (count : Nat) → List Frame → Act (List Frame)
  | _, [] => return []
  | n, f :: r => do
    if isLoop f then
      if n ≤ 1 then
        if again then
          match f with
          | .loopTest negated condition body _ _ =>
            return .loopAgain negated condition body 0 :: r
          | _ => return f :: r
        else return r
      else leaveLoops again (n - 1) r
    else
      undo f
      leaveLoops again n r

/-- Leaves a function: the frames that are left, if there is one to leave. -/
def leaveFunction : List Frame → Act (Option (List Frame))
  | [] => return none
  | f :: r => do
    undo f
    match f with
    | .leave .. => return some r
    | _ => leaveFunction r

/-- The loops around what is being done. -/
def loopsAround (todo : List Frame) : Nat :=
  ((todo.takeWhile fun
    | .leave .. => false
    | _ => true).filter isLoop).length

/-- Assigns a value. -/
def assign (name value : String) : Act Unit := do
  modifySession (·.assign name value)
  happen

/-- Cuts the value off a word that assigns. -/
def cutAssignment (word : String) : String × Option String :=
  match Text.cutAt '=' word with
  | some (name, value) => (name, some value)
  | none => (word, none)

/-- A text in single quotes. -/
def singleQuoted (s : String) : String :=
  "'" ++ s.replace "'" "'\"'\"'" ++ "'"

/-- The name under which the action of a signal is kept. -/
def trapName? (word : String) : Option String :=
  if word = "EXIT" ∨ word = "0" then some "EXIT" else (Signal.ofText? word).map (·.name)

/-- Sets what is done on signals. -/
def trap (words : List String) : Act Unit := do
  let words := if words.head? = some "--" then words.drop 1 else words
  match words with
  | [] =>
    let traps := (← session).traps.entries
    write 1 (String.join (traps.map fun (name, action) =>
      "trap -- " ++ singleQuoted action ++ " " ++ name ++ "\n"))
    settle 0
  | action :: r =>
    let (action, names) :=
      if r.isEmpty || action.toNat?.isSome then ("-", words) else (action, r)
    for name in names do
      match trapName? name with
      | none => refuse "trap" (name ++ ": bad trap") 1
      | some name =>
        modifySession fun s => { s with
          traps := if action = "-" then s.traps.erase name else s.traps.insert name action }
    if names.all fun name => (trapName? name).isSome then settle 0

/-- The switch that a long name stands for. -/
def switchNamed? : String → Option Char
  | "errexit" => some 'e'
  | "nounset" => some 'u'
  | "xtrace" => some 'x'
  | "noglob" => some 'f'
  | "allexport" => some 'a'
  | "noexec" => some 'n'
  | "verbose" => some 'v'
  | _ => none

/-- Sets or clears switches. -/
def change (on : Bool) (letters : List Char) : Act Unit :=
  modifySession fun s =>
    let others := s.switches.filter (!letters.contains ·)
    { s with switches := if on then others ++ letters else others }

/-- Sets switches and parameters. -/
def configure : List String → Act Unit
  | [] => settle 0
  | "--" :: r => do
    modifySession fun s => { s with parameters := r }
    settle 0
  | "-o" :: name :: r => do
    change true (switchNamed? name).toList
    configure r
  | "+o" :: name :: r => do
    change false (switchNamed? name).toList
    configure r
  | w :: r => do
    match w.toList with
    | '-' :: c :: cs => change true (c :: cs); configure r
    | '+' :: c :: cs => change false (c :: cs); configure r
    | _ =>
      modifySession fun s => { s with parameters := w :: r }
      settle 0

/-- Changes the directory. -/
def changeDirectory (words : List String) : Act Unit := do
  let s ← session
  let words := words.filter fun w => w ≠ "-L" && w ≠ "-P" && w ≠ "--"
  let goal := match words with
    | [] => s.vars.get? "HOME"
    | "-" :: _ => s.vars.get? "OLDPWD"
    | w :: _ => some w
  match goal with
  | none => settle 0
  | some goal =>
    match (← get).machine.files.find (Path.join s.directory goal) with
    | .ok .directory =>
      let path := Path.absolute s.directory goal
      modifySession fun s =>
        { (s.assign "OLDPWD" s.directory).assign "PWD" path with directory := path }
      if words = ["-"] then write 1 (path ++ "\n")
      settle 0
    | _ =>
      complain ("cd: can't cd to " ++ goal)
      settle 2

/-- Makes variables part of the environment. -/
def exportNames (words : List String) : Act Unit := do
  let names := words.filter (· ≠ "-p")
  match names.find? fun w => !isName (cutAssignment w).1.toList with
  | some w => refuse "export" ((cutAssignment w).1 ++ ": bad variable name") 2
  | none =>
    for w in names do
      let (name, value) := cutAssignment w
      if let some v := value then assign name v
      modifySession (·.publish name)
    if names.isEmpty then
      let entries := (← session).environment.entries
      write 1 (String.join (entries.map fun (k, v) =>
        "export " ++ k ++ "=" ++ singleQuoted v ++ "\n"))
    settle 0

/-- Makes variables belong to the function that is being carried out. -/
def localNames (words : List String) : Act Unit := do
  for w in words do
    let (name, value) := cutAssignment w
    let before := (← session).vars.get? name
    let t ← get
    let outer := t.self.todo.takeWhile fun
      | .leave .. => false
      | _ => true
    match t.self.todo.drop outer.length with
    | .leave parameters saved :: r =>
      let saved := if saved.any (·.1 = name) then saved else (name, before) :: saved
      setTodo (outer ++ .leave parameters saved :: r)
    | _ => pure ()
    if let some v := value then assign name v
  settle 0

/-- Waits for processes. -/
def waitFor (words : List String) : Act Unit := do
  let t ← get
  let children := (t.machine.processes.filter (·.2.parent = t.id)).map (·.1)
  if words.isEmpty then push [.collect (children ++ [0]) true]
  else
    let ids := words.filterMap (·.toNat?)
    let known := ids.filter fun id =>
      children.contains id || (t.machine.ends.lookup id).isSome
    if known.length = words.length then push [.collect known true] else settle 127

/-- Tells how a name would be understood. -/
def explain (verbose : Bool) (name : String) : Act Bool := do
  let s ← session
  let m := (← get).machine
  let answer (plain wordy : String) : Act Bool := do
    write 1 ((if verbose then wordy else plain) ++ "\n")
    return true
  if Builtin.special.contains name then answer name (name ++ " is a special shell builtin")
  else if (s.functions.get? name).isSome then answer name (name ++ " is a shell function")
  else if Builtin.regular.contains name then answer name (name ++ " is a shell builtin")
  else
    let search := (s.vars.get? "PATH").getD ""
    match Program.find m.files search s.directory name with
    | .ok _ =>
      let place := (Text.split ':' search).find? Program.directories.contains
      let full := if name.contains '/' then name else (place.getD "") ++ "/" ++ name
      answer full (name ++ " is " ++ full)
    | .error _ =>
      if verbose then write 1 (name ++ ": not found\n")
      return false

/-- The number that is given to a command, if it is one. -/
def numberGiven (name word : String) (f : Nat → Act Unit) : Act Unit :=
  match word.toNat? with
  | some n => f n
  | none => do
    complain (name ++ ": Illegal number: " ++ word)
    quit 2

/-- Carries out a built-in command. -/
def builtin (name : String) (words : List String) : Act Unit := do
  if !Builtin.inert.contains name then happen
  match name with
  | ":" | "true" => settle 0
  | "false" => settle 1
  | "echo" => write 1 (Format.echo words); settle 0
  | "printf" =>
    let words := if words.head? = some "--" then words.drop 1 else words
    match words with
    | [] => complain "printf: usage: printf format [arg ...]"; settle 2
    | format :: arguments =>
      match Format.printf format arguments with
      | .ok (output, complaints) =>
        for c in complaints do
          complain ("printf: " ++ c)
        write 1 output
        settle (if complaints.isEmpty then 0 else 1)
      | .error directive => complain ("printf: " ++ directive ++ ": invalid directive"); settle 2
  | "test" | "[" =>
    let (status, fault) ← test name words
    if let some message := fault then complain message
    settle status
  | "pwd" => write 1 ((← session).directory ++ "\n"); settle 0
  | "cd" => changeDirectory words
  | "exit" =>
    match words with
    | [] => quit (← session).status
    | w :: _ => numberGiven name w fun n => quit n
  | "return" =>
    let leave (status : Int) : Act Unit := do
      setStatus status
      match ← leaveFunction (← get).self.todo with
      | some todo => setTodo todo
      | none => quit status
    match words with
    | [] => leave (← session).status
    | w :: _ => numberGiven name w fun n => leave n
  | "break" | "continue" =>
    numberGiven name (words.headD "1") fun n => do
      let todo := (← get).self.todo
      let around := loopsAround todo
      if around > 0 then
        setStatus 0
        setTodo (← leaveLoops (name = "continue") (min (max n 1) around) todo)
      else settle 0
  | "shift" =>
    numberGiven name (words.headD "1") fun n => do
      if n > (← session).parameters.length then refuse name "can't shift that many" 2
      else
        modifySession fun s => { s with parameters := s.parameters.drop n }
        settle 0
  | "export" | "readonly" => exportNames words
  | "local" => localNames words
  | "unset" =>
    let functions := words.contains "-f"
    for w in words.filter fun w => w ≠ "-f" && w ≠ "-v" do
      if functions then
        modifySession fun s => { s with functions := s.functions.erase w }
      else modifySession (·.unset w)
    settle 0
  | "set" => configure words
  | "trap" => trap words
  | "eval" => push [.script ⟨(" ".intercalate words).toList, 1⟩]; setStatus 0
  | "." =>
    match words with
    | [] => settle 0
    | path :: r =>
      match ← nodeAt path with
      | .ok (.file s) =>
        let before := (← session).parameters
        if !r.isEmpty then modifySession fun s => { s with parameters := r }
        push [.script ⟨s.toList, 1⟩, .leave before []]
        setStatus 0
      | _ => refuse name (path ++ ": not found") 2
  | "read" =>
    let raw := words.contains "-r"
    let names := match words with
      | "-p" :: _ :: r => r
      | ws => ws.filter fun w => !w.startsWith "-"
    push [.readLine names raw ""]
  | "wait" => waitFor words
  | "kill" =>
    match words with
    | ["-l", n] =>
      match n.toNat? with
      | some k =>
        let s : Signal := ⟨if k > 128 then k - 128 else k⟩
        write 1 (s.name ++ "\n")
        settle 0
      | none => settle 2
    | _ =>
      match readTell words with
      | some (s, targets) =>
        if targets.isEmpty || targets.any (·.toNat?.isNone) then
          complain ("kill: Illegal pid: " ++ (targets.find? (·.toNat?.isNone)).getD "")
          settle 2
        else if ← tell s (targets.filterMap (·.toNat?)) then settle 0
        else
          complain "kill: No such process\n"
          settle 1
      | none =>
        complain ("kill: Usage: kill [-s sigspec | -signum | -sigspec] [pid | job]... or\n"
          ++ "kill -l [exitstatus]")
        settle 2
  | "type" | "hash" =>
    let found ← words.mapM (explain (name = "type"))
    settle (if found.all id then 0 else 127)
  | "umask" => write 1 (if words.isEmpty then "0022\n" else ""); settle 0
  | _ => settle 0

end Act

end Muster
