import Muster.Counting
import Muster.Machine.Filter
import Muster.Machine.Turn
import Muster.Shell.Format
import Muster.Shell.Testing
/-!
# Programs

The programs that a machine has, and what each of them does.  A program that reads its input
first gathers all of it.
-/

namespace Muster

open Shell

/-- Why there is no program of a name. -/
inductive LookupFault where
  | notFound
  | denied
  | notDirectory
deriving Repr, DecidableEq

namespace Program

/-- The programs that read their input if no files are given to them. -/
def filters : List String :=
  ["cat", "head", "tail", "wc", "sort", "uniq", "tr", "grep", "egrep", "fgrep", "tee"]

/-- The shells. -/
def shells : List String := ["sh", "dash"]

/-- All programs. -/
def all : List String :=
  filters ++ shells ++ ["true", "false", "echo", "printf", "sleep", "printenv", "env", "pwd",
    "test", "[", "kill", "seq", "mkdir", "rmdir", "rm", "touch", "cp", "mv", "ls", "basename",
    "dirname", "yes"]

/-- The directories that programs stand in. -/
def directories : List String := ["/bin", "/usr/bin"]

/-- The program that a name stands for. -/
def find (files : Files) (search directory name : String) : Except LookupFault String :=
  if name.contains '/' then
    let full := Path.absolute directory name
    if directories.contains (Path.directory full) && all.contains (Path.name full) then
      .ok (Path.name full)
    else
      match files.find (Path.join directory name) with
      | .ok _ => .error .denied
      | .error .notDirectory => .error .notDirectory
      | .error _ => .error .notFound
  else if name.isEmpty then .error .notFound
  else
    let places := (Text.split ':' search).map fun d => Path.join directory d
    if places.any directories.contains && all.contains name then .ok name
    else if places.any fun d => (files.find (Path.join d name)).toOption.isSome then .error .denied
    else .error .notFound

end Program

namespace Act

/-- Ends the process with an exit code. -/
def exit (code : Nat) : Act Unit := do
  if (← get).ends.isNone then die (.exited (code % 256))

/-- Says something on the descriptor for complaints, in the name of the program. -/
def say (message : String) : Act Unit := do
  write 2 ((← session).name ++ ": " ++ message ++ "\n")

/-- The wording of a failure with a file. -/
def fileText : FileFault → String
  | .notFound => "No such file or directory"
  | .isDirectory => "Is a directory"
  | .notDirectory => "Not a directory"
  | .occupied => "File exists"

/-- How many zeros are taken from the device that never runs out of them. -/
def zerosLimit : Nat := 65536

/-- The content of a file or, under the name of a dash, the input. -/
def contentOf (input path : String) : Act (Except FileFault String) := do
  if path = "-" ∨ path = "/dev/stdin" then return .ok input
  else if device? path = some .zeros then
    return .ok (String.ofList (List.replicate zerosLimit '\x00'))
  else if (device? path).isSome then return .ok ""
  else
    match ← nodeAt path with
    | .ok (.file s) => return .ok s
    | .ok .directory => return .error .isDirectory
    | .error fault => return .error fault

/-- The contents of some files, of which those that cannot be read are complained about. -/
def contents (program input : String) : List String → Act (List (String × String) × Bool)
  | [] => return ([], true)
  | path :: r => do
    match ← contentOf input path with
    | .ok s =>
      let (rest, good) ← contents program input r
      return ((path, s) :: rest, good)
    | .error fault =>
      let what := if program = "head" || program = "tail" then
          "cannot open '" ++ path ++ "' for reading: "
        else path ++ ": "
      say (what ++ fileText fault)
      let (rest, _) ← contents program input r
      return (rest, false)

/-- What a condition is tested with. -/
def testing : Act Testing.Surroundings := do
  let t ← get
  return {
    kind := fun path =>
      if (device? path).isSome then .device
      else if path.isEmpty then .missing
      else
        match t.machine.files.find (Path.join t.self.session.directory path) with
        | .ok .directory => .directory
        | .ok (.file s) => .file s.isEmpty
        | .error _ => .missing }

/-- Tests a condition, in the name of a program: the status, and what is complained about. -/
def test (program : String) (words : List String) : Act (Int × Option String) := do
  let closed := program != "[" || words.getLast? == some "]"
  if !closed then return (2, some (program ++ ": missing ]"))
  else
    let words := if program = "[" then words.dropLast else words
    match Testing.test (← testing) words with
    | .ok true => return (0, none)
    | .ok false => return (1, none)
    | .error message => return (2, some (program ++ ": " ++ message))

/-- The words that are echoed as they are, and whether the line is not ended. -/
def echoOptions : List String → Bool × Bool × List String
  | [] => (false, false, [])
  | w :: r =>
    match w.toList with
    | '-' :: c :: rest =>
      if (c :: rest).all fun d => d == 'n' || d == 'e' || d == 'E' then
        let (bare, escapes, words) := echoOptions r
        let last := ((c :: rest).filter (· != 'n')).getLast?
        (bare || (c :: rest).contains 'n', escapes || last == some 'e', words)
      else (false, false, w :: r)
    | _ => (false, false, w :: r)

/-- Whether a program that reads its input has all that it needs. -/
def enough (words : List String) (input : String) : Bool :=
  match words with
  | "head" :: r =>
    match Filter.count ['n', 'c'] r with
    | (some ('c', n), _) => n.toNat?.any fun n => decide (n ≤ input.length)
    | (some (_, n), _) => n.toNat?.any fun n => decide (n ≤ input.toList.count '\n')
    | (none, _) => decide (10 ≤ input.toList.count '\n')
  | _ => false

/-- The files that are given to a program that reads its input otherwise. -/
def operands (words : List String) : List String :=
  match words with
  | "head" :: r => (Filter.count ['n', 'c'] r).2
  | "tail" :: r => (Filter.count ['n', 'c'] r).2
  | "wc" :: r => (Filter.switches ['l', 'w', 'c', 'm'] r).2
  | "sort" :: r => (Filter.switches ['n', 'r', 'u'] r).2
  | "tr" :: _ | "tee" :: _ => []
  | "grep" :: r | "egrep" :: r | "fgrep" :: r =>
    (Filter.switches ['q', 'c', 'v', 'i', 'F', 'E', 'x', 'h', 'l', 's'] r).2.drop 1
  | _ :: r => r.filter fun w => w = "-" || !w.startsWith "-"
  | [] => []

/-- Whether a program reads its input. -/
def readsInput (words : List String) : Bool :=
  match words with
  | name :: _ =>
    Program.filters.contains name &&
      ((operands words).isEmpty || (operands words).any fun w => w = "-" || w = "/dev/stdin")
  | [] => false

/-- Several texts, each under a heading if there is more than one. -/
def headed (f : String → String) (texts : List (String × String)) : String :=
  match texts with
  | [(_, s)] => f s
  | _ => "\n".intercalate (texts.map fun (name, s) => "==> " ++ name ++ " <==\n" ++ f s)

/-- What a filter does with its input. -/
def filter (words : List String) (input : String) : Act Unit := do
  let name := words.headD ""
  let given := operands words
  let (texts, good) ← contents name input (if given.isEmpty then ["-"] else given)
  let code := if good then 0 else 1
  let joined := String.join (texts.map (·.2))
  let rest := words.drop 1
  match name with
  | "cat" => write 1 joined; exit code
  | "head" =>
    let (unit, n) := ((Filter.count ['n', 'c'] rest).1).getD ('n', "10")
    write 1 (headed (Filter.head unit (n.toInt?.getD 10)) texts)
    exit code
  | "tail" =>
    let (unit, n) := ((Filter.count ['n', 'c'] rest).1).getD ('n', "10")
    let fromStart := n.startsWith "+"
    let digits := n.toList.filter Char.isDigit
    let amount := ((String.ofList digits).toNat?).getD 10
    write 1 (headed (Filter.tail unit fromStart amount) texts)
    exit code
  | "wc" =>
    let (switches, _) := Filter.switches ['l', 'w', 'c', 'm'] rest
    let width := if given.isEmpty && switches.length ≠ 1 then 7 else 1
    let single := switches.length = 1 && texts.length = 1
    let width := if given.isEmpty || single then width
      else (toString joined.length).length
    let row (e : String × String) : String :=
      Filter.columns width (Filter.tally switches e.2)
        ++ (if given.isEmpty then "" else " " ++ e.1) ++ "\n"
    let total := if texts.length > 1 then row ("total", joined) else ""
    write 1 (String.join (texts.map row) ++ total)
    exit code
  | "sort" => write 1 (Filter.sort (Filter.switches ['n', 'r', 'u'] rest).1 joined); exit code
  | "uniq" =>
    let ls := Filter.lines joined
    let kept := (ls.zip (none :: ls.map some)).filter fun (l, before) => before != some l
    write 1 (String.join (kept.map (·.1)))
    exit code
  | "tr" =>
    let (switches, sets) := Filter.switches ['d', 's', 'c', 'C'] rest
    write 1 (Filter.translate switches sets input)
    exit 0
  | "tee" =>
    let append := rest.contains "-a"
    write 1 input
    for path in rest.filter (!·.startsWith "-") do
      match ← openToWrite path append with
      | .ok id =>
        match (← get).machine.openings.lookup id with
        | some o => writeChannel o.channel input
        | none => pure ()
      | .error fault => say (path ++ ": " ++ fileText fault)
    exit 0
  | _ =>
    let (switches, more) :=
      Filter.switches ['q', 'c', 'v', 'i', 'F', 'E', 'x', 'h', 'l', 's'] rest
    let switches := if name = "fgrep" then 'F' :: switches else switches
    let texts := if given.isEmpty then [("(standard input)", input)] else texts
    let r := Filter.grep switches (more.headD "") texts
    write 1 r.output
    exit (if good then r.code else 2)

/-- The length of time that a word gives, in millionths of a second. -/
def duration? (word : String) : Option Nat := do
  let cs := word.toList
  let (digits, unit) := match cs.getLast? with
    | some 's' => (cs.dropLast, 1)
    | some 'm' => (cs.dropLast, 60)
    | some 'h' => (cs.dropLast, 3600)
    | some 'd' => (cs.dropLast, 86400)
    | _ => (cs, 1)
  let (n, exponent) ← Decimal.decimalOfChars? digits
  let scaled := n * unit * tenTo (exponent + 6).toNat
  return scaled / tenTo (-(exponent + 6)).toNat

/-- Makes a directory. -/
def makeDirectory (path : String) : Act (Except String Unit) := do
  match ← place path with
  | .error fault => return .error (fileText fault)
  | .ok parts =>
    match (← get).machine.files.at? parts with
    | some _ => return .error "File exists"
    | none =>
      modifyMachine fun m => { m.happen with files := m.files.put parts .directory }
      return .ok ()

/-- The names of what stands in a directory. -/
def namesIn (files : Files) (parts : List String) : List String :=
  let lead := Files.key parts ++ "/"
  let below := files.nodes.keys.filter fun k => k.startsWith lead
  let names := below.map fun k => String.ofList (k.toList.drop lead.length)
  (names.filter fun n => !n.isEmpty && !n.contains '/').mergeSort (· ≤ ·)

/-- Takes something out of a tree of files, with all that is below it. -/
def removeTree (files : Files) (parts : List String) : Files :=
  let k := Files.key parts
  { files with nodes := files.nodes.filter fun name _ => name ≠ k && !name.startsWith (k ++ "/") }

/-- Does something with each of some files, and ends with an exit code that tells whether all went
well. -/
def forAll (paths : List String) (failure : Nat) (f : String → Act Bool) : Act Unit := do
  let results ← paths.mapM f
  exit (if results.all id then 0 else failure)

/-- Removes files and directories. -/
def remove (switches : List Char) (paths : List String) : Act Unit :=
  forAll paths 1 fun path => do
    match ← place path with
    | .error fault =>
      if switches.contains 'f' then return true
      else
        say ("cannot remove '" ++ path ++ "': " ++ fileText fault)
        return false
    | .ok parts =>
      match (← get).machine.files.at? parts with
      | none =>
        if switches.contains 'f' then return true
        else
          say ("cannot remove '" ++ path ++ "': No such file or directory")
          return false
      | some .directory =>
        if switches.contains 'r' || switches.contains 'R' then
          modifyMachine fun m => { m.happen with files := removeTree m.files parts }
          return true
        else
          say ("cannot remove '" ++ path ++ "': Is a directory")
          return false
      | some (.file _) =>
        modifyMachine fun m => { m.happen with files := removeTree m.files parts }
        return true

/-- Removes a directory that nothing stands in. -/
def removeDirectory (path : String) : Act Bool := do
  let failed (reason : String) : Act Bool := do
    say ("failed to remove '" ++ path ++ "': " ++ reason)
    return false
  match ← place path with
  | .error fault => failed (fileText fault)
  | .ok parts =>
    let files := (← get).machine.files
    match files.at? parts with
    | none => failed "No such file or directory"
    | some (.file _) => failed "Not a directory"
    | some .directory =>
      if !(namesIn files parts).isEmpty then failed "Directory not empty"
      else
        modifyMachine fun m => { m.happen with files := removeTree m.files parts }
        return true

/-- Copies a file, or moves it. -/
def copy (program : String) (words : List String) : Act Unit := do
  match words.filter (!·.startsWith "-") with
  | [source, goal] =>
    match ← nodeAt source with
    | .ok (.file s) =>
      let goal := match ← nodeAt goal with
        | .ok .directory => Path.join goal (Path.name source)
        | _ => goal
      match ← place goal, ← place source with
      | .ok parts, .ok old =>
        modifyMachine fun m =>
          let files := if program = "mv" then removeTree m.files old else m.files
          { m.happen with files := files.put parts (.file s) }
        exit 0
      | _, _ =>
        say ("cannot create regular file '" ++ goal ++ "': No such file or directory")
        exit 1
    | _ => say ("cannot stat '" ++ source ++ "': No such file or directory"); exit 1
  | _ => say "missing file operand"; exit 1

/-- Lists files and what stands in directories. -/
def list (words : List String) : Act Unit := do
  let (switches, given) := Filter.switches ['a', 'A', '1', 'd'] words
  let hidden := switches.contains 'a' || switches.contains 'A'
  forAll (if given.isEmpty then ["."] else given) 2 fun path => do
    match ← place path with
    | .ok parts =>
      let files := (← get).machine.files
      match files.at? parts with
      | some (.file _) => write 1 (path ++ "\n"); return true
      | some .directory =>
        let names := (namesIn files parts).filter fun n => hidden || !n.startsWith "."
        let names := if switches.contains 'd' then [path] else names
        write 1 (String.join (names.map (· ++ "\n")))
        return true
      | none =>
        say ("cannot access '" ++ path ++ "': No such file or directory")
        return false
    | .error fault =>
      say ("cannot access '" ++ path ++ "': " ++ fileText fault)
      return false

/-- The numbers of a sequence. -/
def sequence (words : List String) : Act Unit := do
  match words.mapM (·.toInt?) with
  | some ns =>
    let (first, step, last) := match ns with
      | [last] => (1, 1, last)
      | [first, last] => (first, 1, last)
      | [first, step, last] => (first, step, last)
      | _ => (1, 1, 0)
    let count := if step = 0 then 0 else ((last - first).tdiv step + 1).toNat
    let count := if (step > 0 && first > last) || (step < 0 && first < last) then 0 else count
    let row (i : Nat) := toString (first + step * Int.ofNat i) ++ "\n"
    let rows := (List.range count).map row
    write 1 (String.join rows)
    exit 0
  | none => say "invalid floating point argument"; exit 1

/-- Runs a program in a changed environment, or shows it. -/
def environment : (fuel : Nat) → List String → Act Unit
  | 0, _ => exit 125
  | n + 1, words => do
    match words with
    | "-i" :: r | "-" :: r =>
      modifySession fun s => { s with vars := ∅, exported := [] }
      environment n r
    | "-u" :: name :: r =>
      modifySession (·.unset name)
      environment n r
    | [] =>
      let entries := (← session).environment.entries
      write 1 (String.join (entries.map fun (k, v) => k ++ "=" ++ v ++ "\n"))
      exit 0
    | w :: r =>
      match Text.cutAt '=' w with
      | some (name, value) =>
        modifySession fun s => (s.assign name value).publish name
        environment n r
      | none =>
        let s ← session
        let search := (s.vars.get? "PATH").getD "/bin:/usr/bin"
        match Program.find (← get).machine.files search s.directory w with
        | .ok program =>
          modifySession fun s => { s with name := w }
          push [.program (program :: r)]
        | .error .notFound => say ("'" ++ w ++ "': No such file or directory"); exit 127
        | .error _ => say ("'" ++ w ++ "': Permission denied"); exit 126

/-- Begins a shell with its name and parameters, which knows nothing but its environment. -/
def newSession (name : String) (switches : List Char) (parameters : List String) : Act Unit := do
  let id := (← get).id
  modifySession fun s =>
    let environment := s.environment.filter fun name _ => isName name.toList
    let fresh : Session := {
      name
      parameters
      vars := environment
      exported := environment.keys
      number := id
      traps := s.traps.filter fun _ action => action.isEmpty
      directory := s.directory
      switches }
    (fresh.assign "PWD" s.directory).publish "PWD"

/-- Begins a shell with a script and the words after it. -/
def shellOn (name : String) (switches : List Char) : List String → Act Unit
  | [] => do
    write 2 (name ++ ": 0: -c requires an argument\n")
    exit 2
  | script :: r => do
    newSession (r.headD name) switches (r.drop 1)
    push [.script ⟨script.toList, 1⟩]

/-- Begins a shell with the words after its name. -/
def shell (name : String) : (switches : List Char) → List String → Act Unit
  | switches, [] => do
    newSession name switches []
    push [.gather [name] ""]
  | switches, w :: r => do
    match w.toList with
    | '-' :: c :: cs =>
      if (c :: cs).contains 'c' then
        shellOn name (switches ++ (c :: cs).filter (· != 'c')) r
      else shell name (switches ++ (c :: cs).filter (· != 's')) r
    | _ =>
      match ← contentOf "" w with
      | .ok script =>
        newSession w switches r
        push [.script ⟨script.toList, 1⟩]
      | .error _ =>
        write 2 (name ++ ": 0: cannot open " ++ w ++ ": No such file\n")
        exit 2

/-- Sends a signal to some processes: whether all of them are there. -/
def tell (s : Signal) (targets : List Nat) : Act Bool := do
  let results ← targets.mapM fun id => do
    let t ← get
    if id = t.id then
      match decide (s = .kill), t.self.session.traps.get? s.name with
      | false, some "" => pure ()
      | false, some _ =>
        let pending := t.self.pending ++ (if t.self.pending.contains s then [] else [s])
        set { t with self := { t.self with pending } }
      | _, _ => if s.isDeadly then die (.killed s)
      return true
    else if t.machine.isAlive id then
      if s.number ≠ 0 then modifyMachine (·.signal id s)
      return true
    else return (t.machine.ends.lookup id).isSome
  return results.all id

/-- What the words after the name of a program that sends signals say. -/
def readTell (words : List String) : Option (Signal × List String) :=
  match words with
  | "-s" :: name :: r | "-n" :: name :: r => (Signal.ofText? name).map fun s => (s, r)
  | "--" :: r => some (.terminate, r)
  | w :: r =>
    match w.toList with
    | '-' :: c :: cs => (Signal.ofText? (String.ofList (c :: cs))).map fun s =>
      (s, if r.head? = some "--" then r.drop 1 else r)
    | _ => some (.terminate, w :: r)
  | [] => none

/-- Runs a program with arguments. -/
def runProgram (words : List String) : Act Unit := do
  let name := words.headD ""
  let rest := words.drop 1
  if readsInput words then
    push [.gather words ""]
  else if Program.filters.contains name then filter words ""
  else if Program.shells.contains name then shell (← session).name [] rest
  else
    match name with
    | "true" => exit 0
    | "false" => exit 1
    | "echo" =>
      let (bare, escapes, words) := echoOptions rest
      let line := " ".intercalate words
      let (line, ends) := if escapes then Format.unescaped line else (line, false)
      write 1 (if bare || ends then line else line ++ "\n")
      exit 0
    | "printf" =>
      match rest with
      | [] => say "missing operand"; exit 1
      | format :: arguments =>
        match Format.printf format arguments with
        | .ok (output, complaints) =>
          for c in complaints do
            say c
          write 1 output
          exit (if complaints.isEmpty then 0 else 1)
        | .error directive => say (directive ++ ": invalid conversion specification"); exit 1
    | "sleep" =>
      match rest.mapM duration? with
      | some (d :: ds) =>
        let now := (← get).machine.now
        push [.sleep (now + total (d :: ds))]
      | some [] =>
        say "missing operand\nTry 'sleep --help' for more information."
        exit 1
      | none =>
        let bad := (rest.find? fun w => (duration? w).isNone).getD ""
        say ("invalid time interval '" ++ bad ++ "'\n"
          ++ "Try 'sleep --help' for more information.")
        exit 1
    | "printenv" =>
      let environment := (← session).environment
      if rest.isEmpty then
        write 1 (String.join (environment.entries.map fun (k, v) => k ++ "=" ++ v ++ "\n"))
        exit 0
      else
        let values := rest.filterMap environment.get?
        write 1 (String.join (values.map (· ++ "\n")))
        exit (if values.length = rest.length then 0 else 1)
    | "env" => environment (2 * rest.length + 1) rest
    | "pwd" => write 1 ((← session).directory ++ "\n"); exit 0
    | "test" | "[" =>
      let (status, fault) ← test name rest
      if let some message := fault then write 2 (message ++ "\n")
      exit status.toNat
    | "kill" =>
      match readTell rest with
      | some (s, targets) =>
        let ids := targets.filterMap (·.toNat?)
        if ← tell s ids then exit 0
        else
          say "No such process"
          exit 1
      | none => say "not enough arguments"; exit 1
    | "seq" => sequence rest
    | "mkdir" =>
      let parents := rest.contains "-p"
      forAll (rest.filter (!·.startsWith "-")) 1 fun path => do
        if parents then
          let parts := Path.parts path
          let steps := (List.range parts.length).map fun i => "/".intercalate (parts.take (i + 1))
          for step in steps do
            if !step.isEmpty then let _ ← makeDirectory step
          return true
        else
          match ← makeDirectory path with
          | .ok () => return true
          | .error message =>
            say ("cannot create directory '" ++ path ++ "': " ++ message)
            return false
    | "rm" =>
      let (switches, paths) := Filter.switches ['r', 'R', 'f'] rest
      remove switches paths
    | "rmdir" => forAll (rest.filter (!·.startsWith "-")) 1 removeDirectory
    | "touch" =>
      forAll (rest.filter (!·.startsWith "-")) 1 fun path => do
        match ← openToWrite path true with
        | .ok _ => return true
        | .error .isDirectory => return true
        | .error fault =>
          say ("cannot touch '" ++ path ++ "': " ++ fileText fault)
          return false
    | "cp" | "mv" => copy name rest
    | "ls" => list rest
    | "basename" =>
      let base := Path.name ((rest.headD "").dropEndWhile (· == '/')).toString
      let ending := (rest[1]?).getD ""
      let base := if base.endsWith ending && base ≠ ending then
          String.ofList (base.toList.take (base.length - ending.length))
        else base
      write 1 (base ++ "\n")
      exit 0
    | "dirname" =>
      let path := rest.headD ""
      let directory := Path.directory path
      write 1 ((if directory.isEmpty then "." else directory) ++ "\n")
      exit 0
    | _ =>
      write 1 ((if rest.isEmpty then "y" else " ".intercalate rest) ++ "\n")
      push [.program words]

/-- Goes on with a program whose input has come. -/
def goOn (words : List String) (input : String) : Act Unit := do
  if Program.shells.contains (words.headD "") then push [.script ⟨input.toList, 1⟩]
  else filter words input

end Act

end Muster
