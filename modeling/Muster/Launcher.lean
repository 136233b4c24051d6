import Muster.Checked
import Muster.Container.Project
import Muster.Descriptor.File
import Muster.Launcher.Options
import Muster.Launcher.Report
import Muster.Machine.Roster
/-!
# The launcher

A command line is read, the settings and the descriptor are found, and the task is carried out on
the services of the descriptor.
-/

namespace Muster

open CommandLine

/-- What the launcher finds around it. -/
structure Surroundings where
  environ : Table String
  files : Files
  engine : Engine

namespace Launcher

/-- What comes of a run of the launcher. -/
structure Outcome where
  screen : Screen := {}
  ending : Ending := .exit 0
  /-- The level and the style of the log, once they are settled. -/
  logging : Option (String × Bool) := none
  surroundings : Surroundings

/-- What comes before the command, together with the settings. -/
structure Request where
  file : String
  project : Option String
  host : HostKind
  settings : Settings

/-- The first text that is not empty. -/
def preferred (given : Option String) (otherwise : String) : String :=
  let s := given.getD ""
  if s.isEmpty then otherwise else s

/-- What is asked for by the options before the command. -/
def Request.ofGiven (g : Given) (settings : Settings) : Request where
  file := preferred (g.value? "file") settings.file
  project := ((g.value? "project-name").filter fun s => !s.isEmpty).or settings.projectName
  host := ((g.value? "runtime").bind HostKind.ofName?).getD settings.host
  settings

/-- The descriptor that is asked for, or how the command ends without it. -/
def descriptor (s : Surroundings) (r : Request) : Except Ending Descriptor :=
  if s.files.exists r.file then
    match Descriptor.ofFile s.files s.environ none r.file r.project with
    | .ok (d, _) => .ok d
    | .error fault => .error (.ofFault fault)
  else .error (.told (r.file ++ " not found."))

/-- Carries out a task on a stack. -/
def perform {τ σ : Type} (h : Host τ σ) (task : Task) (g : Given) (profiles : List String)
    (k : Stack τ σ) : Screen × Ending × Stack τ σ :=
  match task with
  | .up => up h profiles g.operands (g.has "detach") k
  | .down => down h k
  | .ps => ps h k
  | .config =>
    let (screen, ending) := config k.descriptor profiles (g.has "services")
    (screen, ending, k)

/-- Carries out a task. -/
def execute (s : Surroundings) (r : Request) (task : Task) (g : Given) :
    Screen × Ending × Surroundings :=
  match descriptor s r with
  | .error ending => ({}, ending, s)
  | .ok d =>
    let given := g.values "profile"
    let profiles := if given.isEmpty then r.settings.profileList else given
    let stack {σ : Type} (world : σ) : Stack Float σ := {
      descriptor := d
      backoff := r.settings.backoff
      stopTimeout := r.settings.stopTimeout
      world }
    let base := Path.directory (s.files.absolute r.file)
    match r.host with
    | .docker =>
      let p : Project := { name := d.project, base, files := s.files, environ := s.environ }
      let (screen, ending, k) := perform (p.host 0) task g profiles (stack s.engine)
      (screen, ending, { s with engine := k.world })
    | .process =>
      let roster : Roster := { machine := .ofFiles s.files, environ := s.environ, base }
      let (screen, ending, k) := perform Roster.host task g profiles (stack roster)
      (screen, ending, { s with files := k.world.machine.texts })

/-- The greatest width of a help page. -/
def widthLimit : Nat := 80

/-- The width of a help page; the environment may tell how wide the screen is. -/
def pageWidth (environ : Table String) : Nat :=
  let columns := ((environ.get? "COLUMNS").bind fun s => (Value.toInt (.str s)).toOption).getD 0
  let columns := if columns ≤ 0 then widthLimit else columns.toNat
  max (min columns widthLimit - 2) 50

/-- A screen that shows a help page. -/
def helped (environ : Table String) (path : String) (c : Grammar) (below : List Grammar) : Screen :=
  { output := helpPage (pageWidth environ) path c below }

/-- The end of a run whose command line is refused. -/
def refused (s : Surroundings) (path : String) (c : Grammar) (fault : UsageFault) : Outcome where
  screen := { complaints := refusal path c fault }
  ending := .exit 2
  surroundings := s

/-- Runs a task with the words that follow it. -/
def runTask (s : Surroundings) (r : Request) (task : Task) (words : List String) : Outcome :=
  let c := task.grammar
  match c.read true words with
  | .error fault => refused s (path task) c fault
  | .ok g =>
    if g.has "help" then { screen := helped s.environ (path task) c [], surroundings := s }
    else
      match c.check g with
      | .error fault => refused s (path task) c fault
      | .ok g =>
        let (screen, ending, s) := execute s r task g
        { screen := ending.conclude screen, ending, surroundings := s }

/-- What is wrong with the name of a command that there is not; one that looks like an option is
read as one. -/
def strayName (name : String) (words : List String) : Except UsageFault Given :=
  let fault := UsageFault.noSuchCommand name (Text.closest name (commands.map (·.name)))
  if name.startsWith "-" then
    match front.read false (name :: words) with
    | .error fault => .error fault
    | .ok g => if g.has "help" then .ok g else (front.check g).bind fun _ => .error fault
  else .error fault

/-- Runs the launcher with a command line that has been read up to the command. -/
def runFront (s : Surroundings) (g : Given) : Outcome :=
  let help : Outcome := { screen := helped s.environ callName front commands, surroundings := s }
  if g.has "help" then help
  else
    match front.check g, g.operands with
    | .error fault, _ => refused s callName front fault
    | .ok _, [] => refused s callName front .noCommand
    | .ok _, name :: words =>
      match Task.ofName? name with
      | none =>
        match strayName name words with
        | .error fault => refused s callName front fault
        | .ok _ => help
      | some task =>
        match (Settings.read [] s.environ).result with
        | .error fault => { ending := .crash fault, surroundings := s }
        | .ok settings =>
          let r := Request.ofGiven g settings
          let level := preferred (g.value? "log-level") settings.logLevel
          let json := g.has "json-logs" || settings.jsonLogs
          { runTask s r task words with logging := some (level, json) }

/-- Runs the launcher with a command line. -/
def run (s : Surroundings) (words : List String) : Outcome :=
  if words.isEmpty then
    { screen := { complaints := (helped s.environ callName front commands).output }
      ending := .exit 2
      surroundings := s }
  else
    match front.read false words with
    | .error fault => refused s callName front fault
    | .ok g => runFront s g

/-- The paths of the files that a command line can need: the descriptor, the variables beside it,
and the environment files of the services, as far as the descriptor can be read. -/
def neededFiles (s : Surroundings) (words : List String) : List String :=
  match front.read false words, (Settings.read [] s.environ).result with
  | .ok g, .ok settings =>
    let r := Request.ofGiven g settings
    let base := Path.directory (s.files.absolute r.file)
    let services := match descriptor s r with
      | .ok d => d.services.values
      | .error _ => []
    [r.file, Path.join base ".env"]
      ++ services.flatMap fun service => service.envFiles.map (Path.join base)
  | _, _ => []

end Launcher

end Muster
