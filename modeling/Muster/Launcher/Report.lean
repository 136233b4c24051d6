import Muster.Descriptor.Normal
import Muster.Stack.Up
import Muster.Yaml.Write
/-!
# What the launcher shows

The commands of the launcher carried out on a stack, with what they show on the screen and how
they end.
-/

namespace Muster.Launcher

/-- What has been shown: the output and the complaints. -/
structure Screen where
  output : String := ""
  complaints : String := ""

namespace Screen

/-- A screen with a line of output more. -/
def say (s : Screen) (line : String) : Screen :=
  { s with output := s.output ++ line ++ "\n" }

/-- A screen with a line of complaint more. -/
def complain (s : Screen) (line : String) : Screen :=
  { s with complaints := s.complaints ++ line ++ "\n" }

/-- A screen with some lines of output more. -/
def sayAll (s : Screen) (lines : List String) : Screen :=
  lines.foldl say s

/-- A screen with some lines of complaint more. -/
def complainAll (s : Screen) (lines : List String) : Screen :=
  lines.foldl complain s

end Screen

/-- How a command ends: with an exit code, with an error that is told to the user, by the user's
request to stop, or with a fault that nothing takes care of. -/
inductive Ending where
  | exit (code : Nat)
  | told (message : String)
  | aborted
  | crash (fault : Fault)

namespace Ending

/-- How a fault ends a command that takes care of the faults of a stack. -/
def ofFault : Fault → Ending
  | .stack cause => told cause.message
  | .interrupt _ => aborted
  | fault => crash fault

/-- How a fault ends a command when nothing takes care of it. -/
def ofStray : Fault → Ending
  | .interrupt _ => aborted
  | fault => crash fault

/-- The exit code of a command. -/
def code : Ending → Nat
  | exit code => code
  | _ => 1

/-- The fault that nothing has taken care of. -/
def crash? : Ending → Option Fault
  | crash fault => some fault
  | _ => none

/-- The screen once the user has been told how the command ended. -/
def conclude (e : Ending) (s : Screen) : Screen :=
  match e with
  | told message => s.complain ("Error: " ++ message)
  | aborted => s.complain "\nAborted!"
  | _ => s

end Ending

variable {τ σ : Type}

/-- The width of the column of service names. -/
def nameWidth : Nat := 20

/-- The width of the column of statuses. -/
def statusWidth : Nat := 10

/-- Starts services.  In the foreground the user's request to stop comes as soon as it is waited
for, and the services are stopped at the end. -/
def up (h : Host τ σ) (profiles services : List String) (detach : Bool) (k : Stack τ σ) :
    Screen × Ending × Stack τ σ :=
  let stopping (s : Screen) : Screen := s.say "\nStopping services..."
  let (result, k) := k.up h profiles services
  let (screen, ending, keep) : Screen × Ending × Bool := match result with
    | .ok report =>
      let rows := report.order.map fun name =>
        Text.padEnd nameWidth name ++ " " ++ (report.states.get? name).elim "" (·.status.name)
      let failures := report.failures.map fun e => e.1 ++ ": " ++ e.2
      let screen := (Screen.sayAll {} rows).complainAll failures
      if detach then (screen, .exit (if report.ok then 0 else 1), true)
      else (stopping (screen.say "Running... Press Ctrl+C to stop."), .exit 0, false)
    | .error (.interrupt _) => (stopping {}, .exit 0, false)
    | .error fault => ({}, .ofFault fault, false)
  if keep || k.order.isEmpty then (screen, ending, k)
  else
    match k.down h with
    | (.ok (), k) => (screen, ending, k)
    | (.error fault, k) => (screen, .ofStray fault, k)

/-- Stops services. -/
def down (h : Host τ σ) (k : Stack τ σ) : Screen × Ending × Stack τ σ :=
  match k.down h with
  | (.ok (), k) => (Screen.say {} "Services stopped.", .exit 0, k)
  | (.error fault, k) => ({}, .ofFault fault, k)

/-- Lists the services with what is said about them. -/
def ps (h : Host τ σ) (k : Stack τ σ) : Screen × Ending × Stack τ σ :=
  let row (name status : String) : String :=
    Text.padEnd nameWidth name ++ " " ++ Text.padEnd statusWidth status
  match k.ps h with
  | (.ok rows, k) =>
    let rule := String.ofList (List.replicate (nameWidth + 1 + statusWidth) '-')
    let lines := row "SERVICE" "STATUS" :: rule :: rows.map fun e => row e.1 e.2
    (Screen.sayAll {} lines, .exit 0, k)
  | (.error fault, k) => ({}, .ofFault fault, k)

/-- The part of a descriptor that the profiles enable, with its services in the order of their
start.  The whole descriptor has to be free of cycles. -/
def active (d : Descriptor) (profiles : List String) :
    Except Fault (Descriptor × List String) := do
  let _ ← d.startOrder
  let active ← (d.select profiles []).mapError .descriptor
  let order ← active.startOrder
  pure (active, order)

/-- Shows the normal form of a descriptor, or only the names of its services. -/
def config (d : Descriptor) (profiles : List String) (namesOnly : Bool) : Screen × Ending :=
  match active d profiles with
  | .error fault => ({}, .ofFault fault)
  | .ok (active, order) =>
    if namesOnly then (Screen.sayAll {} order, .exit 0)
    else (Screen.say {} (Yaml.document (active.normal order)), .exit 0)

end Muster.Launcher
