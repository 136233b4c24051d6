import Muster.Checked
import Muster.Supervisor
import Muster.Text.Split
/-!
# Settings

How the launcher itself behaves.  A setting is given by the caller or by a variable of the
environment whose name, in either case, is that of the setting after `STACKUP_`.  The active
profiles may also stand in `COMPOSE_PROFILES`.
-/

namespace Muster

/-- What services run as. -/
inductive HostKind where
  | docker
  | process
deriving Repr, DecidableEq, Inhabited

namespace HostKind

/-- The written form of a kind of host. -/
def name : HostKind → String
  | docker => "docker"
  | process => "process"

/-- The kind of host with a written form. -/
def ofName? (s : String) : Option HostKind :=
  [docker, process].find? (·.name = s)

@[simp]
theorem ofName?_name (k : HostKind) :
  ofName? k.name = some k
  := by
  cases k <;> simp [name, ofName?]

end HostKind

/-- The settings of the launcher. -/
structure Settings where
  file : String
  projectName : Option String
  /-- The active profiles with commas between them. -/
  profiles : String
  host : HostKind
  pollInterval : Float
  stopTimeout : Float
  restartDelay : Float
  restartMaxDelay : Float
  restartResetAfter : Float
  logLevel : String
  jsonLogs : Bool

namespace Settings

open Value

/-- What the name of a variable for a setting begins with. -/
def variablePrefix : String := "STACKUP_"

/-- The names under which the active profiles are given; the first one counts most. -/
def profileNames : List String := ["STACKUP_PROFILES", "COMPOSE_PROFILES"]

/-- A character in lower case. -/
def lowerChar (c : Char) : Char :=
  if c = '\u212A' then 'k' else Decimal.lowerLatin c

/-- A name in lower case. -/
def lower (name : String) : String :=
  String.ofList (name.toList.map lowerChar)

/-- The variables of an environment by their names in lower case; of several the last counts. -/
def variablesIn (environ : Table String) : Table String :=
  Table.ofList (environ.entries.map fun e => (lower e.1, e.2))

/-- The value that a caller gives to a setting, or else the environment. -/
def setting (given : List (Value × Value)) (environ : Table String) (key : String) :
    Option Value :=
  let shared := key = "profiles"
  let fields := if shared then profileNames else [key]
  let names := if shared then profileNames else [variablePrefix ++ key]
  (fields.findSome? fun name => field? name given).or
    ((names.findSome? fun name => (variablesIn environ).get? (lower name)).map .str)

/-- A kind of host as a field. -/
def checkHost : Value → Checked HostKind
  | .str s => (HostKind.ofName? s).elim (.fault "literal_error") pure
  | _ => .fault "literal_error"

/-- The settings that a caller and an environment give. -/
def read (given : List (Value × Value)) (environ : Table String) : Checked Settings :=
  let field {α : Type} (key : String) (default : α) (check : Value → Checked α) : Checked α :=
    let place := if key = "profiles" then profileNames.headD key else key
    ((setting given environ key).elim (pure default) check).under place
  let seconds (n : Nat) := Decimal.ofDecimal false n 0
  Settings.mk <$> field "file" "docker-compose.yml" checkText
    <*> field "project_name" none (checkOptional checkText)
    <*> field "profiles" "" checkText
    <*> field "runtime" .docker checkHost
    <*> field "poll_interval" (seconds 1) checkFloat
    <*> field "stop_timeout" (seconds 10) checkFloat
    <*> field "restart_delay" (seconds 1) checkFloat
    <*> field "restart_max_delay" (seconds 30) checkFloat
    <*> field "restart_reset_after" (seconds 10) checkFloat
    <*> field "log_level" "INFO" checkText
    <*> field "json_logs" false checkBool

/-- The active profiles. -/
def profileList (s : Settings) : List String :=
  ((Text.split ',' s.profiles).map Text.strip).filter (· ≠ "")

/-- The times that govern restarts. -/
def backoff (s : Settings) : Backoff Float :=
  ⟨s.restartDelay, s.restartMaxDelay, s.restartResetAfter⟩

end Settings

end Muster
