import Muster.Descriptor
import Muster.Duration
import Muster.Shell.Words
import Muster.Text.Split
import Muster.Value.Convert
/-!
# The fields of a service

Each field of a service in a document has one reader here.  Many fields have a short and a
long form; both give the same service.
-/

namespace Muster.Descriptor

open Value

/-- A command: the words of a line, or a list of words. -/
def readCommand : Value → Except Fault (List String)
  | .null => .ok []
  | .str line => Shell.words line
  | v => v.members.map fun items => items.map text

/-- The policy that a word of a descriptor stands for. -/
def policyOfWord? (word : String) : Option RestartPolicy :=
  if word = "no" then some .never
  else if word = "unless-stopped" then some .always
  else RestartPolicy.ofName? word

/-- The word that sets a limit on restarts, in front of a colon and the limit. -/
def limitedWord : String := "on-failure"

/-- A restart policy and the limit on restarts, zero for none. -/
def readRestart (service : String) (v : Value) : Except Fault (RestartPolicy × Int) :=
  let unknown : Except Fault (RestartPolicy × Int) :=
    .error (.descriptor (.unknownRestart service v))
  match v with
  | .null | .bool false => .ok (.never, 0)
  | _ =>
    let word := Text.strip v.text
    match Text.cutAt ':' word with
    | some (head, count) =>
      if head = limitedWord then
        match Decimal.intOfText? count with
        | some n => .ok (.onFailure, n)
        | none => .error (.descriptor (.badRestartCount service v))
      else unknown
    | none => (policyOfWord? word).elim unknown fun policy => .ok (policy, 0)

/-- The text that a scalar sets a variable to. -/
def variableText : Value → String
  | .null => ""
  | .bool b => if b then "true" else "false"
  | v => v.text

/-- A variable of the list form: a name, an equals sign and a value, which may be missing. -/
def readVariable (v : Value) : String × String :=
  (Text.cutAt '=' v.text).getD (v.text, "")

/-- Variables: a list of assignments, or a mapping. -/
def readEnvironment : Value → Except Fault (Table String)
  | .null => .ok ∅
  | .list items => .ok (Table.ofList (items.map readVariable))
  | .map entries => .ok (Table.ofList (entries.map fun e => (e.1.text, variableText e.2)))
  | v => .error (.descriptor (.badEnvironment v))

/-- A port from the parts of its long form.  What is wrong with a part is wrong with the port,
except for parts of a type that stands for no number at all. -/
def readLongPort (service : String) (entries : List (Value × Value)) : Except Fault Port :=
  let bad : Fault := .descriptor (.badPort service (.map entries))
  let number (v : Value) : Except Fault Int :=
    match v.toInt with
    | .error .badValue => .error bad
    | result => result
  match field? "target" entries with
  | none => .error bad
  | some target => do
    let container ← number target
    let host ← match field "published" entries with
      | .null => .ok none
      | v => (number v).map some
    let protocol := (field? "protocol" entries).getD (.str Port.defaultProtocol)
    match (field "host_ip" entries).toOptionalText, protocol.toText with
    | .ok hostIp, .ok protocol => .ok ⟨container, host, hostIp, protocol⟩
    | _, _ => .error bad

/-- A port from the text before the protocol of its short form. -/
def portOfText? (protocol text : String) : Option Port :=
  match Text.split ':' text with
  | [container] => do
    let container ← Decimal.intOfText? container
    return ⟨container, none, none, protocol⟩
  | [host, container] => do
    let container ← Decimal.intOfText? container
    let host ← Decimal.intOfText? host
    return ⟨container, some host, none, protocol⟩
  | [address, host, container] => do
    let host ← if host = "" then some none else (Decimal.intOfText? host).map some
    let container ← Decimal.intOfText? container
    return ⟨container, host, some address, protocol⟩
  | _ => none

/-- A port from its short form. -/
def readShortPort? (text : String) : Option Port :=
  match Text.cutAtLast '/' text with
  | some (text, protocol) => portOfText? protocol text
  | none => portOfText? Port.defaultProtocol text

/-- A published port. -/
def readPort (service : String) (v : Value) : Except Fault Port :=
  match v with
  | .map entries => readLongPort service entries
  | _ => (readShortPort? v.text).elim (.error (.descriptor (.badPort service v))) .ok

/-- The published ports; nothing stands for none. -/
def readPorts (service : String) (v : Value) : Except Fault (List Port) :=
  if v.isGiven then do
    let items ← v.members
    items.mapM (readPort service)
  else .ok []

/-- Whether a word says how a test is run. -/
def isTestKind (word : String) : Bool :=
  word = "CMD" || word = "CMD-SHELL" || word = "NONE"

/-- The words of a health check's test.  A line is run by a shell; a list that does not say how
it is run is run as it stands. -/
def readTest (service : String) : Value → Except Fault (List String)
  | .null => .ok []
  | .str line => .ok ["CMD-SHELL", line]
  | .list items =>
    match items.map text with
    | [] => .ok []
    | kind :: r => .ok (if isTestKind kind then kind :: r else "CMD" :: kind :: r)
  | v => .error (.descriptor (.badTest service v))

/-- The number of runs of a health check. -/
def readRetries (service : String) (v : Value) : Except Fault Int :=
  match v.toInt with
  | .error .overflow => .error .overflow
  | .error _ => .error (.descriptor (.badRetries service))
  | .ok n => .ok n

/-- The number of runs of a health check that does not say it. -/
def defaultRetries : Int := 3

/-- The time between two runs of a health check that does not say it, and the time a run has. -/
def defaultInterval : Float := Decimal.ofDecimal false 30 0

/-- No time at all. -/
def noTime : Float := Decimal.ofDecimal false 0 0

/-- A health check. -/
def readHealthCheck (service : String) : Value → Except Fault (Option HealthCheck)
  | .null => .ok none
  | .map entries => do
    let test ← readTest service (field "test" entries)
    let retries ← readRetries service ((field? "retries" entries).getD (.int defaultRetries))
    let interval ← Duration.ofValue defaultInterval (field "interval" entries)
    let timeout ← Duration.ofValue defaultInterval (field "timeout" entries)
    let startPeriod ← Duration.ofValue noTime (field "start_period" entries)
    return some ⟨test, interval, timeout, retries, startPeriod, (field "disable" entries).toFlag⟩
  | _ => .error (.descriptor (.badHealthCheck service))

/-- The condition that an entry of the long form of dependencies sets. -/
def readCondition (service : String) (options : Value) : Except Fault Condition :=
  let bad (v : Value) : Except Fault Condition :=
    .error (.descriptor (.badCondition service v))
  match options with
  | .map entries =>
    match field? "condition" entries with
    | none => .ok .healthy
    | some (.str word) => (Condition.ofName? word).elim (bad (.str word)) .ok
    | some v => bad v
  | v => if v.isGiven then .error .noAttribute else .ok .healthy

/-- The dependencies of a service: a list of names, or a mapping from names to options. -/
def readDependencies (service : String) : Value → Except Fault (Table Condition)
  | .null => .ok ∅
  | .list items => .ok (Table.ofList (items.map fun v => (v.text, .healthy)))
  | .map entries => do
    let conditions ← entries.mapM fun e => do
      let condition ← readCondition service e.2
      return (e.1.text, condition)
    return Table.ofList conditions
  | v => .error (.descriptor (.badDependencies service v))

/-- The faults of the texts of a list field, each with its place in the list. -/
def textFaults (name : String) (items : List Value) : List FieldFault :=
  items.zipIdx.filterMap fun (v, i) =>
    match v.toText with
    | .error e => some ⟨[name, toString i], e.kind⟩
    | .ok _ => none

/-- The faults of an optional text field. -/
def optionalTextFaults (name : String) (v : Value) : List FieldFault :=
  match v.toOptionalText with
  | .error e => [⟨[name], e.kind⟩]
  | .ok _ => []

/-- Whether a field holds anything. -/
def imageText (v : Value) : String :=
  if v.isGiven then v.text else ""

end Muster.Descriptor
