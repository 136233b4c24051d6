import Muster.Descriptor.Fields
/-!
# Numbers that are too long to be written out

A whole number of any length can stand in a document, in hexadecimal notation, but it cannot be
written out when it has too many decimal digits.  `written` lists the values of a document that are
written out while its services are read: those that become texts, and those that a refusal shows.
-/

namespace Muster

namespace Value

mutual

/-- Whether a whole number in a value has too many digits to be written out. -/
def isOverlong : Value → Bool
  | int n => tenTo Decimal.digitLimit ≤ n.natAbs
  | list items => isOverlongAny items
  | set items => isOverlongAny items
  | map entries => isOverlongEntry entries
  | pair a b => isOverlong a || isOverlong b
  | _ => false

/-- Whether a whole number in a member of a list has too many digits. -/
def isOverlongAny : List Value → Bool
  | [] => false
  | v :: r => isOverlong v || isOverlongAny r

/-- Whether a whole number in a key or a value of a mapping has too many digits. -/
def isOverlongEntry : List (Value × Value) → Bool
  | [] => false
  | (k, v) :: r => isOverlong k || isOverlong v || isOverlongEntry r

end

end Value

namespace Descriptor

open Value

/-- A value that is written out if it is a duration: numbers are taken as they are. -/
def isWrittenDuration : Value → Bool
  | .int _ => false
  | _ => true

/-- Whether a port is written out: all but the long forms are, and those are shown when they are
refused. -/
def isWrittenPort (service : String) (port : Value) : Bool :=
  match port, readPort service port with
  | .map _, .error (.descriptor _) => true
  | .map _, _ => false
  | _, _ => true

/-- What is written out of the ports of a service. -/
def writtenPorts (service : String) (ports : Value) : List Value :=
  if ports.isGiven then (ports.members.toOption.getD []).filter (isWrittenPort service) else []

/-- What is written out of a health check. -/
def writtenCheck : Value → List Value
  | .map entries =>
    let times := ["interval", "timeout", "start_period"].map fun key => field key entries
    field "test" entries :: times.filter isWrittenDuration
  | _ => []

/-- What is written out of the dependencies of a service. -/
def writtenDependencies : Value → List Value
  | .map entries => entries.flatMap fun e =>
    match e.2 with
    | .map options => [e.1, field "condition" options]
    | _ => [e.1]
  | v => [v]

/-- What is written out of the fields of a service. -/
def writtenFields (service : String) (entries : List (Value × Value)) : List Value :=
  let get (key : String) := field key entries
  ["image", "restart", "environment", "labels"].map get
    ++ (get "command").members.toOption.getD []
    ++ (get "entrypoint").members.toOption.getD []
    ++ (get "profiles").toList.toOption.getD []
    ++ writtenPorts service (get "ports")
    ++ writtenCheck (get "healthcheck")
    ++ writtenDependencies (get "depends_on")

/-- What is written out of the entry of a service. -/
def writtenEntry (e : Value × Value) : List Value :=
  match e.2 with
  | .map entries => e.1 :: writtenFields e.1.text entries
  | _ => [e.1]

/-- What is written out of a document. -/
def written : Value → List Value
  | .map entries =>
    match field "services" entries with
    | .map services => services.flatMap writtenEntry
    | _ => []
  | _ => []

end Descriptor

end Muster
