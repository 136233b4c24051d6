import Muster.Value
/-!
# Log entries

What the launcher reports while it works: a level, the name of an event and some fields.
-/

namespace Muster

/-- How much an entry matters. -/
inductive Level where
  | debug
  | info
  | warning
  | error
  | critical
deriving Repr, DecidableEq, Inhabited

namespace Level

/-- The written form of a level. -/
def name : Level → String
  | debug => "debug"
  | info => "info"
  | warning => "warning"
  | error => "error"
  | critical => "critical"

/-- The weight of a level. -/
def weight : Level → Int
  | debug => 10
  | info => 20
  | warning => 30
  | error => 40
  | critical => 50

end Level

/-- An entry of the log. -/
structure LogEntry where
  level : Level
  event : String
  fields : List (String × Value) := []
deriving Repr

namespace LogEntry

/-- An entry about a service. -/
def about (level : Level) (event service : String) (fields : List (String × Value)) : LogEntry :=
  ⟨level, event, ("service", .str service) :: fields⟩

/-- A number, or nothing, as a field. -/
def optionalInt (code : Option Int) : Value :=
  (code.map .int).getD .null

end LogEntry

end Muster
