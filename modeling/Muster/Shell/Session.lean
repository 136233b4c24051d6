import Muster.Shell.Script
import Muster.Table
/-!
# Sessions

What a shell knows while it carries out a script: its variables and parameters, its functions,
what it does when it is told something by a signal, and the directory it stands in.
-/

namespace Muster.Shell

/-- What a shell knows while it carries out a script. -/
structure Session where
  /-- The name by which the shell was called. -/
  name : String := "sh"
  parameters : List String := []
  vars : Table String := ∅
  exported : List String := []
  /-- The status of the last command. -/
  status : Int := 0
  /-- The number of the process that the script was given to. -/
  number : Nat := 0
  /-- The number of the last process in the background. -/
  lastBackground : Option Nat := none
  functions : Table Script := ∅
  /-- What is done on a signal or at the end; an empty text ignores the signal. -/
  traps : Table String := ∅
  /-- The absolute path of the directory that it stands in. -/
  directory : String := "/"
  /-- The switches that are set. -/
  switches : List Char := []
  line : Nat := 1

namespace Session

/-- The environment of the programs that a shell starts. -/
def environment (s : Session) : Table String :=
  s.vars.filter fun name _ => s.exported.contains name

/-- A session in which a variable has a value. -/
def assign (s : Session) (name value : String) : Session :=
  let exported := if s.switches.contains 'a' && !s.exported.contains name then name :: s.exported
    else s.exported
  { s with vars := s.vars.insert name value, exported }

/-- A session in which a variable is part of the environment. -/
def publish (s : Session) (name : String) : Session :=
  if s.exported.contains name then s else { s with exported := name :: s.exported }

/-- A session in which there is no variable of a name. -/
def unset (s : Session) (name : String) : Session :=
  { s with vars := s.vars.erase name, exported := s.exported.filter (· ≠ name) }

/-- A complaint as it is shown, with the name of the shell and the line. -/
def complaint (s : Session) (message : String) : String :=
  s.name ++ ": " ++ toString s.line ++ ": " ++ message ++ "\n"

/-- The value of a parameter, if it has one.  Of several values the list is given. -/
def valueOf? (s : Session) (name : String) : Option String :=
  match name with
  | "#" => some (toString s.parameters.length)
  | "?" => some (toString s.status)
  | "$" => some (toString s.number)
  | "!" => s.lastBackground.map toString
  | "-" => some (String.ofList s.switches)
  | "0" => some s.name
  | "@" | "*" => if s.parameters.isEmpty then none else some (" ".intercalate s.parameters)
  | _ =>
    match name.toNat? with
    | some n => s.parameters[n - 1]?
    | none => s.vars.get? name

end Session

end Muster.Shell
