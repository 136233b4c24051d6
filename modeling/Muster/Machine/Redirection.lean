import Muster.Machine.Turn
/-!
# Redirections

Where the descriptors of a process lead while a command is carried out.
-/

namespace Muster

open Shell

/-- Where a descriptor is to lead. -/
inductive Plug where
  | read (path : String)
  | write (path : String)
  | append (path : String)
  | duplicate (descriptor : String)
  | here (text : String)

/-- Expands a redirection. -/
def Plug.ofRedirect (r : Redirect) : Expand (Nat × Plug) := do
  match r.target with
  | .read path => return (r.descriptor, .read (← Expand.text path))
  | .write path => return (r.descriptor, .write (← Expand.text path))
  | .append path => return (r.descriptor, .append (← Expand.text path))
  | .duplicate descriptor => return (r.descriptor, .duplicate (← Expand.text descriptor))
  | .here text => return (r.descriptor, .here (← Expand.text text))

namespace Act

/-- Finds what a descriptor is to lead to; nothing if it is to be closed. -/
def opened (plug : Plug) : Act (Except String (Option Nat)) := do
  let told (verb missing path : String) (r : Except FileFault Nat) : Except String (Option Nat) :=
    match r with
    | .ok id => .ok (some id)
    | .error .isDirectory => .error ("cannot " ++ verb ++ " " ++ path ++ ": Is a directory")
    | .error _ => .error ("cannot " ++ verb ++ " " ++ path ++ ": " ++ missing)
  match plug with
  | .read path => return told "open" "No such file" path (← openToRead path)
  | .write path => return told "create" "Directory nonexistent" path (← openToWrite path false)
  | .append path => return told "create" "Directory nonexistent" path (← openToWrite path true)
  | .duplicate "-" => return .ok none
  | .duplicate text =>
    match text.toNat? with
    | none => return .error "Bad fd number"
    | some n =>
      match ← opening? n with
      | some (id, _) => return .ok (some id)
      | none => return .error (text ++ ": Bad file descriptor")
  | .here text =>
    let pipe ← withMachine (·.openPipe)
    modifyMachine fun m => { m with pipes := Machine.put pipe text m.pipes }
    return .ok (some (← withMachine (·.openChannel (.source pipe))))

/-- Redirects descriptors: where they led before, and what has gone wrong. -/
def connect : List (Nat × Plug) → List (Nat × Option Nat) →
    Act (List (Nat × Option Nat) × Option String)
  | [], saved => return (saved, none)
  | (descriptor, target) :: r, saved => do
    match ← opened target with
    | .error message => return (saved, some message)
    | .ok id =>
      let before := (← get).self.descriptors.lookup descriptor
      plug descriptor id
      connect r ((descriptor, before) :: saved)

end Act

end Muster
