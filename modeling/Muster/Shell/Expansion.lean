import Muster.Shell.Arithmetic
import Muster.Shell.Pattern
import Muster.Shell.Session
/-!
# Expansion

What a word stands for: the values of its parameters, the output of the commands in it, the
results of its expressions.  What is not quoted is split into fields.

A command in a word is carried out outside; the expansion takes its output from a list of
answers, and stops with the script it needs an answer to when there is none left.
-/

namespace Muster.Shell

/-- What a command in a word has come to. -/
structure Answer where
  output : String
  status : Int

/-- What a word is expanded to, before it is split. -/
inductive Atom where
  /-- A character: whether it is quoted, and whether it comes from a value. -/
  | char (c : Char) (quoted fromValue : Bool)
  /-- The end of one of several values. -/
  | fieldEnd
  /-- Quotes, which make a field even if there is nothing in them. -/
  | quotes
  /-- No values at all, which take away the field that quotes around them would make. -/
  | vanish
deriving Repr, DecidableEq

/-- Why an expansion stops. -/
inductive Stop where
  | needs (script : String)
  | complaint (message : String)

/-- An expansion: the session, and the answers that are left. -/
abbrev Expand := StateT (Session × List Answer) (Except Stop)

namespace Expand

/-- The characters between fields. -/
def separators (s : Session) : List Char :=
  ((s.vars.get? "IFS").getD " \t\n").toList

/-- The characters of a value. -/
def valueAtoms (quoted : Bool) (s : String) : List Atom :=
  s.toList.map fun c => .char c quoted true

/-- Several values. -/
def severalAtoms (quoted : Bool) : List String → List Atom
  | [] => if quoted then [.vanish] else []
  | [v] => valueAtoms quoted v
  | v :: r => valueAtoms quoted v ++ .fieldEnd :: severalAtoms quoted r

/-- The characters of what a word is expanded to, with whether they are quoted. -/
def signs (atoms : List Atom) : List Glob.Sign :=
  atoms.filterMap fun
    | .char c q _ => some (c, q)
    | .fieldEnd => some (' ', false)
    | _ => none

/-- What a word is expanded to, as one text. -/
def textOf (atoms : List Atom) : String :=
  String.ofList ((signs atoms).map (·.1))

/-- The values of the parameters, as they are or joined. -/
def allParameters (s : Session) (quoted joined : Bool) : List Atom :=
  if joined && quoted then
    let separator := match separators s with
      | c :: _ => String.singleton c
      | [] => ""
    valueAtoms true (separator.intercalate s.parameters)
  else severalAtoms quoted s.parameters

/-- The value of a parameter as it is. -/
def plainAtoms (quoted : Bool) (name : String) : Expand (List Atom) := do
  let (s, _) ← get
  if name = "@" ∨ name = "*" then return allParameters s quoted (name = "*")
  else
    match s.valueOf? name with
    | some value => return valueAtoms quoted value
    | none =>
      if s.switches.contains 'u' then throw (.complaint (name ++ ": parameter not set"))
      else return []

/-- The parameter whose value is found, unless it counts as none. -/
def present (name : String) (ifEmpty : Bool) : Expand Bool := do
  match (← get).1.valueOf? name with
  | some value => return !(ifEmpty && value.isEmpty)
  | none => return false

/-- The next answer. -/
def answer (script : String) : Expand String := do
  match ← get with
  | (s, a :: r) =>
    set ({ s with status := a.status }, r)
    return a.output
  | (_, []) => throw (.needs script)

mutual

/-- Expands a word. -/
def word : Word → Expand (List Atom)
  | [] => return []
  | p :: r => return (← piece p) ++ (← word r)

/-- Expands a piece of a word. -/
def piece : Piece → Expand (List Atom)
  | .text quoted s =>
    return (if quoted then [.quotes] else []) ++ s.toList.map (.char · quoted false)
  | .command quoted script => return valueAtoms quoted (← answer script)
  | .arithmetic quoted expression => do
    let source := textOf (← word expression)
    let (s, answers) ← get
    match Arithmetic.evaluate s.vars source with
    | .error message => throw (.complaint message)
    | .ok (n, vars) =>
      set ({ s with vars }, answers)
      return valueAtoms quoted (toString n)
  | .parameter quoted name change operand => do
    match change with
    | .keep => plainAtoms quoted name
    | .length =>
      let value := ((← get).1.valueOf? name).getD ""
      return valueAtoms quoted (toString value.length)
    | .orElse ifEmpty =>
      if ← present name ifEmpty then plainAtoms quoted name else word operand
    | .instead ifEmpty => if ← present name ifEmpty then word operand else return []
    | .assign ifEmpty =>
      if ← present name ifEmpty then plainAtoms quoted name
      else
        let value := textOf (← word operand)
        modify fun (s, answers) => (s.assign name value, answers)
        return valueAtoms quoted value
    | .complain ifEmpty =>
      if ← present name ifEmpty then plainAtoms quoted name
      else
        let message := textOf (← word operand)
        let usual := if ifEmpty then "parameter not set or null" else "parameter not set"
        throw (.complaint (name ++ ": " ++ if message.isEmpty then usual else message))
    | .cutFront longest =>
      let value := ((← get).1.valueOf? name).getD ""
      let pattern := Glob.compile (signs (← word operand))
      return valueAtoms quoted (String.ofList (Glob.cutFront pattern longest value.toList))
    | .cutBack longest =>
      let value := ((← get).1.valueOf? name).getD ""
      let pattern := Glob.compile (signs (← word operand))
      return valueAtoms quoted (String.ofList (Glob.cutBack pattern longest value.toList))

end

/-- A field under construction: its characters, last first, and whether it is one even if it is
empty. -/
structure Draft where
  signs : List Glob.Sign := []
  quoted : Bool := false
  vanished : Bool := false

/-- The field of a draft, if it is one. -/
def Draft.field? (d : Draft) : List (List Glob.Sign) :=
  if d.signs.isEmpty && (!d.quoted || d.vanished) then [] else [d.signs.reverse]

/-- Splits what a word is expanded to into fields.  White space between fields counts once; any
other separator ends a field, be it an empty one. -/
def split (separators : List Char) : Draft → List Atom → List (List Glob.Sign)
  | d, [] => d.field?
  | d, .fieldEnd :: r => d.field? ++ split separators {} r
  | d, .quotes :: r => split separators { d with quoted := true } r
  | d, .vanish :: r => split separators { d with vanished := true } r
  | d, .char c quoted fromValue :: r =>
    if fromValue && !quoted && separators.contains c then
      if c = ' ' ∨ c = '\t' ∨ c = '\n' then
        match r with
        | .char e false true :: _ =>
          let pending := separators.contains e && e != ' ' && e != '\t' && e != '\n'
          if pending then split separators d r else d.field? ++ split separators {} r
        | _ => d.field? ++ split separators {} r
      else d.signs.reverse :: split separators {} r
    else split separators { d with signs := (c, quoted) :: d.signs } r

/-- The fields that a word stands for. -/
def fields (w : Word) : Expand (List (List Glob.Sign)) := do
  let atoms ← word w
  return split (separators (← get).1) {} atoms

/-- The text that a word stands for where it is not split. -/
def text (w : Word) : Expand String :=
  return textOf (← word w)

end Expand

end Muster.Shell
