import Muster.Text.Literal
import Muster.Text.Similar
import Muster.Value.Text
/-!
# Command lines

A command line consists of options and operands.  The grammar of a command says which options
there are, which of them have a value, and whether operands may follow.
-/

namespace Muster.CommandLine

/-- An option of a command. -/
structure Opt where
  /-- The long name without its dashes. -/
  long : String
  short : Option Char := none
  /-- What its value is called; an option without a value is a switch. -/
  value : Option String := none
  /-- The values that may be given, if not all may. -/
  choices : List String := []
  help : String

namespace Opt

/-- The long name as it is given. -/
def longName (o : Opt) : String :=
  "--" ++ o.long

/-- Whether an option has a value. -/
def hasValue (o : Opt) : Bool :=
  o.value.isSome

end Opt

/-- The grammar of a command: its name, what it does, its options, and what its operands are called
if it has any. -/
structure Grammar where
  name : String
  help : List String
  options : List Opt
  operands : Option String := none

/-- The switch that asks for help, which every command has. -/
def helpSwitch : Opt where
  long := "help"
  help := "Show this message and exit."

/-- All options of a command. -/
def Grammar.allOptions (c : Grammar) : List Opt :=
  c.options ++ [helpSwitch]

/-- Why a command line is refused. -/
inductive UsageFault where
  | noSuchOption (name : String) (similar : List String)
  | noSuchCommand (name : String) (similar : List String)
  | noCommand
  | needsValue (option : String)
  | takesNoValue (option : String)
  | badValue (option value : String) (choices : List String)
  | tooManyOperands (operands : List String)
deriving Repr, DecidableEq

namespace UsageFault

/-- A question that follows a name for which there are similar ones. -/
def question : List String → String
  | [] => ""
  | [name] => " Did you mean " ++ Text.literal name ++ "?"
  | names => " (Did you mean one of: " ++ Value.commas (names.map Text.literal) ++ "?)"

/-- The wording of a fault. -/
def message : UsageFault → String
  | noSuchOption name similar => "No such option " ++ Text.literal name ++ "." ++ question similar
  | noSuchCommand name similar => "No such command " ++ Text.literal name ++ "." ++ question similar
  | noCommand => "Missing command."
  | needsValue option => "Option " ++ Text.literal option ++ " requires an argument."
  | takesNoValue option => "Option " ++ Text.literal option ++ " does not take a value."
  | badValue option value choices =>
    "Invalid value for " ++ Text.literal option ++ ": " ++ Text.literal value
      ++ " is not one of " ++ Value.commas (choices.map Text.literal) ++ "."
  | tooManyOperands operands =>
    "Got unexpected extra argument" ++ (if operands.length = 1 then "" else "s") ++ " ("
      ++ " ".intercalate operands ++ ")"

/-- Whether the usage of the command is shown with a fault. -/
def showsUsage : UsageFault → Bool
  | needsValue _ | takesNoValue _ => false
  | _ => true

end UsageFault

/-- What a command line says: the options given, each with its value, in their order, and the
operands. -/
structure Given where
  options : List (String × String) := []
  operands : List String := []
deriving Repr, DecidableEq

namespace Given

/-- A command line with an option in front. -/
def withOption (name value : String) (g : Given) : Given :=
  { g with options := (name, value) :: g.options }

/-- A command line with an operand in front. -/
def withOperand (operand : String) (g : Given) : Given :=
  { g with operands := operand :: g.operands }

/-- Whether an option is given. -/
def has (g : Given) (name : String) : Bool :=
  g.options.any (·.1 == name)

/-- The values of an option. -/
def values (g : Given) (name : String) : List String :=
  (g.options.filter (·.1 == name)).map (·.2)

/-- The value of an option; of several the last counts. -/
def value? (g : Given) (name : String) : Option String :=
  (g.values name).getLast?

end Given

namespace Grammar

/-- The option with a long name. -/
def long? (c : Grammar) (name : String) : Option Opt :=
  c.allOptions.find? (·.longName == name)

/-- The option with a short name. -/
def short? (c : Grammar) (name : Char) : Option Opt :=
  c.allOptions.find? (·.short == some name)

/-- A word of a command line that is about options. -/
inductive OptionWord where
  /-- Switches, and perhaps an option with its value. -/
  | complete (options : List (String × String))
  /-- Switches, and an option whose value is the next word, under the name it was given by. -/
  | open (switches : List (String × String)) (option : Opt) (name : String)

/-- Reads the short options of a word. -/
def readShort (c : Grammar) (seen : List (String × String)) :
    List Char → Except UsageFault OptionWord
  | [] => .ok (.complete seen)
  | ch :: r =>
    let name := "-" ++ String.singleton ch
    match c.short? ch with
    | none => .error (.noSuchOption name [])
    | some o =>
      if o.hasValue then
        if r.isEmpty then .ok (.open seen o name)
        else .ok (.complete (seen ++ [(o.long, String.ofList r)]))
      else readShort c (seen ++ [(o.long, "")]) r

/-- Reads a word that begins with a dash. -/
def readWord (c : Grammar) (word : String) : Except UsageFault OptionWord :=
  let cs := word.toList
  let name := String.ofList (cs.takeWhile (· != '='))
  let explicit := match cs.dropWhile (· != '=') with
    | _ :: value => some (String.ofList value)
    | [] => none
  match c.long? name, explicit with
  | some o, some value =>
    if o.hasValue then .ok (.complete [(o.long, value)]) else .error (.takesNoValue name)
  | some o, none => .ok (if o.hasValue then .open [] o name else .complete [(o.long, "")])
  | none, _ =>
    if ['-', '-'].isPrefixOf cs then
      .error (.noSuchOption name (Text.closest name (c.allOptions.map (·.longName))))
    else c.readShort [] (cs.drop 1)

/-- Whether a word is about options. -/
def isOptionWord (word : String) : Bool :=
  word.toList.head? == some '-' && 1 < word.length

/-- Reads a command line.  `mixed` says whether options may follow operands. -/
def read (c : Grammar) (mixed : Bool) : List String → Except UsageFault Given
  | [] => .ok {}
  | word :: r =>
    if word = "--" then .ok { operands := r }
    else if isOptionWord word then
      match c.readWord word with
      | .error fault => .error fault
      | .ok (.complete options) =>
        (read c mixed r).map fun g => options.foldr (fun o g => g.withOption o.1 o.2) g
      | .ok (.open switches o name) =>
        match r with
        | [] => .error (.needsValue name)
        | value :: r =>
          (read c mixed r).map fun g =>
            (switches ++ [(o.long, value)]).foldr (fun o g => g.withOption o.1 o.2) g
    else if mixed then (read c mixed r).map (·.withOperand word)
    else .ok { operands := word :: r }

/-- The first option whose value is not one that may be given. -/
def valueFault? (c : Grammar) (g : Given) : Option UsageFault :=
  c.options.findSome? fun o =>
    match g.value? o.long with
    | some value =>
      if o.choices.isEmpty || o.choices.contains value then none
      else some (.badValue o.longName value o.choices)
    | none => none

/-- Checks what a command line says, unless it asks for help. -/
def check (c : Grammar) (g : Given) : Except UsageFault Given :=
  match c.valueFault? g with
  | some fault => .error fault
  | none =>
    if c.operands.isNone && !g.operands.isEmpty then .error (.tooManyOperands g.operands) else .ok g

end Grammar

end Muster.CommandLine
