import Muster.CommandLine.Grammar
import Muster.Text.Split
import Muster.Text.Wrap
/-!
# Help pages

The usage line of a command, and its help page: what it does, its options in two columns, and the
commands below it with the beginnings of their own help.
-/

namespace Muster.CommandLine

/-- A text whose lines are indented. -/
def indented (n : Nat) (lines : List String) : String :=
  String.join (lines.map fun l => String.ofList (List.replicate n ' ') ++ l ++ "\n")

/-- The step by which a section is indented. -/
def indentStep : Nat := 2

/-- The greatest width of a left column. -/
def leftLimit : Nat := 30

/-- The usage of a command that is called by some words. -/
def usage (path : String) (c : Grammar) : String :=
  "Usage: " ++ path ++ " [OPTIONS]" ++ (c.operands.elim "" (" " ++ ·)) ++ "\n"

/-- The left column of an option. -/
def optionColumn (o : Opt) : String :=
  let short := o.short.elim "" fun ch => "-" ++ String.singleton ch ++ ", "
  short ++ o.longName ++ o.value.elim "" (" " ++ ·)

/-- A section of two columns under a heading, filled up to a width. -/
def section2 (width : Nat) (heading : String) (rows : List (String × String)) : String :=
  let widest := (rows.map (·.1.length)).foldl max 0
  let left := min widest leftLimit + indentStep
  let row (r : String × String) : String :=
    let lines := Text.fillLines (max (width - left - indentStep) 10) r.2
    let blank := String.ofList (List.replicate (left + indentStep) ' ')
    if lines.isEmpty then "  " ++ r.1 ++ "\n"
    else if r.1.length + indentStep ≤ left then
      "  " ++ Text.padEnd left r.1 ++ lines.headD "" ++ "\n"
        ++ String.join ((lines.drop 1).map fun l => blank ++ l ++ "\n")
    else "  " ++ r.1 ++ "\n" ++ String.join (lines.map fun l => blank ++ l ++ "\n")
  "\n" ++ heading ++ ":\n" ++ String.join (rows.map row)

/-- The words of a text that fit into a width with three dots after them. -/
def shortened (width : Nat) (words : List String) : String :=
  let fits (n : Nat) : Bool := (" ".intercalate (words.take n)).length + 3 ≤ width
  let n := ((List.range words.length).filter fits).foldl max 0
  " ".intercalate (words.take n) ++ "..."

/-- The first sentence of a help text, cut off if it is wider than a line. -/
def summary (width : Nat) (help : String) : String :=
  let words := (Text.split ' ' help).filter (· ≠ "")
  let sentence := words.take ((words.takeWhile fun w => !w.endsWith ".").length + 1)
  let text := " ".intercalate sentence
  if text.length ≤ width then text else shortened width words

/-- The help page of a command that is called by some words, with the commands below it. -/
def helpPage (width : Nat) (path : String) (c : Grammar) (commands : List Grammar) : String :=
  let paragraphs := c.help.map fun text =>
    indented indentStep (Text.fillLines (width - indentStep) text)
  let options := c.allOptions.map fun o => (optionColumn o, o.help)
  let names := commands.map (·.name)
  let limit := width - 6 - (names.map String.length).foldl max 0
  let rows := (commands.mergeSort fun a b => a.name ≤ b.name).map fun d =>
    (d.name, summary limit (d.help.headD ""))
  usage path c ++ "\n" ++ "\n".intercalate paragraphs ++ section2 width "Options" options
    ++ (if rows.isEmpty then "" else section2 width "Commands" rows)

/-- What is shown when a command line is refused: the usage of the command, a hint at its help, and
what is wrong. -/
def refusal (path : String) (c : Grammar) (fault : UsageFault) : String :=
  let lead := if fault.showsUsage then
      usage path c ++ "Try '" ++ path ++ " --help' for help.\n\n"
    else ""
  lead ++ "Error: " ++ fault.message ++ "\n"

end Muster.CommandLine
