import Muster.Launcher
/-!
# The launcher as a program

The program runs the launcher with the variables of its environment and the files below the
current directory that the command line can need, and prints what the launcher shows.  Services
run on the machine of `Muster.Machine`, so nothing of them outlives the program.
-/

namespace Muster.Launcher

/-- Reads a file as a text; a file that cannot be read counts as missing. -/
def readText (path : String) : IO (Option String) := do
  try
    return String.fromUTF8? (← IO.FS.readBinFile path)
  catch _ => return none

/-- Adds the files that a command line can need, as far as they can be read. -/
def withFiles (s : Surroundings) (words : List String) : IO Surroundings := do
  let found ← (neededFiles s words).filterMapM fun path => do
    return (← readText path).map (path, ·)
  return { s with files := .ofList s.files.current found }

end Muster.Launcher

open Muster in
/-- Runs the launcher with the words of the command line. -/
def main (words : List String) : IO UInt32 := do
  let environ := Environment.ofBlock ((← Launcher.readText "/proc/self/environ").getD "")
  let current := (Path.parts (← IO.currentDir).toString).filter (!·.isEmpty)
  let bare : Surroundings := { environ, files := .ofList current [], engine := {} }
  let s ← Launcher.withFiles (← Launcher.withFiles bare words) words
  let outcome := Launcher.run s words
  (← IO.getStdout).putStr outcome.screen.output
  (← IO.getStderr).putStr outcome.screen.complaints
  return outcome.ending.code.toUInt32
