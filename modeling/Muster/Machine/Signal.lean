/-!
# Signals

What one process may tell another: to end, in one way or another, or nothing much.
-/

namespace Muster

/-- A signal, by its number. -/
structure Signal where
  number : Nat
deriving Repr, DecidableEq, Inhabited

namespace Signal

/-- The signal that a process cannot help being ended by. -/
def kill : Signal := ⟨9⟩

/-- The signal of a write that nobody reads. -/
def pipe : Signal := ⟨13⟩

/-- The signal that asks a process to end. -/
def terminate : Signal := ⟨15⟩

/-- The signals that have names. -/
def names : List (Signal × String) :=
  [(⟨1⟩, "HUP"), (⟨2⟩, "INT"), (⟨3⟩, "QUIT"), (⟨4⟩, "ILL"), (⟨5⟩, "TRAP"), (⟨6⟩, "ABRT"),
    (⟨7⟩, "BUS"), (⟨8⟩, "FPE"), (kill, "KILL"), (⟨10⟩, "USR1"), (⟨11⟩, "SEGV"), (⟨12⟩, "USR2"),
    (pipe, "PIPE"), (⟨14⟩, "ALRM"), (terminate, "TERM"), (⟨16⟩, "STKFLT"), (⟨17⟩, "CHLD"),
    (⟨18⟩, "CONT"), (⟨19⟩, "STOP"), (⟨20⟩, "TSTP"), (⟨21⟩, "TTIN"), (⟨22⟩, "TTOU"), (⟨23⟩, "URG"),
    (⟨24⟩, "XCPU"), (⟨25⟩, "XFSZ"), (⟨26⟩, "VTALRM"), (⟨27⟩, "PROF"), (⟨28⟩, "WINCH"), (⟨29⟩, "IO"),
    (⟨30⟩, "PWR"), (⟨31⟩, "SYS")]

/-- The name of a signal. -/
def name (s : Signal) : String :=
  (names.lookup s).getD (toString s.number)

/-- The signal with a name or a number. -/
def ofText? (text : String) : Option Signal :=
  match text.toNat? with
  | some n => if n ≤ 64 then some ⟨n⟩ else none
  | none => (names.find? fun e => e.2 = text || "SIG" ++ e.2 = text).map (·.1)

/-- Whether a signal ends a process that does nothing about it. -/
def isDeadly (s : Signal) : Bool :=
  s.number != 0
    && !(["CHLD", "CONT", "STOP", "TSTP", "TTIN", "TTOU", "URG", "WINCH"].contains s.name)

/-- What is said about a process that a signal has ended; of some nothing is said. -/
def epitaph? (s : Signal) : Option String :=
  match s.name with
  | "INT" | "PIPE" => none
  | "HUP" => some "Hangup"
  | "QUIT" => some "Quit"
  | "ILL" => some "Illegal instruction"
  | "TRAP" => some "Trace/breakpoint trap"
  | "ABRT" => some "Aborted"
  | "BUS" => some "Bus error"
  | "FPE" => some "Floating point exception"
  | "KILL" => some "Killed"
  | "USR1" => some "User defined signal 1"
  | "SEGV" => some "Segmentation fault"
  | "USR2" => some "User defined signal 2"
  | "ALRM" => some "Alarm clock"
  | "TERM" => some "Terminated"
  | _ => some ("Signal " ++ toString s.number)

end Signal

/-- How a process has ended: with an exit code, or by a signal. -/
inductive ProcessEnd where
  | exited (code : Nat)
  | killed (signal : Signal)
deriving Repr, DecidableEq

namespace ProcessEnd

/-- An end as a single number, which is negative for a signal. -/
def code : ProcessEnd → Int
  | exited n => n
  | killed s => -s.number

/-- An end as the status of a command in a shell. -/
def status : ProcessEnd → Int
  | exited n => n
  | killed s => 128 + s.number

end ProcessEnd

end Muster
