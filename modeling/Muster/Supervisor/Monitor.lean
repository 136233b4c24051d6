import Muster.Fault
/-!
# The monitor

The monitor looks after the services that a supervisor watches.  It goes in rounds: it waits, takes
down what is watched, checks these services one after the other, and waits again, until supervising
has ended.  A check that fails ends the monitor, too.

What a monitor works on is of any type; a `Beat` says what it has to know about it.
-/

namespace Muster

/-- What a monitor works on: whether supervising has ended, which services are watched, and how one
of them is checked. -/
structure Beat (α : Type) where
  stopped : α → Bool
  watched : α → List String
  check : α → String → Option Fault × α

/-- Where a monitor stands. -/
inductive Monitor where
  | waiting
  /-- Some services are left to be checked in this round. -/
  | checking (left : List String)
  | ended (fault : Option Fault)

namespace Monitor

variable {α : Type}

/-- Takes the next step. -/
def step (b : Beat α) : Monitor → α → Monitor × α
  | waiting, a => (if b.stopped a then .ended none else .checking (b.watched a), a)
  | checking [], a => (.waiting, a)
  | checking (name :: left), a =>
    match b.check a name with
    | (none, a) => (.checking left, a)
    | (some fault, a) => (.ended (some fault), a)
  | ended fault, a => (.ended fault, a)

/-- Takes some steps, one after the other. -/
def steps (b : Beat α) : (n : Nat) → Monitor → α → Monitor × α
  | 0, m, a => (m, a)
  | n + 1, m, a =>
    let (m, a) := step b m a
    steps b n m a

/-- Goes on from one wait to the next. -/
def round (b : Beat α) (a : α) : Monitor × α :=
  steps b ((b.watched a).length + 2) .waiting a

end Monitor

end Muster
