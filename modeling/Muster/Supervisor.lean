import Muster.Service.Restart
import Muster.Table
import Muster.Value
/-!
# The restart supervisor

The supervisor remembers which services it watches and since when, how long the next restart
of each has to wait, and which restarts are due at what time.  It is shared by several
threads, so every operation on it is one section under its lock; the functions here are these
sections.

Times are of any type with a `Timeline`.
-/

namespace Muster

/-- Times and lengths of time that can be added, subtracted and compared. -/
class Timeline (τ : Type) where
  add : τ → τ → τ
  sub : τ → τ → τ
  /-- Whether a time comes before another. -/
  before : τ → τ → Bool
  /-- Whether a length of time is at least as long as another. -/
  atLeast : τ → τ → Bool
  /-- How a length of time is written to the log. -/
  toValue : τ → Value

instance : Timeline Float where
  add a b := a + b
  sub a b := a - b
  before a b := a < b
  atLeast a b := b ≤ a
  toValue := .float

/-- The times that govern restarts. -/
structure Backoff (τ : Type) where
  /-- The wait before the first restart. -/
  first : τ
  /-- The longest wait. -/
  longest : τ
  /-- How long a run has to last for the wait to fall back to the first. -/
  resetAfter : τ

namespace Backoff

variable {τ : Type} [Timeline τ]

/-- The wait after a restart: twice the last one, up to the longest. -/
def next (b : Backoff τ) (delay : τ) : τ :=
  let twice := Timeline.add delay delay
  if Timeline.before b.longest twice then b.longest else twice

end Backoff

/-- What the supervisor remembers. -/
structure Supervisor (τ : Type) where
  /-- Whether supervising has ended. -/
  stopped : Bool := false
  /-- The watched services, each with the start of its current run. -/
  watched : Table τ := ∅
  /-- The wait before the next restart of each service. -/
  delays : Table τ := ∅
  /-- The restarts that have been scheduled, each with its time. -/
  pending : Table τ := ∅

namespace Supervisor

variable {τ : Type}

/-- Whether a service is watched. -/
def isWatching (s : Supervisor τ) (name : String) : Bool :=
  s.watched.contains name

/-- Asks for the end of supervising. -/
def requestStop (s : Supervisor τ) : Supervisor τ :=
  { s with stopped := true }

/-- Takes up supervising again; what is watched stays watched. -/
def reopen (s : Supervisor τ) : Supervisor τ :=
  { s with stopped := false }

/-- Forgets all watched services and scheduled restarts. -/
def clear (s : Supervisor τ) : Supervisor τ :=
  { s with watched := ∅, pending := ∅ }

/-- Ends supervising. -/
def stop (s : Supervisor τ) : Supervisor τ :=
  s.requestStop.clear

/-- Watches a service whose run starts now. -/
def watch (s : Supervisor τ) (b : Backoff τ) (now : τ) (name : String) : Supervisor τ :=
  { s with
    watched := s.watched.insert name now
    delays := if s.delays.contains name then s.delays else s.delays.insert name b.first }

/-- Watches a service no longer. -/
def unwatch (s : Supervisor τ) (name : String) : Supervisor τ :=
  { s with watched := s.watched.erase name, pending := s.pending.erase name }

/-- The wait before the next restart of a service. -/
def delayOf (s : Supervisor τ) (b : Backoff τ) (name : String) : τ :=
  (s.delays.get? name).getD b.first

/-- Watching a service changes no wait. -/
theorem delayOf_watch (s : Supervisor τ) (b : Backoff τ) (now : τ) (name other : String) :
  (s.watch b now name).delayOf b other = s.delayOf b other
  := by
  simp only [delayOf, watch]
  split
  · rfl
  · next new =>
    rw [Table.get?_insert]
    split
    · next same =>
      have none : s.delays.get? other = none := by simpa [Table.contains, same] using new
      rw [none]
      rfl
    · rfl

/-- Lets the wait of a service that is running fall back to the first if its run has lasted long
enough. -/
def credit [Timeline τ] (s : Supervisor τ) (b : Backoff τ) (now : τ) (name : String) :
    Supervisor τ :=
  let since := (s.watched.get? name).getD now
  if Timeline.atLeast (Timeline.sub now since) b.resetAfter then
    { s with delays := s.delays.insert name b.first }
  else s

/-- Schedules a restart of a service that is still watched. -/
def schedule (s : Supervisor τ) (name : String) (time : τ) : Supervisor τ :=
  if s.watched.contains name then { s with pending := s.pending.insert name time } else s

/-- Takes a scheduled restart out and lengthens the wait for the next one. -/
def backOff [Timeline τ] (s : Supervisor τ) (b : Backoff τ) (name : String) : Supervisor τ :=
  { s with
    pending := s.pending.erase name
    delays := s.delays.insert name (b.next (s.delayOf b name)) }

/-- Notes the start of a new run of a service that is still watched. -/
def resume (s : Supervisor τ) (now : τ) (name : String) : Supervisor τ :=
  if s.watched.contains name then { s with watched := s.watched.insert name now } else s

end Supervisor

end Muster
