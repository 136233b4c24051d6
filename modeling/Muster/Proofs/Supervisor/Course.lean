import Muster.Proofs.Launch.Others
import Muster.Proofs.Launch.Progress
import Muster.Proofs.Supervisor.Check
/-!
# The runs of a service

A service runs again and again: it comes up, and it ends with an exit code.  Its `Course` says which
run is the current or the last one and how it stands.  An orderly host tells the truth about the
courses, which follow each other in time; a run that has ended stays as it ended until a new one
begins.

Apart from the checks of the supervisor, what happens to a stack only `Alters` it: services are
brought up, end, and come back by themselves, they are watched or are not watched any longer, and
time passes.  None of this schedules a restart, and none changes the wait before one.
-/

namespace Muster

/-- Where the runs of a service stand: the number of the current or the last run, whether it goes
on, and its exit code. -/
structure Course where
  run : Nat
  running : Bool
  code : Option Int

/-- How a course goes on: a run that is over stays as it has ended until a new one begins. -/
structure Course.Evolves (c c' : Course) : Prop where
  le : c.run ≤ c'.run
  stays : c'.run = c.run → c.running = false → c' = c

theorem Course.Evolves.refl (c : Course) :
  c.Evolves c
  := ⟨Nat.le_refl _, fun _ _ => rfl⟩

theorem Course.Evolves.trans {c c' c'' : Course} (first : c.Evolves c') (second : c'.Evolves c'') :
  c.Evolves c''
  where
  le := Nat.le_trans first.le second.le
  stays same down := by
    have middle : c'.run = c.run := Nat.le_antisymm (same ▸ second.le) first.le
    obtain rfl := first.stays middle down
    apply second.stays same down

/-- Times of a lawful timeline are ordered, and adding a length of time keeps their order. -/
class Timeline.Lawful (τ : Type) [Timeline τ] : Prop where
  before_self : ∀ a : τ, before a a = false
  before_trans : ∀ {a b c : τ}, before b a = false → before c b = false → before c a = false
  before_add : ∀ {a b : τ} (length : τ), before b a = false →
    before (add b length) (add a length) = false

/-- Time in whole seconds. -/
instance : Timeline Int where
  add a b := a + b
  sub a b := a - b
  before a b := a < b
  atLeast a b := b ≤ a
  toValue := .int

instance : Timeline.Lawful Int where
  before_self a := by simp [Timeline.before]
  before_trans ab bc := by
    simp only [Timeline.before, decide_eq_false_iff_not] at *
    omega
  before_add length ab := by
    simp only [Timeline.before, Timeline.add, decide_eq_false_iff_not] at *
    omega

variable {τ σ : Type} [Timeline τ]

/-- What may happen at a host while time passes. -/
structure Host.Passes (h : Host τ σ) (course : String → σ → Course) (w w' : σ) : Prop where
  evolves : ∀ name, (course name w).Evolves (course name w')
  clock : Timeline.before (h.clock w') (h.clock w) = false

/-- A host that answers truthfully about the courses of the services, does nothing to them by
answering, and whose time never goes back. -/
structure Host.Orderly (h : Host τ σ) (course : String → σ → Course) : Prop where
  isRunning : ∀ s w yes, (h.isRunning s w).1.result = .ok yes → yes = (course s.name w).running
  exitCode : ∀ s w code, (h.exitCode s w).1.result = .ok code → code = (course s.name w).code
  course_isRunning : ∀ s w name, course name (h.isRunning s w).2 = course name w
  course_exitCode : ∀ s w name, course name (h.exitCode s w).2 = course name w
  passes_isRunning : ∀ s w, h.Passes course w (h.isRunning s w).2
  passes_exitCode : ∀ s w, h.Passes course w (h.exitCode s w).2
  passes_start : ∀ s w, h.Passes course w (h.start s w).2
  passes_check : ∀ s check w, h.Passes course w (h.check s check w).2
  passes_wait : ∀ time w w', h.wait time w = .ok w' → h.Passes course w w'

/-- What happens to a stack apart from the checks of the supervisor. -/
structure Stack.Alters (h : Host τ σ) (course : String → σ → Course) (k k' : Stack τ σ) :
    Prop where
  descriptor : k'.descriptor = k.descriptor
  backoff : k'.backoff = k.backoff
  pending : ∀ name time, k'.supervisor.pending.get? name = some time →
    k.supervisor.pending.get? name = some time
  delays : ∀ name, k'.supervisor.delayOf k.backoff name = k.supervisor.delayOf k.backoff name
  passes : h.Passes course k.world k'.world

namespace Stack

variable {h : Host τ σ} {course : String → σ → Course} {k k' : Stack τ σ}

/-- A stack to which nothing has happened but at the host, in its states and in its log. -/
theorem Alters.of_passes (same : { k' with
      order := k.order, known := k.known, states := k.states, world := k.world, log := k.log } = k)
    (passes : h.Passes course k.world k'.world) :
  k.Alters h course k'
  := by
  obtain ⟨order, known, states, world, log, rfl⟩ : ∃ order known states world log,
      k' = { k with order, known, states, world, log } :=
    ⟨k'.order, k'.known, k'.states, k'.world, k'.log, by rw [← same]⟩
  exact ⟨rfl, rfl, fun _ _ => id, fun _ => rfl, passes⟩

/-- A stack in which the supervisor has changed, but for the restarts and the waits before them. -/
theorem Alters.of_spares (spares : Worker.Spares k k') (passes : h.Passes course k.world k'.world) :
  k.Alters h course k'
  where
  descriptor := spares.descriptor
  backoff := spares.backoff
  pending name time := by
    rw [spares.pending]
    exact id
  delays := spares.delays
  passes := passes

end Stack

section Passes

variable [Timeline.Lawful τ] {h : Host τ σ} {course : String → σ → Course}

theorem Host.Passes.refl (w : σ) :
  h.Passes course w w
  := ⟨fun _ => .refl _, Timeline.Lawful.before_self _⟩

theorem Host.Passes.trans {w w' w'' : σ} (first : h.Passes course w w')
    (second : h.Passes course w' w'') :
  h.Passes course w w''
  where
  evolves name := (first.evolves name).trans (second.evolves name)
  clock := Timeline.Lawful.before_trans first.clock second.clock

namespace Stack

variable {k k' k'' : Stack τ σ}

theorem Alters.refl (k : Stack τ σ) :
  k.Alters h course k
  := .of_passes rfl (.refl _)

theorem Alters.trans (first : k.Alters h course k') (second : k'.Alters h course k'') :
  k.Alters h course k''
  where
  descriptor := second.descriptor.trans first.descriptor
  backoff := second.backoff.trans first.backoff
  pending name time found := first.pending name time (second.pending name time found)
  delays name := by
    rw [← first.delays name, ← first.backoff]
    apply second.delays name
  passes := first.passes.trans second.passes

theorem alters_watch (k : Stack τ σ) (now : τ) (name : String) :
  k.Alters h course { k with supervisor := k.supervisor.watch k.backoff now name }
  := .of_spares (Worker.spares_watch k now name) (.refl _)

theorem alters_unwatch (k : Stack τ σ) (name : String) :
  k.Alters h course { k with supervisor := k.supervisor.unwatch name }
  where
  descriptor := rfl
  backoff := rfl
  pending other time found := by
    have := (Table.get?_erase k.supervisor.pending name other).symm.trans found
    split at this
    · cases this
    · exact this
  delays _ := rfl
  passes := .refl _

theorem alters_stop (k : Stack τ σ) :
  k.Alters h course { k with supervisor := k.supervisor.stop }
  where
  descriptor := rfl
  backoff := rfl
  pending _ _ := nofun
  delays _ := rfl
  passes := .refl _

theorem alters_requestStop (k : Stack τ σ) :
  k.Alters h course k.requestStop
  := ⟨rfl, rfl, fun _ _ => id, fun _ => rfl, .refl _⟩

end Stack

/-! ### Bringing the stack up -/

theorem Worker.passes_of_moves {s : Service} {k : Stack τ σ} {state state' : ServiceState}
    {w w' : Worker} {call : Option Worker.Call} {world : σ} (orderly : h.Orderly course)
    (moves : Worker.Moves h s k state w call w' state' world) :
  h.Passes course k.world world
  := by
  cases moves with
  | start | startFault => apply orderly.passes_start
  | wake _ _ _ passed => apply orderly.passes_wait _ _ _ passed
  | check => apply orderly.passes_check
  | _ => exact .refl _

namespace Launch

variable {l₀ l : Launch τ σ} {trace : List Worker.Turn}

theorem join_alters (l : Launch τ σ) :
  l.stack.Alters h course l.join.stack
  := by
  rw [join]
  split
  · apply Stack.alters_requestStop l.stack
  · exact .refl _

/-- Whatever the workers do in a run, and others do meanwhile, schedules no restart. -/
theorem Run.alters {others : Stack τ σ → Stack τ σ → Prop} (orderly : h.Orderly course)
    (run : l₀.Run h others trace l) (fresh : l₀.Fresh)
    (bound : ∀ k k', others k k' → k.Disturbs k')
    (quiet : ∀ k k', others k k' → k.Alters h course k') :
  l₀.stack.Alters h course l.stack
  := by
  refine run.invariant (P := fun _ l => l₀.stack.Alters h course l.stack) fresh.staffed bound
    (.refl _) ?_ ?_ ?_
  · intro trace l l' s w state call w' state' _ before takes
    apply before.trans (.of_spares takes.leaves.spares (Worker.passes_of_moves orderly takes.moves))
  · intro trace l before
    apply before.trans (join_alters l)
  · intro trace l k _ before change
    apply before.trans (quiet _ _ change)

theorem begin_alters (k : Stack τ σ) (active : Descriptor) (waves : List (List String)) :
  k.Alters h course (begin k active waves).stack
  := by
  obtain ⟨states, known, log, same⟩ := exists_stack_begin k active waves
  rw [same]
  exact ⟨rfl, rfl, fun _ _ => id, fun _ => rfl, .refl _⟩

theorem finish_alters (l : Launch τ σ) :
  l.stack.Alters h course l.finish.2
  := by
  rw [finish]
  split
  · exact .refl _
  · simp only
    split <;> exact .of_passes rfl (.refl _)

end Launch

/-- Bringing a stack up, for the first time or again, schedules no restart and takes none back. -/
theorem Stack.alters_up (orderly : h.Orderly course) (k : Stack τ σ)
    (profiles services : List String) :
  k.Alters h course (k.up h profiles services).2
  := by
  rw [Stack.up]
  split
  · exact .refl _
  · next l launched =>
    obtain ⟨active, waves, -, ok, rfl⟩ := Launch.exists_begin_of_launch launched
    have fresh : (Launch.begin k active waves).Fresh := Launch.fresh_begin ok
    have run : (Launch.begin k active waves).Run h (fun _ _ => False) [] _ := .start
    obtain ⟨trace, run⟩ := run.fair
    have ran := run.alters orderly fresh (fun _ _ => False.elim) (fun _ _ => False.elim)
    exact ((Launch.begin_alters k active waves).trans ran).trans (Launch.finish_alters _)

end Passes

/-! ### An orderly host -/

/-- A clock, and where the runs of the services stand. -/
structure Bench where
  now : Int
  courses : String → Course

namespace Bench

/-- Where the runs of a service stand. -/
def course (name : String) (b : Bench) : Course :=
  b.courses name

/-- A new run of a service begins. -/
def launch (name : String) (b : Bench) : Bench where
  now := b.now
  courses other := if other = name then ⟨(b.courses name).run + 1, true, none⟩ else b.courses other

/-- A host that does nothing but keep account of the runs. -/
def host : Host Int Bench where
  clock := now
  start s b := (.ok (), b.launch s.name)
  stop _ _ b := (.ok (), b)
  isRunning s b := (.ok (b.course s.name).running, b)
  exitCode s b := (.ok (b.course s.name).code, b)
  check _ _ b := (.ok { success := true }, b)
  teardown b := (.ok (), b)

theorem orderly_host :
  host.Orderly course
  where
  isRunning _ _ _ told := (Except.ok.inj told).symm
  exitCode _ _ _ told := (Except.ok.inj told).symm
  course_isRunning _ _ _ := rfl
  course_exitCode _ _ _ := rfl
  passes_isRunning _ _ := .refl _
  passes_exitCode _ _ := .refl _
  passes_check _ _ _ := .refl _
  passes_wait _ _ _ waited := by
    cases waited
    apply Host.Passes.refl
  passes_start s b := by
    refine ⟨fun name => ?_, Timeline.Lawful.before_self _⟩
    by_cases own : name = s.name
    · subst own
      refine ⟨by simp [host, course, launch], fun same => ?_⟩
      simp [host, course, launch] at same
    · simp [host, course, launch, own, Course.Evolves.refl]

end Bench

end Muster
