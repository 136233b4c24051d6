import Muster.Proofs.Supervisor.Talk
/-!
# What a monitor gets to

A monitor of a stack takes its steps, and between them others change the stack.  A `Round` puts down
what was watched when it began, and the checks that have been made in it with what they have heard.

The runners may raise any exceptions at any time.  As long as none escapes from a check, all that is
watched when a round begins is checked in it, and round follows upon round.  An exception that
escapes ends the monitor: what is left of the round is not checked, and no other round begins.
-/

namespace Muster

/-- A round of a monitor: what was watched when it began, and the checks so far, each with its
talk. -/
structure Round where
  names : List String
  checks : List (String × List Exchange)

namespace Round

/-- The services that have been checked. -/
def checked (r : Round) : List String :=
  r.checks.map Prod.fst

/-- An exception has escaped from a check of the round. -/
def Escaped (r : Round) (fault : Fault) : Prop :=
  ∃ check ∈ r.checks, ∃ call, (call, .raised fault) ∈ check.2 ∧ call.escapes fault = true

end Round

namespace Monitor

variable {τ σ : Type} [Timeline τ]

/-- The rounds after the next step of a monitor, the latest first. -/
def record (h : Host τ σ) (m : Monitor) (k : Stack τ σ) (rounds : List Round) : List Round :=
  match m, rounds with
  | .waiting, rounds => if k.stopping then rounds else ⟨k.supervisor.watched.keys, []⟩ :: rounds
  | .checking (name :: _), r :: rounds =>
    { r with checks := r.checks ++ [(name, k.talk h name)] } :: rounds
  | _, rounds => rounds

/-- What may become of a monitor and its stack, with the rounds of the monitor, the latest first.
Others change the stack between the steps of the monitor. -/
inductive Run (h : Host τ σ) (others : Stack τ σ → Stack τ σ → Prop) (k₀ : Stack τ σ) :
    List Round → Monitor → Stack τ σ → Prop where
  | start : Run h others k₀ [] .waiting k₀
  | turn {rounds m k} (run : Run h others k₀ rounds m k) :
    Run h others k₀ (m.record h k rounds) (m.step (Stack.beat h) k).1 (m.step (Stack.beat h) k).2
  | other {rounds m k k'} (run : Run h others k₀ rounds m k) (change : others k k') :
    Run h others k₀ rounds m k'

/-- What a monitor leaves of the latest round: the services that it has not come to yet, or does not
come to any more. -/
inductive Leaves : Monitor → List String → Prop where
  | waiting : Leaves .waiting []
  | checking (left : List String) : Leaves (.checking left) left
  | ended : Leaves (.ended none) []
  /-- The monitor has broken off. -/
  | broken (fault : Fault) (left : List String) : Leaves (.ended (some fault)) left

theorem Leaves.of_waiting {left : List String} (leaves : Leaves .waiting left) :
  left = []
  := by
  cases leaves
  rfl

theorem Leaves.of_checking {left left' : List String} (leaves : Leaves (.checking left) left') :
  left' = left
  := by
  cases leaves
  rfl

variable {h : Host τ σ} {others : Stack τ σ → Stack τ σ → Prop} {k₀ k : Stack τ σ} {m : Monitor}
  {rounds : List Round}

/-- The step of a monitor that checks a service. -/
theorem step_check (h : Host τ σ) (k : Stack τ σ) (name : String) (left : List String) :
  step (Stack.beat h) (.checking (name :: left)) k
    = (match (k.check h name).1 with
        | .ok () => .checking left
        | .error fault => .ended (some fault), (k.check h name).2)
  := by
  rw [step]
  rcases called : k.check h name with ⟨_ | _, k'⟩ <;> simp only [Stack.beat, called]

/-- The stack stays furnished whatever the monitor and the others do. -/
theorem Run.furnished (furnished : k₀.Furnished)
    (bound : ∀ k k', others k k' → k.Furnished → k'.Furnished)
    (run : Run h others k₀ rounds m k) :
  k.Furnished
  := by
  induction run with
  | start => exact furnished
  | other run change ih => exact bound _ _ change ih
  | @turn rounds m k run ih =>
    cases m with
    | checking left =>
      cases left with
      | nil => exact ih
      | cons name left =>
        rw [step_check]
        exact ih.check name
    | _ => exact ih

/-! ### The state of the rounds -/

/-- How the rounds of a monitor stand. -/
structure Stands (rounds : List Round) (m : Monitor) : Prop where
  /-- The monitor has broken off with the exceptions that have escaped. -/
  broken : ∀ fault, m = .ended (some fault) ↔ ∃ r ∈ rounds, r.Escaped fault
  past : ∀ r ∈ rounds.tail, r.checked = r.names
  latest : ∀ r, rounds.head? = some r → ∃ left, m.Leaves left ∧ r.names = r.checked ++ left
  /-- A monitor that checks services is in a round. -/
  within : ∀ left, m = .checking left → rounds ≠ []

/-- A monitor that has left nothing of a round to be checked has checked all of it. -/
theorem Stands.whole (stands : Stands rounds m) (nothing : ∀ left, m.Leaves left → left = []) :
  ∀ r ∈ rounds, r.checked = r.names
  := by
  intro r mem
  cases rounds with
  | nil => cases mem
  | cons latest past =>
    rcases List.mem_cons.mp mem with rfl | mem
    · obtain ⟨left, leaves, names⟩ := stands.latest r rfl
      rw [names, nothing left leaves, List.append_nil]
    · exact stands.past r mem

/-- Nothing has escaped as long as the monitor goes on. -/
theorem Stands.calm (stands : Stands rounds m) (going : ∀ fault, m ≠ .ended (some fault)) :
  ∀ r ∈ rounds, ∀ fault, ¬ r.Escaped fault
  := fun r mem fault escaped => going fault ((stands.broken fault).mpr ⟨r, mem, escaped⟩)

/-- How the rounds stand while nothing has escaped and all rounds have been made. -/
theorem Stands.of_whole (calm : ∀ r ∈ rounds, ∀ fault, ¬ r.Escaped fault)
    (whole : ∀ r ∈ rounds, r.checked = r.names) (rests : m = .waiting ∨ m = .ended none) :
  Stands rounds m
  where
  broken fault := by
    constructor
    · rintro rfl
      rcases rests with same | same <;> cases same
    · rintro ⟨r, mem, escaped⟩
      exact absurd escaped (calm r mem fault)
  past r mem := whole r (List.mem_of_mem_tail mem)
  latest r first := by
    refine ⟨[], ?_, by simp [whole r (List.mem_of_mem_head? first)]⟩
    rcases rests with rfl | rfl
    · exact .waiting
    · exact .ended
  within left same := by rcases rests with rfl | rfl <;> cases same

/-- A round begins. -/
theorem Stands.begin (stands : Stands rounds .waiting) (names : List String) :
  Stands (⟨names, []⟩ :: rounds) (.checking names)
  where
  broken fault := by
    constructor
    · nofun
    · rintro ⟨r, mem, escaped⟩
      rcases List.mem_cons.mp mem with rfl | mem
      · obtain ⟨check, none, -⟩ := escaped
        cases none
      · exact absurd escaped (stands.calm nofun r mem fault)
  past := stands.whole fun _ => Leaves.of_waiting
  latest r first := by
    cases first
    exact ⟨names, .checking names, rfl⟩
  within _ _ := nofun

/-- A service is checked. -/
theorem Stands.check {r : Round} {past : List Round} {name : String} {left : List String}
    {talk : List Exchange} {m' : Monitor} (stands : Stands (r :: past) (.checking (name :: left)))
    (leaves : m'.Leaves left)
    (broken : ∀ fault, m' = .ended (some fault)
      ↔ ∃ call, (call, .raised fault) ∈ talk ∧ call.escapes fault = true) :
  Stands ({ r with checks := r.checks ++ [(name, talk)] } :: past) m'
  where
  broken fault := by
    -- Had anything escaped before, the monitor would not be checking any more.
    have calm := stands.calm nofun
    rw [broken]
    constructor
    · rintro ⟨call, raised, escapes⟩
      exact ⟨_, List.mem_cons_self .., (name, talk), by simp, call, raised, escapes⟩
    · rintro ⟨r', mem, escaped⟩
      rcases List.mem_cons.mp mem with rfl | mem
      · obtain ⟨check, mem, call, raised, escapes⟩ := escaped
        rcases List.mem_append.mp mem with mem | mem
        · exact absurd ⟨check, mem, call, raised, escapes⟩ (calm r (List.mem_cons_self ..) fault)
        · obtain rfl := List.mem_singleton.mp mem
          exact ⟨call, raised, escapes⟩
      · exact absurd escaped (calm r' (List.mem_cons_of_mem _ mem) fault)
  past := stands.past
  latest r' first := by
    cases first
    obtain ⟨left', leaves', names⟩ := stands.latest r rfl
    obtain rfl := leaves'.of_checking
    exact ⟨left, leaves, by simp [names, Round.checked]⟩
  within _ _ := nofun

/-- Every step of a monitor keeps its rounds in order. -/
theorem Stands.turn (stands : Stands rounds m) (furnished : k.Furnished) :
  Stands (m.record h k rounds) (m.step (Stack.beat h) k).1
  := by
  cases m with
  | waiting =>
    have same : (step (Stack.beat h) .waiting k).1
      = if k.stopping then .ended none else .checking k.supervisor.watched.keys := rfl
    rw [same, record]
    split
    · exact .of_whole (stands.calm nofun) (stands.whole fun _ => Leaves.of_waiting) (.inr rfl)
    · exact stands.begin _
  | ended fault => exact stands
  | checking left =>
    cases left with
    | nil =>
      exact .of_whole (stands.calm nofun) (stands.whole fun _ => Leaves.of_checking) (.inl rfl)
    | cons name left =>
      obtain ⟨r, past, rfl⟩ := List.exists_cons_of_ne_nil (stands.within _ rfl)
      rw [step_check, record]
      apply stands.check
      · cases (k.check h name).1 with
        | ok _ => exact .checking left
        | error fault => exact .broken fault left
      · intro fault
        rw [← furnished.check_eq_error_iff (h := h)]
        cases (k.check h name).1 with
        | ok _ => simp
        | error fault => simp

/-- The exceptions of the runners do not keep a monitor from its rounds as long as they do not escape
from a check: it breaks off exactly when one does.  All that was watched when a round began is
checked in it, but for what the monitor leaves of the latest one. -/
theorem Run.goes_rounds (furnished : k₀.Furnished)
    (bound : ∀ k k', others k k' → k.Furnished → k'.Furnished)
    (run : Run h others k₀ rounds m k) :
  (∀ fault, m = .ended (some fault) ↔ ∃ r ∈ rounds, r.Escaped fault)
    ∧ (∀ r ∈ rounds.tail, r.checked = r.names)
    ∧ ∀ r, rounds.head? = some r → ∃ left, m.Leaves left ∧ r.names = r.checked ++ left
  := by
  -- By induction on the run: the steps of the monitor keep the rounds in order, and the others do
  -- not touch them.
  have stands : Stands rounds m := by
    induction run with
    | start => exact .of_whole nofun nofun (.inl rfl)
    | turn run ih => exact ih.turn (run.furnished furnished bound)
    | other run change ih => exact ih
  exact ⟨stands.broken, stands.past, stands.latest⟩

end Monitor

/-! ### A monitor of two services that are down -/

namespace Sample

/-- A host at which all services are down and no start succeeds. -/
def outage (fault : Fault) : Host Int Unit :=
  { host with
    isRunning := fun _ world => (.ok false, world)
    start := fun _ world => (.fail fault, world) }

/-- The sample, with two services that are watched and a restart of both due. -/
def stranded : Stack Int Unit :=
  { stack () with
    states := ⟨[("database", { name := "database" }), ("mail", { name := "mail" })], by decide⟩
    supervisor := {
      watched := ⟨[("database", 0), ("mail", 0)], by decide⟩
      pending := ⟨[("database", 0), ("mail", 0)], by decide⟩ } }

theorem furnished_stranded :
  stranded.Furnished
  := by
  intro name watched
  have mem : name ∈ ["database", "mail"] := Table.contains_iff.mp watched
  rcases List.mem_pair.mp mem with rfl | rfl <;> decide

end Sample

/-- A round of the sample in which the start of both services fails with a fault of the stack is
gone to its end. -/
theorem Monitor.Run.goes_rounds_stranded :
  ∃ r k, Monitor.Run (Sample.outage (.stack (.startFailed "no image"))) (fun _ _ => False)
      Sample.stranded [r] .waiting k
    ∧ r.names = ["database", "mail"] ∧ r.checked = r.names ∧ ∀ fault, ¬ r.Escaped fault
  := by
  obtain ⟨r, k, run, watched⟩ : ∃ r k, Monitor.Run (Sample.outage (.stack (.startFailed "no image")))
      (fun _ _ => False) Sample.stranded [r] .waiting k ∧ r.names = ["database", "mail"] :=
    ⟨_, _, Monitor.Run.start.turn.turn.turn.turn, rfl⟩
  obtain ⟨broken, -, latest⟩ := run.goes_rounds Sample.furnished_stranded nofun
  refine ⟨r, k, run, watched, ?_, fun fault escaped => ?_⟩
  · obtain ⟨left, leaves, names⟩ := latest r rfl
    obtain rfl := leaves.of_waiting
    rw [names, List.append_nil]
  · cases (broken fault).mpr ⟨r, List.mem_singleton_self _, escaped⟩

/-- A start that fails with what an engine reports ends the monitor: the other service that is
watched is not checked in this round, nor in any other. -/
theorem broken_off_by_engine :
  ¬ ∀ rounds m k, Monitor.Run (Sample.outage (.engine (.refused "no answer"))) (fun _ _ => False)
      Sample.stranded rounds m k →
    (∀ fault, m ≠ .ended (some fault))
      ∧ ∀ r ∈ rounds, ∀ name ∈ r.names, name ∈ r.checked ∨ ∃ left, m = .checking left ∧ name ∈ left
  := by
  intro law
  exact (law _ _ _ Monitor.Run.start.turn.turn).1 _ rfl

end Muster
