import Muster.Proofs.Supervisor.Course
/-!
# The law of restarts

A history of a stack is any sequence of checks of its services and of what else may happen to it.
Every check that finds a service down is put down in a ledger.  A pending restart always goes back
to such a finding: the policy was asked about the exit code found then.  So every start that the
supervisor makes is justified by the finding it goes back to, and it is justified by the run that
has just ended if this is the run that was found.  A restart that is pending when a service comes
back by itself is carried out after the next run, whatever becomes of that.
-/

namespace Muster

variable {τ σ : Type}

/-- What a check has found out about a service that is down. -/
structure Finding (τ : Type) where
  service : String
  /-- The run that has ended, and how. -/
  run : Nat
  code : Option Int
  time : τ
  /-- The wait before a restart of the service. -/
  delay : τ
  /-- Whether the restart policy was asked: no restart was pending. -/
  asked : Bool

/-- The last finding about a service for which the policy was asked. -/
def lastAsked (ledger : List (Finding τ)) (name : String) : Option (Finding τ) :=
  (ledger.filter fun f => f.service = name && f.asked).getLast?

/-- The first finding about a run of a service. -/
def firstSighting (ledger : List (Finding τ)) (name : String) (run : Nat) : Option (Finding τ) :=
  ledger.find? fun f => f.service = name && f.run = run

namespace Stack

/-- The service that a check looks at, and its state, if there is anything to be checked. -/
def checked? (k : Stack τ σ) (name : String) : Option (Service × ServiceState) :=
  if k.stopping || !k.supervisor.isWatching name then none
  else
    match k.descriptor.services.get? name, k.states.get? name with
    | some s, some state => some (s, state)
    | _, _ => none

/-- What a check of a service works on. -/
def desk (k : Stack τ σ) (state : ServiceState) : Desk τ :=
  ⟨k.supervisor, state, k.log⟩

/-- The surroundings of a check of a service at a host. -/
def surroundings (h : Host τ σ) (s : Service) : Check.Surroundings τ σ :=
  ⟨h.clock, answerCheck h s⟩

/-- The calls of the runner that a check of a service makes. -/
def checkCalls [Timeline τ] (h : Host τ σ) (k : Stack τ σ) (name : String) : List RunnerCall :=
  match k.checked? name with
  | some (s, state) =>
    (Check.run (surroundings h s).noting s k.backoff (k.desk state) (k.world, [])).2.2.2
  | none => []

/-- What there is to find out about a service that is down. -/
def finding (h : Host τ σ) (course : String → σ → Course) (k : Stack τ σ) (name : String) :
    Finding τ where
  service := name
  run := (course name k.world).run
  code := (course name k.world).code
  time := h.clock k.world
  delay := k.supervisor.delayOf k.backoff name
  asked := !k.supervisor.pending.contains name

/-- What a check of a service finds out, if it finds it down. -/
def findings (h : Host τ σ) (course : String → σ → Course) (k : Stack τ σ) (name : String) :
    List (Finding τ) :=
  match k.checked? name with
  | some (s, _) =>
    match (h.isRunning s k.world).1.result with
    | .ok false => [k.finding h course name]
    | _ => []
  | none => []

/-- What may have become of a stack, with the findings of the checks so far. -/
inductive History [Timeline τ] (h : Host τ σ) (course : String → σ → Course) (k₀ : Stack τ σ) :
    List (Finding τ) → Stack τ σ → Prop where
  | start : History h course k₀ [] k₀
  /-- The supervisor checks a service. -/
  | check {ledger k} (name : String) (history : History h course k₀ ledger k) :
    History h course k₀ (ledger ++ k.findings h course name) (k.check h name).2
  /-- The stack is brought up, for the first time or again. -/
  | up {ledger k} (profiles services : List String) (history : History h course k₀ ledger k) :
    History h course k₀ ledger (k.up h profiles services).2
  | watch {ledger k} (name : String) (history : History h course k₀ ledger k) :
    History h course k₀ ledger
      { k with supervisor := k.supervisor.watch k.backoff (h.clock k.world) name }
  | unwatch {ledger k} (name : String) (history : History h course k₀ ledger k) :
    History h course k₀ ledger { k with supervisor := k.supervisor.unwatch name }
  /-- Supervising ends. -/
  | stop {ledger k} (history : History h course k₀ ledger k) :
    History h course k₀ ledger { k with supervisor := k.supervisor.stop }
  /-- Services end and come back by themselves, time passes, and workers take single turns. -/
  | other {ledger k k'} (history : History h course k₀ ledger k) (change : k.Alters h course k') :
    History h course k₀ ledger k'

end Stack

/-! ### Ledgers -/

section Ledger

variable {ledger rest : List (Finding τ)} {name : String} {f g : Finding τ}

theorem lastAsked_append_of_not_asked
    (other : ∀ f ∈ rest, f.service = name → f.asked = false) :
  lastAsked (ledger ++ rest) name = lastAsked ledger name
  := by
  have none : (rest.filter fun f => f.service = name && f.asked) = [] := by
    simpa [List.filter_eq_nil_iff] using other
  rw [lastAsked, List.filter_append, none, List.append_nil, lastAsked]

theorem lastAsked_concat (own : f.service = name) (asked : f.asked = true) :
  lastAsked (ledger ++ [f]) name = some f
  := by
  have kept : ([f].filter fun f => f.service = name && f.asked) = [f] := by simp [own, asked]
  rw [lastAsked, List.filter_append, kept, List.getLast?_concat]

theorem mem_of_lastAsked (last : lastAsked ledger name = some f) :
  f ∈ ledger ∧ f.service = name
  := by
  have mem := List.mem_of_getLast? last
  obtain ⟨mem, own⟩ := List.mem_filter.mp mem
  simp only [Bool.and_eq_true, decide_eq_true_eq] at own
  exact ⟨mem, own.1⟩

/-- The first of the elements of a sorted list that pass a test stands before all others. -/
theorem find?_first {α : Type} {R : α → α → Prop} {p : α → Bool} {l : List α} {a : α}
    (sorted : l.Pairwise R) (mem : a ∈ l) (pass : p a = true) :
  ∃ first, l.find? p = some first ∧ (first = a ∨ R first a)
  := by
  induction l with
  | nil => cases mem
  | cons b rest ih =>
    obtain ⟨head, tail⟩ := List.pairwise_cons.mp sorted
    cases test : p b with
    | true =>
      refine ⟨b, List.find?_cons_of_pos test, ?_⟩
      rcases List.mem_cons.mp mem with rfl | mem
      · exact .inl rfl
      · exact .inr (head a mem)
    | false =>
      rcases List.mem_cons.mp mem with rfl | mem
      · cases test.symm.trans pass
      · rw [List.find?_cons_of_neg (by simp [test])]
        apply ih tail mem

end Ledger

/-! ### Findings -/

section Findings

variable {h : Host τ σ} {course : String → σ → Course} {k : Stack τ σ} {name n : String} {time : τ}
  {f : Finding τ}

theorem eq_finding (mem : f ∈ k.findings h course n) :
  f = k.finding h course n
  := by
  rw [Stack.findings] at mem
  split at mem
  · split at mem
    · apply List.mem_singleton.mp mem
    · cases mem
  · cases mem

theorem findings_pairwise (R : Finding τ → Finding τ → Prop) (n : String) :
  (k.findings h course n).Pairwise R
  := by
  rw [Stack.findings]
  split
  · split <;> simp
  · simp

/-- What is pending is not asked about again. -/
theorem not_asked (pending : k.supervisor.pending.get? name = some time) :
  ∀ f ∈ k.findings h course n, f.service = name → f.asked = false
  := by
  intro f mem own
  obtain rfl := eq_finding mem
  obtain rfl : n = name := own
  simp [Stack.finding, Table.contains, pending]

theorem findings_of_down {s : Service} {state : ServiceState}
    (looked : k.checked? name = some (s, state))
    (down : (h.isRunning s k.world).1.result = .ok false) :
  k.findings h course name = [k.finding h course name]
  := by
  rw [Stack.findings, looked]
  simp only [down]

end Findings

/-! ### What a check does to a stack -/

namespace Stack

variable {h : Host τ σ} {course : String → σ → Course} {k : Stack τ σ}
  {name : String} {s : Service} {state : ServiceState}

theorem mild_surroundings (h : Host τ σ) (s : Service) :
  (surroundings h s : Check.Surroundings τ σ).Mild
  where
  isRunning desk := by
    simp only [surroundings, answerCheck]
    split
    · exact .inl ⟨_, rfl⟩
    · exact .inr ⟨_, rfl⟩
  exitCode desk := by
    simp only [surroundings, answerCheck]
    split
    · exact .inl ⟨_, rfl⟩
    · exact .inr ⟨_, rfl⟩
  start desk := by
    simp only [surroundings, answerCheck]
    split
    · exact .inl rfl
    · exact .inr ⟨_, rfl⟩
  keeps call d world := by
    cases call
    all_goals
      simp only [surroundings, answerCheck]
      split <;> exact ⟨rfl, rfl, rfl⟩
  state call d world := by cases call <;> rfl

/-- The host's answer to the question whether a service is running. -/
theorem reply_isRunning_iff {d : Desk τ} {world : σ} {yes : Bool} :
  ((surroundings h s : Check.Surroundings τ σ).call .isRunning (d, world)).1 = .running yes
    ↔ (h.isRunning s world).1.result = .ok yes
  := by
  simp only [surroundings, answerCheck]
  split <;> simp_all

theorem reply_exitCode_iff {desk : Desk τ × σ} {code : Option Int} :
  ((surroundings h s : Check.Surroundings τ σ).call .exitCode desk).1 = .exited code
    ↔ (h.exitCode s desk.2).1.result = .ok code
  := by
  simp only [surroundings, answerCheck]
  split <;> simp_all

theorem world_isRunning {d : Desk τ} {world : σ} :
  ((surroundings h s : Check.Surroundings τ σ).call .isRunning (d, world)).2.2
    = (h.isRunning s world).2
  := rfl

theorem checked?_eq_some_iff :
  k.checked? name = some (s, state)
    ↔ (k.stopping = false ∧ k.supervisor.isWatching name = true)
      ∧ k.descriptor.services.get? name = some s ∧ k.states.get? name = some state
  := by
  rw [checked?]
  cases k.stopping <;> cases k.supervisor.isWatching name
  case false.true =>
    cases k.descriptor.services.get? name <;> cases k.states.get? name <;> simp
  all_goals simp

theorem name_of_checked (looked : k.checked? name = some (s, state)) :
  k.descriptor.services.get? name = some s ∧ s.name = name
  := by
  obtain ⟨-, found, -⟩ := checked?_eq_some_iff.mp looked
  exact ⟨found, (k.descriptor.named _ (Table.get?_eq_some_iff.mp found)).symm⟩

variable [Timeline τ]

theorem check_of_none (nothing : k.checked? name = none) :
  (k.check h name).2 = k
  := by
  rw [checked?] at nothing
  rw [check]
  by_cases idle : (k.stopping || !k.supervisor.isWatching name) = true
  · rw [if_pos idle]
  · rw [if_neg idle] at nothing ⊢
    cases found : k.descriptor.services.get? name with
    | none => rfl
    | some s =>
      cases there : k.states.get? name with
      | none => rfl
      | some state =>
        rw [found, there] at nothing
        cases nothing

theorem check_of_checked (looked : k.checked? name = some (s, state)) :
  ∃ states log, (k.check h name).2 = { k with
    states, log
    supervisor := (Check.run (surroundings h s) s k.backoff (k.desk state) k.world).2.1.supervisor
    world := (Check.run (surroundings h s) s k.backoff (k.desk state) k.world).2.2 }
  := by
  obtain ⟨idle, found, there⟩ := checked?_eq_some_iff.mp looked
  rw [check]
  rw [if_neg (by simpa using idle), found, there]
  exact ⟨_, _, rfl⟩

/-- What a check comes to for the supervisor of a stack. -/
theorem check_comes (looked : k.checked? name = some (s, state)) :
  Check.Comes (surroundings h s) s k.backoff (k.desk state) k.world (k.check h name).2.supervisor
    ((k.checkCalls h name).contains .start)
  := by
  obtain ⟨states, log, same⟩ := check_of_checked (h := h) looked
  have noted := Check.drive_noting (w := surroundings h s) (s := s) (b := k.backoff)
    (Check.rank (.entering : Check τ)) .entering (k.desk state) k.world []
  rw [same, checkCalls, looked]
  apply Check.comes_run (mild_surroundings h s)
  rw [Check.run]
  rw [noted]
  rfl

theorem descriptor_check (h : Host τ σ) (k : Stack τ σ) (name : String) :
  (k.check h name).2.descriptor = k.descriptor ∧ (k.check h name).2.backoff = k.backoff
  := by
  cases looked : k.checked? name with
  | none => rw [check_of_none looked]; exact ⟨rfl, rfl⟩
  | some found =>
    obtain ⟨states, log, same⟩ := check_of_checked (h := h) looked
    rw [same]
    exact ⟨rfl, rfl⟩

/-- Time passes during a check. -/
theorem check_passes [Timeline.Lawful τ] (orderly : h.Orderly course) (k : Stack τ σ)
    (name : String) :
  h.Passes course k.world (k.check h name).2.world
  := by
  cases looked : k.checked? name with
  | none => rw [check_of_none looked]; exact .refl _
  | some found =>
    obtain ⟨states, log, same⟩ := check_of_checked (h := h) looked
    rw [same]
    apply Check.drive_world (R := h.Passes course) .refl .trans
    intro call d world
    cases call
    · apply orderly.passes_isRunning found.1 world
    · apply orderly.passes_exitCode found.1 world
    · apply orderly.passes_start found.1 world

end Stack

/-! ### Pending restarts and findings -/

section Backed

variable [Timeline τ] {h : Host τ σ} {course : String → σ → Course}
  {ledger : List (Finding τ)} {k k' : Stack τ σ} {name : String} {time : τ} {f : Finding τ}

/-- A restart goes back to a finding: the policy was asked about the exit code found, and the
restart is due after the wait.  As long as no new run has begun, nothing about this has changed. -/
structure Backs (course : String → σ → Course) (ledger : List (Finding τ)) (k : Stack τ σ)
    (name : String) (time : τ) (f : Finding τ) : Prop where
  last : lastAsked ledger name = some f
  time : time = Timeline.add f.time f.delay
  allowed : ∃ s, k.descriptor.services.get? name = some s ∧ s.restart.restarts f.code = true
  le : f.run ≤ (course name k.world).run
  current : (course name k.world).run = f.run → course name k.world = ⟨f.run, false, f.code⟩
    ∧ k.supervisor.delayOf k.backoff name = f.delay

/-- Every pending restart goes back to a finding, and the ledger is in the order of time. -/
structure Backed (h : Host τ σ) (course : String → σ → Course) (ledger : List (Finding τ))
    (k : Stack τ σ) : Prop where
  pending : ∀ name time, k.supervisor.pending.get? name = some time →
    ∃ f, Backs course ledger k name time f
  past : ∀ f ∈ ledger, Timeline.before (h.clock k.world) f.time = false
  sorted : ledger.Pairwise fun f g => Timeline.before g.time f.time = false

/-- A restart goes back to the same finding later. -/
theorem Backs.later {rest : List (Finding τ)} (backs : Backs course ledger k name time f)
    (other : ∀ f ∈ rest, f.service = name → f.asked = false)
    (descriptor : k'.descriptor = k.descriptor)
    (evolves : (course name k.world).Evolves (course name k'.world))
    (delays : (course name k.world).running = false →
      k'.supervisor.delayOf k'.backoff name = k.supervisor.delayOf k.backoff name) :
  Backs course (ledger ++ rest) k' name time f
  where
  last := (lastAsked_append_of_not_asked other).trans backs.last
  time := backs.time
  allowed := descriptor ▸ backs.allowed
  le := Nat.le_trans backs.le evolves.le
  current same := by
    have before : (course name k.world).run = f.run :=
      Nat.le_antisymm (same ▸ evolves.le) backs.le
    obtain ⟨ended, delay⟩ := backs.current before
    have down : (course name k.world).running = false := by rw [ended]
    refine ⟨?_, (delays down).trans delay⟩
    rw [evolves.stays (same.trans before.symm) down, ended]

theorem Backed.other [Timeline.Lawful τ] (backed : Backed h course ledger k)
    (change : k.Alters h course k') :
  Backed h course ledger k'
  where
  pending name time found := by
    obtain ⟨f, backs⟩ := backed.pending name time (change.pending name time found)
    use f
    have later : Backs course (ledger ++ []) k' name time f :=
      backs.later (by simp) change.descriptor (change.passes.evolves name)
        fun _ => by rw [change.backoff, change.delays name]
    rwa [List.append_nil] at later
  past f mem := Timeline.Lawful.before_trans (backed.past f mem) change.passes.clock
  sorted := backed.sorted

/-- A check that schedules a restart asks the policy about what it has found. -/
theorem asked_of_scheduled (ledger : List (Finding τ)) (orderly : h.Orderly course) {s : Service}
    {state : ServiceState}
    {code : Option Int} (looked : k.checked? s.name = some (s, state))
    (scheduled : Check.Scheduled (Stack.surroundings h s) s (k.desk state) k.world code) :
  lastAsked (ledger ++ k.findings h course s.name) s.name = some (k.finding h course s.name)
    ∧ (course s.name k.world).running = false
    ∧ s.restart.restarts (course s.name k.world).code = true
  := by
  have down := Stack.reply_isRunning_iff.mp scheduled.down.reply
  have told := orderly.exitCode _ _ _ (Stack.reply_exitCode_iff.mp scheduled.reply)
  rw [Stack.world_isRunning, orderly.course_isRunning] at told
  have none : k.supervisor.pending.get? s.name = none := scheduled.pending
  rw [findings_of_down looked down]
  refine ⟨lastAsked_concat rfl ?_, (orderly.isRunning s k.world false down).symm,
    told ▸ scheduled.allowed.1⟩
  simp [Stack.finding, Table.contains, none]

variable [Timeline.Lawful τ]

/-- A check puts down its finding after all earlier ones. -/
theorem Backed.sorted_check (backed : Backed h course ledger k) (orderly : h.Orderly course)
    (n : String) :
  (∀ f ∈ ledger ++ k.findings h course n,
      Timeline.before (h.clock (k.check h n).2.world) f.time = false)
    ∧ (ledger ++ k.findings h course n).Pairwise fun f g => Timeline.before g.time f.time = false
  := by
  have passes := k.check_passes orderly n
  constructor
  · intro f mem
    rcases List.mem_append.mp mem with old | new
    · apply Timeline.Lawful.before_trans (backed.past f old) passes.clock
    · rw [eq_finding new]
      apply passes.clock
  · refine List.pairwise_append.mpr ⟨backed.sorted, findings_pairwise _ n, ?_⟩
    intro f old g new
    rw [eq_finding new]
    apply backed.past f old

/-- A restart that was pending before a check and is so after it goes back to the same finding. -/
theorem Backed.kept (backed : Backed h course ledger k) (orderly : h.Orderly course) (n : String)
    (pending : k.supervisor.pending.get? name = some time)
    (delays : (course name k.world).running = false →
      (k.check h n).2.supervisor.delays.get? name = k.supervisor.delays.get? name) :
  ∃ f, Backs course (ledger ++ k.findings h course n) (k.check h n).2 name time f
  := by
  obtain ⟨f, backs⟩ := backed.pending name time pending
  refine ⟨f, backs.later (not_asked pending) (Stack.descriptor_check h k n).1
    ((k.check_passes orderly n).evolves name) fun down => ?_⟩
  rw [(Stack.descriptor_check h k n).2, Supervisor.delayOf, delays down, Supervisor.delayOf]

/-- What every check keeps: pending restarts go back to findings. -/
theorem Backed.check (backed : Backed h course ledger k) (orderly : h.Orderly course)
    (n : String) :
  Backed h course (ledger ++ k.findings h course n) (k.check h n).2
  := by
  obtain ⟨past, sorted⟩ := backed.sorted_check orderly n
  refine ⟨fun name time found => ?_, past, sorted⟩
  cases looked : k.checked? n with
  | none =>
    have same := Stack.check_of_none (h := h) looked
    rw [same] at found
    apply backed.kept orderly n found fun _ => by rw [same]
  | some pair =>
    obtain ⟨s, state⟩ := pair
    obtain ⟨listed, rfl⟩ := Stack.name_of_checked looked
    have comes := Stack.check_comes (h := h) looked
    generalize (k.checkCalls h s.name).contains .start = started at comes
    cases comes with
    | rests early pending delays =>
      apply backed.kept orderly _ (pending name time found) fun _ => by rw [delays]; rfl
    | credits reply pending delays =>
      rw [pending] at found
      refine backed.kept orderly _ found fun down => delays name ?_
      rintro rfl
      have running := orderly.isRunning s k.world true (Stack.reply_isRunning_iff.mp reply)
      cases running.trans down
    | @schedules code early scheduled pending delays =>
      rw [pending, Table.get?_insert] at found
      split at found
      · next own =>
        subst own
        cases found
        obtain ⟨last, down, allowed⟩ := asked_of_scheduled ledger orderly looked scheduled
        have evolves := (k.check_passes orderly s.name).evolves s.name
        rw [← (Stack.descriptor_check h k s.name).1] at listed
        refine ⟨_, last, rfl, ⟨s, listed, allowed⟩, evolves.le, fun same => ?_⟩
        refine ⟨(evolves.stays same down).trans ?_, ?_⟩
        · rw [← down]
          rfl
        · rw [(Stack.descriptor_check h k s.name).2, Supervisor.delayOf, delays]
          rfl
      · apply backed.kept orderly _ found fun _ => by rw [delays]; rfl
    | starts due released =>
      rw [released.pending] at found
      split at found
      · cases found
      · next other => exact backed.kept orderly _ found fun _ => released.delays name other

/-- In every history pending restarts go back to findings. -/
theorem Stack.History.backed {k₀ : Stack τ σ} (orderly : h.Orderly course)
    (calm : ∀ name, k₀.supervisor.pending.get? name = none)
    (history : Stack.History h course k₀ ledger k) :
  Backed h course ledger k
  := by
  induction history with
  | start =>
    refine ⟨fun name time found => ?_, nofun, .nil⟩
    rw [calm] at found
    cases found
  | check name history ih => apply ih.check orderly name
  | up profiles services history ih => apply ih.other (alters_up orderly _ profiles services)
  | watch name history ih => apply ih.other (alters_watch _ _ name)
  | unwatch name history ih => apply ih.other (alters_unwatch _ name)
  | stop history ih => apply ih.other (alters_stop _)
  | other history change ih => apply ih.other change

end Backed

/-! ### The law -/

section Law

variable [Timeline τ] {h : Host τ σ} {course : String → σ → Course}
  {ledger : List (Finding τ)} {k₀ k : Stack τ σ} {name : String} {s : Service}

/-- A start of a service is justified by the run that has just ended: the policy lets the service be
started again after it, and the wait has passed since a check first saw that it had ended. -/
structure Justified (h : Host τ σ) (course : String → σ → Course) (ledger : List (Finding τ))
    (k : Stack τ σ) (s : Service) : Prop where
  policy : s.restart.restarts (course s.name k.world).code = true
  delay : ∃ first, firstSighting ledger s.name (course s.name k.world).run = some first
    ∧ Timeline.before (h.clock k.world)
      (Timeline.add first.time (k.supervisor.delayOf k.backoff s.name)) = false

/-- The wait that has passed since some finding about a run has passed since the first one. -/
theorem exists_firstSighting [Timeline.Lawful τ] {f : Finding τ} {now delay : τ}
    (sorted : ledger.Pairwise fun f g => Timeline.before g.time f.time = false)
    (mem : f ∈ ledger) (own : f.service = name)
    (passed : Timeline.before now (Timeline.add f.time delay) = false) :
  ∃ first, firstSighting ledger name f.run = some first
    ∧ Timeline.before now (Timeline.add first.time delay) = false
  := by
  obtain ⟨first, found, same | earlier⟩ := find?_first sorted mem
    (p := fun g => g.service = name && g.run = f.run) (by simp [own])
  · exact ⟨first, found, same ▸ passed⟩
  · exact ⟨first, found,
      Timeline.Lawful.before_trans (Timeline.Lawful.before_add delay earlier) passed⟩

/-- When a service is started by a check, either a restart was pending and due, or the policy has
just been asked and there is no wait. -/
theorem due_of_start (starts : .start ∈ k.checkCalls h name) :
  ∃ s state, k.checked? name = some (s, state)
    ∧ Check.Due (Stack.surroundings h s) s k.backoff (k.desk state) k.world
  := by
  cases looked : k.checked? name with
  | none => simp [Stack.checkCalls, looked] at starts
  | some pair =>
    obtain ⟨s, state⟩ := pair
    refine ⟨s, state, rfl, ?_⟩
    have comes := Stack.check_comes (h := h) looked
    rw [List.contains_iff_mem.mpr starts] at comes
    cases comes with
    | starts due => exact due

/-- A check that finds a service down starts it if a restart is due. -/
theorem start_of_due {state : ServiceState} (looked : k.checked? name = some (s, state))
    (due : Check.Due (Stack.surroundings h s) s k.backoff (k.desk state) k.world) :
  .start ∈ k.checkCalls h name
  := by
  have comes := Stack.check_comes (h := h) looked
  rw [← List.contains_iff_mem]
  generalize (k.checkCalls h name).contains .start = started at comes
  cases comes with
  | starts => rfl
  | rests early => apply absurd due early
  | schedules early => apply absurd due early
  | credits reply =>
    refine absurd due (Check.not_due_of_not_down fun down => ?_)
    cases reply.symm.trans down.reply

/-- A start after a restart has just been scheduled, without a wait, is justified by the run that
has just ended. -/
theorem Backed.justified_of_scheduled [Timeline.Lawful τ] (backed : Backed h course ledger k)
    (orderly : h.Orderly course) {state : ServiceState} {code : Option Int}
    (looked : k.checked? s.name = some (s, state))
    (scheduled : Check.Scheduled (Stack.surroundings h s) s (k.desk state) k.world code)
    (due : Timeline.before (h.clock k.world)
      (Timeline.add (h.clock k.world) (k.supervisor.delayOf k.backoff s.name)) = false) :
  Justified h course (ledger ++ k.findings h course s.name) k s
  := by
  obtain ⟨last, -, allowed⟩ := asked_of_scheduled ledger orderly looked scheduled
  obtain ⟨mem, own⟩ := mem_of_lastAsked last
  exact ⟨allowed, exists_firstSighting (backed.sorted_check orderly _).2 mem own due⟩

/-- A start after a restart that was pending is justified by the run that has just ended if the
restart goes back to this run. -/
theorem Backed.justified_of_backs [Timeline.Lawful τ] (backed : Backed h course ledger k)
    (orderly : h.Orderly course) {time : τ} {f : Finding τ}
    (backs : Backs course ledger k s.name time f) (same : f.run = (course s.name k.world).run)
    (due : Timeline.before (h.clock k.world) (Timeline.add f.time f.delay) = false)
    (allowed : s.restart.restarts f.code = true) :
  Justified h course (ledger ++ k.findings h course s.name) k s
  := by
  obtain ⟨ended, delay⟩ := backs.current same.symm
  obtain ⟨mem, own⟩ := mem_of_lastAsked backs.last
  refine ⟨by rwa [ended], ?_⟩
  rw [← same, delay]
  apply exists_firstSighting (backed.sorted_check orderly _).2 (List.mem_append_left _ mem) own due

/-- Every start that the supervisor makes goes back to the last finding for which the policy was
asked: the policy let the service be started again after the exit found then, and the wait has
passed since.  If this finding is about the run that has just ended, the start is justified by that
run.  The policy is not asked again about a run for which a restart is pending already: a start that
the run that has just ended does not justify is made exactly when the service is found down and a
restart is pending and due. -/
theorem Stack.History.start_law [Timeline.Lawful τ] (orderly : h.Orderly course)
    (calm : ∀ name, k₀.supervisor.pending.get? name = none)
    (history : Stack.History h course k₀ ledger k)
    (listed : k.descriptor.services.get? name = some s) :
  (.start ∈ k.checkCalls h name → ∃ f, lastAsked (ledger ++ k.findings h course name) name = some f
    ∧ s.restart.restarts f.code = true
    ∧ Timeline.before (h.clock k.world) (Timeline.add f.time f.delay) = false
    ∧ f.run ≤ (course name k.world).run
    ∧ (f.run = (course name k.world).run →
      Justified h course (ledger ++ k.findings h course name) k s))
  ∧ (¬ Justified h course (ledger ++ k.findings h course name) k s →
    (.start ∈ k.checkCalls h name ↔ (∃ state, k.checked? name = some (s, state))
      ∧ (h.isRunning s k.world).1.result = .ok false
      ∧ ∃ time, k.supervisor.pending.get? name = some time
        ∧ Timeline.before (h.clock k.world) time = false))
  := by
  have backed := history.backed orderly calm
  constructor
  · intro starts
    obtain ⟨s', state, looked, due⟩ := due_of_start starts
    obtain ⟨listed', rfl⟩ := Stack.name_of_checked looked
    obtain rfl : s' = s := Option.some.inj (listed'.symm.trans listed)
    rcases due with ⟨time, down, pending, due⟩ | ⟨code, scheduled, due⟩
    · obtain ⟨f, backs⟩ := backed.pending _ _ pending
      obtain ⟨r, there, allowed⟩ := backs.allowed
      obtain rfl : r = s' := Option.some.inj (there.symm.trans listed)
      rw [backs.time] at due
      exact ⟨f, (lastAsked_append_of_not_asked (not_asked pending)).trans backs.last, allowed, due,
        backs.le, fun same => backed.justified_of_backs orderly backs same due allowed⟩
    · obtain ⟨last, -, allowed⟩ := asked_of_scheduled ledger orderly looked scheduled
      exact ⟨_, last, allowed, due, Nat.le_refl _,
        fun _ => backed.justified_of_scheduled orderly looked scheduled due⟩
  · intro unjustified
    constructor
    · intro starts
      obtain ⟨s', state, looked, due⟩ := due_of_start starts
      obtain ⟨listed', rfl⟩ := Stack.name_of_checked looked
      obtain rfl : s' = s := Option.some.inj (listed'.symm.trans listed)
      rcases due with ⟨time, down, pending, due⟩ | ⟨code, scheduled, due⟩
      · exact ⟨⟨state, looked⟩, Stack.reply_isRunning_iff.mp down.reply, time, pending, due⟩
      · apply absurd (backed.justified_of_scheduled orderly looked scheduled due) unjustified
    · rintro ⟨⟨state, looked⟩, reply, time, pending, due⟩
      obtain ⟨-, rfl⟩ := Stack.name_of_checked looked
      obtain ⟨⟨active, watched⟩, -⟩ := Stack.checked?_eq_some_iff.mp looked
      have down : Check.Down (Stack.surroundings h s) s (k.desk state) k.world :=
        ⟨active, watched, Stack.reply_isRunning_iff.mpr reply⟩
      apply start_of_due looked (.inl ⟨time, down, pending, due⟩)

end Law

/-! ### A restart that comes too late -/

namespace Sample

/-- The sample on a bench, where the first run of its services has ended with exit code 1.  The
database is watched. -/
def failed : Stack Int Bench :=
  { stack ⟨0, fun _ => ⟨1, false, some 1⟩⟩ with
    states := ⟨[("database", { name := "database" })], by decide⟩
    supervisor := { watched := ⟨[("database", 0)], by decide⟩ } }

/-- Some time after a check has found the database down, its runs stand elsewhere. -/
def later (now : Int) (course : Course) : Stack Int Bench :=
  { (failed.check Bench.host "database").2 with world := ⟨now, fun _ => course⟩ }

theorem history_later {now : Int} {course : Course} (passed : 0 ≤ now)
    (evolves : Course.Evolves ⟨1, false, some 1⟩ course) :
  Stack.History Bench.host Bench.course failed (failed.findings Bench.host Bench.course "database")
    (later now course)
  := by
  apply Stack.History.other (.check "database" .start)
  apply Stack.Alters.of_passes rfl
  refine ⟨fun _ => evolves, ?_⟩
  apply decide_eq_false (Int.not_lt.mpr passed)

end Sample

/-- The database of the sample is started again when the wait after its failure has passed, which is
justified. -/
theorem Stack.History.start_law_failed :
  .start ∈ (Sample.later 1 ⟨1, false, some 1⟩).checkCalls Bench.host "database"
    ∧ Justified Bench.host Bench.course
      (Sample.failed.findings Bench.host Bench.course "database"
        ++ (Sample.later 1 ⟨1, false, some 1⟩).findings Bench.host Bench.course "database")
      (Sample.later 1 ⟨1, false, some 1⟩) Sample.database
  := by
  have starts : .start ∈ (Sample.later 1 ⟨1, false, some 1⟩).checkCalls Bench.host "database" := by
    decide
  have history := Sample.history_later (by decide : (0 : Int) ≤ 1) (.refl _)
  obtain ⟨f, last, -, -, -, justified⟩ :=
    (history.start_law Bench.orderly_host (fun _ => rfl) rfl).1 starts
  obtain rfl := Option.some.inj last
  exact ⟨starts, justified rfl⟩

/-- A restart that is pending when a service comes back by itself is carried out after the next run,
even if this has ended well and the policy forbids it. -/
theorem start_after_comeback :
  ¬ ∀ ledger k, Stack.History Bench.host Bench.course Sample.failed ledger k →
    .start ∈ k.checkCalls Bench.host "database" →
      Justified Bench.host Bench.course (ledger ++ k.findings Bench.host Bench.course "database") k
        Sample.database
  := by
  intro law
  have comeback : Course.Evolves ⟨1, false, some 1⟩ ⟨2, false, some 0⟩ := ⟨by decide, nofun⟩
  have history := Sample.history_later (by decide : (0 : Int) ≤ 5) comeback
  cases (law _ _ history (by decide)).policy

end Muster
