import Muster.Proofs.Launch.Marks
import Muster.Proofs.StartOrder
import Muster.Stack.Up
/-!
# Runs of the workers

While services are brought up, their workers take turns in any order, the fault of a worker that
has died is taken note of, and others change the stack under the workers: the supervisor looks
after services that run, a stop is asked for, services end, time passes.  `Launch.Run` is the
relation of all runs, with the turns that were taken; what others may do is a parameter of it,
and `Stack.Disturbs` bounds what they ever do.  `Launch.Run.invariant` is the induction over runs,
in which each turn is known by the service whose worker takes it.
-/

namespace Muster

variable {τ σ : Type}

/-- What others may do to the state of a service that is brought up: they leave the flags alone,
and do not put the service back to the beginning. -/
structure ServiceState.Disturbs (s s' : ServiceState) : Prop where
  ready : s'.ready = s.ready
  failed : s'.failed = s.failed
  started : s'.started = s.started
  settled : s'.settled = s.settled
  late : s'.status.isEarly → s.status.isEarly

namespace ServiceState.Disturbs

variable {s s' : ServiceState}

theorem refl (s : ServiceState) :
  s.Disturbs s
  := ⟨rfl, rfl, rfl, rfl, id⟩

theorem has (disturbed : s.Disturbs s') (f : Flag) :
  s'.has f = s.has f
  := by
  cases f
  · apply disturbed.ready
  · apply disturbed.failed
  · apply disturbed.started
  · apply disturbed.settled

theorem grows (disturbed : s.Disturbs s') :
  s.Grows s'
  := by
  intro f set
  rw [disturbed.has, set]

end ServiceState.Disturbs

/-- What others may do to a stack while services are brought up.  A request to stop is not taken
back; the host, the supervisor and the log may change in any way. -/
structure Stack.Disturbs (k k' : Stack τ σ) : Prop where
  keeps : k.stopping = true → k'.stopping = true
  order : k'.order = k.order
  states : ∀ name s, k.states.get? name = some s →
    ∃ s', k'.states.get? name = some s' ∧ s.Disturbs s'

/-- A turn of a worker: its service, and the call that it made of the host. -/
structure Worker.Turn where
  service : String
  call : Option Worker.Call

namespace Launch

/-- The call that the worker of a service makes in its next step, if it makes one. -/
def call? (h : Host τ σ) (l : Launch τ σ) (name : String) : Option Worker.Call :=
  match l.services.get? name, l.workers.get? name with
  | some s, some w => w.call? h s l.stack
  | _, _ => none

/-- The runs from a beginning, with the turns that have been taken. -/
inductive Run (h : Host τ σ) (others : Stack τ σ → Stack τ σ → Prop) (l₀ : Launch τ σ) :
    List Worker.Turn → Launch τ σ → Prop where
  | start : Run h others l₀ [] l₀
  /-- A worker takes its next step, or gives up waiting. -/
  | turn {trace l l' name} (run : Run h others l₀ trace l)
      (taken : l.step h name = some l' ∨ l.quit name = some l') :
    Run h others l₀ (trace ++ [⟨name, l.call? h name⟩]) l'
  /-- The fault of a worker that has died is taken note of. -/
  | join {trace l} (run : Run h others l₀ trace l) : Run h others l₀ trace l.join
  | other {trace l k} (run : Run h others l₀ trace l) (change : others l.stack k) :
    Run h others l₀ trace { l with stack := k }

/-- A service that is brought up, where its worker stands, and its state. -/
structure At (l : Launch τ σ) (s : Service) (w : Worker) (state : ServiceState) : Prop where
  service : l.services.get? s.name = some s
  worker : l.workers.get? s.name = some w
  state : l.stack.states.get? s.name = some state

theorem At.unique {l : Launch τ σ} {s : Service} {w w' : Worker} {state state' : ServiceState}
    (one : l.At s w state) (two : l.At s w' state') :
  w = w' ∧ state = state'
  := ⟨Option.some.inj (one.worker.symm.trans two.worker),
    Option.some.inj (one.state.symm.trans two.state)⟩

/-- What the worker of a service does is done to the run. -/
theorem At.act {l : Launch τ σ} {s : Service} {w : Worker} {state : ServiceState}
    (here : l.At s w state) (f : Service → Worker → Stack τ σ → Option (Worker × Stack τ σ)) :
  l.act s.name f = (f s w l.stack).map fun moved =>
    { l with workers := l.workers.insert s.name moved.1, stack := moved.2 }
  := by
  rw [Launch.act]
  rw [here.service, here.worker]

/-- Every service that is brought up stands under its own name, together with all services it
depends on, and has a worker and a state; there are no other workers. -/
structure Staffed (l : Launch τ σ) : Prop where
  named : ∀ name s, l.services.get? name = some s → s.name = name
  closed : ∀ s, l.services.get? s.name = some s → ∀ d ∈ s.dependencies,
    ∃ r, r.name = d ∧ l.services.get? d = some r
  staffed : ∀ s, l.services.get? s.name = some s → ∃ w state, l.At s w state
  bound : ∀ name w, l.workers.get? name = some w → ∃ s, l.services.get? name = some s

/-- The dependencies of a service that is brought up are brought up themselves. -/
theorem Staffed.exists_dependency {l : Launch τ σ} {s : Service} {d : String} (staffed : l.Staffed)
    (service : l.services.get? s.name = some s) (depends : d ∈ s.dependencies) :
  ∃ r w state, r.name = d ∧ l.At r w state
  := by
  obtain ⟨r, named, there⟩ := staffed.closed s service d depends
  rw [← named] at there
  obtain ⟨w, state, here⟩ := staffed.staffed r there
  exact ⟨r, w, state, named, here⟩

/-- Every worker stands somewhere. -/
theorem Staffed.exists_at {l : Launch τ σ} {w : Worker} (staffed : l.Staffed)
    (mem : w ∈ l.workers.values) :
  ∃ s state, l.At s w state
  := by
  obtain ⟨⟨name, w⟩, entry, rfl⟩ := List.mem_map.mp mem
  have there := Table.get?_eq_some_iff.mpr entry
  obtain ⟨s, found⟩ := staffed.bound name w there
  obtain rfl := staffed.named name s found
  obtain ⟨v, state, here⟩ := staffed.staffed s found
  exact ⟨s, state, found, there, here.state⟩

/-- When all workers have ended, each of them has. -/
theorem At.exists_fault {l : Launch τ σ} {s : Service} {w : Worker} {state : ServiceState}
    (here : l.At s w state) (finished : l.isOver = true) :
  ∃ fault, w = .ended fault
  := by
  have mem := List.mem_map_of_mem (f := Prod.snd) (Table.get?_eq_some_iff.mp here.worker)
  have ended : w.isOver = true := List.all_eq_true.mp finished w mem
  cases w with
  | ended fault => exact ⟨fault, rfl⟩
  | _ => cases ended

/-- A turn of the worker of a service, with all that it changes. -/
structure Takes (h : Host τ σ) (l : Launch τ σ) (s : Service) (w : Worker) (state : ServiceState)
    (call : Option Worker.Call) (w' : Worker) (state' : ServiceState) (l' : Launch τ σ) :
    Prop where
  before : l.At s w state
  moves : Worker.Moves h s l.stack state w call w' state' l'.stack.world
  leaves : Worker.Leaves h s l.stack l'.stack state'
  services : l'.services = l.services
  workers : l'.workers = l.workers.insert s.name w'
  crash : l'.crash = l.crash

namespace Takes

variable {h : Host τ σ} {l l' : Launch τ σ} {s r : Service} {w w' : Worker}
  {state state' : ServiceState} {call : Option Worker.Call}

theorem after (t : Takes h l s w state call w' state' l') :
  l'.At s w' state'
  where
  service := t.services ▸ t.before.service
  worker := by simp [t.workers]
  state := by simp [t.leaves.states]

/-- A turn of the worker of a service leaves all other services where they are. -/
theorem at_other_iff (t : Takes h l s w state call w' state' l') (other : r.name ≠ s.name)
    {v : Worker} {seen : ServiceState} :
  l'.At r v seen ↔ l.At r v seen
  := by
  have worker : l'.workers.get? r.name = l.workers.get? r.name := by simp [t.workers, other]
  have state : l'.stack.states.get? r.name = l.stack.states.get? r.name := by
    simp [t.leaves.states, other]
  constructor
  · intro a
    exact ⟨t.services ▸ a.service, worker ▸ a.worker, state ▸ a.state⟩
  · intro a
    exact ⟨t.services.symm ▸ a.service, worker.symm ▸ a.worker, state.symm ▸ a.state⟩

end Takes

/-- Services with one name are one service. -/
theorem eq_of_name {l : Launch τ σ} {s r : Service}
    (hs : l.services.get? s.name = some s) (hr : l.services.get? r.name = some r)
    (same : r.name = s.name) :
  r = s
  := by
  rw [same, hs] at hr
  exact (Option.some.inj hr).symm

section Takes

variable {h : Host τ σ} {l l' : Launch τ σ} {s r : Service} {w w' v : Worker}
  {state state' seen : ServiceState} {call : Option Worker.Call}

/-- What is there before a turn is what takes it, or it is still there afterwards. -/
theorem Takes.cases_before (t : Takes h l s w state call w' state' l') (here : l.At r v seen) :
  (r = s ∧ v = w ∧ seen = state) ∨ (r.name ≠ s.name ∧ l'.At r v seen)
  := by
  by_cases same : r.name = s.name
  · obtain rfl := eq_of_name t.before.service here.service same
    exact .inl ⟨rfl, here.unique t.before⟩
  · exact .inr ⟨same, (t.at_other_iff same).mpr here⟩

/-- What is there after a turn is what has come of it, or it has been there before. -/
theorem Takes.cases_after (t : Takes h l s w state call w' state' l') (here : l'.At r v seen) :
  (r = s ∧ v = w' ∧ seen = state') ∨ (r.name ≠ s.name ∧ l.At r v seen)
  := by
  by_cases same : r.name = s.name
  · obtain rfl := eq_of_name t.before.service (t.services ▸ here.service) same
    exact .inl ⟨rfl, here.unique t.after⟩
  · exact .inr ⟨same, (t.at_other_iff same).mp here⟩

end Takes

section Act

variable {h : Host τ σ} {l l' : Launch τ σ} {name : String}

theorem act_eq_some {f : Service → Worker → Stack τ σ → Option (Worker × Stack τ σ)}
    (act : l.act name f = some l') :
  ∃ s w w' k', l.services.get? name = some s ∧ l.workers.get? name = some w
    ∧ f s w l.stack = some (w', k')
    ∧ l' = { l with workers := l.workers.insert name w', stack := k' }
  := by
  rw [Launch.act] at act
  split at act
  · next s w hs hw =>
    obtain ⟨⟨w', k'⟩, taken, rfl⟩ := Option.map_eq_some_iff.mp act
    exact ⟨s, w, w', k', hs, hw, taken, rfl⟩
  · cases act

/-- What a worker does in a run in which it takes a step or gives up. -/
theorem Staffed.takes (staffed : l.Staffed)
    (taken : l.step h name = some l' ∨ l.quit name = some l') :
  ∃ s w state w' state', s.name = name ∧ Takes h l s w state (l.call? h name) w' state' l'
  := by
  rcases taken with step | quit
  · obtain ⟨s, w, w', k', hs, hw, moved, rfl⟩ := act_eq_some step
    obtain rfl := staffed.named name s hs
    obtain ⟨v, state, here⟩ := staffed.staffed s hs
    obtain ⟨state', moves, leaves⟩ := Worker.moves_of_step here.state moved
    have call : l.call? h s.name = w.call? h s l.stack := by simp [call?, hs, hw]
    exact ⟨s, w, state, w', state', rfl, ⟨hs, hw, here.state⟩, call ▸ moves, leaves, rfl, rfl, rfl⟩
  · obtain ⟨s, w, w', k', hs, hw, moved, rfl⟩ := act_eq_some quit
    obtain rfl := staffed.named name s hs
    obtain ⟨v, state, here⟩ := staffed.staffed s hs
    obtain ⟨moves, leaves⟩ := Worker.moves_of_quit (h := h) here.state moved
    have call : l.call? h s.name = w.call? h s l.stack := by simp [call?, hs, hw]
    exact ⟨s, w, state, w', state, rfl, ⟨hs, hw, here.state⟩, call ▸ moves, leaves, rfl, rfl, rfl⟩

end Act

/-! ### What a run keeps -/

section Join

variable {l : Launch τ σ}

theorem services_join :
  l.join.services = l.services
  := by
  rw [join]
  split <;> rfl

theorem workers_join :
  l.join.workers = l.workers
  := by
  rw [join]
  split <;> rfl

theorem states_join :
  l.join.stack.states = l.stack.states
  := by
  rw [join]
  split <;> rfl

theorem order_join :
  l.join.stack.order = l.stack.order
  := by
  rw [join]
  split <;> rfl

theorem stopping_join (stop : l.stack.stopping = true) :
  l.join.stack.stopping = true
  := by
  rw [join]
  split
  · rfl
  · exact stop

theorem at_join_iff {s : Service} {w : Worker} {state : ServiceState} :
  l.join.At s w state ↔ l.At s w state
  := by
  constructor
  · rintro ⟨service, worker, state⟩
    exact ⟨services_join ▸ service, workers_join ▸ worker, states_join ▸ state⟩
  · rintro ⟨service, worker, state⟩
    exact ⟨services_join.symm ▸ service, workers_join.symm ▸ worker, states_join.symm ▸ state⟩

end Join

section Other

variable {l : Launch τ σ} {k : Stack τ σ} {s : Service} {w : Worker}

/-- Others leave every worker where it stands. -/
theorem At.disturb {state : ServiceState} (here : l.At s w state) (change : l.stack.Disturbs k) :
  ∃ state', { l with stack := k }.At s w state' ∧ state.Disturbs state'
  := by
  obtain ⟨state', found, disturbed⟩ := change.states _ _ here.state
  exact ⟨state', ⟨here.service, here.worker, found⟩, disturbed⟩

theorem At.of_disturb (staffed : l.Staffed) (change : l.stack.Disturbs k) {state' : ServiceState}
    (here : { l with stack := k }.At s w state') :
  ∃ state, l.At s w state ∧ state.Disturbs state'
  := by
  obtain ⟨v, state, before⟩ := staffed.staffed s here.service
  obtain ⟨state'', after, disturbed⟩ := before.disturb change
  obtain ⟨rfl, rfl⟩ := here.unique after
  exact ⟨state, before, disturbed⟩

end Other

theorem Staffed.join {l : Launch τ σ} (staffed : l.Staffed) :
  l.join.Staffed
  where
  named := services_join.symm ▸ staffed.named
  closed := services_join.symm ▸ staffed.closed
  staffed s hs := by
    obtain ⟨w, state, here⟩ := staffed.staffed s (services_join ▸ hs)
    exact ⟨w, state, at_join_iff.mpr here⟩
  bound name w hw := by
    rw [workers_join] at hw
    rw [services_join]
    apply staffed.bound name w hw

theorem Staffed.other {l : Launch τ σ} {k : Stack τ σ} (staffed : l.Staffed)
    (change : l.stack.Disturbs k) :
  { l with stack := k }.Staffed
  where
  named := staffed.named
  closed := staffed.closed
  staffed s hs := by
    obtain ⟨w, state, here⟩ := staffed.staffed s hs
    obtain ⟨state', there, -⟩ := here.disturb change
    exact ⟨w, state', there⟩
  bound := staffed.bound

theorem Staffed.turn {h : Host τ σ} {l l' : Launch τ σ} {s : Service} {w w' : Worker}
    {state state' : ServiceState} {call : Option Worker.Call} (staffed : l.Staffed)
    (takes : Takes h l s w state call w' state' l') :
  l'.Staffed
  where
  named := takes.services.symm ▸ staffed.named
  closed := takes.services.symm ▸ staffed.closed
  staffed r hr := by
    rw [takes.services] at hr
    by_cases same : r.name = s.name
    · obtain rfl := eq_of_name takes.before.service hr same
      exact ⟨w', state', takes.after⟩
    · obtain ⟨v, seen, here⟩ := staffed.staffed r hr
      exact ⟨v, seen, (takes.at_other_iff same).mpr here⟩
  bound name v hv := by
    rw [takes.services]
    by_cases same : name = s.name
    · exact ⟨s, same ▸ takes.before.service⟩
    · rw [takes.workers, Table.get?_insert, if_neg same] at hv
      apply staffed.bound name v hv

section Invariant

variable {h : Host τ σ} {others : Stack τ σ → Stack τ σ → Prop} {l₀ l : Launch τ σ}
  {trace : List Worker.Turn}

/-- In a run everything stays staffed if others only disturb. -/
theorem Run.staffed (run : l₀.Run h others trace l) (staffed : l₀.Staffed)
    (bound : ∀ k k', others k k' → k.Disturbs k') :
  l.Staffed
  := by
  induction run with
  | start => exact staffed
  | turn run taken ih =>
    obtain ⟨s, w, state, w', state', rfl, takes⟩ := ih.takes taken
    apply ih.turn takes
  | join run ih => apply ih.join
  | other run change ih => apply ih.other (bound _ _ change)

/-- The induction over runs: what holds at the beginning and is kept by the turns of the workers,
by the taking note of faults, and by others, holds throughout. -/
theorem Run.invariant (run : l₀.Run h others trace l) (staffed : l₀.Staffed)
    (bound : ∀ k k', others k k' → k.Disturbs k') {P : List Worker.Turn → Launch τ σ → Prop}
    (start : P [] l₀)
    (turn : ∀ {trace l l' s w state call w' state'}, l.Staffed → P trace l →
      Takes h l s w state call w' state' l' → P (trace ++ [⟨s.name, call⟩]) l')
    (join : ∀ {trace l}, P trace l → P trace l.join)
    (other : ∀ {trace l k}, l.Staffed → P trace l → others l.stack k →
      P trace { l with stack := k }) :
  P trace l
  := by
  induction run with
  | start => exact start
  | turn run taken ih =>
    have sound := run.staffed staffed bound
    obtain ⟨s, w, state, w', state', rfl, takes⟩ := sound.takes taken
    apply turn sound ih takes
  | join run ih => apply join ih
  | other run change ih => apply other (run.staffed staffed bound) ih change

theorem Run.services (run : l₀.Run h others trace l) :
  l.services = l₀.services
  := by
  induction run with
  | start => rfl
  | turn run taken ih =>
    rcases taken with act | act
    all_goals
      obtain ⟨s, w, w', k', -, -, -, rfl⟩ := act_eq_some act
      exact ih
  | join run ih => rw [services_join, ih]
  | other run change ih => exact ih

end Invariant

/-! ### Workers that take turns -/

section Turns

variable {h : Host τ σ} {others : Stack τ σ → Stack τ σ → Prop} {l₀ l : Launch τ σ}
  {trace : List Worker.Turn}

/-- In a turn a worker takes its next step, or everything stays as it is. -/
theorem turn_cases (h : Host τ σ) (patient : Bool) (l : Launch τ σ) (name : String) :
  l.turn h patient name = l ∨ l.step h name = some (l.turn h patient name)
  := by
  rw [turn]
  split
  · exact .inl rfl
  · cases next : l.step h name with
    | none => exact .inl rfl
    | some l' => exact .inr rfl

/-- Any workers may take turns, one after the other. -/
theorem Run.turns (run : l₀.Run h others trace l) (patient : Bool) (names : List String) :
  ∃ trace', l₀.Run h others trace' (names.foldl (Launch.turn h patient) l)
  := by
  induction names generalizing trace l with
  | nil => exact ⟨trace, run⟩
  | cons first rest ih =>
    rw [List.foldl_cons]
    rcases turn_cases h patient l first with same | step
    · rw [same]
      apply ih run
    · apply ih (run.turn (.inl step))

end Turns

/-! ### The beginning of a run -/

theorem get?_states_enroll (order : List String) (k : Stack τ σ) (name : String) :
  (order.foldl Stack.enroll k).states.get? name
    = if name ∈ order then some { name } else k.states.get? name
  := by
  induction order generalizing k with
  | nil => rfl
  | cons first rest ih =>
    have step : (k.enroll first).states = k.states.insert first { name := first } := by
      unfold Stack.enroll Stack.meet
      split <;> rfl
    rw [List.foldl_cons, ih, step, Table.get?_insert]
    by_cases later : name ∈ rest
    · simp [later]
    · by_cases here : name = first
      · simp [here]
      · simp [later, here]

/-- Enrolling services changes nothing but the states and what the host has been told about. -/
theorem exists_enroll (order : List String) (k : Stack τ σ) :
  ∃ states known, order.foldl Stack.enroll k = { k with states, known }
  := by
  induction order generalizing k with
  | nil => exact ⟨k.states, k.known, rfl⟩
  | cons first rest ih =>
    obtain ⟨states, known, same⟩ := ih (k.enroll first)
    refine ⟨states, known, ?_⟩
    rw [List.foldl_cons, same]
    unfold Stack.enroll Stack.meet
    split <;> rfl

/-- What is true of a run that has only been begun. -/
structure Fresh (l : Launch τ σ) : Prop where
  staffed : l.Staffed
  start : ∀ s w state, l.At s w state → w = Worker.begin s ∧ state = { name := s.name }
  ranked : ∃ rank : String → Nat, ∀ s, l.services.get? s.name = some s →
    ∀ d ∈ s.dependencies, rank d < rank s.name
  crash : l.crash = none
  free : l.stack.stopping = false

section Begin

variable {k : Stack τ σ} {active : Descriptor} {waves : List (List String)}

/-- What is changed at the beginning of a run. -/
theorem exists_stack_begin (k : Stack τ σ) (active : Descriptor) (waves : List (List String)) :
  ∃ states known log, (begin k active waves).stack
    = { k with order := waves.flatten, supervisor := k.supervisor.reopen, states, known, log }
  := by
  obtain ⟨states, known, same⟩ := exists_enroll waves.flatten _
  exact ⟨states, known, _, same⟩

theorem stopping_begin :
  (begin k active waves).stack.stopping = false
  := by
  obtain ⟨states, known, log, same⟩ := exists_stack_begin k active waves
  rw [same]
  rfl

theorem order_begin :
  (begin k active waves).stack.order = waves.flatten
  := by
  obtain ⟨states, known, log, same⟩ := exists_stack_begin k active waves
  rw [same]

theorem world_begin :
  (begin k active waves).stack.world = k.world
  := by
  obtain ⟨states, known, log, same⟩ := exists_stack_begin k active waves
  rw [same]

theorem named_of_get? {name : String} {s : Service} (found : active.services.get? name = some s) :
  s.name = name
  := (active.named _ (Table.get?_eq_some_iff.mp found)).symm

/-- Where the workers and the states stand at the beginning. -/
theorem at_begin (ok : active.startWaves = .ok waves) {s : Service}
    (found : active.services.get? s.name = some s) :
  (begin k active waves).At s (Worker.begin s) { name := s.name }
  where
  service := found
  worker := by
    show (active.services.map Worker.begin).get? s.name = _
    rw [Table.get?_map, found]
    rfl
  state := by
    have listed : s.name ∈ waves.flatten := by
      rw [(Descriptor.flatten_startWaves_perm ok).mem_iff]
      apply List.mem_map_of_mem (Table.get?_eq_some_iff.mp found)
    exact (get?_states_enroll _ _ _).trans (if_pos listed)

theorem fresh_begin (ok : active.startWaves = .ok waves) :
  (begin k active waves).Fresh
  where
  staffed := {
    named _ _ found := named_of_get? found
    closed s found d hd := by
      have key := active.closed _ (Table.get?_eq_some_iff.mp found) d hd
      obtain ⟨e, he, rfl⟩ := List.mem_map.mp key
      exact ⟨e.2, (active.named e he).symm, Table.get?_eq_some_iff.mpr he⟩
    staffed s found := ⟨_, _, at_begin ok found⟩
    bound name w found := by
      have : (active.services.map Worker.begin).get? name = some w := found
      rw [Table.get?_map] at this
      obtain ⟨s, there, -⟩ := Option.map_eq_some_iff.mp this
      exact ⟨s, there⟩ }
  start s w state here := by
    have := here.unique (at_begin ok here.service)
    exact this
  ranked := by
    use waves.flatten.idxOf
    intro s found d hd
    have mem := List.mem_map_of_mem (f := fun e => (e.1, e.2.dependencies))
      (Table.get?_eq_some_iff.mp found)
    apply Descriptor.startWaves_ranks ok _ mem d hd
  crash := rfl
  free := stopping_begin

/-- A selection is accepted when the whole stack can be put in order and the selection makes
sense. -/
theorem plan_eq_ok_iff {profiles services : List String} :
  k.plan profiles services = .ok active
    ↔ (∃ waves, k.descriptor.startWaves = .ok waves)
      ∧ k.descriptor.select profiles services = .ok active
  := by
  unfold Stack.plan Descriptor.startOrder
  cases k.descriptor.startWaves with
  | error fault => simp [Except.map]
  | ok waves =>
    cases k.descriptor.select profiles services with
    | error fault => simp [Except.map, Except.mapError]
    | ok d => simp [Except.map, Except.mapError]

/-- A selection that is accepted can be brought up. -/
theorem exists_begin {profiles services : List String}
    (accepted : k.plan profiles services = .ok active) :
  ∃ waves, active.startWaves = .ok waves
    ∧ k.launch profiles services = .ok (begin k active waves)
  := by
  obtain ⟨⟨all, ok⟩, selected⟩ := plan_eq_ok_iff.mp accepted
  obtain ⟨waves, ok⟩ := Descriptor.exists_startWaves
    (Descriptor.ranks_of_select selected (Descriptor.startWaves_ranks ok))
  exact ⟨waves, ok, by simp [Stack.launch, accepted, ok, Except.map]⟩

theorem exists_begin_of_launch {l : Launch τ σ} {profiles services : List String}
    (launched : k.launch profiles services = .ok l) :
  ∃ active waves, k.plan profiles services = .ok active ∧ active.startWaves = .ok waves
    ∧ l = begin k active waves
  := by
  rw [Stack.launch] at launched
  split at launched
  · cases launched
  · next active accepted =>
    obtain ⟨waves, ok, -⟩ := exists_begin accepted
    rw [ok] at launched
    cases launched
    exact ⟨active, waves, accepted, ok, rfl⟩

end Begin

end Launch

/-! ### A stack of three services -/

namespace Sample

/-- A service without a health check, which is started again after a failure. -/
def database : Service where
  name := "database"
  restart := .onFailure

/-- A service that waits for the database. -/
def web : Service where
  name := "web"
  dependsOn := ⟨[("database", .healthy)], by decide⟩

/-- A service with a health check that is run at most twice. -/
def mail : Service where
  name := "mail"
  healthCheck := some {
    test := ["CMD", "mailq"], interval := 1, timeout := 1, retries := 2, startPeriod := 0
    disabled := false }

/-- The stack of the three services. -/
def stack (world : σ) : Stack Int σ where
  descriptor := {
    project := "sample"
    services := ⟨[("web", web), ("mail", mail), ("database", database)], by decide⟩
    named := by simp [database, web, mail]
    closed := by decide }
  backoff := ⟨1, 30, 10⟩
  stopTimeout := 10
  world

/-- A host at which everything goes well. -/
def host : Host Int Unit where
  clock _ := 0
  start _ world := (.ok (), world)
  stop _ _ world := (.ok (), world)
  isRunning _ world := (.ok true, world)
  exitCode _ world := (.ok none, world)
  check _ _ world := (.ok { success := true }, world)
  teardown world := (.ok (), world)

theorem startWaves_stack (world : σ) :
  (stack world).descriptor.startWaves = .ok [["mail", "database"], ["web"]]
  := by
  have graph : (stack world).descriptor.graph
    = [("web", ["database"]), ("mail", []), ("database", [])] := rfl
  rw [Descriptor.startWaves_eq_ok_iff, graph]
  simp [StartOrder.split, StartOrder.free, StartOrder.nodes, StartOrder.remove]

/-- The stack can be brought up as a whole. -/
theorem plan_stack (world : σ) :
  (stack world).plan [] [] = .ok (stack world).descriptor
  := Launch.plan_eq_ok_iff.mpr ⟨⟨_, startWaves_stack world⟩, rfl⟩

/-- The start of the run in which the stack is brought up. -/
def launch (world : σ) : Launch Int σ :=
  .begin (stack world) (stack world).descriptor [["mail", "database"], ["web"]]

theorem launch_stack (world : σ) :
  (stack world).launch [] [] = .ok (launch world)
  := by
  simp [Stack.launch, plan_stack, startWaves_stack, Except.map, launch]

end Sample

end Muster
