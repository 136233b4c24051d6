import Muster.Proofs.Chronicle.Watched
/-!
# What goes on after a stack has been taken down

Taking a stack down stops the services of its start order and no others, and the start order is that
of the services that were brought up last.  So a service that was brought up before, but not the last
time, is not stopped: if it is running, it goes on.  Only when nothing was selected the last time, all
services of the stack are stopped.
-/

namespace Muster

variable {τ σ : Type}

/-! ### Stopping services -/

/-- A service is running, as the host says. -/
def Host.Runs (h : Host τ σ) (s : Service) (w : σ) : Prop :=
  (h.isRunning s w).1.result = .ok true

/-- A host at which a service no longer runs once it has been stopped without a fault, and at which
no other service ends, or comes up, while services are stopped. -/
structure Host.Stops (h : Host τ σ) : Prop where
  ends : ∀ s time w, (h.stop s time w).1.result = .ok () → ¬ h.Runs s (h.stop s time w).2
  others : ∀ s time w r, r.name ≠ s.name → (h.Runs r (h.stop s time w).2 ↔ h.Runs r w)
  teardown : ∀ w r, h.Runs r (h.teardown w).2 ↔ h.Runs r w

namespace Stack

variable {h : Host τ σ} {k : Stack τ σ} {s : Service}

/-- No stop fails when some services are stopped, one after the other. -/
def StopsWell (h : Host τ σ) : List Service → Stack τ σ → Prop
  | [], _ => True
  | s :: rest, k => (h.stop s k.stopTimeout k.world).1.result = .ok ()
    ∧ StopsWell h rest (k.stopService h s).2

/-- No stop fails when a stack is taken down. -/
def GoesDownWell (h : Host τ σ) (k : Stack τ σ) : Prop :=
  ∀ order, k.currentOrder = .ok order →
    StopsWell h (order.reverse.filterMap k.descriptor.services.get?)
      { k with supervisor := k.supervisor.stop }

theorem world_stopService (h : Host τ σ) (k : Stack τ σ) (s : Service) :
  (k.stopService h s).2.world = (h.stop s k.stopTimeout k.world).2
  := by
  obtain ⟨states, known, log, same⟩ := exists_stopService h k s
  rw [same]
  rfl

theorem stopService_of_ok (well : (h.stop s k.stopTimeout k.world).1.result = .ok ()) :
  (k.stopService h s).1 = .ok ()
  := by
  obtain ⟨known, met⟩ := exists_meet (k.note (.about .info "service_stopping" s.name [])) s.name
  unfold stopService
  rw [met]
  simp only
  split
  · rfl
  all_goals
    next called => cases (congrArg Prod.fst called).symm.trans well

/-- Of the services that run, those that are stopped do not run afterwards, and all others do. -/
theorem runs_stopServices (stops : h.Stops) {services : List Service}
    (well : StopsWell h services k) (distinct : ∀ r ∈ services, r.name = s.name → r = s) :
  (stopServices h services k).1 = .ok ()
    ∧ (h.Runs s (stopServices h services k).2.world ↔ h.Runs s k.world ∧ s ∉ services)
  := by
  induction services generalizing k with
  | nil => exact ⟨rfl, by simp [stopServices]⟩
  | cons r rest ih =>
    obtain ⟨first, well⟩ := well
    have done := stopService_of_ok first
    obtain ⟨all, later⟩ := ih well fun r mem => distinct r (List.mem_cons_of_mem _ mem)
    have same : stopServices h (r :: rest) k = stopServices h rest (k.stopService h r).2 := by
      rw [stopServices]
      split
      · next called => rw [called]
      · next failed =>
        cases failed _ (Prod.ext done rfl)
    rw [same]
    refine ⟨all, later.trans ?_⟩
    rw [world_stopService]
    by_cases own : r.name = s.name
    · obtain rfl := distinct r List.mem_cons_self own
      simp [stops.ends r _ _ first]
    · have other : s ≠ r := by
        rintro rfl
        apply own rfl
      rw [stops.others r _ _ s (Ne.symm own)]
      simp [other]

theorem mem_services_iff {order : List String}
    (listed : k.descriptor.services.get? s.name = some s) :
  s ∈ order.reverse.filterMap k.descriptor.services.get? ↔ s.name ∈ order
  := by
  rw [List.mem_filterMap]
  constructor
  · rintro ⟨name, mem, found⟩
    obtain rfl := Launch.named_of_get? found
    apply List.mem_reverse.mp mem
  · intro mem
    exact ⟨s.name, List.mem_reverse.mpr mem, listed⟩

/-- A service that runs goes on when the stack is taken down, unless it is in the start order. -/
theorem runs_down (stops : h.Stops) (well : k.GoesDownWell h) {order : List String}
    (ordered : k.currentOrder = .ok order)
    (listed : k.descriptor.services.get? s.name = some s) :
  h.Runs s (k.down h).2.world ↔ h.Runs s k.world ∧ s.name ∉ order
  := by
  have distinct : ∀ r ∈ order.reverse.filterMap k.descriptor.services.get?,
      r.name = s.name → r = s := by
    intro r mem own
    obtain ⟨name, -, found⟩ := List.mem_filterMap.mp mem
    obtain rfl := Launch.named_of_get? found
    rw [own, listed] at found
    exact (Option.some.inj found).symm
  obtain ⟨all, runs⟩ := runs_stopServices stops (well order ordered) distinct
  rw [mem_services_iff listed] at runs
  refine Iff.trans ?_ runs
  have ordered' : { k with supervisor := k.supervisor.stop }.currentOrder = .ok order := ordered
  rw [down]
  simp only [ordered']
  split
  · next called =>
    rw [called] at all
    cases all
  · next stopped called =>
    rw [called]
    have released := stops.teardown stopped.world s
    split
    all_goals
      next called =>
      have world := congrArg (·.2.world) called
      simp only [world_hear] at world
      rw [world] at released
      exact released

end Stack

/-! ### What was brought up last -/

/-- The start order that an event brings. -/
def Event.order? : Event → Option (List String)
  | chosen order => some order
  | _ => none

/-- The services that were brought up last, in the order of their start. -/
def lastChosen (events : List Event) : List String :=
  events.foldl (fun order event => event.order?.getD order) []

theorem lastChosen_append (events : List Event) (event : Option Event) :
  lastChosen (events ++ event.toList) = (event.bind Event.order?).getD (lastChosen events)
  := by
  cases event with
  | none => simp
  | some event => simp [lastChosen]

theorem lastChosen_turn (events : List Event) (turn : Worker.Turn) :
  lastChosen (events ++ turn.event?.toList) = lastChosen events
  := by
  rw [lastChosen_append]
  cases told : turn.event? with
  | none => rfl
  | some event =>
    obtain ⟨result, rfl, -⟩ := Worker.Turn.eq_of_event? told
    rfl

namespace Phase

/-- The start order is that of the services that were brought up last, and services are brought up
only if the whole stack can be put in order. -/
structure Kept (p : Phase τ σ) (d : Descriptor) (events : List Event) : Prop where
  descriptor : p.stack.descriptor = d
  order : p.stack.order = lastChosen events
  sorted : ∀ l, p = .busy l → ∃ waves, d.startWaves = .ok waves

variable {p p' : Phase τ σ} {k : Stack τ σ} {d : Descriptor} {events events' : List Event}

theorem Kept.of_retains (kept : p.Kept d events) (retains : p.stack.Retains p'.stack)
    (same : lastChosen events' = lastChosen events)
    (sorted : ∀ l', p' = .busy l' → ∃ l, p = .busy l) :
  p'.Kept d events'
  where
  descriptor := retains.descriptor.trans kept.descriptor
  order := (retains.order.trans kept.order).trans same.symm
  sorted l' busy := by
    obtain ⟨l, before⟩ := sorted l' busy
    apply kept.sorted l before

theorem Kept.idle (kept : p.Kept d events) (retains : p.stack.Retains k)
    (same : lastChosen events' = lastChosen events) :
  (Phase.idle k).Kept d events'
  := kept.of_retains retains same nofun

theorem Kept.onStack (kept : p.Kept d events) {f : Stack τ σ → Stack τ σ}
    (retains : p.stack.Retains (f p.stack)) (same : lastChosen events' = lastChosen events) :
  (p.onStack f).Kept d events'
  := by
  refine kept.of_retains (by simpa using retains) same fun l' after => ?_
  cases p with
  | idle k => cases after
  | busy l => exact ⟨l, rfl⟩

variable {h : Host τ σ} {l l' : Launch τ σ}

theorem Kept.turn {name : String} (kept : (busy l).Kept d events)
    (taken : l.step h name = some l' ∨ l.quit name = some l') :
  (busy l').Kept d (events ++ (Worker.Turn.event? ⟨name, l.call? h name⟩).toList)
  := by
  obtain ⟨descriptor, order⟩ :
      l'.stack.descriptor = l.stack.descriptor ∧ l'.stack.order = l.stack.order := by
    rcases Launch.retains_of_taken taken with ⟨s, now, -, -, same⟩ | retains
    · rw [same]
      exact ⟨rfl, rfl⟩
    · exact ⟨retains.descriptor, retains.order⟩
  refine ⟨descriptor.trans kept.descriptor, ?_, fun _ _ => kept.sorted l rfl⟩
  rw [lastChosen_turn]
  exact order.trans kept.order

variable [Timeline τ] {event : Option Event}

theorem Kept.step (kept : p.Kept d events) (next : p.Step h event p') :
  p'.Kept d (events ++ event.toList)
  := by
  cases next with
  | @begin k l profiles services launched =>
    obtain ⟨active, waves, accepted, -, rfl⟩ := Launch.exists_begin_of_launch launched
    obtain ⟨states, known, log, same⟩ := Launch.exists_stack_begin k active waves
    have descriptor : (Launch.begin k active waves).stack.descriptor = k.descriptor := by rw [same]
    refine ⟨descriptor.trans kept.descriptor,
      (lastChosen_append events (some (.chosen _))).symm, fun _ _ => ?_⟩
    rw [← kept.descriptor]
    apply (Launch.plan_eq_ok_iff.mp accepted).1
  | turn taken => apply kept.turn taken
  | @join l =>
    have joined : (busy l).stack.Retains (busy l.join).stack := Launch.retains_join l
    apply kept.of_retains joined (lastChosen_append ..) fun _ _ => ⟨l, rfl⟩
  | finish => apply kept.idle (Launch.retains_finish _) (lastChosen_append ..)
  | @down k =>
    have stopped := Stack.retains_down (h := h) k
    exact ⟨stopped.descriptor.trans kept.descriptor,
      (stopped.order.trans kept.order).trans (lastChosen_append events (some .down)).symm, nofun⟩
  | ps => apply kept.idle (Stack.retains_ps _) (lastChosen_append ..)
  | check name =>
    apply kept.onStack (Stack.retains_check ..)
    rw [lastChosen_append, checkEvent?]
    split <;> rfl
  | stop => apply kept.onStack (Stack.retains_requestStop _) (lastChosen_append ..)
  | pass world => apply kept.onStack (.of_eq rfl) (lastChosen_append ..)

end Phase

/-! ### What goes on -/

/-- Nothing has been done with a stack yet. -/
structure Stack.Unused (k : Stack τ σ) : Prop where
  order : k.order = []
  watched : ∀ name, k.supervisor.isWatching name = false

/-- A service has been started, by a worker or by the supervisor. -/
def Used (events : List Event) (name : String) : Prop :=
  (∃ result, .started name result ∈ events) ∨ .restarted name ∈ events

namespace Chronicle

variable [Timeline τ] {h : Host τ σ} {k₀ k : Stack τ σ} {p : Phase τ σ} {events : List Event}
  {name : String} {s : Service}

theorem kept (chronicle : Chronicle h (.idle k₀) events p) (order : k₀.order = []) :
  p.Kept k₀.descriptor events
  := by
  induction chronicle with
  | start => exact ⟨rfl, order, nofun⟩
  | step chronicle next ih => exact ih.step next

/-- When a service has been started, the whole stack can be put in order. -/
theorem exists_startWaves (chronicle : Chronicle h (.idle k₀) events p) (unused : k₀.Unused)
    (used : Used events name) :
  ∃ waves, k₀.descriptor.startWaves = .ok waves
  := by
  have started : ∃ result, .started name result ∈ events := by
    rcases used with started | restarted
    · exact started
    · -- What is started again is watched, and so it has been started before.
      obtain ⟨before, after, split⟩ := List.append_of_mem restarted
      obtain ⟨q, q', first, again, -⟩ := chronicle.exists_step split
      have idle : (Phase.idle k₀).Earned [] := by
        refine ⟨fun other watched => ?_, nofun⟩
        cases (unused.watched other).symm.trans watched
      have watched := Stack.isWatching_of_start (again.tells rfl)
      have earlier := (first.earned idle).watched name watched
      exact ⟨.ok (), by rw [split]; apply List.mem_append_left _ earlier⟩
  obtain ⟨result, started⟩ := started
  obtain ⟨before, after, split⟩ := List.append_of_mem started
  obtain ⟨q, q', first, start, -⟩ := chronicle.exists_step split
  obtain ⟨l, rfl, -⟩ := start.tells rfl
  apply (first.kept unused.order).sorted l rfl

/-- When services were brought up the last time, the stack is taken down in their order. -/
theorem currentOrder_eq (chronicle : Chronicle h (.idle k₀) events (.idle k))
    (order : k₀.order = []) (some : lastChosen events ≠ []) :
  k.currentOrder = .ok (lastChosen events)
  := by
  have order : k.order = lastChosen events := (chronicle.kept order).order
  simp [Stack.currentOrder, order, some]

/-- When a stack has been taken down and no stop has failed, a service that was ever started goes on
if it was running and was not among those that were brought up last.  All services are stopped if
there were none the last time. -/
theorem runs_after_down (stops : h.Stops) (unused : k₀.Unused)
    (chronicle : Chronicle h (.idle k₀) events (.idle k)) (well : k.GoesDownWell h)
    (listed : k.descriptor.services.get? s.name = some s) (used : Used events s.name) :
  h.Runs s (k.down h).2.world
    ↔ h.Runs s k.world ∧ lastChosen events ≠ [] ∧ s.name ∉ lastChosen events
  := by
  -- When nothing was selected the last time, the order is that of the whole stack.
  by_cases none : lastChosen events = []
  · obtain ⟨waves, ok⟩ := chronicle.exists_startWaves unused used
    have kept := chronicle.kept unused.order
    have order : k.order = lastChosen events := kept.order
    have descriptor : k.descriptor = k₀.descriptor := kept.descriptor
    have ordered : k.currentOrder = .ok waves.flatten := by
      simp [Stack.currentOrder, order, none, Descriptor.startOrder, descriptor, ok, Except.map]
    have all : s.name ∈ waves.flatten := by
      rw [(Descriptor.flatten_startWaves_perm ok).mem_iff, ← descriptor]
      apply List.mem_map_of_mem (Table.get?_eq_some_iff.mp listed)
    simp [Stack.runs_down stops well ordered listed, all, none]
  · have ordered := chronicle.currentOrder_eq unused.order none
    simp [Stack.runs_down stops well ordered listed, none]

end Chronicle

/-! ### A service that goes on -/

namespace Bench

/-- The run of a service ends with exit code 0. -/
def halt (name : String) (b : Bench) : Bench where
  now := b.now
  courses other :=
    if other = name then ⟨(b.courses name).run, false, some 0⟩ else b.courses other

/-- A host at which services end when they are stopped. -/
def halting : Host Int Bench :=
  { host with stop := fun s _ b => (.ok (), b.halt s.name) }

theorem stops_halting :
  halting.Stops
  where
  ends s time b _ runs := by
    have told : (course s.name (b.halt s.name)).running = true := Except.ok.inj runs
    simp [course, halt] at told
  others s time b r other := by
    simp [Host.Runs, halting, host, course, halt, other, Reply.ok]
  teardown _ _ := .rfl

theorem goesDownWell_halting (k : Stack Int Bench) :
  k.GoesDownWell halting
  := by
  intro order _
  generalize order.reverse.filterMap k.descriptor.services.get? = services
  generalize ({ k with supervisor := k.supervisor.stop } : Stack Int Bench) = k
  induction services generalizing k with
  | nil => trivial
  | cons s rest ih => exact ⟨rfl, ih _⟩

end Bench

namespace Sample

theorem unused_both :
  both.Unused
  := ⟨rfl, fun _ => rfl⟩

/-- First the blog is brought up, and then the shop. -/
def oneByOne : List Event :=
  [.chosen ["blog"], .started "blog" (.ok ()), .chosen ["shop"], .started "shop" (.ok ())]

theorem used_oneByOne {name : String} (listed : name = "blog" ∨ name = "shop") :
  Used oneByOne (apart name).name
  := .inl ⟨.ok (), by simpa [oneByOne, apart] using listed⟩

set_option maxRecDepth 2000 in
theorem exists_oneByOne :
  ∃ k, Chronicle Bench.halting (.idle both) oneByOne (.idle k)
    ∧ Bench.halting.Runs (apart "blog") k.world
  := by
  have first : Chronicle Bench.halting (.idle both) _ _ :=
    Chronicle.start.step (.begin (launch_pair rfl (.inl rfl)))
  have blog := (first.turns (List.replicate 12 "blog")).step (.finish rfl)
  have second := blog.step (.begin (launch_pair rfl (.inr rfl)))
  exact ⟨_, (second.turns (List.replicate 12 "shop")).step (.finish rfl), rfl⟩

theorem listed_of_chronicle {h : Host Int Bench} {events : List Event} {k : Stack Int Bench}
    {name : String} (chronicle : Chronicle h (.idle both) events (.idle k))
    (listed : name = "blog" ∨ name = "shop") :
  k.descriptor.services.get? (apart name).name = some (apart name)
  := by
  have descriptor : k.descriptor = pair := (chronicle.kept rfl).descriptor
  rw [descriptor]
  rcases listed with rfl | rfl <;> rfl

end Sample

/-- After the blog and then the shop has been brought up, the blog goes on when the stack is taken
down, and the shop does not. -/
theorem Chronicle.runs_after_down_blog :
  ∃ k, Chronicle Bench.halting (.idle Sample.both) Sample.oneByOne (.idle k)
    ∧ k.GoesDownWell Bench.halting
    ∧ Bench.halting.Runs (Sample.apart "blog") (k.down Bench.halting).2.world
    ∧ ¬ Bench.halting.Runs (Sample.apart "shop") (k.down Bench.halting).2.world
  := by
  obtain ⟨k, chronicle, runs⟩ := Sample.exists_oneByOne
  have well := Bench.goesDownWell_halting k
  have law {name : String} (listed : name = "blog" ∨ name = "shop") :=
    runs_after_down Bench.stops_halting Sample.unused_both chronicle well
      (Sample.listed_of_chronicle chronicle listed) (Sample.used_oneByOne listed)
  refine ⟨k, chronicle, well, (law (.inl rfl)).mpr ⟨runs, by decide, by decide⟩, fun goesOn => ?_⟩
  apply ((law (.inr rfl)).mp goesOn).2.2 (by decide)

/-- A service that was started may go on after a stack has been taken down although no stop has
failed. -/
theorem goes_on_after_down :
  ¬ ∀ events k, Chronicle Bench.halting (.idle Sample.both) events (.idle k) →
    k.GoesDownWell Bench.halting →
      ∀ s, k.descriptor.services.get? s.name = some s → Used events s.name →
        ¬ Bench.halting.Runs s (k.down Bench.halting).2.world
  := by
  intro law
  obtain ⟨k, chronicle, runs⟩ := Sample.exists_oneByOne
  have well := Bench.goesDownWell_halting k
  have ordered := chronicle.currentOrder_eq rfl (by decide)
  have listed := Sample.listed_of_chronicle chronicle (.inl rfl)
  apply law _ k chronicle well (Sample.apart "blog") listed (Sample.used_oneByOne (.inl rfl))
  rw [Stack.runs_down Bench.stops_halting well ordered listed]
  exact ⟨runs, by decide⟩

end Muster
