import Muster.Proofs.Launch.Course
import Muster.Proofs.Launch.Progress
/-!
# What workers find

A worker that has been woken for a dependency looks once, at a later turn, whether the dependency
has failed.  The flag it looks at says two things: that a service could not be started, and that
a service which was started has failed since.  A worker that waits only for the launch of a
dependency is woken as soon as this has been launched; the health check of the dependency goes on
meanwhile, and if it is exhausted before the worker looks, the worker finds a failure.  So it is
the order of turns that decides whether such a service is started.
-/

namespace Muster

variable {τ σ : Type}

theorem starts_append (past rest : List Worker.Turn) (name : String) :
  starts (past ++ rest) name = starts past name + starts rest name
  := List.countP_append

namespace Worker

/-- The worker of a service has found a dependency failed, or will find it failed. -/
def Refuses (dependency : String) : Worker → Prop
  | judging d _ | blaming d => d = dependency
  | failing _ fault | ended fault => fault = none
  | _ => False

/-- How often the host has been called to start a service, by where its worker stands; `refused`
are the dependencies that the worker has found failed. -/
def Tries (refused : String → Prop) (stopping : Bool) (begun : Nat) : Worker → Prop
  | awaiting _ | judging .. | gating | starting => begun = 0
  | blaming d => begun = 0 ∧ refused d
  | failing .. | ended _ => begun = 1 ∨ begun = 0 ∧ (stopping = true ∨ ∃ d, refused d)
  | _ => begun = 1

section Moves

variable {h : Host τ σ} {s : Service} {k : Stack τ σ} {state state' : ServiceState}
  {w w' : Worker} {call : Option Call} {world : σ} {refused refused' : String → Prop}
  {stopping stopping' : Bool} {begun : Nat} {dependency : String} {other : ServiceState}

/-- When a dependency has failed, a worker that stands before it comes to its end without starting
its service. -/
theorem Moves.refuses (moves : Moves h s k state w call w' state' world)
    (found : k.states.get? dependency = some other) (ill : other.failed = true)
    (refuses : w.Refuses dependency) :
  w'.Refuses dependency ∧ call = none
  := by
  cases moves with
  | @pass d left seen there well =>
    obtain rfl : d = dependency := refuses
    rw [found] at there
    cases there
    cases well.symm.trans ill
  | @lose w d looks missing =>
    obtain rfl : d = dependency := by
      rcases looks with rfl | ⟨left, rfl⟩ <;> exact refuses
    cases found.symm.trans missing
  | shutDown waits => rcases waits with rfl | ⟨e, left, rfl⟩ <;> cases refuses
  | skip _ stands =>
    rcases stands with rfl | rfl | ⟨p, rfl⟩ | ⟨spent, left, rfl⟩ <;> cases refuses
  | block => exact ⟨rfl, rfl⟩
  | refuse | fail | fall => exact ⟨refuses, rfl⟩
  | _ => cases refuses

theorem Tries.mono (tries : w.Tries refused stopping begun) (more : ∀ d, refused d → refused' d)
    (keeps : stopping = true → stopping' = true) :
  w.Tries refused' stopping' begun
  := by
  cases w with
  | blaming => exact ⟨tries.1, more _ tries.2⟩
  | failing | ended =>
    refine tries.imp id fun none => ⟨none.1, none.2.imp keeps ?_⟩
    rintro ⟨d, found⟩
    exact ⟨d, more d found⟩
  | _ => exact tries

theorem tries_giveUp (fault : Fault)
    (tried : begun = 1 ∨ begun = 0 ∧ (stopping = true ∨ ∃ d, refused d)) :
  (giveUp s fault).1.Tries refused stopping begun
  := by
  unfold giveUp
  split <;> exact tried

/-- A turn of a worker starts the service at most once, and leaves out the start only for a stop or
for a dependency that has been found failed. -/
theorem Moves.tries (moves : Moves h s k state w call w' state' world)
    (known : ∀ d, w = .blaming d ∨ (∃ left, w = .judging d left) →
      ∃ other, k.states.get? d = some other)
    (looks : ∀ d left other, w = .judging d left → k.states.get? d = some other →
      other.failed = true → refused d)
    (tries : w.Tries refused k.stopping begun) :
  w'.Tries refused k.stopping
    (begun + if (Turn.mk s.name call).startsService s.name then 1 else 0)
  := by
  cases moves with
  | shutDown waits stop =>
    apply tries_giveUp
    rcases waits with rfl | ⟨e, left, rfl⟩ <;> exact .inr ⟨tries, .inl stop⟩
  | refuse found ill => exact ⟨tries, looks _ _ _ rfl found ill⟩
  | block => exact .inr ⟨tries.1, .inr ⟨_, tries.2⟩⟩
  | lose looks missing =>
    obtain ⟨other, found⟩ := known _ looks
    cases found.symm.trans missing
  | start =>
    obtain rfl : begun = 0 := tries
    simp [Turn.startsService, Tries]
  | startFault =>
    obtain rfl : begun = 0 := tries
    apply tries_giveUp
    simp [Turn.startsService]
  | skip _ stands =>
    rcases stands with rfl | rfl | ⟨p, rfl⟩ | ⟨spent, left, rfl⟩ <;> exact tries
  | check =>
    simp only [Turn.startsService]
    exact tries
  | pollFault =>
    apply tries_giveUp
    exact .inl tries
  | confirm => exact .inl tries
  | _ => exact tries

end Moves

end Worker

namespace Launch

variable {h : Host τ σ} {others : Stack τ σ → Stack τ σ → Prop} {trace rest : List Worker.Turn}
  {l₀ l l' : Launch τ σ} {s : Service} {w : Worker} {state : ServiceState} {dependency : String}

/-- A run goes on where another one has come to. -/
theorem Run.append (run : l₀.Run h others trace l) (after : l.Run h others rest l') :
  l₀.Run h others (trace ++ rest) l'
  := by
  induction after with
  | start => rwa [List.append_nil]
  | turn after taken ih =>
    rw [← List.append_assoc]
    apply ih.turn taken
  | join after ih => apply ih.join
  | other after change ih => apply ih.other change

/-- Any workers may take turns where a run has come to. -/
theorem Run.turns_after (run : l₀.Run h others trace l) (patient : Bool) (names : List String) :
  ∃ rest, l₀.Run h others (trace ++ rest) (names.foldl (Launch.turn h patient) l)
    ∧ l.Run h others rest (names.foldl (Launch.turn h patient) l)
  := by
  obtain ⟨rest, after⟩ := (Run.start : l.Run h others [] l).turns patient names
  exact ⟨rest, run.append after, after⟩

/-- A dependency has failed, and the worker of a service has been woken for it and has not looked
at it yet. -/
structure AboutToRefuse (l : Launch τ σ) (s : Service) (dependency : String) : Prop where
  stands : ∃ left state, l.At s (.judging dependency left) state
  failed : ∃ other, l.stack.states.get? dependency = some other ∧ other.failed = true

/-- On its way from `l₀` to `l` a run has come to a moment at which the worker of a service was
about to find a dependency failed. -/
def FoundFailed (h : Host τ σ) (others : Stack τ σ → Stack τ σ → Prop) (l₀ : Launch τ σ)
    (trace : List Worker.Turn) (l : Launch τ σ) (s : Service) (dependency : String) : Prop :=
  ∃ past rest l₁, trace = past ++ rest ∧ l₀.Run h others past l₁ ∧ l₁.Run h others rest l
    ∧ l₁.AboutToRefuse s dependency

theorem Run.foundFailed (run : l₀.Run h others trace l) (refuses : l.AboutToRefuse s dependency) :
  FoundFailed h others l₀ trace l s dependency
  := ⟨trace, [], l, (List.append_nil trace).symm, run, .start, refuses⟩

theorem FoundFailed.append (found : FoundFailed h others l₀ trace l s dependency)
    (after : l.Run h others rest l') :
  FoundFailed h others l₀ (trace ++ rest) l' s dependency
  := by
  obtain ⟨past, between, l₁, rfl, before, run, looks⟩ := found
  exact ⟨past, between ++ rest, l₁, List.append_assoc .., before, run.append after, looks⟩

/-- A dependency has failed, and the worker of a service stands before it or has come to its end
because of it. -/
structure HeldBack (l : Launch τ σ) (s : Service) (dependency : String) : Prop where
  refuses : ∃ w state, l.At s w state ∧ w.Refuses dependency
  failed : ∃ other, l.stack.states.get? dependency = some other ∧ other.failed = true

theorem AboutToRefuse.heldBack (refuses : l.AboutToRefuse s dependency) :
  l.HeldBack s dependency
  := by
  obtain ⟨⟨left, state, here⟩, failed⟩ := refuses
  exact ⟨⟨_, state, here, rfl⟩, failed⟩

theorem HeldBack.turn {r : Service} {v v' : Worker} {seen seen' : ServiceState}
    {call : Option Worker.Call} (held : l.HeldBack s dependency)
    (takes : Takes h l r v seen call v' seen' l') :
  l'.HeldBack s dependency ∧ (Worker.Turn.mk r.name call).startsService s.name = false
  := by
  obtain ⟨⟨w, state, here, refuses⟩, other, found, ill⟩ := held
  obtain ⟨other', found', grows⟩ := (takes.later []).grows _ _ found
  have failed : other'.failed = true := grows .failed ill
  rcases takes.cases_before here with ⟨rfl, rfl, rfl⟩ | ⟨apart, after⟩
  · obtain ⟨still, rfl⟩ := takes.moves.refuses found ill refuses
    exact ⟨⟨⟨v', seen', takes.after, still⟩, other', found', failed⟩, rfl⟩
  · refine ⟨⟨⟨w, state, after, refuses⟩, other', found', failed⟩, ?_⟩
    rw [Worker.Turn.startsService]
    split
    · simpa using Ne.symm apart
    · rfl

/-- Once a dependency has failed and the worker of a service stands before it, the service is not
started any more. -/
theorem Run.heldBack (run : l₀.Run h others trace l) (staffed : l₀.Staffed)
    (bound : ∀ k k', others k k' → k.Disturbs k') (held : l₀.HeldBack s dependency) :
  l.HeldBack s dependency ∧ starts trace s.name = 0
  := by
  refine run.invariant (P := fun trace l => l.HeldBack s dependency ∧ starts trace s.name = 0)
    staffed bound ⟨held, rfl⟩ ?_ ?_ ?_
  · rintro trace l l' r v seen call v' seen' - ⟨held, none⟩ takes
    obtain ⟨still, silent⟩ := held.turn takes
    exact ⟨still, by simp [starts_concat, none, silent]⟩
  · rintro trace l ⟨⟨⟨w, state, here, refuses⟩, failed⟩, none⟩
    exact ⟨⟨⟨w, state, at_join_iff.mpr here, refuses⟩, by rwa [states_join]⟩, none⟩
  · rintro trace l k - ⟨⟨⟨w, state, here, refuses⟩, other, found, ill⟩, none⟩ change
    obtain ⟨state', there, -⟩ := here.disturb (bound _ _ change)
    obtain ⟨other', found', disturbed⟩ := (bound _ _ change).states _ _ found
    exact ⟨⟨⟨w, state', there, refuses⟩, other', found', disturbed.failed.trans ill⟩, none⟩

/-- A dependency that has been found failed is still there. -/
theorem FoundFailed.exists_state (found : FoundFailed h others l₀ trace l s dependency)
    (fresh : l₀.Fresh) (bound : ∀ k k', others k k' → k.Disturbs k') :
  ∃ other, l.stack.states.get? dependency = some other
  := by
  obtain ⟨past, rest, l₁, rfl, before, after, refuses⟩ := found
  have staffed := before.staffed fresh.staffed bound
  obtain ⟨⟨-, other, there, -⟩, -⟩ := after.heldBack staffed bound refuses.heldBack
  exact ⟨other, there⟩

/-- A worker looks only at dependencies that are there. -/
theorem Waiting.exists_state (waiting : l.Waiting trace) (staffed : l.Staffed)
    {left : List (String × Condition)} (here : l.At s (.judging dependency left) state) :
  dependency ∈ s.dependencies ∧ ∃ other, l.stack.states.get? dependency = some other
  := by
  obtain ⟨past, condition, split, -⟩ := waiting _ _ _ here
  have depends := mem_dependencies_of_split split
  obtain ⟨r, v, seen, rfl, there⟩ := staffed.exists_dependency here.service depends
  exact ⟨depends, seen, there.state⟩

/-- In every run a service has been started at most once, and its worker has left out the start
only for a stop or for a dependency that it has found failed. -/
theorem Run.tries (run : l₀.Run h others trace l) (fresh : l₀.Fresh)
    (bound : ∀ k k', others k k' → k.Disturbs k') (here : l.At s w state) :
  w.Tries (FoundFailed h others l₀ trace l s) l.stack.stopping (starts trace s.name)
  := by
  induction run generalizing s w state with
  | start =>
    obtain ⟨rfl, -⟩ := fresh.start s w state here
    rfl
  | @turn trace l l' name run taken ih =>
    have staffed := run.staffed fresh.staffed bound
    obtain ⟨-, waiting⟩ := run.waiting fresh bound
    have next : l.Run h others [⟨name, l.call? h name⟩] l' := Run.start.turn taken
    obtain ⟨r, v, seen, v', seen', rfl, takes⟩ := staffed.takes taken
    rcases takes.cases_after here with ⟨rfl, rfl, rfl⟩ | ⟨apart, before⟩
    · have known : ∀ d, v = .blaming d ∨ (∃ left, v = .judging d left) →
          ∃ other, l.stack.states.get? d = some other := by
        rintro d (rfl | ⟨left, rfl⟩)
        · apply (ih takes.before).2.exists_state fresh bound
        · apply (waiting.exists_state staffed takes.before).2
      have looks : ∀ d left other, v = .judging d left → l.stack.states.get? d = some other →
          other.failed = true → FoundFailed h others l₀ trace l s d := by
        rintro d left other rfl found ill
        apply run.foundFailed ⟨⟨left, seen, takes.before⟩, other, found, ill⟩
      rw [starts_concat]
      apply (takes.moves.tries known looks (ih takes.before)).mono _ takes.leaves.keeps
      exact fun d found => found.append next
    · rw [starts_other (Ne.symm apart)]
      apply (ih before).mono (fun d found => found.append next) takes.leaves.keeps
  | @join trace l run ih =>
    have next : l.Run h others [] l.join := Run.start.join
    apply (ih (at_join_iff.mp here)).mono _ stopping_join
    intro d found
    simpa using found.append next
  | @other trace l k run change ih =>
    have next : l.Run h others [] { l with stack := k } := Run.start.other change
    have staffed := run.staffed fresh.staffed bound
    obtain ⟨seen, before, -⟩ := here.of_disturb staffed (bound _ _ change)
    apply (ih before).mono _ (bound _ _ change).keeps
    intro d found
    simpa using found.append next

/-- A service whose worker has found a dependency failed is never started. -/
theorem FoundFailed.never_started (found : FoundFailed h others l₀ trace l s dependency)
    (fresh : l₀.Fresh) (bound : ∀ k k', others k k' → k.Disturbs k') :
  dependency ∈ s.dependencies ∧ l.HeldBack s dependency ∧ starts trace s.name = 0
  := by
  obtain ⟨past, rest, l₁, rfl, before, after, refuses⟩ := found
  obtain ⟨left, state, here⟩ := refuses.stands
  have staffed := before.staffed fresh.staffed bound
  have depends := ((before.waiting fresh bound).2.exists_state staffed here).1
  obtain ⟨held, none⟩ := after.heldBack staffed bound refuses.heldBack
  have unstarted : starts past s.name = 0 := before.tries fresh bound here
  exact ⟨depends, held, by rw [starts_append, unstarted, none]⟩

/-- A service that has not been launched is not ready when its worker has come to its end. -/
theorem failed_of_not_started (sound : l.Sound trace) (here : l.At s (.ended none) state)
    (none : starts trace s.name = 0) :
  state.failed = true ∧ state.ready = false
  := by
  rcases sound s _ state here with readying | failing
  · have started := List.countP_eq_zero.mp none _ readying.usable.launched
    simp [Worker.Turn.startsService] at started
  · exact ⟨failing.done.failed, failing.done.ready⟩

/-- Unless a stop is asked for, a service is started exactly once if its worker finds none of its
dependencies failed, and it is not started at all, and has failed in the end, if the worker finds
one that has failed.  A dependency counts when it has failed by the time at which the worker looks
at it, also if it has been launched and the worker has waited for nothing else; one that does not
fail, or fails later, holds nobody back. -/
theorem started_iff_found_well {k : Stack τ σ} {profiles services : List String}
    {active : Descriptor} (accepted : k.plan profiles services = .ok active) :
  ∃ l₀, k.launch profiles services = .ok l₀ ∧
    ∀ trace l, l₀.Run h Stack.Disturbs trace l → l.stack.stopping = false →
      ∀ s fault state, l.At s (.ended fault) state →
        (starts trace s.name = 1
          ↔ ∀ d ∈ s.dependencies, ¬ FoundFailed h Stack.Disturbs l₀ trace l s d)
        ∧ (starts trace s.name = 0
          ↔ ∃ d ∈ s.dependencies, FoundFailed h Stack.Disturbs l₀ trace l s d)
        ∧ ∀ d, FoundFailed h Stack.Disturbs l₀ trace l s d →
          state.failed = true ∧ state.ready = false
          ∧ ∃ other, l.stack.states.get? d = some other ∧ other.failed = true
  := by
  obtain ⟨waves, ok, launched⟩ := exists_begin accepted
  refine ⟨_, launched, ?_⟩
  intro trace l run free s fault state here
  have fresh : (begin k active waves).Fresh := fresh_begin ok
  let refused := FoundFailed h Stack.Disturbs (begin k active waves) trace l s
  have never d (found : refused d) := found.never_started fresh fun _ _ => id
  have tried : starts trace s.name = 1
      ∨ starts trace s.name = 0 ∧ ∃ d ∈ s.dependencies, refused d := by
    refine (run.tries fresh (fun _ _ => id) here).imp id fun ⟨unstarted, why⟩ => ⟨unstarted, ?_⟩
    obtain stop | ⟨d, found⟩ := why
    · cases free.symm.trans stop
    · exact ⟨d, (never d found).1, found⟩
  refine ⟨⟨?_, ?_⟩, ⟨?_, ?_⟩, ?_⟩
  · intro once d _ found
    cases once.symm.trans (never d found).2.2
  · intro well
    rcases tried with once | ⟨-, d, depends, found⟩
    · exact once
    · exact absurd found (well d depends)
  · intro none
    rcases tried with once | ⟨-, found⟩
    · cases once.symm.trans none
    · exact found
  · rintro ⟨d, -, found⟩
    exact (never d found).2.2
  · intro d found
    obtain ⟨-, ⟨⟨w, state', there, refuses⟩, failed⟩, none⟩ := never d found
    obtain ⟨rfl, rfl⟩ := here.unique there
    obtain rfl : fault = Option.none := refuses
    obtain ⟨failed', unready⟩ := failed_of_not_started (run.sound fresh fun _ _ => id) here none
    exact ⟨failed', unready, failed⟩

end Launch

/-! ### A service that is launched and never healthy -/

namespace Sample

/-- A health check that is run once. -/
def ping : HealthCheck where
  test := ["CMD", "ping"]
  interval := 1
  timeout := 1
  retries := 1
  startPeriod := 0
  disabled := false

/-- A service with this health check. -/
def cache : Service where
  name := "cache"
  healthCheck := some ping

/-- A service that waits only for the launch of the cache. -/
def front : Service where
  name := "front"
  dependsOn := ⟨[("cache", .started)], by decide⟩

/-- The stack of the two services. -/
def shop : Stack Int Unit where
  descriptor := {
    project := "shop"
    services := ⟨[("front", front), ("cache", cache)], by decide⟩
    named := by simp [cache, front]
    closed := by decide }
  backoff := ⟨1, 30, 10⟩
  stopTimeout := 10
  world := ()

/-- A host at which every service can be started and no health check succeeds. -/
def ailing : Host Int Unit :=
  { host with check := fun _ _ world => (.ok { success := false }, world) }

theorem startWaves_shop :
  shop.descriptor.startWaves = .ok [["cache"], ["front"]]
  := by
  have graph : shop.descriptor.graph = [("front", ["cache"]), ("cache", [])] := rfl
  rw [Descriptor.startWaves_eq_ok_iff, graph]
  simp [StartOrder.split, StartOrder.free, StartOrder.nodes, StartOrder.remove]

/-- The shop can be brought up as a whole. -/
theorem plan_shop :
  shop.plan [] [] = .ok shop.descriptor
  := Launch.plan_eq_ok_iff.mpr ⟨⟨_, startWaves_shop⟩, rfl⟩

/-- The start of the run in which the shop is brought up. -/
def opening : Launch Int Unit :=
  .begin shop shop.descriptor [["cache"], ["front"]]

theorem launch_shop :
  shop.launch [] [] = .ok opening
  := by
  simp [Stack.launch, plan_shop, startWaves_shop, Except.map, opening]

/-- A moment at which the cache has been launched and its health check is about to be polled, and
the worker of the front has been woken. -/
def halfway : Launch Int Unit :=
  (List.replicate 8 "cache" ++ ["front"]).foldl (Launch.turn ailing false) opening

/-- The shop comes to that moment in a run. -/
theorem exists_halfway :
  ∃ trace, Launched trace "cache" ∧ opening.Run ailing Stack.Disturbs trace halfway
  := by
  have run : opening.Run ailing Stack.Disturbs [] _ := .start
  obtain ⟨trace, run⟩ := run.turns false (List.replicate 8 "cache" ++ ["front"])
  have fresh : opening.Fresh := Launch.fresh_begin startWaves_shop
  have sound := run.sound fresh (fun _ _ => id) cache _ _ ⟨rfl, rfl, rfl⟩
  exact ⟨trace, sound.1.launched, run⟩

/-- The shop after a round of turns: the front has waited, and the cache has come to its end. -/
def evening : Launch Int Unit :=
  (opening.round ailing true).join

/-- The shop comes to its end after another round. -/
theorem run_opening :
  opening.run ailing = (evening.round ailing true).join
  := by
  rw [Launch.run, dif_pos (by decide +kernel)]
  rw [← evening, Launch.run, dif_pos (by decide +kernel)]
  rw [Launch.run, dif_neg (by decide +kernel), dif_neg (by decide +kernel)]

set_option maxRecDepth 4000 in
/-- The cache is launched in the first round. -/
theorem exists_evening :
  ∃ trace, Launched trace "cache" ∧ opening.Run ailing Stack.Disturbs trace evening
  := by
  have names : opening.services.keys.flatMap (List.replicate Launch.slice)
      = (List.replicate 100 "front" ++ List.replicate 8 "cache") ++ List.replicate 92 "cache" := rfl
  have run : opening.Run ailing Stack.Disturbs [] _ := .start
  obtain ⟨early, run⟩ := run.turns true (List.replicate 100 "front" ++ List.replicate 8 "cache")
  have fresh : opening.Fresh := Launch.fresh_begin startWaves_shop
  have sound := run.sound fresh (fun _ _ => id) cache _ _ ⟨rfl, rfl, rfl⟩
  obtain ⟨late, run, -⟩ := run.turns_after true (List.replicate 92 "cache")
  rw [← List.foldl_append, ← names] at run
  exact ⟨early ++ late, List.mem_append_left _ sound.1.launched, run.join⟩

end Sample

namespace Launch

set_option maxRecDepth 2000 in
/-- If the front of the shop looks first, it is started, although the cache fails later. -/
theorem started_iff_found_well_front :
  ∃ l₀, Sample.shop.plan [] [] = .ok Sample.shop.descriptor
    ∧ Sample.shop.launch [] [] = .ok l₀
    ∧ ∃ trace l, l₀.Run Sample.ailing Stack.Disturbs trace l ∧ l.isOver = true
      ∧ l.stack.stopping = false ∧ Launched trace "cache"
      ∧ (∃ state, l.At Sample.cache (.ended none) state ∧ state.failed = true)
      ∧ starts trace "front" = 1
  := by
  obtain ⟨l₀, launched, law⟩ := started_iff_found_well (h := Sample.ailing) Sample.plan_shop
  refine ⟨l₀, Sample.plan_shop, launched, ?_⟩
  cases Sample.launch_shop.symm.trans launched
  obtain ⟨past, up, before⟩ := Sample.exists_halfway
  have run : Sample.halfway.Run Sample.ailing Stack.Disturbs [] _ := .start
  obtain ⟨rest, run⟩ := run.turns false (List.replicate 13 "front" ++ List.replicate 12 "cache")
  generalize same : List.foldl _ Sample.halfway _ = l at run
  obtain ⟨finished, free, failed, state, here, well⟩ : l.isOver = true ∧ l.stack.stopping = false
      ∧ (∃ state, l.At Sample.cache (.ended none) state ∧ state.failed = true)
      ∧ ∃ state, l.At Sample.front (.ended none) state ∧ state.failed = false := by
    subst same
    exact ⟨rfl, rfl, ⟨_, ⟨rfl, rfl, rfl⟩, rfl⟩, _, ⟨rfl, rfl, rfl⟩, rfl⟩
  have run := before.append run
  refine ⟨_, l, run, finished, free, List.mem_append_left _ up, failed, ?_⟩
  obtain ⟨once, -, found⟩ := law _ l run free Sample.front none state here
  apply once.mpr
  intro d _ ill
  cases well.symm.trans (found d ill).1

set_option maxRecDepth 20000 in
/-- When the shop is brought up, the health check of the cache is exhausted before the front looks.
The front is not started, although the cache has been launched and the front waits for nothing
else. -/
theorem held_back_by_exhausted_check :
  ∃ l₀, Sample.shop.launch [] [] = .ok l₀
    ∧ (l₀.run Sample.ailing).isOver = true ∧ (l₀.run Sample.ailing).stack.stopping = false
    ∧ ¬ ∀ trace, l₀.Run Sample.ailing Stack.Disturbs trace (l₀.run Sample.ailing) →
      Launched trace "cache" → starts trace "front" = 1
  := by
  have names : Sample.evening.services.keys.flatMap (List.replicate slice)
      = ["front"] ++ (List.replicate 99 "front" ++ List.replicate 100 "cache") := rfl
  have fresh : Sample.opening.Fresh := fresh_begin Sample.startWaves_shop
  refine ⟨_, Sample.launch_shop, ?_⟩
  rw [Sample.run_opening]
  refine ⟨by decide +kernel, by decide +kernel, fun claim => ?_⟩
  obtain ⟨past, up, before⟩ := Sample.exists_evening
  obtain ⟨woken, here, -⟩ := before.turns_after true ["front"]
  have refuses : (["front"].foldl (turn Sample.ailing true) Sample.evening).AboutToRefuse
      Sample.front "cache" :=
    ⟨⟨[], _, rfl, rfl, rfl⟩, _, rfl, rfl⟩
  obtain ⟨rest, run, after⟩ := here.turns_after true
    (List.replicate 99 "front" ++ List.replicate 100 "cache")
  rw [← List.foldl_append, ← names] at run after
  have found : FoundFailed Sample.ailing Stack.Disturbs Sample.opening _ _ Sample.front "cache" :=
    ⟨_, rest, _, rfl, here, after.join, refuses⟩
  have once := claim _ run.join (List.mem_append_left _ (List.mem_append_left _ up))
  have none := (found.never_started fresh fun _ _ => id).2.2
  cases none.symm.trans once

end Launch

end Muster
