import Muster.Proofs.Chronicle
import Muster.Proofs.Chronicle.Retain
import Muster.Proofs.Launch.Others
/-!
# What is watched

The supervisor watches a service only after a worker has started it: a worker has its service
watched when it is past the start, and nothing else makes the supervisor watch a service.  Taking
the stack down makes an end of all watching.  So between the end of a stack and a restart of a
service a worker has started the service; a restart that was pending before, or a policy by which
the service is always restarted, does not matter.
-/

namespace Muster

variable {τ σ : Type}

/-! ### Past the start of a service -/

theorem Worker.giveUp_ne_announcing (s : Service) (fault : Fault) (left : List Mark) :
  (giveUp s fault).1 ≠ announcing left
  := by
  unfold giveUp
  split <;> nofun

/-- A worker comes past the start of its service by a start that has come back without a fault. -/
theorem Worker.Moves.announcing {h : Host τ σ} {s : Service} {k : Stack τ σ}
    {state state' : ServiceState} {w w' : Worker} {call : Option Call} {world : σ}
    {left : List Mark} (moves : Moves h s k state w call w' state' world)
    (stands : w' = announcing left) :
  call = some (.start (.ok ())) ∨ ∃ before, w = announcing before
  := by
  cases moves with
  | start => exact .inl rfl
  | announce => exact .inr ⟨_, rfl⟩
  | shutDown | lose | startFault | pollFault => cases giveUp_ne_announcing _ _ _ stands
  | _ => cases stands

/-- Every worker that is past the start of its service has started it. -/
structure Launch.Announced (l : Launch τ σ) (events : List Event) : Prop where
  staffed : l.Staffed
  started : ∀ name left, l.workers.get? name = some (.announcing left) →
    .started name (.ok ()) ∈ events

namespace Launch

variable {h : Host τ σ} {l l' : Launch τ σ} {events : List Event}

theorem announced_begin {k : Stack τ σ} {active : Descriptor} {waves : List (List String)}
    (ok : active.startWaves = .ok waves) :
  (begin k active waves).Announced events
  where
  staffed := (fresh_begin ok).staffed
  started name left there := by
    have : (active.services.map Worker.begin).get? name = some (.announcing left) := there
    rw [Table.get?_map] at this
    obtain ⟨s, -, wrong⟩ := Option.map_eq_some_iff.mp this
    cases wrong

theorem Announced.mono {events' : List Event} (announced : l.Announced events)
    (goesOn : events ⊆ events') :
  l.Announced events'
  := ⟨announced.staffed, fun name left there => goesOn (announced.started name left there)⟩

theorem Announced.turn {name : String} (announced : l.Announced events)
    (taken : l.step h name = some l' ∨ l.quit name = some l') :
  l'.Announced (events ++ (Worker.Turn.event? ⟨name, l.call? h name⟩).toList)
  := by
  obtain ⟨s, w, state, w', state', rfl, takes⟩ := announced.staffed.takes taken
  refine ⟨announced.staffed.turn takes, fun name left there => ?_⟩
  rw [takes.workers, Table.get?_insert] at there
  split at there
  · next own =>
    subst own
    rcases takes.moves.announcing (Option.some.inj there) with start | ⟨before, rfl⟩
    · rw [start]
      apply List.mem_append_right _ (List.mem_singleton_self _)
    · apply List.mem_append_left _ (announced.started _ before takes.before.worker)
  · apply List.mem_append_left _ (announced.started name left there)

theorem Announced.join (announced : l.Announced events) :
  l.join.Announced events
  := ⟨announced.staffed.join, by simpa only [workers_join] using announced.started⟩

theorem Announced.other {k : Stack τ σ} (announced : l.Announced events)
    (change : l.stack.Disturbs k) :
  { l with stack := k }.Announced events
  := ⟨announced.staffed.other change, announced.started⟩

end Launch

/-- Only a service that is watched is started again. -/
theorem Stack.isWatching_of_start [Timeline τ] {h : Host τ σ} {k : Stack τ σ} {name : String}
    (starts : .start ∈ k.checkCalls h name) :
  k.supervisor.isWatching name = true
  := by
  obtain ⟨s, state, looked, -⟩ := due_of_start starts
  exact (checked?_eq_some_iff.mp looked).1.2

/-! ### Whatever is watched has been started -/

/-- Every service that is watched, or is about to be, has been started by its worker. -/
structure Phase.Earned (p : Phase τ σ) (events : List Event) : Prop where
  watched : ∀ name, p.stack.supervisor.isWatching name = true → .started name (.ok ()) ∈ events
  announced : ∀ l, p = .busy l → l.Announced events

namespace Phase

variable {p p' : Phase τ σ} {k k' : Stack τ σ} {l l' : Launch τ σ} {events events' : List Event}

theorem Earned.mono (earned : p.Earned events) (goesOn : events ⊆ events') :
  p.Earned events'
  := ⟨fun name watched => goesOn (earned.watched name watched),
    fun l same => (earned.announced l same).mono goesOn⟩

theorem Earned.of_releases (earned : p.Earned events)
    (releases : p.stack.supervisor.Releases p'.stack.supervisor)
    (announced : ∀ l, p' = .busy l → l.Announced events) :
  p'.Earned events
  := ⟨fun name watched => earned.watched name (releases.watched name watched), announced⟩

theorem Earned.idle (earned : p.Earned events) (retains : p.stack.Retains k) :
  (Phase.idle k).Earned events
  := earned.of_releases retains.releases nofun

theorem Earned.onStack (earned : p.Earned events) {f : Stack τ σ → Stack τ σ}
    (retains : p.stack.Retains (f p.stack)) (disturbs : p.stack.Disturbs (f p.stack)) :
  (p.onStack f).Earned events
  := by
  refine earned.of_releases (by simpa using retains.releases) fun l same => ?_
  cases p with
  | idle k => cases same
  | busy l =>
    cases same
    apply (earned.announced l rfl).other disturbs

/-- What is watched after a turn of a worker. -/
theorem Earned.turn {h : Host τ σ} {name : String} (earned : (busy l).Earned events)
    (taken : l.step h name = some l' ∨ l.quit name = some l') :
  (busy l').Earned (events ++ (Worker.Turn.event? ⟨name, l.call? h name⟩).toList)
  := by
  have announced := earned.announced l rfl
  refine ⟨fun other watched => List.mem_append_left _ ?_, ?_⟩
  · rcases Launch.retains_of_taken taken with ⟨s, now, found, there, same⟩ | retains
    · -- The service that is watched now is that of a worker past the start.
      change l'.stack.supervisor.isWatching other = true at watched
      rw [same] at watched
      rcases (Supervisor.isWatching_watch ..).mp watched with rfl | before
      · rw [announced.staffed.named name s found]
        apply announced.started name [] there
      · apply earned.watched other before
    · apply earned.watched other (retains.releases.watched other watched)
  · rintro _ ⟨⟩
    apply announced.turn taken

/-- What has been watched before the stack is taken down is not watched afterwards. -/
theorem earned_down (h : Host τ σ) (k : Stack τ σ) :
  (idle (k.down h).2).Earned []
  := by
  refine ⟨fun name watched => ?_, nofun⟩
  have kept := (Stack.retains_down (h := h) k).releases.watched name watched
  cases (Supervisor.not_isWatching_clear k.supervisor.requestStop name).symm.trans kept

variable [Timeline τ] {h : Host τ σ} {event : Option Event}

/-- Nothing that can happen makes the supervisor watch a service that has not been started. -/
theorem Earned.step (earned : p.Earned events) (next : p.Step h event p') :
  p'.Earned (events ++ event.toList)
  := by
  cases next with
  | begin launched =>
    obtain ⟨active, waves, -, ok, rfl⟩ := Launch.exists_begin_of_launch launched
    refine (earned.of_releases (Launch.releases_begin ..) ?_).mono (List.subset_append_left ..)
    rintro _ ⟨⟩
    apply Launch.announced_begin ok
  | turn taken => exact earned.turn taken
  | @join l =>
    rw [Option.toList_none, List.append_nil]
    refine earned.of_releases (Launch.retains_join l).releases ?_
    rintro _ ⟨⟩
    apply (earned.announced l rfl).join
  | finish =>
    apply (earned.idle (Launch.retains_finish _)).mono (List.subset_append_left ..)
  | down => apply (earned_down h _).mono (List.nil_subset _)
  | ps => apply (earned.idle (Stack.retains_ps _)).mono (List.subset_append_left ..)
  | check name =>
    apply (earned.onStack (Stack.retains_check ..) (Stack.disturbs_check ..)).mono
      (List.subset_append_left ..)
  | stop =>
    apply (earned.onStack (Stack.retains_requestStop _) (Stack.disturbs_requestStop _)).mono
      (List.subset_append_left ..)
  | pass world =>
    apply (earned.onStack (.of_eq rfl) (.of_eq rfl rfl id)).mono (List.subset_append_left ..)

end Phase

namespace Chronicle

variable [Timeline τ] {h : Host τ σ} {p₀ p : Phase τ σ} {events before middle after : List Event}
  {name : String}

theorem earned (chronicle : Chronicle h p₀ events p) (start : p₀.Earned []) :
  p.Earned events
  := by
  induction chronicle with
  | start => exact start
  | step chronicle next ih => exact ih.step next

/-- After the stack has been taken down, the supervisor starts a service again only if a worker has
started it meanwhile. -/
theorem started_of_restarted
    (chronicle : Chronicle h p₀ (before ++ .down :: middle ++ .restarted name :: after) p) :
  .started name (.ok ()) ∈ middle
  := by
  obtain ⟨q, q', first, again, -⟩ := chronicle.exists_step rfl
  obtain ⟨r, r', -, down, between⟩ := first.exists_step rfl
  obtain ⟨k, rfl, rfl⟩ := down.tells rfl
  have earned := between.earned (Phase.earned_down h k)
  apply earned.watched name (Stack.isWatching_of_start (again.tells rfl))

end Chronicle

namespace Sample

/-- The stack of the two services, of which one was brought up last. -/
def opened : Stack Int Bench :=
  { both with order := ["blog"] }

/-- A bench on which the first runs have ended with exit code 1. -/
def fallen (now : Int) : Bench :=
  ⟨now, fun _ => ⟨1, false, some 1⟩⟩

end Sample

/-- The blog is taken down, is brought up again, ends with exit code 1, and is started again once the
wait has passed. -/
theorem Chronicle.started_of_restarted_blog :
  ∃ p, Chronicle Bench.host (.idle Sample.opened)
      ([] ++ .down :: [.chosen ["blog"], .started "blog" (.ok ())] ++ .restarted "blog" :: []) p
    ∧ .started "blog" (.ok ()) ∈ [Event.chosen ["blog"], .started "blog" (.ok ())]
  := by
  have down : Chronicle Bench.host (.idle Sample.opened) _ _ := Chronicle.start.step .down
  have begun := down.step (.begin (Sample.launch_pair rfl (.inl rfl)))
  have ran := begun.turns (List.replicate 12 "blog")
  have finished := ran.step (.finish rfl)
  have fallen := finished.step (.pass (Sample.fallen 0))
  have seen := fallen.step (.check "blog")
  have waited := seen.step (.pass (Sample.fallen 1))
  have again : Chronicle Bench.host (.idle Sample.opened)
      ([] ++ .down :: [.chosen ["blog"], .started "blog" (.ok ())] ++ .restarted "blog" :: []) _ :=
    waited.step (.check "blog")
  exact ⟨_, again, started_of_restarted again⟩

end Muster
