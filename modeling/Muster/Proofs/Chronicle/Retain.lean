import Muster.Proofs.Launch.Run
import Muster.Proofs.Supervisor.Restart
/-!
# What a stack retains

Bringing services up is the only operation that changes the start order of a stack, and the only one
that makes the supervisor watch a service it did not watch before: the worker of the service does so
once the service has been started.  All other operations `Retain` what the stack is made of and its
start order, and at most release services from being watched.
-/

namespace Muster

namespace Supervisor

variable {τ : Type} {sup sup' sup'' : Supervisor τ}

/-- The supervisor watches no service that it did not watch before. -/
structure Releases (sup sup' : Supervisor τ) : Prop where
  watched : ∀ name, sup'.isWatching name = true → sup.isWatching name = true

theorem Releases.refl (sup : Supervisor τ) :
  sup.Releases sup
  := ⟨fun _ => id⟩

theorem Releases.trans (first : sup.Releases sup') (second : sup'.Releases sup'') :
  sup.Releases sup''
  := ⟨fun name watched => first.watched name (second.watched name watched)⟩

theorem Releases.of_eq (same : sup'.watched = sup.watched) :
  sup.Releases sup'
  := by
  refine ⟨fun name watched => ?_⟩
  rwa [isWatching, ← same]

theorem not_isWatching_clear (sup : Supervisor τ) (name : String) :
  sup.clear.isWatching name = false
  := rfl

/-- What is watched after a service has been added to what is watched. -/
theorem isWatching_watch (sup : Supervisor τ) (b : Backoff τ) (now : τ) (name other : String) :
  (sup.watch b now name).isWatching other = true ↔ other = name ∨ sup.isWatching other = true
  := by
  simp only [isWatching, Table.contains, watch, Table.get?_insert]
  split
  · next same => simp [same]
  · next other => simp [other]

theorem releases_unwatch (sup : Supervisor τ) (name : String) :
  sup.Releases (sup.unwatch name)
  := by
  refine ⟨fun other watched => ?_⟩
  simp only [isWatching, Table.contains, unwatch, Table.get?_erase] at watched ⊢
  split at watched
  · cases watched
  · exact watched

theorem releases_resume (sup : Supervisor τ) (now : τ) (name : String) :
  sup.Releases (sup.resume now name)
  := by
  unfold resume
  split
  · next there =>
    refine ⟨fun other watched => ?_⟩
    simp only [isWatching, Table.contains, Table.get?_insert] at watched there ⊢
    split at watched
    · next same => rw [same, there]
    · exact watched
  · exact .refl sup

theorem releases_schedule (sup : Supervisor τ) (name : String) (time : τ) :
  sup.Releases (sup.schedule name time)
  := by
  unfold schedule
  split <;> exact .of_eq rfl

theorem releases_credit [Timeline τ] (sup : Supervisor τ) (b : Backoff τ) (now : τ)
    (name : String) :
  sup.Releases (sup.credit b now name)
  := by
  simp only [credit]
  split <;> exact .of_eq rfl

end Supervisor

/-! ### Checks -/

namespace Check

variable {τ : Type} [Timeline τ] {s : Service} {b : Backoff τ}

theorem releases_step (clock : τ) (c : Check τ) (d : Desk τ) :
  d.supervisor.Releases (step s b clock c d).2.supervisor
  := by
  cases c with
  | crediting now => exact Supervisor.releases_credit ..
  | retiring => exact Supervisor.releases_unwatch ..
  | scheduling now delay => exact Supervisor.releases_schedule ..
  | resuming => exact Supervisor.releases_resume ..
  | awaiting now =>
    simp only [step]
    split <;> exact .refl _
  | _ => exact .of_eq rfl

theorem supervisor_hear (c : Check τ) (reply : RunnerReply) (d : Desk τ) :
  (hear s b c reply d).2.supervisor = d.supervisor
  := by
  unfold hear
  split
  · rfl
  · rw [judge]
    simp only
    split
    · rfl
    · split <;> rfl
  · rfl
  · split <;> rfl
  · rfl
  · rfl

/-- A check releases services at most if the calls of the runner do. -/
theorem releases_drive {σ : Type} {w : Surroundings τ σ}
    (calls : ∀ call (d : Desk τ) world, d.supervisor.Releases (w.call call (d, world)).2.1.supervisor)
    (fuel : Nat) (c : Check τ) (d : Desk τ) (world : σ) :
  d.supervisor.Releases (drive w s b fuel c (d, world)).2.1.supervisor
  := by
  induction fuel generalizing c d world with
  | zero => cases c <;> exact .refl _
  | succ fuel ih =>
    cases c.move with
    | ended fault => exact .refl _
    | step own going =>
      rw [drive_step own going]
      exact (releases_step ..).trans (ih ..)
    | call call made =>
      rw [drive_call made]
      have heard := supervisor_hear (s := s) (b := b) c (w.call call (d, world)).1
        (w.call call (d, world)).2.1
      have called := calls call d world
      rw [← heard] at called
      exact called.trans (ih ..)

end Check

/-! ### Stacks -/

namespace Stack

variable {τ σ : Type} {h : Host τ σ} {k k' k'' : Stack τ σ}

/-- What a stack is made of and its start order stay as they are, and the supervisor watches no
service that it did not watch before. -/
structure Retains (k k' : Stack τ σ) : Prop where
  descriptor : k'.descriptor = k.descriptor
  order : k'.order = k.order
  releases : k.supervisor.Releases k'.supervisor

theorem Retains.refl (k : Stack τ σ) :
  k.Retains k
  := ⟨rfl, rfl, .refl _⟩

theorem Retains.trans (first : k.Retains k') (second : k'.Retains k'') :
  k.Retains k''
  := ⟨second.descriptor.trans first.descriptor, second.order.trans first.order,
    first.releases.trans second.releases⟩

/-- A stack in which at most what is known about the services, the host and the log have changed. -/
theorem Retains.of_eq (same : { k' with
      known := k.known, states := k.states, world := k.world, log := k.log } = k) :
  k.Retains k'
  := by
  obtain ⟨known, states, world, log, rfl⟩ : ∃ known states world log,
      k' = { k with known, states, world, log } :=
    ⟨k'.known, k'.states, k'.world, k'.log, by rw [← same]⟩
  exact ⟨rfl, rfl, .refl _⟩

theorem retains_requestStop (k : Stack τ σ) :
  k.Retains k.requestStop
  := ⟨rfl, rfl, .of_eq rfl⟩

theorem retains_hear {α : Type} (k : Stack τ σ) (r : Reply α × σ) :
  k.Retains (k.hear r).2
  := by
  refine ⟨rfl, rfl, .of_eq ?_⟩
  simp only [hear]
  split <;> rfl

theorem exists_meet (k : Stack τ σ) (name : String) :
  ∃ known, k.meet name = { k with known }
  := by
  rw [meet]
  split <;> exact ⟨_, rfl⟩

theorem retains_meet (k : Stack τ σ) (name : String) :
  k.Retains (k.meet name)
  := by
  obtain ⟨known, same⟩ := exists_meet k name
  rw [same]
  exact .of_eq rfl

theorem retains_check [Timeline τ] (k : Stack τ σ) (name : String) :
  k.Retains (k.check h name).2
  := by
  cases looked : k.checked? name with
  | none =>
    rw [check_of_none looked]
    exact .refl k
  | some found =>
    obtain ⟨states, log, same⟩ := check_of_checked (h := h) looked
    rw [same]
    refine ⟨rfl, rfl, Check.releases_drive (fun call d world => ?_) _ _ (k.desk found.2) _⟩
    exact .of_eq ((mild_surroundings h found.1).keeps call d world).watched

theorem retains_report (k : Stack τ σ) (s : Service) :
  k.Retains (k.report h s).2
  := by
  have described : k.Retains ((k.meet s.name).hear (h.describe s k.world)).2 :=
    (retains_meet k s.name).trans (retains_hear ..)
  rw [report]
  simp only
  split
  · split
    · exact .refl k
    · exact described
  · exact described

theorem retains_reports (services : List Service) (k : Stack τ σ) :
  k.Retains (reports h services k).2
  := by
  induction services generalizing k with
  | nil => exact .refl k
  | cons s rest ih =>
    have first := retains_report (h := h) k s
    rw [reports]
    split
    · next fault told called =>
      rw [called] at first
      exact first
    · next text told called =>
      rw [called] at first
      have later := first.trans (ih told)
      split
      · next rest told called =>
        rw [called] at later
        exact later
      · exact later

theorem retains_ps (k : Stack τ σ) :
  k.Retains (k.ps h).2
  := by
  rw [ps]
  split
  · exact .refl k
  · apply retains_reports

/-- What is changed when a service is stopped, apart from what the host answers. -/
theorem exists_stopService (h : Host τ σ) (k : Stack τ σ) (s : Service) :
  ∃ states known log, (k.stopService h s).2
    = { (k.hear (h.stop s k.stopTimeout k.world)).2 with states, known, log }
  := by
  obtain ⟨known, met⟩ := exists_meet (k.note (.about .info "service_stopping" s.name [])) s.name
  unfold stopService
  rw [met]
  simp only
  split
  all_goals
    next called =>
    obtain rfl := congrArg Prod.snd called
    exact ⟨_, _, _, rfl⟩

theorem retains_stopService (k : Stack τ σ) (s : Service) :
  k.Retains (k.stopService h s).2
  := by
  obtain ⟨states, known, log, same⟩ := exists_stopService h k s
  rw [same]
  exact (retains_hear ..).trans (.of_eq rfl)

theorem retains_stopServices (services : List Service) (k : Stack τ σ) :
  k.Retains (stopServices h services k).2
  := by
  induction services generalizing k with
  | nil => exact .refl k
  | cons s rest ih =>
    have first := retains_stopService (h := h) k s
    rw [stopServices]
    split
    · next stopped called =>
      rw [called] at first
      exact first.trans (ih stopped)
    · exact first

/-- Taking a stack down first of all ends supervising. -/
theorem retains_down (k : Stack τ σ) :
  { k with supervisor := k.supervisor.stop }.Retains (k.down h).2
  := by
  rw [down]
  generalize ({ k with supervisor := k.supervisor.stop } : Stack τ σ) = k
  simp only
  split
  · exact .refl k
  · next order _ =>
    have all := retains_stopServices (h := h)
      (order.reverse.filterMap k.descriptor.services.get?) k
    split
    · next fault stopped called =>
      rw [called] at all
      exact all
    · next stopped called =>
      rw [called] at all
      have heard := retains_hear stopped (h.teardown stopped.world)
      split
      all_goals
        next called =>
        rw [called] at heard
        exact (all.trans heard).trans (.of_eq rfl)

end Stack

/-! ### Workers -/

namespace Worker

variable {τ σ : Type} {h : Host τ σ} {s : Service} {w w' : Worker} {k k' : Stack τ σ}

theorem retains_pause (time : Float) (p : Poll) (k : Stack τ σ) :
  k.Retains (pause h time p k).2
  := by
  unfold pause
  split
  · exact .refl k
  · split <;> exact .of_eq rfl

theorem retains_stepPoll (check : HealthCheck) (p : Poll) (k : Stack τ σ) :
  k.Retains (stepPoll h s check p k).2
  := by
  cases p with
  | settling left => exact retains_pause check.startPeriod (.settling left) k
  | resting spent left => exact retains_pause check.interval (.resting spent left) k
  | due => exact .refl k
  | ended ending =>
    simp only [stepPoll]
    split <;> exact .of_eq rfl

/-- A worker that gives up waiting retains what there is. -/
theorem retains_of_quit (quit : w.quit s k = some (w', k')) :
  k.Retains k'
  := by
  unfold Worker.quit at quit
  split at quit
  · split at quit
    · cases quit
      exact .of_eq rfl
    · cases quit
  · cases quit

theorem retains_judge (dependency : String) (left : List (String × Condition)) (k : Stack τ σ) :
  k.Retains (judge s dependency left k).2
  := by
  rw [judge]
  split <;> exact .of_eq rfl

theorem retains_block (dependency : String) (k : Stack τ σ) :
  k.Retains (block s dependency k).2
  := by
  rw [block]
  split <;> exact .of_eq rfl

theorem retains_of_start (step : starting.step h s k = some (w', k')) :
  k.Retains k'
  := by
  have noted : k.Retains (k.note (.about .info "service_starting" s.name [])) := .of_eq rfl
  have heard := noted.trans (Stack.retains_hear _ (h.start s k.world))
  simp only [Worker.step] at step
  split at step
  all_goals
    next called =>
    have same := congrArg Prod.snd called
    cases step
    rw [show (Stack.hear _ (h.start s k.world)).2 = _ from same] at heard
    exact heard.trans (.of_eq rfl)

/-- A worker that has started its service has it watched.  In all other steps it retains what there
is. -/
theorem retains_of_step (step : w.step h s k = some (w', k')) :
  (w = announcing []
      ∧ k' = { k with supervisor := k.supervisor.watch k.backoff (h.clock k.world) s.name })
    ∨ k.Retains k'
  := by
  cases w with
  | announcing left =>
    cases left with
    | nil =>
      cases step
      exact .inl ⟨rfl, rfl⟩
    | cons m left =>
      cases step
      exact .inr (.of_eq rfl)
  | awaiting left =>
    right
    cases left with
    | nil =>
      cases step
      exact .refl k
    | cons e left =>
      simp only [Worker.step] at step
      split at step
      · cases step
        exact .refl k
      · apply retains_of_quit step
  | judging dependency left =>
    obtain ⟨rfl, rfl⟩ := eq_of_some_eq step
    exact .inr (retains_judge dependency left k)
  | blaming dependency =>
    obtain ⟨rfl, rfl⟩ := eq_of_some_eq step
    exact .inr (retains_block dependency k)
  | gating =>
    right
    simp only [Worker.step] at step
    split at step <;> cases step <;> exact .of_eq rfl
  | starting => exact .inr (retains_of_start step)
  | preparing =>
    right
    simp only [Worker.step] at step
    split at step <;> cases step <;> exact .of_eq rfl
  | polling p =>
    right
    simp only [Worker.step] at step
    split at step
    · cases step
      exact .refl k
    · next check _ =>
      obtain ⟨rfl, rfl⟩ := eq_of_some_eq step
      apply retains_stepPoll check p k
  | checking spent left =>
    right
    simp only [Worker.step] at step
    split at step
    · cases step
      exact .refl k
    · cases step
      apply Stack.retains_hear
  | hearing spent left reply =>
    cases step
    exact .inr (.of_eq rfl)
  | readying left | failing left fault =>
    right
    cases left <;> cases step <;> exact .of_eq rfl
  | ended fault => cases step

end Worker

/-! ### Bringing services up -/

namespace Launch

variable {τ σ : Type} {h : Host τ σ} {l l' : Launch τ σ}

/-- Either a worker has its service watched once it has started it, or a run retains what there
is. -/
theorem retains_of_taken {name : String}
    (taken : l.step h name = some l' ∨ l.quit name = some l') :
  (∃ s now, l.services.get? name = some s ∧ l.workers.get? name = some (.announcing [])
      ∧ l'.stack = { l.stack with
          supervisor := l.stack.supervisor.watch l.stack.backoff now s.name })
    ∨ l.stack.Retains l'.stack
  := by
  rcases taken with step | quit
  · obtain ⟨s, w, w', k', hs, hw, moved, rfl⟩ := act_eq_some step
    rcases Worker.retains_of_step moved with ⟨rfl, same⟩ | retains
    · exact .inl ⟨s, _, hs, hw, same⟩
    · exact .inr retains
  · obtain ⟨s, w, w', k', -, -, moved, rfl⟩ := act_eq_some quit
    exact .inr (Worker.retains_of_quit moved)

theorem retains_join (l : Launch τ σ) :
  l.stack.Retains l.join.stack
  := by
  rw [join]
  split
  · apply Stack.retains_requestStop
  · exact .refl _

theorem retains_finish (l : Launch τ σ) :
  l.stack.Retains l.finish.2
  := by
  rw [finish]
  split
  · exact .refl _
  · simp only
    split <;> exact .of_eq rfl

/-- At the beginning of a run everything is watched that was watched before. -/
theorem releases_begin (k : Stack τ σ) (active : Descriptor) (waves : List (List String)) :
  k.supervisor.Releases (begin k active waves).stack.supervisor
  := by
  obtain ⟨states, known, log, same⟩ := exists_stack_begin k active waves
  rw [same]
  exact .of_eq rfl

end Launch

end Muster
