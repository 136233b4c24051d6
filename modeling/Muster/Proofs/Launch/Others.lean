import Muster.Proofs.Launch.Run
/-!
# Others at the stack

While services are brought up, a stop may be asked for, the supervisor may check services that
have been launched, and the stack may be taken down again.  None of these goes beyond
`Stack.Disturbs`, so whatever holds of all runs holds of those in which they happen.
-/

namespace Muster

theorem ServiceState.Disturbs.trans {s s' s'' : ServiceState} (first : s.Disturbs s')
    (second : s'.Disturbs s'') :
  s.Disturbs s''
  where
  ready := second.ready.trans first.ready
  failed := second.failed.trans first.failed
  started := second.started.trans first.started
  settled := second.settled.trans first.settled
  late early := first.late (second.late early)

/-- A status may be given from outside unless a service would be on its way with it. -/
theorem ServiceState.disturbs_status (s : ServiceState) (status : Status)
    (late : ¬ status.isEarly) (exitCode : Option Int) :
  s.Disturbs { s with status, exitCode }
  := ⟨rfl, rfl, rfl, rfl, fun early => (late early).elim⟩

namespace Stack

variable {τ σ : Type} {k k' k'' : Stack τ σ}

/-- A stack whose states and order are left alone. -/
theorem Disturbs.of_eq (states : k'.states = k.states) (order : k'.order = k.order)
    (keeps : k.stopping = true → k'.stopping = true) :
  k.Disturbs k'
  where
  keeps := keeps
  order := order
  states _ s found := ⟨s, by rw [states, found], .refl s⟩

theorem Disturbs.trans (first : k.Disturbs k') (second : k'.Disturbs k'') :
  k.Disturbs k''
  where
  keeps stop := second.keeps (first.keeps stop)
  order := second.order.trans first.order
  states name s found := by
    obtain ⟨s', found', disturbed⟩ := first.states name s found
    obtain ⟨s'', found'', again⟩ := second.states name s' found'
    exact ⟨s'', found'', disturbed.trans again⟩

theorem Disturbs.of_update (k : Stack τ σ) (name : String) {f : ServiceState → ServiceState}
    (own : ∀ s : ServiceState, s.Disturbs (f s)) :
  k.Disturbs (k.update name f)
  where
  keeps := id
  order := rfl
  states other s found := by
    show ∃ s', (k.states.modify name f).get? other = some s' ∧ _
    rw [Table.get?_modify]
    by_cases same : other = name
    · rw [same] at found
      exact ⟨f s, by simp [same, found], own s⟩
    · exact ⟨s, by simp [same, found], .refl s⟩

/-- Asking for a stop is no more than a disturbance. -/
theorem disturbs_requestStop (k : Stack τ σ) :
  k.Disturbs k.requestStop
  := .of_eq rfl rfl fun _ => rfl

theorem disturbs_hear {α : Type} (k : Stack τ σ) (r : Reply α × σ) :
  k.Disturbs (k.hear r).2
  := by
  refine Disturbs.of_eq (states_hear k r) (order_hear k r) fun stop => ?_
  rw [stopping_hear, stop, Bool.true_or]

/-! ### Taking the stack down -/

theorem disturbs_stopService (h : Host τ σ) (k : Stack τ σ) (s : Service) :
  k.Disturbs (k.stopService h s).2
  := by
  have met : k.Disturbs ((k.note (.about .info "service_stopping" s.name [])).meet s.name) := by
    rw [meet]
    split <;> exact .of_eq rfl rfl id
  refine met.trans ?_
  unfold stopService
  generalize ((k.note (.about .info "service_stopping" s.name [])).meet s.name) = k
  have heard := disturbs_hear k (h.stop s k.stopTimeout k.world)
  simp only
  split
  · next stopped called =>
    rw [called] at heard
    refine heard.trans (Disturbs.of_update _ _ fun state => ?_)
    apply state.disturbs_status _ (by simp [Status.isEarly]) state.exitCode
  · next stopped called =>
    rw [called] at heard
    exact heard
  · next fault stopped _ called =>
    rw [called] at heard
    exact heard.trans (.of_eq rfl rfl id)

theorem disturbs_stopServices (h : Host τ σ) (services : List Service) (k : Stack τ σ) :
  k.Disturbs (stopServices h services k).2
  := by
  induction services generalizing k with
  | nil => exact .of_eq rfl rfl id
  | cons s rest ih =>
    have first := disturbs_stopService h k s
    rw [stopServices]
    split
    · next stopped called =>
      rw [called] at first
      apply first.trans (ih stopped)
    · exact first

/-- Taking the stack down is no more than a disturbance. -/
theorem disturbs_down (h : Host τ σ) (k : Stack τ σ) :
  k.Disturbs (k.down h).2
  := by
  have stopped : k.Disturbs { k with supervisor := k.supervisor.stop } :=
    .of_eq rfl rfl fun _ => rfl
  refine stopped.trans ?_
  rw [down]
  generalize ({ k with supervisor := k.supervisor.stop } : Stack τ σ) = k
  simp only
  split
  · exact .of_eq rfl rfl id
  · next order _ =>
    have all := disturbs_stopServices h (order.reverse.filterMap k.descriptor.services.get?) k
    split
    · next fault stopped called =>
      rw [called] at all
      exact all
    · next stopped called =>
      rw [called] at all
      have heard := disturbs_hear stopped (h.teardown stopped.world)
      split
      · next fault released called =>
        rw [called] at heard
        apply all.trans heard
      · next released called =>
        rw [called] at heard
        exact (all.trans heard).trans (.of_eq rfl rfl id)

end Stack

/-! ### The supervisor -/

namespace Check

variable {τ σ : Type}

/-- What a check does to its desk is no more than a disturbance. -/
structure Disturbs (d d' : Desk τ) : Prop where
  state : d.state.Disturbs d'.state
  keeps : d.supervisor.stopped = true → d'.supervisor.stopped = true

theorem Disturbs.refl (d : Desk τ) :
  Disturbs d d
  := ⟨.refl d.state, id⟩

theorem Disturbs.trans {d d' d'' : Desk τ} (first : Disturbs d d') (second : Disturbs d' d'') :
  Disturbs d d''
  := ⟨first.state.trans second.state, fun stop => second.keeps (first.keeps stop)⟩

variable [Timeline τ] {s : Service} {b : Backoff τ}

theorem disturbs_judge (now : τ) (code : Option Int) (d : Desk τ) :
  Disturbs d (judge s b now code d).2
  := by
  have exited := d.state.disturbs_status .exited (by simp [Status.isEarly]) code
  rw [judge]
  simp only
  split
  · exact ⟨exited, id⟩
  · split
    · exact ⟨exited, id⟩
    · exact ⟨⟨rfl, rfl, rfl, rfl, id⟩, id⟩

theorem disturbs_step (clock : τ) (c : Check τ) (d : Desk τ) :
  Disturbs d (step s b clock c d).2
  := by
  cases c with
  | crediting now =>
    refine ⟨.refl _, fun stop => ?_⟩
    simp only [step, Supervisor.credit]
    split <;> exact stop
  | scheduling now delay =>
    refine ⟨.refl _, fun stop => ?_⟩
    simp only [step, Supervisor.schedule]
    split <;> exact stop
  | resuming =>
    refine ⟨.refl _, fun stop => ?_⟩
    simp only [step, Supervisor.resume]
    split <;> exact stop
  | awaiting now =>
    simp only [step]
    split <;> exact .refl d
  | backingOff => exact ⟨⟨rfl, rfl, rfl, rfl, id⟩, id⟩
  | retiring => exact ⟨.refl _, id⟩
  | _ => exact .refl d

theorem disturbs_hear (c : Check τ) (reply : RunnerReply) (d : Desk τ) :
  Disturbs d (hear s b c reply d).2
  := by
  unfold hear
  split
  · exact .refl d
  · apply disturbs_judge ..
  · exact ⟨d.state.disturbs_status _ (by simp [Status.isEarly]) _, id⟩
  · split
    · exact ⟨⟨rfl, rfl, rfl, rfl, id⟩, id⟩
    · exact .refl d
  · exact .refl d
  · exact .refl d

/-- A check is no more than a disturbance if the calls of the runner are not. -/
theorem disturbs_drive {w : Surroundings τ σ}
    (calls : ∀ call d world, Disturbs d (w.call call (d, world)).2.1) (fuel : Nat) (c : Check τ)
    (d : Desk τ) (world : σ) :
  Disturbs d (drive w s b fuel c (d, world)).2.1
  := by
  induction fuel generalizing c d world with
  | zero => cases c <;> exact .refl d
  | succ fuel ih =>
    by_cases finished : ∃ fault, c = .ended fault
    · obtain ⟨fault, rfl⟩ := finished
      exact .refl d
    · rw [drive]
      · split
        · exact (calls _ d world).trans ((disturbs_hear ..).trans (ih ..))
        · exact (disturbs_step ..).trans (ih ..)
      · rintro fault rfl
        apply finished ⟨fault, rfl⟩

end Check

namespace Stack

variable {τ σ : Type} {h : Host τ σ}

theorem disturbs_answerCheck (s : Service) (call : RunnerCall) (d : Desk τ) (world : σ) :
  Check.Disturbs d (answerCheck h s call (d, world)).2.1
  := by
  cases call
  all_goals
    refine ⟨.refl _, fun stop => ?_⟩
    simp only [answerCheck]
    split
    · rfl
    · exact stop

/-- A check of the supervisor is no more than a disturbance. -/
theorem disturbs_check [Timeline τ] (k : Stack τ σ) (name : String) :
  k.Disturbs (k.check h name).2
  := by
  rw [Stack.check]
  split
  · exact .of_eq rfl rfl id
  · split
    · next s state found there =>
      have := Check.disturbs_drive (s := s) (b := k.backoff) (w := ⟨h.clock, answerCheck h s⟩)
        (disturbs_answerCheck s) (Check.rank (.entering : Check τ)) .entering
        ⟨k.supervisor, state, k.log⟩ k.world
      refine ⟨this.keeps, rfl, fun other before same => ?_⟩
      rw [Table.get?_insert]
      by_cases own : other = name
      · rw [own, there] at same
        cases same
        exact ⟨_, if_pos own, this.state⟩
      · exact ⟨before, by rw [if_neg own, same], .refl before⟩
    · exact .of_eq rfl rfl id

end Stack

end Muster
