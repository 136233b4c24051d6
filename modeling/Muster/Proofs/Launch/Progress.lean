import Muster.Proofs.Launch.Others
import Muster.Proofs.Launch.Waiting
/-!
# Runs come to an end

A worker that has a place to go always finds its way there: it waits only for services below its
own, and these settle unless their workers are broken off by the user.  In that case the fault is
taken note of and a stop is asked for, and then nobody waits any longer.  So a run can go on until
all workers have ended, and by then every service is ready or has failed.
-/

namespace Muster

namespace Worker

variable {τ σ : Type} {h : Host τ σ} {s : Service} {k : Stack τ σ}

/-- A worker without a step to take has ended, or it waits for a dependency that has not come
while no stop has been asked for. -/
theorem waits_of_step_eq_none {w : Worker} (stays : w.step h s k = none) :
  w.isOver = true ∨ ∃ dependency condition left, w = awaiting ((dependency, condition) :: left)
    ∧ arrived k dependency condition = false ∧ k.stopping = false
  := by
  cases w with
  | ended fault => exact .inl rfl
  | awaiting left =>
    cases left with
    | nil => cases stays
    | cons e left =>
      obtain ⟨dependency, condition⟩ := e
      right
      refine ⟨dependency, condition, left, rfl, ?_⟩
      simp only [Worker.step] at stays
      split at stays
      · cases stays
      · next absent =>
        simp only [quit, ite_eq_right_iff, reduceCtorEq, imp_false] at stays
        exact ⟨by simpa using absent, by simpa using stays⟩
  | announcing left | readying left => cases left <;> cases stays
  | failing left fault => cases left <;> cases stays
  | starting =>
    simp only [Worker.step] at stays
    split at stays <;> cases stays
  | preparing | polling | checking =>
    simp only [Worker.step] at stays
    split at stays <;> cases stays
  | _ => cases stays

end Worker

namespace Launch

variable {τ σ : Type} {h : Host τ σ} {others : Stack τ σ → Stack τ σ → Prop} {l₀ l : Launch τ σ}
  {trace : List Worker.Turn}

/-- Something can happen: a worker has a step to take, or the fault of a worker is there to be
taken note of. -/
def GoesOn (h : Host τ σ) (l : Launch τ σ) : Prop :=
  (∃ name l', l.step h name = some l')
    ∨ l.crash = none ∧ ∃ fault, l.join.crash = some fault ∧ l.join.stack.stopping = true

theorem stopping_join_of_crash (kept : l.crash ≠ none → l.stack.stopping = true)
    (crashed : l.join.crash ≠ none) :
  l.join.stack.stopping = true
  := by
  by_cases before : l.crash = none
  · rw [Launch.join] at crashed ⊢
    split
    · rfl
    · next other =>
      split at crashed
      · next none fault => exact absurd fault (other _ none)
      · apply kept crashed
  · apply stopping_join (kept before)

/-- When a fault has been taken note of, a stop has been asked for. -/
theorem Run.stopping_of_crash (run : l₀.Run h others trace l) (fresh : l₀.Fresh)
    (bound : ∀ k k', others k k' → k.Disturbs k') :
  l.crash ≠ none → l.stack.stopping = true
  := by
  refine run.invariant fresh.staffed bound (P := fun _ l => l.crash ≠ none →
    l.stack.stopping = true) (fun crashed => absurd fresh.crash crashed) ?_ ?_ ?_
  · intro trace l l' s w state call w' state' _ kept takes crashed
    rw [takes.crash] at crashed
    apply takes.leaves.keeps (kept crashed)
  · intro trace l kept
    apply stopping_join_of_crash kept
  · intro trace l k _ kept change crashed
    exact (bound _ _ change).keeps (kept crashed)

/-- When a worker has died and this has not been taken note of, it can be. -/
theorem exists_join_eq {name : String} {fault : Fault} (before : l.crash = none)
    (dead : l.workers.get? name = some (.ended (some fault))) :
  ∃ first, l.join = { l with crash := some first, stack := l.stack.requestStop }
  := by
  have mem : Worker.ended (some fault) ∈ l.workers.values :=
    List.mem_map_of_mem (f := Prod.snd) (Table.get?_eq_some_iff.mp dead)
  cases found : l.workers.values.findSome? Worker.crash? with
  | none => cases List.findSome?_eq_none_iff.mp found _ mem
  | some first => exact ⟨first, by simp [join, before, found]⟩

/-- The fault of a worker that has died is there to be taken note of, or a stop has been asked
for. -/
theorem goesOn_of_crash {name : String} {fault : Fault}
    (kept : l.crash ≠ none → l.stack.stopping = true)
    (dead : l.workers.get? name = some (.ended (some fault))) :
  l.GoesOn h ∨ l.stack.stopping = true
  := by
  by_cases before : l.crash = none
  · obtain ⟨first, same⟩ := exists_join_eq before dead
    exact .inl (.inr ⟨before, first, by rw [same], by rw [same]; rfl⟩)
  · exact .inr (kept before)

/-- When its worker has come to its end, a service is ready or has failed, unless the worker has
died of the user's request. -/
theorem exists_done {s : Service} {fault : Option Fault} {state : ServiceState}
    (sound : (Worker.ended fault).Sound s trace state) (own : ∀ m, fault ≠ some (.interrupt m)) :
  ∃ failed, state.Done failed
  := by
  rcases fault with _ | fault
  · rcases sound with ready | failing
    · exact ⟨false, ready.done⟩
    · exact ⟨true, failing.done⟩
  · cases fault with
    | interrupt m => apply absurd rfl (own m)
    | _ => exact ⟨true, ServiceState.Failing.done sound⟩

theorem arrived_of_done {k : Stack τ σ} {dependency : String} {state : ServiceState} {failed : Bool}
    (found : k.states.get? dependency = some state) (done : state.Done failed)
    (condition : Condition) :
  Worker.arrived k dependency condition = true
  := by
  rw [arrived_iff]
  refine ⟨state, found, ?_⟩
  cases condition
  · apply done.started
  · apply done.settled

/-- As long as the worker of a service has not ended, something can happen: the worker takes a
step, or it waits for a service below, and something can happen there. -/
theorem goesOn_of_worker {rank : String → Nat} (staffed : l.Staffed) (sound : l.Sound trace)
    (kept : l.crash ≠ none → l.stack.stopping = true)
    (ranked : ∀ s, l.services.get? s.name = some s → ∀ d ∈ s.dependencies, rank d < rank s.name)
    (waits : ∀ s w state, l.At s w state → l.Waited trace s w)
    {s : Service} {w : Worker} {state : ServiceState} (here : l.At s w state)
    (active : w.isOver = false) :
  l.GoesOn h
  := by
  generalize place : rank s.name = n
  induction n using Nat.strongRecOn generalizing s w state with
  | ind n below =>
    subst place
    cases next : w.step h s l.stack with
    | some pair =>
      left
      have moved := here.act fun s w k => w.step h s k
      rw [next] at moved
      exact ⟨s.name, _, moved⟩
    | none =>
      rcases Worker.waits_of_step_eq_none next with finished | ⟨d, condition, left, rfl, absent, free⟩
      · rw [finished] at active
        cases active
      have depends : d ∈ s.dependencies := by
        obtain ⟨past, split, -⟩ := waits s _ state here
        apply mem_dependencies_of_split split
      obtain ⟨r, v, seen, rfl, below'⟩ := staffed.exists_dependency here.service depends
      cases finished : v.isOver with
      | false => apply below _ (ranked s here.service _ depends) below' finished rfl
      | true =>
        cases v with
        | ended fault =>
          by_cases own : ∃ m, fault = some (.interrupt m)
          · obtain ⟨m, rfl⟩ := own
            rcases goesOn_of_crash (h := h) kept below'.worker with on | stop
            · exact on
            · rw [free] at stop
              cases stop
          · obtain ⟨failed, done⟩ := exists_done (sound _ _ _ below') (by simpa using own)
            rw [arrived_of_done below'.state done condition] at absent
            cases absent
        | _ => cases finished

/-- A run can go on until all workers have ended. -/
theorem Run.goesOn (run : l₀.Run h others trace l) (fresh : l₀.Fresh)
    (bound : ∀ k k', others k k' → k.Disturbs k') (active : l.isOver = false) :
  l.GoesOn h
  := by
  obtain ⟨sound, waits⟩ := run.waiting fresh bound
  have staffed := run.staffed fresh.staffed bound
  obtain ⟨rank, ranked⟩ := fresh.ranked
  rw [← run.services] at ranked
  obtain ⟨w, hw, going⟩ : ∃ w ∈ l.workers.values, w.isOver = false := by
    simpa [isOver] using active
  obtain ⟨s, state, here⟩ := staffed.exists_at hw
  apply goesOn_of_worker staffed sound (run.stopping_of_crash fresh bound) ranked waits here going

/-- The turns of a run are bounded from its beginning. -/
theorem Run.length_add_rank_le (run : l₀.Run h others trace l) :
  trace.length + l.rank ≤ l₀.rank
  := by
  induction run with
  | start => simp
  | turn run taken ih =>
    have closer : _ := taken.elim rank_step_lt rank_quit_lt
    rw [List.length_append, List.length_singleton]
    omega
  | join run ih => rwa [rank_join]
  | other run change ih => exact ih

/-! ### The fair run -/

section Fair

variable {patient : Bool} {name : String} {names : List String}

theorem rank_turn_le (h : Host τ σ) (patient : Bool) (l : Launch τ σ) (name : String) :
  (l.turn h patient name).rank ≤ l.rank
  := by
  rcases turn_cases h patient l name with same | step
  · apply Nat.le_of_eq (by rw [same])
  · apply Nat.le_of_lt (rank_step_lt step)

theorem rank_turns_le (h : Host τ σ) (patient : Bool) (names : List String) (l : Launch τ σ) :
  (names.foldl (turn h patient) l).rank ≤ l.rank
  := by
  induction names generalizing l with
  | nil => apply Nat.le_refl _
  | cons first rest ih => apply Nat.le_trans (ih _) (rank_turn_le h patient l first)

/-- When all take turns and nothing gets closer to its end, nobody has a step to take. -/
theorem step_eq_none_of_turns (stays : ¬ (names.foldl (turn h false) l).rank < l.rank) :
  ∀ name ∈ names, l.step h name = none
  := by
  induction names with
  | nil => simp
  | cons first rest ih =>
    have none : l.step h first = none := by
      cases next : l.step h first with
      | none => rfl
      | some l' =>
        have moved : l.turn h false first = l' := by simp [turn, next]
        have closer := rank_step_lt next
        have bound := rank_turns_le h false rest l'
        rw [List.foldl_cons, moved] at stays
        omega
    have same : l.turn h false first = l := by simp [turn, none]
    rw [List.foldl_cons, same] at stays
    intro name mem
    rcases List.mem_cons.mp mem with rfl | mem
    · exact none
    · apply ih stays name mem

/-- The fair run is one of the runs. -/
theorem Run.fair (run : l₀.Run h others trace l) :
  ∃ trace', l₀.Run h others trace' (l.run h)
  := by
  fun_induction Launch.run h l generalizing trace
  case case1 l next closer ih =>
    obtain ⟨trace', there⟩ := run.turns _ _
    apply ih there.join
  case case2 l next stays next' closer ih =>
    obtain ⟨trace', there⟩ := run.turns _ _
    apply ih there.join
  case case3 l next stays next' ends => exact ⟨trace, run⟩

/-- When the fair run comes to its end, nobody has a step to take. -/
theorem step_run (h : Host τ σ) (l : Launch τ σ) (name : String) :
  (l.run h).step h name = none
  := by
  fun_induction Launch.run h l
  case case1 l next closer ih => exact ih
  case case2 l next stays next' closer ih => exact ih
  case case3 l next stays next' ends =>
    cases found : l.services.get? name with
    | none => simp [step, act, found]
    | some s =>
      have key : name ∈ l.services.keys :=
        List.mem_map_of_mem (f := Prod.fst) (Table.get?_eq_some_iff.mp found)
      apply step_eq_none_of_turns ends
      apply List.mem_flatMap.mpr ⟨name, key, List.mem_replicate.mpr ⟨by decide, rfl⟩⟩

theorem join_join (l : Launch τ σ) :
  l.join.join = l.join
  := by
  cases crashed : l.crash with
  | some fault =>
    have noted : l.join = l := by simp [join, crashed]
    rw [noted, noted]
  | none =>
    cases found : l.workers.values.findSome? Worker.crash? <;> simp [join, crashed, found]

theorem Fresh.join_eq (fresh : l.Fresh) :
  l.join = l
  := by
  have none : l.workers.values.findSome? Worker.crash? = none := by
    rw [List.findSome?_eq_none_iff]
    intro w hw
    obtain ⟨s, state, here⟩ := fresh.staffed.exists_at hw
    rw [(fresh.start s w state here).1]
    rfl
  simp [join, none]

/-- When the fair run comes to its end, there is no fault that has not been taken note of. -/
theorem join_run (h : Host τ σ) (noted : l.join = l) :
  (l.run h).join = l.run h
  := by
  fun_induction Launch.run h l
  case case1 l next closer ih => exact ih (join_join next)
  case case2 l next stays next' closer ih => exact ih (join_join next')
  case case3 l next stays next' ends => exact noted

/-- The fair run comes to its end only when all workers have ended. -/
theorem isOver_run (fresh : l.Fresh) :
  (l.run h).isOver = true
  := by
  have run : l.Run h (fun _ _ => False) [] l := .start
  obtain ⟨trace, run⟩ := run.fair
  cases finished : (l.run h).isOver with
  | true => rfl
  | false =>
    rcases run.goesOn fresh (fun _ _ => False.elim) finished with
      ⟨name, l', step⟩ | ⟨new, fault, noted, -⟩
    · cases (step_run h l name).symm.trans step
    · rw [join_run h fresh.join_eq, new] at noted
      cases noted

end Fair

/-! ### What a run comes to -/

/-- The workers take a bounded number of turns in every run, and in no run they get stuck before all
of them have ended: a worker can take a step, or the fault of one that has died is there to be taken
note of and then a stop is asked for.  When all have ended, every service whose worker did not die
of the user's request is either ready or has failed, has released whoever waits for it, and is on
its way no longer. -/
theorem run_ends_settled {k : Stack τ σ} {profiles services : List String} {active : Descriptor}
    (accepted : k.plan profiles services = .ok active) :
  ∃ l₀, k.launch profiles services = .ok l₀ ∧
    ∀ trace l, l₀.Run h Stack.Disturbs trace l →
      trace.length ≤ l₀.rank
      ∧ (l.isOver = false → (∃ name l', l.step h name = some l')
        ∨ l.crash = none ∧ ∃ fault, l.join.crash = some fault ∧ l.join.stack.stopping = true)
      ∧ (l.isOver = true → ∀ s, active.services.get? s.name = some s →
          ∃ fault state, l.At s (.ended fault) state
            ∧ ((∀ m, fault ≠ some (.interrupt m)) →
              (state.ready = true ∧ state.failed = false
                ∨ state.ready = false ∧ state.failed = true)
              ∧ state.started = true ∧ state.settled = true
              ∧ state.status ≠ .pending ∧ state.status ≠ .starting))
  := by
  obtain ⟨waves, ok, launched⟩ := exists_begin accepted
  refine ⟨_, launched, ?_⟩
  intro trace l run
  have fresh : (begin k active waves).Fresh := fresh_begin ok
  have bounded := run.length_add_rank_le
  refine ⟨by omega, run.goesOn fresh fun _ _ => id, ?_⟩
  intro finished s found
  have service : l.services.get? s.name = some s := by rw [run.services]; exact found
  obtain ⟨w, state, here⟩ := (run.staffed fresh.staffed fun _ _ => id).staffed s service
  obtain ⟨fault, rfl⟩ := here.exists_fault finished
  refine ⟨fault, state, here, fun own => ?_⟩
  obtain ⟨failed, done⟩ := exists_done (run.sound fresh (fun _ _ => id) s _ state here) own
  have late := done.late
  simp only [Status.isEarly, not_or] at late
  refine ⟨?_, done.started, done.settled, late⟩
  rw [done.ready, done.failed]
  cases failed <;> simp

/-- A host whose user breaks off the start of the database. -/
def brokenOff : Host Int Unit :=
  { Sample.host with
    start := fun s world =>
      (if s.name = "database" then .fail (.interrupt "") else .ok (), world) }

/-- When the user breaks off the start of the database of the sample and the stack is taken down, the
web server, which waits for the database, is settled in the end all the same. -/
theorem run_ends_settled_brokenOff :
  ∃ l₀, (Sample.stack ()).plan [] [] = .ok (Sample.stack ()).descriptor
    ∧ (Sample.stack ()).launch [] [] = .ok l₀
    ∧ ∃ trace l, l₀.Run brokenOff Stack.Disturbs trace l
      ∧ l.isOver = true ∧ l.crash = some (.interrupt "")
      ∧ ∃ state, l.At Sample.web (.ended none) state
        ∧ (state.ready = true ∧ state.failed = false ∨ state.ready = false ∧ state.failed = true)
        ∧ state.started = true ∧ state.settled = true
        ∧ state.status ≠ .pending ∧ state.status ≠ .starting
  := by
  obtain ⟨l₀, launched, settles⟩ := run_ends_settled (h := brokenOff) (Sample.plan_stack ())
  refine ⟨l₀, Sample.plan_stack (), launched, ?_⟩
  cases (Sample.launch_stack ()).symm.trans launched
  have run : (Sample.launch ()).Run brokenOff Stack.Disturbs [] _ := .start
  obtain ⟨_, run⟩ := run.turns false (List.replicate 3 "database")
  have run := run.join.other (Stack.disturbs_down brokenOff _)
  obtain ⟨trace, run⟩ := run.turns false (List.replicate 8 "web" ++ List.replicate 9 "mail")
  refine ⟨trace, _, run, rfl, rfl, ?_⟩
  obtain ⟨fault, state, here, settled⟩ := (settles trace _ run).2.2 rfl Sample.web rfl
  have same := Option.some.inj (here.worker.symm.trans (rfl : _ = some (Worker.ended none)))
  cases same
  exact ⟨state, here, settled nofun⟩

end Launch

end Muster
