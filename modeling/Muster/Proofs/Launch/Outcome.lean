import Muster.Proofs.Launch.Course
import Muster.Proofs.Launch.Progress
/-!
# The outcome of a launch

When the host plays a scenario, every run of the workers that goes on until all have ended comes
to the same report, whatever the order of their turns: the one that the forecast gives.  Where the
forecast says that a worker dies, there is no report, but the fault of that worker.  The fair run is
one of these runs, so this is what bringing the stack up comes to.
-/

namespace Muster

/-- Why a service of the given name did not come up, as a report words it. -/
def Fate.reason? (name : String) (fate : Fate) : Option String :=
  (fate.error? name).map fun text => if text = "" then fate.status.name else text

namespace Scenario

/-- The report on services whose fates are known. -/
def report (fates : Table Fate) (order : List String) : UpReport where
  order
  states := Table.ofList (order.filterMap fun name =>
    (fates.get? name).map fun fate => (name, fate.state name))

/-- Texts with what is found for them are listed in their order. -/
theorem keys_filterMap_sublist {α : Type} (f : String → Option α) (names : List String) :
  ((names.filterMap fun name => (f name).map fun a => (name, a)).map Prod.fst).Sublist names
  := by
  induction names with
  | nil => exact .slnil
  | cons first rest ih =>
    cases found : f first with
    | none =>
      rw [List.filterMap_cons_none (by simp [found])]
      apply ih.cons first
    | some a =>
      rw [List.filterMap_cons_some (b := (first, a)) (by simp [found])]
      apply ih.cons_cons first

/-- The report names exactly the services that fail, in the order of their start, each with the
reason. -/
theorem failures_report (fates : Table Fate) {order : List String} (nodup : order.Nodup) :
  (report fates order).failures = order.filterMap fun name =>
    (fates.get? name).bind fun fate => (fate.reason? name).map fun reason => (name, reason)
  := by
  let states := order.filterMap fun name =>
    ((fates.get? name).map (Fate.state name)).map fun state => (name, state)
  have keys : (states.map Prod.fst).Nodup := nodup.sublist (keys_filterMap_sublist _ order)
  have listed : (report fates order).states.entries = states := by
    rw [report]
    rw [← Table.entries_ofList keys]
    simp only [states, Option.map_map, Function.comp_def]
  rw [UpReport.failures]
  simp only [Table.filter, listed, states, List.filter_filterMap, List.map_filterMap]
  apply List.filterMap_congr
  intro name _
  cases fates.get? name with
  | none => rfl
  | some fate =>
    cases fate with
    | running | healthy => rfl
    | unhealthy | failed | blocked | broken =>
      simp [Option.filter, Fate.state, Fate.isFailed, Fate.error?, Fate.reason?, Fate.status]

end Scenario

namespace Launch

variable {τ σ : Type} {h : Host τ σ} {others : Stack τ σ → Stack τ σ → Prop} {scenario : Scenario}
  {played : String → σ → Nat} {fates : Table Fate} {trace : List Worker.Turn} {l₀ l : Launch τ σ}

/-- No run changes the order of the services. -/
theorem Run.order (run : l₀.Run h others trace l) (fresh : l₀.Fresh)
    (bound : ∀ k k', others k k' → k.Disturbs k') :
  l.stack.order = l₀.stack.order
  := by
  refine run.invariant (P := fun _ l => l.stack.order = l₀.stack.order) fresh.staffed bound rfl
    ?_ ?_ ?_
  · intro trace l l' s w state call w' state' _ kept takes
    rw [takes.leaves.order, kept]
  · intro trace l kept
    rw [order_join, kept]
  · intro trace l k _ kept change
    rw [(bound _ _ change).order, kept]

/-- When all workers have ended, every service is as foretold, and has been started once unless it
is blocked. -/
theorem OnCourse.of_isOver (course : l.OnCourse scenario played fates trace)
    (staffed : l.Staffed) (finished : l.isOver = true) {s : Service}
    (found : l.services.get? s.name = some s) :
  l.stack.states.get? s.name = some ((scenario.fate fates s).state s.name)
    ∧ starts trace s.name = if (scenario.fate fates s).isBlocked then 0 else 1
  := by
  obtain ⟨w, state, here⟩ := staffed.staffed s found
  obtain ⟨fault, rfl⟩ := here.exists_fault finished
  obtain ⟨⟨starts, state⟩, -⟩ := course.workers s _ _ here
  exact ⟨here.state.trans (congrArg some state), starts⟩

/-- When all workers have ended, the report is the one that the forecast gives. -/
theorem OnCourse.finish_eq (course : l.OnCourse scenario played fates trace) (staffed : l.Staffed)
    (finished : l.isOver = true) (foretells : scenario.Foretells l.services fates)
    (listed : ∀ name ∈ l.stack.order, ∃ s, l.services.get? name = some s) :
  l.finish.1 = .ok (Scenario.report fates l.stack.order)
  := by
  have states : (l.stack.order.filterMap fun name =>
        (l.stack.states.get? name).map fun state => (name, state))
      = l.stack.order.filterMap fun name =>
        (fates.get? name).map fun fate => (name, fate.state name) := by
    apply List.filterMap_congr
    intro name mem
    obtain ⟨s, found⟩ := listed name mem
    obtain rfl := staffed.named name s found
    rw [(course.of_isOver staffed finished found).1, foretells s found]
    rfl
  rw [finish]
  rw [course.crash]
  simp only [states]
  split <;> rfl

section Begin

variable {k : Stack τ σ} {active : Descriptor} {waves : List (List String)}

/-- When all workers have ended in a run in which the host plays a scenario, everything is as
foretold. -/
theorem Run.foretold (ok : active.startWaves = .ok waves)
    (plain : Plain scenario fates active.services) (plays : h.Plays scenario played)
    (unplayed : ∀ name, played name k.world = 0) (calm : ¬ scenario.Crashes active.services fates)
    (run : (begin k active waves).Run h (fun _ _ => False) trace l) (finished : l.isOver = true) :
  l.finish.1 = .ok (Scenario.report fates waves.flatten)
    ∧ ∀ s, active.services.get? s.name = some s →
      starts trace s.name = if (scenario.fate fates s).isBlocked then 0 else 1
  := by
  have fresh : (begin k active waves).Fresh := fresh_begin ok
  have staffed := run.staffed fresh.staffed fun _ _ => False.elim
  have services : l.services = active.services := run.services
  have order : l.stack.order = waves.flatten :=
    (run.order fresh fun _ _ => False.elim).trans order_begin
  rcases run.onCourse fresh plain plays (by rwa [world_begin]) with course | broken
  · constructor
    · rw [← order]
      apply course.finish_eq staffed finished (services ▸ plain.foretells)
      intro name mem
      rw [order, (Descriptor.flatten_startWaves_perm ok).mem_iff] at mem
      obtain ⟨e, he, rfl⟩ := List.mem_map.mp mem
      exact ⟨e.2, services ▸ Table.get?_eq_some_iff.mpr he⟩
    · intro s found
      exact (course.of_isOver staffed finished (services ▸ found)).2
  · apply absurd (services ▸ broken.foretold) calm

/-- When all workers have ended in a run in which a worker is to die, there is its fault. -/
theorem Run.broken (ok : active.startWaves = .ok waves)
    (plain : Plain scenario fates active.services) (plays : h.Plays scenario played)
    (unplayed : ∀ name, played name k.world = 0) (crashes : scenario.Crashes active.services fates)
    (run : (begin k active waves).Run h (fun _ _ => False) trace l) (finished : l.isOver = true) :
  l.join.finish.1 = .error .overflow
  := by
  have fresh : (begin k active waves).Fresh := fresh_begin ok
  have staffed := run.staffed fresh.staffed fun _ _ => False.elim
  have broken : l.join.BrokenOff scenario fates := by
    rcases run.onCourse fresh plain plays (by rwa [world_begin]) with course | broken
    · rcases course.join staffed with going | broken
      · obtain ⟨s, found, crash⟩ := crashes
        have found : l.services.get? s.name = some s := run.services.symm ▸ found
        obtain ⟨w, state, here⟩ := staffed.staffed s found
        obtain ⟨fault, rfl⟩ := here.exists_fault finished
        obtain rfl := crash.symm.trans (course.workers s _ _ here).2
        obtain ⟨first, noted⟩ := exists_join_eq course.crash here.worker
        have none := going.crash
        rw [noted] at none
        cases none
      · exact broken
    · exact broken.join
  rw [finish, broken.crash]

/-- In a run in which the host plays a scenario, a worker has a step to take until all have
ended. -/
theorem Run.exists_step (ok : active.startWaves = .ok waves)
    (plain : Plain scenario fates active.services) (plays : h.Plays scenario played)
    (unplayed : ∀ name, played name k.world = 0) (calm : ¬ scenario.Crashes active.services fates)
    (run : (begin k active waves).Run h (fun _ _ => False) trace l) (going : l.isOver = false) :
  ∃ name l', l.step h name = some l'
  := by
  have fresh : (begin k active waves).Fresh := fresh_begin ok
  rcases run.goesOn fresh (fun _ _ => False.elim) going with step | ⟨-, fault, crashed, -⟩
  · exact step
  · have services : l.join.services = active.services := services_join.trans run.services
    rcases run.join.onCourse fresh plain plays (by rwa [world_begin]) with course | broken
    · rw [course.crash] at crashed
      cases crashed
    · apply absurd (services ▸ broken.foretold) calm

/-- The fair run comes to the foretold report. -/
theorem finish_run_of_calm (ok : active.startWaves = .ok waves)
    (plain : Plain scenario fates active.services) (plays : h.Plays scenario played)
    (unplayed : ∀ name, played name k.world = 0) (calm : ¬ scenario.Crashes active.services fates) :
  ((begin k active waves).run h).finish.1 = .ok (Scenario.report fates waves.flatten)
  := by
  obtain ⟨trace, fair⟩ := (Run.start : (begin k active waves).Run h (fun _ _ => False) [] _).fair
  exact (fair.foretold ok plain plays unplayed calm (isOver_run (fresh_begin ok))).1

/-- The fair run comes to the fault of the worker that is to die. -/
theorem finish_run_of_crashes (ok : active.startWaves = .ok waves)
    (plain : Plain scenario fates active.services) (plays : h.Plays scenario played)
    (unplayed : ∀ name, played name k.world = 0) (crashes : scenario.Crashes active.services fates) :
  ((begin k active waves).run h).finish.1 = .error .overflow
  := by
  have fresh : (begin k active waves).Fresh := fresh_begin ok
  obtain ⟨trace, fair⟩ := (Run.start : (begin k active waves).Run h (fun _ _ => False) [] _).fair
  have broken := fair.broken ok plain plays unplayed crashes (isOver_run fresh)
  rwa [join_run h fresh.join_eq] at broken

end Begin

end Launch

/-- Where services wait for others to be healthy, bringing a stack up comes to what the scenario
that the host plays has in store, whatever the order in which the workers take turns.  Every run
comes to an end, and when all workers have ended its report is that of the forecast along the start
order, which is a recursion on the dependency graph; a service is started once unless it is blocked.
The report names the services that fail in the order of their start.  What becomes of a service
depends only on those that it needs.  This is so if the times of all health checks can be waited for,
and otherwise unless the forecast says that a worker dies of such a time: then every run comes to
this fault, and so does bringing the stack up. -/
theorem Stack.up_eq_forecast {τ σ : Type} {h : Host τ σ} {scenario : Scenario}
    {played : String → σ → Nat} {k : Stack τ σ} {profiles services : List String}
    {active : Descriptor} (accepted : k.plan profiles services = .ok active)
    (healthy : ∀ e ∈ k.descriptor.services.entries, ∀ d ∈ e.2.dependsOn.entries, d.2 = .healthy)
    (plays : h.Plays scenario played) (unplayed : ∀ name, played name k.world = 0) :
  ∃ l₀ order fates, k.launch profiles services = .ok l₀ ∧ active.startOrder = .ok order
    ∧ fates = scenario.forecast active.services order
    ∧ scenario.Foretells active.services fates
    ∧ ((∀ s check, active.services.get? s.name = some s → s.activeCheck? = some check →
        scenario.accepts check.startPeriod = true ∧ scenario.accepts check.interval = true) →
      ¬ scenario.Crashes active.services fates)
    ∧ (¬ scenario.Crashes active.services fates →
      (∀ trace l, l₀.Run h (fun _ _ => False) trace l →
        trace.length ≤ l₀.rank
        ∧ (l.isOver = false → ∃ name l', l.step h name = some l')
        ∧ (l.isOver = true → l.finish.1 = .ok (Scenario.report fates order)
          ∧ ∀ s, active.services.get? s.name = some s →
            starts trace s.name = if (scenario.fate fates s).isBlocked then 0 else 1))
      ∧ (k.up h profiles services).1 = .ok (Scenario.report fates order))
    ∧ (scenario.Crashes active.services fates →
      (∀ trace l, l₀.Run h (fun _ _ => False) trace l →
        trace.length ≤ l₀.rank ∧ (l.isOver = false → l.GoesOn h)
        ∧ (l.isOver = true → l.join.finish.1 = .error .overflow))
      ∧ (k.up h profiles services).1 = .error .overflow)
    ∧ (Scenario.report fates order).failures = (order.filterMap fun name =>
        (fates.get? name).bind fun fate => (fate.reason? name).map fun reason => (name, reason))
    ∧ ∀ (scenario' : Scenario) s, active.services.get? s.name = some s →
        scenario'.accepts = scenario.accepts →
        (∀ name, Scenario.Needs active.services s.name name →
          scenario'.start name = scenario.start name ∧ scenario'.check name = scenario.check name) →
        (scenario'.forecast active.services order).get? s.name = fates.get? s.name
  := by
  obtain ⟨waves, ok, launched⟩ := Launch.exists_begin accepted
  have fresh : (Launch.begin k active waves).Fresh := Launch.fresh_begin ok
  have nodup := (Descriptor.flatten_startWaves_perm ok).nodup_iff.mpr active.nodup_names
  have foretells (scenario : Scenario) := Scenario.foretells_forecast scenario ok
  have plain : Launch.Plain scenario (scenario.forecast active.services waves.flatten)
      active.services := by
    refine ⟨fun s found e he => ?_, foretells scenario⟩
    have selected := Table.get?_eq_some_iff.mp found
    apply healthy _ (Descriptor.mem_of_select (Launch.plan_eq_ok_iff.mp accepted).2 selected) e he
  have bounded {trace l} (run : (Launch.begin k active waves).Run h (fun _ _ => False) trace l) :
      trace.length ≤ (Launch.begin k active waves).rank := by
    have := run.length_add_rank_le
    omega
  refine ⟨_, waves.flatten, _, launched, by simp [Descriptor.startOrder, ok, Except.map], rfl,
    foretells scenario, ?_, fun calm => ⟨fun trace l run => ⟨bounded run,
      run.exists_step ok plain plays unplayed calm, run.foretold ok plain plays unplayed calm⟩, ?_⟩,
    fun crashes => ⟨fun trace l run => ⟨bounded run, run.goesOn fresh fun _ _ => False.elim,
      run.broken ok plain plays unplayed crashes⟩, ?_⟩, Scenario.failures_report _ nodup, ?_⟩
  · rintro all ⟨s, found, crash⟩
    rw [Scenario.crash?_fate fun check => all s check found] at crash
    cases crash
  · rw [Stack.up, launched]
    apply Launch.finish_run_of_calm ok plain plays unplayed calm
  · rw [Stack.up, launched]
    apply Launch.finish_run_of_crashes ok plain plays unplayed crashes
  · intro scenario' s found accepts same
    obtain ⟨rank, ranked⟩ := fresh.ranked
    refine Scenario.get?_congr fresh.staffed.named ?_ ranked (foretells scenario)
      (foretells scenario') found accepts same
    intro r there d hd
    obtain ⟨other, -, found⟩ := fresh.staffed.closed r there d hd
    exact ⟨other, found⟩

namespace Sample

/-- No health check has been run. -/
def unplayed : String → Nat :=
  fun _ => 0

/-- The database cannot be started, and the mail service never becomes healthy. -/
def scenario : Scenario where
  start name := if name = "database" then .refused "disk full" else .success
  check _ spent := { success := false, output := "queue of " ++ toString spent }
  accepts time := (Host.waitFault? time).isNone

/-- A service whose health checks begin after more than three hundred years. -/
def tardy : Service where
  name := "tardy"
  healthCheck := some {
    test := ["CMD", "true"], interval := 1, timeout := 1, retries := 3, startPeriod := 10000000000
    disabled := false }

/-- The stack of that service alone. -/
def sluggish (world : σ) : Stack Int σ :=
  { stack world with
    descriptor := {
      project := "sample"
      services := ⟨[("tardy", tardy)], by decide⟩
      named := by simp [tardy]
      closed := by decide } }

theorem startWaves_sluggish (world : σ) :
  (sluggish world).descriptor.startWaves = .ok [["tardy"]]
  := by
  have graph : (sluggish world).descriptor.graph = [("tardy", [])] := rfl
  rw [Descriptor.startWaves_eq_ok_iff, graph]
  simp [StartOrder.split, StartOrder.free, StartOrder.nodes, StartOrder.remove]

theorem plan_sluggish (world : σ) :
  (sluggish world).plan [] [] = .ok (sluggish world).descriptor
  := Launch.plan_eq_ok_iff.mpr ⟨⟨_, startWaves_sluggish world⟩, rfl⟩

end Sample

/-- When the database of the sample cannot be started and its mail service does not become healthy,
bringing the stack up comes to a report that names all three services. -/
theorem Stack.up_eq_forecast_sample :
  ∃ report active, (Sample.stack Sample.unplayed).plan [] [] = .ok active
    ∧ Sample.scenario.host.Plays Sample.scenario (fun name played => played name)
    ∧ ((Sample.stack Sample.unplayed).up Sample.scenario.host [] []).1 = .ok report
    ∧ report.failures = [("mail", "Service mail is unhealthy after 2 attempt(s): queue of 1"),
      ("database", "disk full"), ("web", "dependency database is failed")]
  := by
  obtain ⟨_, order, _, -, ordered, rfl, -, accepted, calm, -, failures, -⟩ :=
    up_eq_forecast (Sample.plan_stack Sample.unplayed) (by decide) Sample.scenario.plays_host
      fun _ => rfl
  rw [Descriptor.startOrder, Sample.startWaves_stack] at ordered
  cases ordered
  have checks : ∀ e ∈ (Sample.stack Sample.unplayed).descriptor.services.entries,
      ∀ check, e.2.activeCheck? = some check →
        Sample.scenario.accepts check.startPeriod = true
          ∧ Sample.scenario.accepts check.interval = true := by
    decide
  have up := (calm (accepted fun s check found active =>
    checks _ (Table.get?_eq_some_iff.mp found) check active)).2
  exact ⟨_, _, Sample.plan_stack _, Sample.scenario.plays_host, up, failures.trans rfl⟩

/-- The start period of a service can be a time that cannot be waited for.  Then its worker dies,
although its start goes well, and there is no report. -/
theorem Stack.up_sluggish :
  (Sample.sluggish Sample.unplayed).plan [] [] = .ok (Sample.sluggish Sample.unplayed).descriptor
    ∧ (∀ e ∈ (Sample.sluggish Sample.unplayed).descriptor.services.entries,
        ∀ d ∈ e.2.dependsOn.entries, d.2 = .healthy)
    ∧ Sample.scenario.host.Plays Sample.scenario (fun name played => played name)
    ∧ ((Sample.sluggish Sample.unplayed).up Sample.scenario.host [] []).1 = .error .overflow
  := by
  have accepted := Sample.plan_sluggish Sample.unplayed
  have healthy : ∀ e ∈ (Sample.sluggish Sample.unplayed).descriptor.services.entries,
      ∀ d ∈ e.2.dependsOn.entries, d.2 = .healthy := by
    decide
  obtain ⟨waves, ok, launched⟩ := Launch.exists_begin accepted
  have plain : Launch.Plain Sample.scenario _ (Sample.sluggish Sample.unplayed).descriptor.services :=
    ⟨fun s found => healthy _ (Table.get?_eq_some_iff.mp found),
      Scenario.foretells_forecast Sample.scenario ok⟩
  refine ⟨accepted, healthy, Sample.scenario.plays_host, ?_⟩
  rw [Stack.up, launched]
  apply Launch.finish_run_of_crashes ok plain Sample.scenario.plays_host fun _ => rfl
  exact ⟨Sample.tardy, rfl, rfl⟩

end Muster
