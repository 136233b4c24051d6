import Muster.Proofs.StartOrder.Closure
/-!
# What profiles let take part

Without a request the profiles decide which services take part in a run.  They are refused exactly
when one of these services depends on one that does not take part.  So the services that are
accepted are self-contained: to select from them again changes nothing, and a request for all of
them, which brings in what they depend on, brings in nothing else.
-/

namespace Muster

/-- A service takes part in a run with some profiles: it has none, or one of them. -/
def Service.TakesPart (s : Service) (profiles : List String) : Prop :=
  s.profiles = [] ∨ ∃ profile ∈ s.profiles, profile ∈ profiles

instance (s : Service) (profiles : List String) : Decidable (s.TakesPart profiles) :=
  inferInstanceAs (Decidable (_ ∨ _))

theorem Service.isEnabled_iff {s : Service} {profiles : List String} :
  s.isEnabled profiles = true ↔ s.TakesPart profiles
  := by
  simp [isEnabled, TakesPart]

namespace Descriptor

variable {d active : Descriptor} {s : Service} {fault : DescriptorFault} {name : String}
  {names profiles : List String}

/-- The service of a stack with a name takes part in a run with some profiles. -/
def Enables (d : Descriptor) (profiles : List String) (name : String) : Prop :=
  ∃ s, d.services.get? name = some s ∧ s.TakesPart profiles

/-- A service takes part in a run with some profiles, and one that it depends on does not. -/
structure Misses (d : Descriptor) (profiles : List String) (name dependency : String) : Prop where
  enabled : d.Enables profiles name
  depends : d.DependsOn name dependency
  disabled : ¬ d.Enables profiles dependency

theorem Enables.mem_names (enables : d.Enables profiles name) :
  name ∈ d.names
  := by
  obtain ⟨s, found, -⟩ := enables
  apply List.mem_map_of_mem (f := Prod.fst) (Table.get?_eq_some_iff.mp found)

theorem mem_enabled_iff :
  name ∈ d.enabled profiles ↔ d.Enables profiles name
  := by
  constructor
  · intro mem
    obtain ⟨⟨_, s⟩, kept, rfl⟩ := List.mem_map.mp mem
    obtain ⟨there, enabled⟩ := List.mem_filter.mp kept
    use s, Table.get?_eq_some_iff.mpr there
    apply Service.isEnabled_iff.mp enabled
  · rintro ⟨s, found, takesPart⟩
    apply List.mem_map_of_mem (f := Prod.fst) (a := (name, s))
    apply List.mem_filter.mpr
    use Table.get?_eq_some_iff.mp found
    apply Service.isEnabled_iff.mpr takesPart

/-- The services that take part, as they are and in the order of the stack. -/
theorem entries_part_enabled (d : Descriptor) (profiles : List String) :
  (d.part (d.enabled profiles)).entries
    = d.services.entries.filter fun e => e.2.TakesPart profiles
  := by
  apply List.filter_congr
  rintro ⟨name, s⟩ mem
  have found := Table.get?_eq_some_iff.mpr mem
  rw [Bool.eq_iff_iff, List.contains_iff_mem, mem_enabled_iff, decide_eq_true_iff]
  constructor
  · rintro ⟨s', found', takesPart⟩
    cases found.symm.trans found'
    apply takesPart
  · intro takesPart
    use s

/-! ### Dependencies that do not take part -/

theorem disabledDependency?_eq_none_iff :
  d.disabledDependency? names = none ↔ d.SelfContained {name | name ∈ names}
  := by
  simp only [disabledDependency?, List.findSome?_eq_none_iff, ite_eq_right_iff,
    Option.map_eq_none_iff, List.find?_eq_none, Bool.not_eq_true', Bool.not_eq_false,
    List.contains_iff_mem]
  constructor
  · rintro none name mem dependency ⟨s, found, own⟩
    apply none (name, s) (Table.get?_eq_some_iff.mp found) mem dependency own
  · intro contained e there mem dependency own
    apply contained e.1 mem dependency ⟨e.2, Table.get?_eq_some_iff.mpr there, own⟩

/-- The fault names a service that takes part and one that it depends on and that does not. -/
theorem misses_of_disabledDependency?
    (found : d.disabledDependency? (d.enabled profiles) = some fault) :
  ∃ name dependency, fault = .disabledDependency name dependency
    ∧ d.Misses profiles name dependency
  := by
  obtain ⟨e, there, found⟩ := List.exists_of_findSome?_eq_some found
  obtain ⟨mem, found⟩ := Option.ite_none_right_eq_some.mp found
  obtain ⟨dependency, first, rfl⟩ := Option.map_eq_some_iff.mp found
  use e.1, dependency, rfl
  constructor
  · apply mem_enabled_iff.mp (List.contains_iff_mem.mp mem)
  · use e.2, Table.get?_eq_some_iff.mpr there
    apply List.mem_of_find?_eq_some first
  · rw [← mem_enabled_iff]
    simpa using List.find?_some first

/-- The services that take part depend on each other only. -/
theorem selfContained_iff_misses :
  d.SelfContained {name | d.Enables profiles name}
    ↔ ¬ ∃ name dependency, d.Misses profiles name dependency
  := by
  constructor
  · rintro contained ⟨name, dependency, enabled, depends, disabled⟩
    apply disabled (contained name enabled dependency depends)
  · intro none name enabled dependency depends
    by_contra disabled
    apply none ⟨name, dependency, enabled, depends, disabled⟩

/-! ### What is selected -/

theorem select_profiles_of_selfContained
    (contained : d.SelfContained {name | d.Enables profiles name}) :
  d.select profiles [] = d.restrict (d.enabled profiles)
  := by
  have none : d.disabledDependency? (d.enabled profiles) = none := by
    rw [disabledDependency?_eq_none_iff]
    simpa only [mem_enabled_iff] using contained
  rw [select, if_pos List.isEmpty_nil]
  simp only [none]

theorem select_profiles_of_misses {dependency : String}
    (misses : d.Misses profiles name dependency) :
  ∃ fault, d.select profiles [] = .error fault
    ∧ d.disabledDependency? (d.enabled profiles) = some fault
  := by
  rw [select, if_pos List.isEmpty_nil]
  cases found : d.disabledDependency? (d.enabled profiles) with
  | some fault => exact ⟨fault, by simp only [found], rfl⟩
  | none =>
    rw [disabledDependency?_eq_none_iff] at found
    simp only [mem_enabled_iff] at found
    cases selfContained_iff_misses.mp found ⟨name, dependency, misses⟩

/-- The part of a stack with all its services is the stack. -/
theorem restrict_names (d : Descriptor) :
  d.restrict d.names = .ok d
  := by
  have all : d.part d.names = d.services := by
    apply Table.eq_of_entries
    apply List.filter_eq_self.mpr
    intro e mem
    apply List.contains_iff_mem.mpr (List.mem_map_of_mem mem)
  apply Eq.trans (congrArg (make d.project) all)
  apply make_services

/-- A request for services that depend on each other only brings in nothing else. -/
theorem select_of_selfContained (profiles : List String) (some : names ≠ [])
    (known : ∀ name ∈ names, name ∈ d.names)
    (contained : d.SelfContained {name | name ∈ names}) :
  d.select profiles names = d.restrict names
  := by
  have least : IsLeast (d.Fulfilling names) {name | name ∈ names} := by
    constructor
    · exact ⟨fun _ mem => mem, contained⟩
    · rintro _ ⟨wanted, -⟩
      apply wanted
  have sets := (isLeast_reach known).unique least
  rw [select_of_known profiles some known]
  apply restrict_congr
  apply Set.ext_iff.mp sets

/-- The services that take part in a selection are all of it. -/
theorem enables_of_part (part : active.services = d.part (d.enabled profiles)) :
  active.Enables profiles name ↔ name ∈ active.names
  := by
  have entries := entries_part_enabled d profiles
  rw [← part] at entries
  constructor
  · apply Enables.mem_names
  · intro mem
    obtain ⟨⟨_, s⟩, there, rfl⟩ := List.mem_map.mp mem
    use s, Table.get?_eq_some_iff.mpr there
    rw [entries] at there
    simpa using (List.mem_filter.mp there).2

theorem mem_names_iff_of_part (part : active.services = d.part (d.enabled profiles)) :
  name ∈ active.names ↔ d.Enables profiles name
  := by
  rw [← mem_enabled_iff, Descriptor.names, part]
  apply mem_names_of_part
  intro name mem
  apply (mem_enabled_iff.mp mem).mem_names

/-- A selection is selected from itself. -/
theorem select_again (part : active.services = d.part (d.enabled profiles)) :
  active.select profiles [] = .ok active
  := by
  have contained : active.SelfContained {name | active.Enables profiles name} := by
    simp only [enables_of_part part]
    apply selfContained_names
  rw [select_profiles_of_selfContained contained, ← restrict_names active]
  apply restrict_congr
  intro name
  rw [mem_enabled_iff, enables_of_part part]

/-- A request for all services of a selection brings in no others. -/
theorem select_names (contained : d.SelfContained {name | d.Enables profiles name})
    (ok : d.restrict (d.enabled profiles) = .ok active) (some : active.names ≠ [])
    (profiles' : List String) :
  d.select profiles' active.names = .ok active
  := by
  have same (name : String) : name ∈ active.names ↔ d.Enables profiles name :=
    mem_names_iff_of_part (services_of_make ok)
  rw [select_of_selfContained profiles' some, ← ok]
  · apply restrict_congr
    intro name
    rw [same, mem_enabled_iff]
  · intro name mem
    apply ((same name).mp mem).mem_names
  · simpa only [same] using contained

/-- Some profiles are refused exactly when a service that takes part depends on one that does not,
and then two such services are told.  Otherwise the services that take part are selected, as they
are and in the order of the stack; they are selected from their selection again, and a request for
them, if there are any, selects the same, whatever the profiles. -/
theorem select_profiles (d : Descriptor) (profiles : List String) :
  ((∃ fault, d.select profiles [] = .error fault)
      ↔ ∃ name dependency, d.Misses profiles name dependency)
    ∧ (∀ fault, d.select profiles [] = .error fault → ∃ name dependency,
      fault = .disabledDependency name dependency ∧ d.Misses profiles name dependency)
    ∧ ∀ active, d.select profiles [] = .ok active → active.project = d.project
      ∧ active.services.entries = d.services.entries.filter (fun e => e.2.TakesPart profiles)
      ∧ active.select profiles [] = .ok active
      ∧ (active.names ≠ [] → ∀ profiles', d.select profiles' active.names = .ok active)
  := by
  by_cases missing : ∃ name dependency, d.Misses profiles name dependency
  · obtain ⟨name, dependency, misses⟩ := missing
    obtain ⟨fault, refused, found⟩ := select_profiles_of_misses misses
    rw [refused]
    refine ⟨⟨fun _ => ⟨name, dependency, misses⟩, fun _ => ⟨fault, rfl⟩⟩, ?_, nofun⟩
    rintro _ ⟨⟩
    apply misses_of_disabledDependency? found
  · have contained := selfContained_iff_misses.mpr missing
    have contained' : d.SelfContained {name | name ∈ d.enabled profiles} := by
      simpa only [mem_enabled_iff] using contained
    obtain ⟨active, restricted, project, part⟩ := exists_restrict contained'
    rw [select_profiles_of_selfContained contained, restricted]
    refine ⟨by simpa using missing, nofun, ?_⟩
    rintro _ ⟨⟩
    refine ⟨project, ?_, select_again part, select_names contained restricted⟩
    rw [part, entries_part_enabled]

end Descriptor

/-! ### A stack with profiles -/

namespace Sample

/-- A shop with its ledger; a console for it takes part with one profile, and a recorder of what
the console does with another one. -/
def counter : Descriptor where
  project := "counter"
  services := ⟨[
    ("console", {
      name := "console", dependsOn := ⟨[("shop", .started)], by decide⟩, profiles := ["debug"] }),
    ("shop", { name := "shop", dependsOn := ⟨[("ledger", .healthy)], by decide⟩ }),
    ("recorder", {
      name := "recorder", dependsOn := ⟨[("console", .healthy)], by decide⟩
      profiles := ["audit", "night"] }),
    ("ledger", { name := "ledger" })], by decide⟩
  named := by simp
  closed := by decide

/-- The shop with its console. -/
def debugged : Descriptor where
  project := "counter"
  services := counter.part ["console", "shop", "ledger"]
  named := by decide
  closed := by decide

theorem select_counter :
  counter.select ["debug"] [] = .ok debugged
  := by rfl

end Sample

/-- With the profile of the console all but the recorder take part; with that of the recorder alone
the console is missed. -/
theorem Descriptor.select_profiles_counter :
  Sample.counter.select ["debug"] [] = .ok Sample.debugged
    ∧ Sample.debugged.select ["debug"] [] = .ok Sample.debugged
    ∧ Sample.counter.select [] ["console", "shop", "ledger"] = .ok Sample.debugged
    ∧ Sample.counter.Misses ["night"] "recorder" "console"
    ∧ ∃ fault, Sample.counter.select ["night"] [] = .error fault
  := by
  have ok := Sample.select_counter
  obtain ⟨-, -, selected⟩ := select_profiles Sample.counter ["debug"]
  obtain ⟨-, -, again, named⟩ := selected _ ok
  have misses : Sample.counter.Misses ["night"] "recorder" "console" := by
    constructor
    · exact ⟨_, rfl, by decide⟩
    · exact ⟨_, rfl, by decide⟩
    · rintro ⟨s, found, takesPart⟩
      cases found
      revert takesPart
      decide
  obtain ⟨refused, -, -⟩ := select_profiles Sample.counter ["night"]
  exact ⟨ok, again, named (by decide) [], misses, refused.mpr ⟨_, _, misses⟩⟩

end Muster
