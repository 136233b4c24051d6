import Mathlib.Order.Bounds.Basic
import Muster.Proofs.StartOrder.Cycle
/-!
# What a request brings in

A request names some services.  The walk from them keeps one rule: what an active service depends on
is active or still pending.  When nothing is pending, the active services depend on each other only,
and since the walk goes along dependencies, there is no smaller set of this kind that holds the
services of the request.  The part of a stack with these services is therefore a stack again.
-/

namespace Muster

namespace Descriptor

variable {d : Descriptor} {s : Service} {name : String}
  {requested pending active reached : List String}

/-- A set of names that holds what the services in it depend on. -/
def SelfContained (d : Descriptor) (names : Set String) : Prop :=
  ∀ name ∈ names, ∀ dependency, d.DependsOn name dependency → dependency ∈ names

/-- The self-contained sets that hold the services of a request. -/
def Fulfilling (d : Descriptor) (requested : List String) : Set (Set String) :=
  {names | (∀ name ∈ requested, name ∈ names) ∧ d.SelfContained names}

theorem dependencies_subset_names (found : d.services.get? name = some s) :
  ∀ dependency ∈ s.dependencies, dependency ∈ d.names
  := by
  apply d.closed _ (Table.get?_eq_some_iff.mp found)

/-- The services of a stack depend on services of it only. -/
theorem selfContained_names (d : Descriptor) :
  d.SelfContained {name | name ∈ d.names}
  := by
  rintro name - dependency ⟨s, found, mem⟩
  apply dependencies_subset_names found dependency mem

/-! ### The walk along dependencies -/

/-- What the active services depend on is active or pending. -/
def Advancing (d : Descriptor) (pending active : List String) : Prop :=
  ∀ name ∈ active, ∀ dependency, d.DependsOn name dependency →
    dependency ∈ active ∨ dependency ∈ pending

/-- What a walk from some pending and some active services has come to: it has kept them, it is
self-contained, and it has taken up nothing without need. -/
structure Reaches (d : Descriptor) (pending active reached : List String) : Prop where
  wanted : ∀ name ∈ pending, name ∈ reached
  kept : ∀ name ∈ active, name ∈ reached
  contained : d.Advancing pending active → d.SelfContained {name | name ∈ reached}
  least : ∀ names, d.SelfContained names → (∀ name ∈ pending, name ∈ names) →
    (∀ name ∈ active, name ∈ names) → ∀ name ∈ reached, name ∈ names

/-- A walk is over when nothing is pending. -/
theorem Reaches.done :
  d.Reaches [] active active
  where
  wanted := List.forall_mem_nil _
  kept _ mem := mem
  contained advancing name mem dependency depends :=
    (advancing name mem dependency depends).resolve_right List.not_mem_nil
  least _ _ _ kept := kept

/-- A service that is active already brings in nothing new. -/
theorem Reaches.skip (old : name ∈ active) (reaches : d.Reaches pending active reached) :
  d.Reaches (name :: pending) active reached
  where
  wanted := List.forall_mem_cons.mpr ⟨reaches.kept name old, reaches.wanted⟩
  kept := reaches.kept
  contained advancing := by
    apply reaches.contained
    intro other mem dependency depends
    rcases advancing other mem dependency depends with found | found
    · left
      apply found
    · rcases List.mem_cons.mp found with rfl | found
      · left
        apply old
      · right
        apply found
  least names contained wanted := by
    apply reaches.least names contained
    apply List.forall_mem_of_forall_mem_cons wanted

/-- A service that becomes active makes its dependencies pending. -/
theorem Reaches.step (found : d.services.get? name = some s)
    (reaches : d.Reaches (s.dependencies ++ pending) (name :: active) reached) :
  d.Reaches (name :: pending) active reached
  where
  wanted := by
    rw [List.forall_mem_cons]
    constructor
    · apply reaches.kept name List.mem_cons_self
    · intro other mem
      apply reaches.wanted other (List.mem_append_right _ mem)
  kept := List.forall_mem_of_forall_mem_cons reaches.kept
  contained advancing := by
    apply reaches.contained
    intro other mem dependency depends
    rcases List.mem_cons.mp mem with rfl | mem
    · obtain ⟨s', found', own⟩ := depends
      cases found.symm.trans found'
      right
      apply List.mem_append_left _ own
    · rcases advancing other mem dependency depends with old | waits
      · left
        apply List.mem_cons_of_mem _ old
      · rcases List.mem_cons.mp waits with rfl | waits
        · left
          apply List.mem_cons_self
        · right
          apply List.mem_append_right _ waits
  least names contained wanted kept := by
    have here : name ∈ names := wanted name List.mem_cons_self
    apply reaches.least names contained
    · intro dependency mem
      rcases List.mem_append.mp mem with own | waits
      · apply contained name here dependency ⟨s, found, own⟩
      · apply wanted dependency (List.mem_cons_of_mem _ waits)
    · apply List.forall_mem_cons.mpr ⟨here, kept⟩

/-- The walk comes to an end from all pending services of a stack; it never meets a name that is no
service. -/
theorem reaches_reach (known : ∀ name ∈ pending, name ∈ d.names) :
  d.Reaches pending active (reach d.services pending active)
  := by
  induction pending, active using reach.induct d.services with
  | case1 active =>
    rw [reach]
    apply Reaches.done
  | case2 name pending active old ih =>
    rw [reach, dif_pos old]
    apply Reaches.skip (List.contains_iff_mem.mp old)
    apply ih (List.forall_mem_of_forall_mem_cons known)
  | case3 name pending active new s found ih =>
    have reaches := ih (by
      intro dependency mem
      rcases List.mem_append.mp mem with own | waits
      · apply dependencies_subset_names found dependency own
      · apply known dependency (List.mem_cons_of_mem _ waits))
    rw [reach, dif_neg new]
    split
    · next s' found' =>
      cases found.symm.trans found'
      apply reaches.step found
    · next missing => cases found.symm.trans missing
  | case4 name pending active new missing ih =>
    have there := Table.contains_iff.mpr (known name List.mem_cons_self)
    rw [Table.contains, missing] at there
    cases there

/-- The walk from the services of a request comes to the least set that is self-contained and holds
them. -/
theorem isLeast_reach (known : ∀ name ∈ requested, name ∈ d.names) :
  IsLeast (d.Fulfilling requested) {name | name ∈ reach d.services requested []}
  := by
  have reaches : d.Reaches requested [] _ := reaches_reach known
  constructor
  · exact ⟨reaches.wanted, reaches.contained (List.forall_mem_nil _)⟩
  · rintro names ⟨wanted, contained⟩
    apply reaches.least names contained wanted (List.forall_mem_nil _)

/-! ### The part with some names -/

/-- The services of a stack with the given names, in the order of the stack. -/
def part (d : Descriptor) (names : List String) : Table Service :=
  d.services.filter fun name _ => names.contains name

theorem mem_part_iff {names : List String} {e : String × Service} :
  e ∈ (d.part names).entries ↔ e ∈ d.services.entries ∧ e.1 ∈ names
  := by
  simp [part, Table.filter, List.mem_filter]

/-- A self-contained part of a stack is a stack again. -/
theorem exists_restrict {names : List String} (contained : d.SelfContained {name | name ∈ names}) :
  ∃ active, d.restrict names = .ok active ∧ active.project = d.project
    ∧ active.services = d.part names
  := by
  let active : Descriptor := {
    project := d.project
    services := d.part names
    named := fun e mem => d.named e (mem_part_iff.mp mem).1
    closed := by
      intro e mem dependency own
      obtain ⟨mem, chosen⟩ := mem_part_iff.mp mem
      have found := Table.get?_eq_some_iff.mpr mem
      obtain ⟨e', mem', rfl⟩ := List.mem_map.mp (dependencies_subset_names found dependency own)
      apply List.mem_map_of_mem
      apply mem_part_iff.mpr ⟨mem', contained e.1 chosen e'.1 ⟨e.2, found, own⟩⟩ }
  use active
  exact ⟨make_services active, rfl, rfl⟩

theorem restrict_congr {names names' : List String} (same : ∀ name, name ∈ names ↔ name ∈ names') :
  d.restrict names = d.restrict names'
  := by
  have chosen : names.contains = names'.contains := by
    funext name
    rw [Bool.eq_iff_iff, List.contains_iff_mem, List.contains_iff_mem]
    apply same
  rw [restrict, restrict, chosen]

/-! ### Requests -/

/-- What a request has brought in: the services of the least self-contained set that holds those of
the request, as they are and in the order of the stack, and they fit together. -/
structure Fulfils (d : Descriptor) (requested : List String) (active : Descriptor) : Prop where
  project : active.project = d.project
  least : IsLeast (d.Fulfilling requested) {name | name ∈ active.names}
  services : active.services.entries
    = d.services.entries.filter fun e => active.names.contains e.1
  sound : make d.project active.services = .ok active

theorem mem_names_of_part {names : List String} (known : ∀ name ∈ names, name ∈ d.names) :
  name ∈ (d.part names).keys ↔ name ∈ names
  := by
  constructor
  · intro kept
    obtain ⟨e, mem, rfl⟩ := List.mem_map.mp kept
    apply (mem_part_iff.mp mem).2
  · intro chosen
    obtain ⟨e, mem, rfl⟩ := List.mem_map.mp (known name chosen)
    apply List.mem_map_of_mem (mem_part_iff.mpr ⟨mem, chosen⟩)

/-- The part of a stack with the services of a least self-contained set fulfils a request. -/
theorem exists_fulfils {names : List String}
    (least : IsLeast (d.Fulfilling requested) {name | name ∈ names})
    (known : ∀ name ∈ requested, name ∈ d.names) :
  ∃ active, d.restrict names = .ok active ∧ d.Fulfils requested active
  := by
  obtain ⟨active, ok, project, services⟩ := exists_restrict least.1.2
  have inside : ∀ name ∈ names, name ∈ d.names := least.2 ⟨known, d.selfContained_names⟩
  have same (name : String) : name ∈ active.names ↔ name ∈ names := by
    rw [Descriptor.names, services]
    apply mem_names_of_part inside
  refine ⟨active, ok, project, ?_, ?_, ?_⟩
  · simp only [same]
    apply least
  · rw [services]
    apply List.filter_congr
    intro e _
    rw [Bool.eq_iff_iff, List.contains_iff_mem, List.contains_iff_mem, same]
  · rw [← project]
    apply make_services

theorem select_of_known (profiles : List String) (some : requested ≠ [])
    (known : ∀ name ∈ requested, name ∈ d.names) :
  d.select profiles requested = d.restrict (reach d.services requested [])
  := by
  have none : requested.filter (!d.services.contains ·) = [] := by
    apply List.filter_eq_nil_iff.mpr
    intro name mem
    simp [Table.contains_iff.mpr (known name mem)]
  rw [select, if_neg (by simpa using some), none]

theorem select_of_unknown (profiles : List String) (mem : name ∈ requested)
    (unknown : name ∉ d.names) :
  d.select profiles requested
    = .error (.unknownServices (requested.filter (!d.names.contains ·)))
  := by
  have there (name : String) : d.services.contains name = d.names.contains name := by
    rw [Bool.eq_iff_iff, Table.contains_iff, List.contains_iff_mem, names]
  have some : requested.filter (!d.names.contains ·) ≠ [] := by
    apply List.ne_nil_of_mem
    apply List.mem_filter.mpr ⟨mem, by simpa using unknown⟩
  rw [select, if_neg (by simpa using List.ne_nil_of_mem mem)]
  simp only [there]

/-- Neither the profiles nor the order of a request and its repetitions count. -/
theorem select_congr {requested' : List String} (profiles profiles' : List String)
    (some : requested ≠ []) (known : ∀ name ∈ requested, name ∈ d.names)
    (same : ∀ name, name ∈ requested' ↔ name ∈ requested) :
  d.select profiles' requested' = d.select profiles requested
  := by
  have some' : requested' ≠ [] := by
    obtain ⟨name, mem⟩ := List.exists_mem_of_ne_nil requested some
    apply List.ne_nil_of_mem ((same name).mpr mem)
  have known' : ∀ name ∈ requested', name ∈ d.names := by
    intro name mem
    apply known name ((same name).mp mem)
  have fulfilling : d.Fulfilling requested' = d.Fulfilling requested := by
    simp only [Fulfilling, same]
  -- Both walks come to the same set, though maybe in another order.
  have least := isLeast_reach known'
  rw [fulfilling] at least
  have sets := least.unique (isLeast_reach known)
  rw [select_of_known profiles' some' known', select_of_known profiles some known]
  apply restrict_congr
  apply Set.ext_iff.mp sets

/-- A request is refused exactly when it names something that is no service, and then all such names
are told.  Otherwise it brings in what it needs and no more; neither the profiles nor the order of
the request and its repetitions count. -/
theorem select_fulfils (d : Descriptor) (profiles : List String) (some : requested ≠ []) :
  ((∃ fault, d.select profiles requested = .error fault) ↔ ∃ name ∈ requested, name ∉ d.names)
    ∧ (∀ fault, d.select profiles requested = .error fault →
      fault = .unknownServices (requested.filter (!d.names.contains ·)))
    ∧ ∀ active, d.select profiles requested = .ok active → d.Fulfils requested active
      ∧ ∀ profiles' requested', (∀ name, name ∈ requested' ↔ name ∈ requested) →
        d.select profiles' requested' = .ok active
  := by
  by_cases unknown : ∃ name ∈ requested, name ∉ d.names
  · obtain ⟨name, mem, unknown⟩ := unknown
    rw [select_of_unknown profiles mem unknown]
    refine ⟨?_, ?_, nofun⟩
    · exact ⟨fun _ => ⟨name, mem, unknown⟩, fun _ => ⟨_, rfl⟩⟩
    · rintro _ ⟨⟩
      rfl
  · have known : ∀ name ∈ requested, name ∈ d.names := by
      simpa using unknown
    obtain ⟨part, restricted, fulfils⟩ := exists_fulfils (isLeast_reach known) known
    have ok := (select_of_known profiles some known).trans restricted
    rw [ok]
    refine ⟨by simpa using known, nofun, ?_⟩
    rintro _ ⟨⟩
    use fulfils
    intro profiles' requested' same
    rw [select_congr profiles profiles' some known same, ok]

end Descriptor

namespace Sample

/-- The worker and the queue, which bring in each other. -/
def knot : Descriptor where
  project := "tangled"
  services := tangled.part ["worker", "queue"]
  named := by decide
  closed := by decide

theorem select_tangled :
  tangled.select [] ["queue"] = .ok knot
  := by
  have known : ∀ name ∈ ["queue"], name ∈ tangled.names := by decide
  have reached : Descriptor.reach tangled.services ["queue"] [] = ["worker", "queue"] := by
    simp [Descriptor.reach, tangled, Table.get?, Table.lookup, Service.dependencies, Table.keys]
  rw [Descriptor.select_of_known [] (by simp) known, reached]
  rfl

end Sample

/-- The queue brings in the worker, which depends on it; the web server is not needed.  A request
for a clock besides is refused. -/
theorem Descriptor.select_fulfils_tangled :
  ["queue"] ≠ [] ∧ Sample.tangled.select [] ["queue"] = .ok Sample.knot
    ∧ IsLeast (Sample.tangled.Fulfilling ["queue"]) {name | name ∈ ["worker", "queue"]}
    ∧ Sample.tangled.select ["night"] ["queue", "queue"] = .ok Sample.knot
    ∧ Sample.tangled.select [] ["clock", "queue"] = .error (.unknownServices ["clock"])
  := by
  have ok := Sample.select_tangled
  obtain ⟨-, -, brought⟩ := select_fulfils Sample.tangled [] (List.cons_ne_nil "queue" [])
  obtain ⟨fulfils, others⟩ := brought _ ok
  refine ⟨by simp, ok, fulfils.least, others _ _ (by simp), ?_⟩
  obtain ⟨refused, told, -⟩ :=
    select_fulfils Sample.tangled [] (List.cons_ne_nil "clock" ["queue"])
  obtain ⟨fault, failed⟩ := refused.mpr ⟨"clock", by decide⟩
  cases told fault failed
  exact failed

end Muster
