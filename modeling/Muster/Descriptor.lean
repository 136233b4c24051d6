import Muster.Fault
import Muster.Service
/-!
# Stack descriptors

A descriptor is a project with its services.  `Descriptor.make` refuses services that stand
under another name than their own or depend on a service that is not there, so that every
descriptor is closed under dependencies.
-/

namespace Muster

/-- The first fault of a service that stands under a key. -/
def entryFault? (services : Table Service) (key : String) (s : Service) :
    Option DescriptorFault :=
  if key ≠ s.name then some (.keyMismatch key s.name)
  else
    (s.dependencies.find? fun d => !services.contains d).map fun d => .undefinedDependency key d

/-- The first fault of a table of services. -/
def referenceFault? (services : Table Service) : Option DescriptorFault :=
  services.entries.findSome? fun e => entryFault? services e.1 e.2

/-- The services of a project, each under its own name and with its dependencies. -/
structure Descriptor where
  project : String
  services : Table Service
  named : ∀ e ∈ services.entries, e.1 = e.2.name
  closed : ∀ e ∈ services.entries, ∀ d ∈ e.2.dependencies, d ∈ services.keys

theorem entryFault?_eq_none_iff {services : Table Service} {key : String} {s : Service} :
  entryFault? services key s = none
    ↔ key = s.name ∧ ∀ d ∈ s.dependencies, d ∈ services.keys
  := by
  unfold entryFault?
  by_cases h : key = s.name
  · simp [h, Table.contains_iff]
  · simp [h]

theorem referenceFault?_eq_none_iff {services : Table Service} :
  referenceFault? services = none
    ↔ (∀ e ∈ services.entries, e.1 = e.2.name)
      ∧ ∀ e ∈ services.entries, ∀ d ∈ e.2.dependencies, d ∈ services.keys
  := by
  simp only [referenceFault?, List.findSome?_eq_none_iff, entryFault?_eq_none_iff]
  exact ⟨fun h => ⟨fun e he => (h e he).1, fun e he => (h e he).2⟩,
    fun h e he => ⟨h.1 e he, h.2 e he⟩⟩

namespace Descriptor

/-- The descriptor of a project with the given services, unless they do not fit together. -/
def make (project : String) (services : Table Service) : Except DescriptorFault Descriptor :=
  match h : referenceFault? services with
  | some fault => .error fault
  | none =>
    .ok ⟨project, services, (referenceFault?_eq_none_iff.mp h).1,
      (referenceFault?_eq_none_iff.mp h).2⟩

/-- The names of the services in the order of their declaration. -/
def names (d : Descriptor) : List String :=
  d.services.keys

/-- The dependency graph: each service with the services it depends on. -/
def graph (d : Descriptor) : List (String × List String) :=
  d.services.entries.map fun e => (e.1, e.2.dependencies)

/-- The profiles that the services mention, in the order of their first mention. -/
def profiles (d : Descriptor) : List String :=
  (d.services.values.flatMap (·.profiles)).foldl
    (fun seen p => if p ∈ seen then seen else seen ++ [p]) []

end Descriptor

end Muster
