import Muster.Counting
import Muster.Descriptor
/-!
# Selecting services

The part of a stack that takes part in a run.  Services named by the user bring in everything
they depend on, whatever their profiles.  Without names, the profiles decide, and a service
may then depend only on services that take part as well.
-/

namespace Muster.Descriptor

/-- The names of a table that are not among the given ones. -/
def absent (services : Table Service) (active : List String) : List String :=
  services.keys.filter (!active.contains ·)

/-- Activating a service that is not active leaves fewer absent ones. -/
theorem length_absent_cons {services : Table Service} {active : List String} {name : String}
    {s : Service} (found : services.get? name = some s) (new : active.contains name = false) :
  (absent services (name :: active)).length < (absent services active).length
  := by
  have mem : name ∈ services.keys := by
    rw [← Table.contains_iff, Table.contains, found]
    rfl
  apply length_filter_lt _ mem
  · simp
  · simp only [new, Bool.not_false]
  · intro k _ hk
    simp only [Bool.not_eq_true', List.contains_cons, Bool.or_eq_false_iff] at hk
    simp only [hk.2, Bool.not_false]

/-- The names in `active`, those that are pending, and all that these depend on. -/
def reach (services : Table Service) : (pending active : List String) → List String
  | [], active => active
  | name :: pending, active =>
    if _new : active.contains name then reach services pending active
    else
      match _found : services.get? name with
      | some s => reach services (s.dependencies ++ pending) (name :: active)
      | none => reach services pending active
termination_by pending active => ((absent services active).length, pending.length)
decreasing_by
  · exact Prod.Lex.right _ (by simp)
  · exact Prod.Lex.left _ _ (length_absent_cons _found (by simpa using _new))
  · exact Prod.Lex.right _ (by simp)

/-- The part of a descriptor with the given names. -/
def restrict (d : Descriptor) (active : List String) : Except DescriptorFault Descriptor :=
  make d.project (d.services.filter fun name _ => active.contains name)

/-- The services that the profiles enable. -/
def enabled (d : Descriptor) (profiles : List String) : List String :=
  (d.services.filter fun _ s => s.isEnabled profiles).keys

/-- The first dependency of an active service that is not active itself. -/
def disabledDependency? (d : Descriptor) (active : List String) : Option DescriptorFault :=
  d.services.entries.findSome? fun e =>
    if active.contains e.1 then
      (e.2.dependencies.find? (!active.contains ·)).map (.disabledDependency e.1)
    else none

/-- The part of a descriptor that takes part in a run. -/
def select (d : Descriptor) (profiles services : List String) :
    Except DescriptorFault Descriptor :=
  if services.isEmpty then
    let active := d.enabled profiles
    match d.disabledDependency? active with
    | some fault => .error fault
    | none => d.restrict active
  else
    match services.filter (!d.services.contains ·) with
    | [] => d.restrict (reach d.services services [])
    | unknown => .error (.unknownServices unknown)

end Muster.Descriptor
