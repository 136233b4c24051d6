import Mathlib.Tactic.NormNum
import Muster.Descriptor.Overlong
/-!
# What can be written out

What is written out of a document are parts of its fields.  So nothing in it is too long if no
number in these fields is, and least of all if no number of the document is.
-/

namespace Muster

namespace Value

/-- None of some values has a number in it that is too long to be written out. -/
def Writable (vs : List Value) : Prop :=
  ∀ v ∈ vs, isOverlong v = false

theorem Writable.nil :
  Writable []
  := List.forall_mem_nil _

theorem Writable.append {vs ws : List Value} (first : Writable vs) (second : Writable ws) :
  Writable (vs ++ ws)
  := by
  intro v mem
  exact (List.mem_append.mp mem).elim (first v) (second v)

/-! ### Parts of values -/

theorem isOverlongAny_eq_false_iff {items : List Value} :
  isOverlongAny items = false ↔ Writable items
  := by
  induction items with
  | nil => simp [isOverlongAny, Writable]
  | cons v r ih => simp [isOverlongAny, ih, Writable]

theorem isOverlongEntry_eq_false_iff {entries : List (Value × Value)} :
  isOverlongEntry entries = false
    ↔ ∀ e ∈ entries, isOverlong e.1 = false ∧ isOverlong e.2 = false
  := by
  induction entries with
  | nil => simp [isOverlongEntry]
  | cons e r ih => simp [isOverlongEntry, ih]

/-- A field holds the value of an entry, or nothing. -/
theorem field?_mem {key : String} {entries : List (Value × Value)} {v : Value}
    (found : field? key entries = some v) :
  (.str key, v) ∈ entries
  := by
  induction entries with
  | nil => cases found
  | cons e r ih =>
    obtain ⟨k, w⟩ := e
    rw [field?.eq_def] at found
    split at found
    · cases ‹_ :: _ = []›
    · next k' w' r' same =>
      cases same
      split at found
      · next same =>
        cases found
        rw [same]
        exact List.mem_cons_self
      · exact List.mem_cons_of_mem _ (ih found)
    · next same =>
      cases same
      exact List.mem_cons_of_mem _ (ih found)

/-- The fields of a mapping without overlong numbers have none. -/
theorem isOverlong_field {entries : List (Value × Value)} (short : isOverlong (map entries) = false)
    (key : String) :
  isOverlong (field key entries) = false
  := by
  rw [isOverlong, isOverlongEntry_eq_false_iff] at short
  rw [field]
  cases found : field? key entries with
  | none => rfl
  | some v => exact (short _ (field?_mem found)).2

theorem isOverlong_byte (b : UInt8) :
  isOverlong (int b.toNat) = false
  := by
  have many (n : Nat) (three : 3 ≤ n) : 10 ^ 3 ≤ tenTo n := Nat.pow_le_pow_right (by norm_num) three
  have few : b.toNat < 10 ^ 3 := b.toNat_lt.trans (by norm_num)
  simp only [isOverlong, decide_eq_false_iff_not, not_le]
  exact few.trans_le (many _ (by decide))

theorem writable_members {v : Value} (short : isOverlong v = false) :
  Writable (v.members.toOption.getD [])
  := by
  cases v with
  | str s =>
    intro w mem
    obtain ⟨c, -, rfl⟩ := List.mem_map.mp mem
    rfl
  | bytes bs =>
    intro w mem
    obtain ⟨b, -, rfl⟩ := List.mem_map.mp mem
    exact isOverlong_byte b
  | list items => exact isOverlongAny_eq_false_iff.mp short
  | set items => exact isOverlongAny_eq_false_iff.mp short
  | map entries =>
    rw [isOverlong, isOverlongEntry_eq_false_iff] at short
    intro w among
    obtain ⟨e, mem, rfl⟩ := List.mem_map.mp among
    exact (short e mem).1
  | pair a b =>
    rw [isOverlong, Bool.or_eq_false_iff] at short
    intro w mem
    simp only [Value.members, Except.toOption, Option.getD_some, List.mem_cons, List.not_mem_nil,
      or_false] at mem
    rcases mem with rfl | rfl
    · exact short.1
    · exact short.2
  | _ => exact .nil

theorem writable_toList {v : Value} (short : isOverlong v = false) :
  Writable (v.toList.toOption.getD [])
  := by
  cases v with
  | null => exact .nil
  | bool | int | str =>
    intro w mem
    rw [List.mem_singleton.mp mem]
    exact short
  | _ => exact writable_members short

end Value

namespace Descriptor

open Value

/-! ### Parts of services -/

theorem writable_writtenPorts {service : String} {ports : Value}
    (short : isOverlong ports = false) :
  Writable (writtenPorts service ports)
  := by
  rw [writtenPorts]
  split
  · exact fun v mem => writable_members short v (List.mem_filter.mp mem).1
  · exact .nil

/-- Only the test and the times of a health check can be written out. -/
theorem writable_writtenCheck {entries : List (Value × Value)}
    (short : ∀ key ∈ ["test", "interval", "timeout", "start_period"],
      isOverlong (field key entries) = false) :
  Writable (writtenCheck (.map entries))
  := by
  intro v mem
  rcases List.mem_cons.mp mem with rfl | time
  · apply short
    simp
  · obtain ⟨key, among, rfl⟩ := List.mem_map.mp (List.mem_filter.mp time).1
    exact short key (List.mem_cons_of_mem _ among)

theorem writable_writtenDependencies {v : Value} (short : isOverlong v = false) :
  Writable (writtenDependencies v)
  := by
  rw [writtenDependencies.eq_def]
  split
  · next entries =>
    rw [isOverlong, isOverlongEntry_eq_false_iff] at short
    intro w mem
    obtain ⟨e, among, part⟩ := List.mem_flatMap.mp mem
    obtain ⟨key, value⟩ := short e among
    split at part
    · next options same =>
      simp only [List.mem_cons, List.not_mem_nil, or_false] at part
      rcases part with rfl | rfl
      · exact key
      · exact isOverlong_field (same ▸ value) "condition"
    · rw [List.mem_singleton.mp part]
      exact key
  · intro w mem
    rw [List.mem_singleton.mp mem]
    exact short

/-- The fields of a service that parts are written out of, but for the health check. -/
def writtenKeys : List String :=
  ["image", "restart", "environment", "labels"]
    ++ ["command", "entrypoint", "profiles", "ports", "depends_on"]

theorem writable_writtenFields {service : String} {entries : List (Value × Value)}
    (short : ∀ key ∈ writtenKeys, isOverlong (field key entries) = false)
    (check : Writable (writtenCheck (field "healthcheck" entries))) :
  Writable (writtenFields service entries)
  := by
  have whole : Writable (["image", "restart", "environment", "labels"].map
      fun key => field key entries) := by
    intro v mem
    obtain ⟨key, among, rfl⟩ := List.mem_map.mp mem
    exact short key (List.mem_append_left _ among)
  have command := writable_members (short "command" (by decide))
  have entrypoint := writable_members (short "entrypoint" (by decide))
  have profiles := writable_toList (short "profiles" (by decide))
  have ports : Writable (writtenPorts service _) := writable_writtenPorts (short "ports" (by decide))
  have dependencies := writable_writtenDependencies (short "depends_on" (by decide))
  exact (((((whole.append command).append entrypoint).append profiles).append ports).append
    check).append dependencies

/-! ### Parts of documents -/

theorem writable_writtenEntry {e : Value × Value} (name : isOverlong e.1 = false)
    (fields : ∀ entries, e.2 = .map entries → Writable (writtenFields e.1.text entries)) :
  Writable (writtenEntry e)
  := by
  rw [writtenEntry.eq_def]
  split
  · next entries same =>
    intro v mem
    rcases List.mem_cons.mp mem with rfl | part
    · exact name
    · exact fields entries same v part
  · intro v mem
    rw [List.mem_singleton.mp mem]
    exact name

theorem writable_written {entries services : List (Value × Value)}
    (found : field "services" entries = .map services)
    (each : ∀ e ∈ services, Writable (writtenEntry e)) :
  Writable (written (.map entries))
  := by
  intro v mem
  simp only [written, found] at mem
  obtain ⟨e, among, part⟩ := List.mem_flatMap.mp mem
  exact each e among v part

/-- Nothing is too long in a document whose services have no overlong numbers. -/
theorem writable_of_short {entries services : List (Value × Value)}
    (found : field "services" entries = .map services)
    (short : isOverlongEntry services = false) :
  Writable (written (.map entries))
  := by
  apply writable_written found
  intro e among
  obtain ⟨name, value⟩ := isOverlongEntry_eq_false_iff.mp short e among
  apply writable_writtenEntry name
  intro fields same
  rw [same] at value
  apply writable_writtenFields fun key _ => isOverlong_field value key
  have check := isOverlong_field value "healthcheck"
  generalize field "healthcheck" fields = v at check
  cases v with
  | map entries => exact writable_writtenCheck fun key _ => isOverlong_field check key
  | _ => exact .nil

end Descriptor

end Muster
