/-!
# Counts and sums over lists

The measures of the searches and runs in this library.  Of two tests, the stronger one is
satisfied by fewer elements; a sum of which no term grows and one shrinks is smaller.
-/

namespace Muster

/-- A test that is stronger, and fails on an element that satisfies the weaker one, is satisfied
by fewer elements. -/
theorem length_filter_lt {p q : α → Bool} {l : List α} (weaker : ∀ a ∈ l, p a = true → q a = true)
    {a : α} (mem : a ∈ l) (hp : p a = false) (hq : q a = true) :
  (l.filter p).length < (l.filter q).length
  := by
  induction l with
  | nil => cases mem
  | cons b r ih =>
    obtain ⟨first, others⟩ := List.forall_mem_cons.mp weaker
    rcases List.mem_cons.mp mem with rfl | mem
    · have le : r.countP p ≤ r.countP q := List.countP_mono_left others
      rw [List.countP_eq_length_filter, List.countP_eq_length_filter] at le
      rw [List.filter_cons_of_neg (by simp [hp]), List.filter_cons_of_pos hq]
      exact Nat.lt_succ_of_le le
    · have less := ih others mem
      cases strong : p b with
      | true =>
        rw [List.filter_cons_of_pos strong, List.filter_cons_of_pos (first strong)]
        exact Nat.succ_lt_succ less
      | false =>
        rw [List.filter_cons_of_neg (by simp [strong])]
        apply Nat.lt_of_lt_of_le less
        rw [List.filter_cons]
        split <;> simp

/-- The sum of some numbers. -/
def total : List Nat → Nat
  | [] => 0
  | n :: r => n + total r

theorem total_map_le {α : Type u} {f g : α → Nat} {l : List α} (le : ∀ b ∈ l, f b ≤ g b) :
  total (l.map f) ≤ total (l.map g)
  := by
  induction l with
  | nil => apply Nat.le_refl
  | cons b r ih =>
    obtain ⟨first, others⟩ := List.forall_mem_cons.mp le
    exact Nat.add_le_add first (ih others)

/-- A sum of which no term grows and one shrinks is smaller. -/
theorem total_map_lt {α : Type u} {f g : α → Nat} {l : List α} {a : α} (mem : a ∈ l)
    (lt : f a < g a) (le : ∀ b ∈ l, f b ≤ g b) :
  total (l.map f) < total (l.map g)
  := by
  induction l with
  | nil => cases mem
  | cons b r ih =>
    obtain ⟨first, others⟩ := List.forall_mem_cons.mp le
    rcases List.mem_cons.mp mem with rfl | mem
    · exact Nat.add_lt_add_of_lt_of_le lt (total_map_le others)
    · exact Nat.add_lt_add_of_le_of_lt first (ih mem others)

end Muster
