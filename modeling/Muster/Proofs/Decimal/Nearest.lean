import Mathlib
import Muster.Decimal.Double
/-!
# Rounding to the nearest double

A decimal is read as the double that is nearest to it; between two that are equally near, the one
with the even mantissa is taken.  From halfway between the largest double and the next power of two
on, a number is read as infinite.
-/

namespace Muster.Decimal

namespace Dyadic

/-- The number that a mantissa and an exponent stand for. -/
def value (d : Dyadic) : ℚ :=
  d.mantissa * 2 ^ d.exponent

/-- A number that is the size of a double. -/
structure IsDouble (d : Dyadic) : Prop where
  mantissa : d.mantissa < 2 ^ 53
  least : -1074 ≤ d.exponent
  greatest : d.exponent ≤ 971

/-- A size that no other is nearer to a number than, and that is even if another is as near. -/
structure IsNearest (x : ℚ) (d : Dyadic) : Prop where
  isDouble : d.IsDouble
  nearest : ∀ e : Dyadic, e.IsDouble → |d.value - x| ≤ |e.value - x|
  even : ∀ e : Dyadic, e.IsDouble → e.value ≠ d.value → |e.value - x| = |d.value - x| →
    Even d.mantissa

end Dyadic

/-- The least number that is too large for a double: it is halfway between the largest double and
the next power of two. -/
def tooLarge : ℚ := 2 ^ 1024 - 2 ^ 970

/-- What a number with a sign is rounded to. -/
inductive Rounds (negative : Bool) (x : ℚ) : Parts → Prop where
  | finite {d : Dyadic} : x < tooLarge → d.IsNearest x → Rounds negative x (.finite negative d)
  | infinite : tooLarge ≤ x → Rounds negative x (.infinite negative)

/-! ### Rounding to a whole number -/

/-- Rounding moves a fraction by half a unit at most, and by half a unit only to an even number. -/
theorem roundHalfEven_close (num : Nat) {den : Nat} (pos : 0 < den) :
  |(roundHalfEven num den : ℚ) - num / den| ≤ 1 / 2
    ∧ (|(roundHalfEven num den : ℚ) - num / den| = 1 / 2 → Even (roundHalfEven num den))
  := by
  have pos' : (0 : ℚ) < den := by exact_mod_cast pos
  obtain ⟨part, whole⟩ : ∃ part : ℚ, part = (num % den : Nat) / den := ⟨_, rfl⟩
  have split : (num : ℚ) / den = (num / den : Nat) + part := by
    rw [whole]
    field_simp
    exact_mod_cast (Nat.div_add_mod num den).symm
  have least : 0 ≤ part := by rw [whole]; positivity
  rw [roundHalfEven, split]
  rcases lt_trichotomy (2 * (num % den)) den with below | half | above
  · have small : part < 1 / 2 := by
      rw [whole, div_lt_div_iff₀ pos' two_pos]
      exact_mod_cast (by omega : num % den * 2 < 1 * den)
    have size : |((num / den : Nat) : ℚ) - ((num / den : Nat) + part)| = part := by
      rw [sub_add_cancel_left, abs_neg, abs_of_nonneg least]
    rw [if_pos below, size]
    exact ⟨small.le, fun tie => absurd tie small.ne⟩
  · have middle : part = 1 / 2 := by
      rw [whole, div_eq_div_iff pos'.ne' two_ne_zero]
      exact_mod_cast (by omega : num % den * 2 = 1 * den)
    rw [if_neg half.not_lt, if_pos half, middle]
    rcases Nat.mod_two_eq_zero_or_one (num / den) with even | odd
    · rw [even, Nat.add_zero]
      refine ⟨?_, fun _ => Nat.even_iff.mpr even⟩
      rw [sub_add_cancel_left, abs_neg]
      norm_num
    · rw [odd]
      refine ⟨?_, fun _ => Nat.even_iff.mpr (by omega)⟩
      push_cast
      rw [add_sub_add_left_eq_sub]
      norm_num
  · have large : 1 / 2 < part := by
      rw [whole, div_lt_div_iff₀ two_pos pos']
      exact_mod_cast (by omega : 1 * den < num % den * 2)
    have most : part < 1 := by
      rw [whole, div_lt_one pos']
      exact_mod_cast Nat.mod_lt num pos
    have size : |((num / den + 1 : Nat) : ℚ) - ((num / den : Nat) + part)| = 1 - part := by
      push_cast
      rw [add_sub_add_left_eq_sub, abs_of_pos (by linarith)]
    rw [if_neg above.not_gt, if_neg above.ne', size]
    exact ⟨by linarith, fun tie => absurd tie (by linarith)⟩

/-- No other whole number is nearer than one that is at most half a unit away. -/
theorem close_le {n : Nat} {y : ℚ} (close : |(n : ℚ) - y| ≤ 1 / 2) (k : Nat) :
  |(n : ℚ) - y| ≤ |(k : ℚ) - y| ∧ (k ≠ n → |(k : ℚ) - y| = |(n : ℚ) - y| → |(n : ℚ) - y| = 1 / 2)
  := by
  by_cases same : k = n
  · rw [same]
    exact ⟨le_rfl, fun other => absurd rfl other⟩
  · have apart : (1 : ℚ) ≤ |(k : ℚ) - n| := by
      exact_mod_cast Int.one_le_abs (sub_ne_zero.mpr (Nat.cast_injective.ne same : (k : ℤ) ≠ n))
    have path := abs_sub_le (k : ℚ) y n
    rw [abs_sub_comm y] at path
    exact ⟨by linarith, fun _ tie => by linarith⟩

/-! ### The unit of a number -/

theorem cast_twoTo (n : Nat) :
  (twoTo n : ℚ) = 2 ^ n
  := Nat.cast_pow 2 n

theorem zpow_of_neg {q : Int} (negative : q < 0) :
  (2 : ℚ) ^ q = (2 ^ q.natAbs)⁻¹
  := by
  rw [← zpow_natCast, ← zpow_neg, Int.ofNat_natAbs_of_nonpos negative.le, neg_neg]

theorem zpow_of_nonneg {q : Int} (nonneg : ¬ q < 0) :
  (2 : ℚ) ^ q = 2 ^ q.natAbs
  := by
  rw [← zpow_natCast, Int.natAbs_of_nonneg (not_lt.mp nonneg)]

theorem log2_spec {n : Nat} (positive : 0 < n) :
  (2 : ℚ) ^ (Nat.log2 n : Int) ≤ n ∧ (n : ℚ) < 2 ^ (Nat.log2 n + 1 : Int)
  := by
  constructor
  · rw [zpow_natCast]
    exact_mod_cast Nat.log2_self_le positive.ne'
  · exact_mod_cast (Nat.lt_log2_self : n < 2 ^ (n.log2 + 1))

/-- A fraction is compared with a power of two without a division. -/
theorem unitExponent_eq {num den : Nat} (pos : 0 < den) {guess : Int}
    (logs : guess = (Nat.log2 num : Int) - Nat.log2 den - 52) :
  unitExponent num den
    = max (if (num / den : ℚ) < 2 ^ (guess + 52) then guess - 1 else guess) (-1074)
  := by
  have pos' : (0 : ℚ) < den := by exact_mod_cast pos
  have split : (2 : ℚ) ^ (guess + 52) = 2 ^ guess * 2 ^ 52 := zpow_add₀ two_ne_zero guess 52
  rw [unitExponent, ← logs, split]
  by_cases negative : guess < 0
  · have below : num * twoTo guess.natAbs < twoTo 52 * den
        ↔ (num / den : ℚ) < 2 ^ guess * 2 ^ 52 := by
      rw [zpow_of_neg negative, div_lt_iff₀ pos', mul_assoc, lt_inv_mul_iff₀ (by positivity),
        ← cast_twoTo, mul_comm]
      exact_mod_cast Iff.rfl
    simp only [negative, if_true, below, decide_eq_true_eq]
  · have below : num < twoTo 52 * den * twoTo guess.natAbs
        ↔ (num / den : ℚ) < 2 ^ guess * 2 ^ 52 := by
      rw [zpow_of_nonneg negative, div_lt_iff₀ pos', mul_comm ((2 : ℚ) ^ guess.natAbs),
        mul_right_comm, ← cast_twoTo]
      exact_mod_cast Iff.rfl
    simp only [negative, if_false, below, decide_eq_true_eq]

/-- The unit of a number leaves it fifty-three binary digits, or it is the smallest unit and leaves
it fewer. -/
theorem unitExponent_spec {num den : Nat} (positive : 0 < num) (pos : 0 < den) :
  (num / den / 2 ^ unitExponent num den : ℚ) < 2 ^ 53 ∧ -1074 ≤ unitExponent num den
    ∧ (unitExponent num den = -1074 ∨ (2 ^ 52 : ℚ) ≤ num / den / 2 ^ unitExponent num den)
  := by
  obtain ⟨numLeast, numMost⟩ := log2_spec positive
  obtain ⟨denLeast, denMost⟩ := log2_spec pos
  obtain ⟨guess, logs⟩ : ∃ guess : Int, guess = (Nat.log2 num : Int) - Nat.log2 den - 52 := ⟨_, rfl⟩
  have least : (2 : ℚ) ^ (guess + 51) ≤ num / den := by
    have exponent : guess + 51 = Nat.log2 num - (Nat.log2 den + 1 : Int) := by omega
    rw [exponent, zpow_sub₀ two_ne_zero]
    gcongr
  have most : (num / den : ℚ) < 2 ^ (guess + 53) := by
    have exponent : guess + 53 = (Nat.log2 num + 1 : Int) - Nat.log2 den := by omega
    rw [exponent, zpow_sub₀ two_ne_zero]
    gcongr
  have scale (q : Int) : (2 : ℚ) ^ 53 * 2 ^ q = 2 ^ (q + 53) ∧ (2 : ℚ) ^ 52 * 2 ^ q = 2 ^ (q + 52) :=
    ⟨by rw [mul_comm]; exact (zpow_add₀ two_ne_zero q 53).symm,
      by rw [mul_comm]; exact (zpow_add₀ two_ne_zero q 52).symm⟩
  have unit (q : Int) : (0 : ℚ) < 2 ^ q := by positivity
  rw [unitExponent_eq pos logs, div_lt_iff₀ (unit _), le_div_iff₀ (unit _), (scale _).1, (scale _).2]
  generalize (num / den : ℚ) = x at *
  -- Without the smallest unit, the number would have fifty-three digits in any case.
  obtain ⟨q, free⟩ : ∃ q : Int, q = if x < 2 ^ (guess + 52) then guess - 1 else guess := ⟨_, rfl⟩
  have digits : (2 : ℚ) ^ (q + 52) ≤ x ∧ x < 2 ^ (q + 53) := by
    split_ifs at free with below
    · have least' : q + 52 = guess + 51 := by omega
      have most' : q + 53 = guess + 52 := by omega
      rw [least', most']
      exact ⟨least, below⟩
    · rw [free]
      exact ⟨not_lt.mp below, most⟩
  rw [← free]
  rcases le_total (-1074) q with large | small
  · rw [max_eq_left large]
    exact ⟨digits.2, large, .inr digits.1⟩
  · rw [max_eq_right small]
    exact ⟨digits.2.trans_le (zpow_le_zpow_right₀ one_le_two (by omega)), le_rfl, .inl rfl⟩

/-! ### Rounding in units -/

/-- A double of a smaller unit than that of a number is less than what fills fifty-two binary
digits of the larger unit. -/
theorem value_lt_of_exponent_lt {d : Dyadic} (isDouble : d.IsDouble) {q : Int}
    (finer : d.exponent < q) :
  d.value < 2 ^ 52 * 2 ^ q
  := by
  have mantissa : (d.mantissa : ℚ) < 2 ^ 53 := by exact_mod_cast isDouble.mantissa
  calc
    d.value < 2 ^ 53 * 2 ^ d.exponent := by rw [Dyadic.value]; gcongr
    _ ≤ 2 ^ 53 * 2 ^ (q - 1) := by gcongr <;> [norm_num; omega]
    _ = 2 ^ 52 * 2 ^ q := by rw [zpow_sub_one₀ two_ne_zero]; ring

/-- A double of no smaller unit than a given one is a whole number of such units. -/
theorem exists_of_le_exponent (d : Dyadic) {q : Int} (coarser : q ≤ d.exponent) :
  ∃ k : Nat, d.value = k * 2 ^ q
  := by
  use d.mantissa * 2 ^ (d.exponent - q).toNat
  have split : d.exponent = (d.exponent - q).toNat + q := by omega
  rw [Dyadic.value, split, zpow_add₀ two_ne_zero, zpow_natCast, ← split]
  push_cast
  ring

/-- A number that has been rounded in its unit is as near to what it was as any double is. -/
theorem rounded_le {x : ℚ} {q : Int} {n : Nat} (close : |(n : ℚ) - x / 2 ^ q| ≤ 1 / 2)
    (unit : q = -1074 ∨ 2 ^ 52 ≤ x / 2 ^ q) {d : Dyadic} (isDouble : d.IsDouble) :
  |n * 2 ^ q - x| ≤ |d.value - x|
    ∧ (d.value ≠ n * 2 ^ q → |d.value - x| = |n * 2 ^ q - x| → |(n : ℚ) - x / 2 ^ q| = 1 / 2)
  := by
  have positive : (0 : ℚ) < 2 ^ q := by positivity
  obtain ⟨y, scaled⟩ : ∃ y : ℚ, y = x / 2 ^ q := ⟨_, rfl⟩
  have original : x = y * 2 ^ q := by rw [scaled, div_mul_cancel₀ _ positive.ne']
  rw [← scaled] at close unit ⊢
  have distance (z : ℚ) : |z * 2 ^ q - x| = |z - y| * 2 ^ q := by
    rw [original, ← sub_mul, abs_mul, abs_of_pos positive]
  rcases le_or_gt q d.exponent with coarser | finer
  · obtain ⟨k, whole⟩ := exists_of_le_exponent d coarser
    obtain ⟨nearest, tie⟩ := close_le close k
    rw [whole, distance, distance, mul_le_mul_iff_left₀ positive, mul_left_inj' positive.ne']
    exact ⟨nearest, fun other => tie (by rintro rfl; exact other rfl)⟩
  · -- What is finer lies below the number, and fifty-two digits of the unit between them.
    have filled : 2 ^ 52 ≤ y := unit.resolve_left (by have := isDouble.least; omega)
    obtain ⟨nearest, -⟩ := close_le close (2 ^ 52)
    rw [Nat.cast_pow, Nat.cast_ofNat, abs_sub_comm (2 ^ 52) y,
      abs_of_nonneg (sub_nonneg.mpr filled)] at nearest
    have below := value_lt_of_exponent_lt isDouble finer
    have less : |(n : ℚ) - y| * 2 ^ q < |d.value - x| := by
      calc
        |(n : ℚ) - y| * 2 ^ q ≤ (y - 2 ^ 52) * 2 ^ q := by gcongr
        _ = x - 2 ^ 52 * 2 ^ q := by rw [original]; ring
        _ < x - d.value := by linarith
        _ ≤ |x - d.value| := le_abs_self _
        _ = |d.value - x| := abs_sub_comm _ _
    rw [distance]
    exact ⟨less.le, fun _ tie => absurd tie less.ne'⟩

/-! ### The bits of a rounded number -/

theorem twoTo_fields :
  twoTo 11 = 2048 ∧ twoTo 52 = 4503599627370496 ∧ twoTo 63 = 9223372036854775808
  := ⟨rfl, rfl, rfl⟩

/-- The parts of bits are read off the exponent and the fraction. -/
theorem partsOfBits_fields {exponent fraction : Nat} (small : exponent < 2047)
    (fits : fraction < twoTo 52) :
  partsOfBits (exponent * twoTo 52 + fraction)
    = .finite false (if exponent = 0 then ⟨fraction, -1074⟩
      else ⟨twoTo 52 + fraction, Int.ofNat exponent - 1075⟩)
  := by
  obtain ⟨t11, t52, t63⟩ := twoTo_fields
  rw [t52] at fits
  have sign : (exponent * twoTo 52 + fraction) / twoTo 63 % 2 = 0 := by rw [t52, t63]; omega
  have above : (exponent * twoTo 52 + fraction) / twoTo 52 % twoTo 11 = exponent := by
    rw [t52, t11]; omega
  have below : (exponent * twoTo 52 + fraction) % twoTo 52 = fraction := by rw [t52]; omega
  simp only [partsOfBits, sign, above, below]
  rw [if_neg (by omega)]
  split <;> rfl

theorem bitsOfUnits_small (q : Int) {n : Nat} (small : n < 2 ^ 52) :
  partsOfBits (bitsOfUnits q n) = .finite false ⟨n, -1074⟩
  := by
  obtain ⟨-, t52, -⟩ := twoTo_fields
  have bits : bitsOfUnits q n = 0 * twoTo 52 + n := by
    rw [bitsOfUnits, t52, if_pos (by omega), min_eq_left (by omega)]
    omega
  rw [bits, partsOfBits_fields (by omega) (by omega), if_pos rfl]

theorem bitsOfUnits_normal {q : Int} {n : Nat} (least : -1074 ≤ q) (greatest : q ≤ 971)
    (digits : 2 ^ 52 ≤ n) (most : n < 2 ^ 53) :
  partsOfBits (bitsOfUnits q n) = .finite false ⟨n, q⟩
  := by
  obtain ⟨-, t52, -⟩ := twoTo_fields
  have bits : bitsOfUnits q n = (q + 1075).toNat * twoTo 52 + (n - twoTo 52) := by
    rw [bitsOfUnits, t52, if_neg (by omega), min_eq_left (by omega)]
  have unit : Int.ofNat (q + 1075).toNat - 1075 = q := by rw [Int.ofNat_eq_natCast]; omega
  have mantissa : twoTo 52 + (n - twoTo 52) = n := by omega
  rw [bits, partsOfBits_fields (by omega) (by omega), if_neg (by omega), unit, mantissa]

/-- Units with one binary digit too many are half as many units of twice the size. -/
theorem bitsOfUnits_full {q : Int} (least : -1074 ≤ q) :
  bitsOfUnits q (2 ^ 53) = bitsOfUnits (q + 1) (2 ^ 52)
  := by
  obtain ⟨-, t52, -⟩ := twoTo_fields
  have bits : (q + 1075).toNat * 4503599627370496 + (2 ^ 53 - 4503599627370496)
      = (q + 1 + 1075).toNat * 4503599627370496 + (2 ^ 52 - 4503599627370496) := by omega
  simp only [bitsOfUnits, t52]
  rw [if_neg (by omega), if_neg (by omega), bits]

theorem bitsOfUnits_infinite {q : Int} {n : Nat} (outside : 972 ≤ q) (digits : 2 ^ 52 ≤ n) :
  partsOfBits (bitsOfUnits q n) = .infinite false
  := by
  obtain ⟨-, t52, -⟩ := twoTo_fields
  have bits : bitsOfUnits q n = 2047 * twoTo 52 := by
    rw [bitsOfUnits, t52, if_neg (by omega), min_eq_right (by omega)]
  rw [bits]
  rfl

section Unit

variable {x : ℚ} {q : Int} {n : Nat} (least : -1074 ≤ q) (most : x / 2 ^ q < 2 ^ 53)
  (unit : q = -1074 ∨ 2 ^ 52 ≤ x / 2 ^ q) (close : |(n : ℚ) - x / 2 ^ q| ≤ 1 / 2)
  (tie : |(n : ℚ) - x / 2 ^ q| = 1 / 2 → Even n)

include unit close tie in
theorem isNearest_of_close {d : Dyadic} (isDouble : d.IsDouble) (same : d.value = n * 2 ^ q)
    (even : Even n → Even d.mantissa) :
  d.IsNearest x
  := by
  constructor
  · apply isDouble
  · intro e other
    rw [same]
    apply (rounded_le close unit other).1
  · intro e other apart asNear
    rw [same] at apart asNear
    apply even (tie ((rounded_le close unit other).2 apart asNear))

theorem lt_of_div_lt {y : ℚ} (below : x / 2 ^ q < y) {p : Int} (le : q ≤ p) (nonneg : 0 ≤ y) :
  x < y * 2 ^ p
  := by
  rw [div_lt_iff₀ (by positivity)] at below
  apply below.trans_le
  gcongr
  norm_num

theorem le_of_le_div {y : ℚ} (above : y ≤ x / 2 ^ q) {p : Int} (le : p ≤ q) (nonneg : 0 ≤ y) :
  y * 2 ^ p ≤ x
  := by
  rw [le_div_iff₀ (by positivity)] at above
  apply le_trans _ above
  gcongr
  norm_num

theorem tooLarge_eq :
  tooLarge = (2 ^ 53 - 1 / 2) * 2 ^ (971 : Int)
  := by
  have power : (2 : ℚ) ^ 1024 = 2 ^ 54 * 2 ^ 970 := pow_add 2 54 970
  have unit : (2 : ℚ) ^ (971 : Int) = 2 * 2 ^ 970 := (zpow_natCast 2 971).trans (pow_succ' 2 970)
  rw [tooLarge, power, unit]
  generalize (2 : ℚ) ^ 970 = p
  ring

theorem lt_tooLarge (below : x / 2 ^ q < 2 ^ 53 - 1 / 2) (le : q ≤ 971) :
  x < tooLarge
  := by
  rw [tooLarge_eq]
  apply lt_of_div_lt below le
  norm_num

theorem tooLarge_le (above : 2 ^ 53 - 1 / 2 ≤ x / 2 ^ q) (le : 971 ≤ q) :
  tooLarge ≤ x
  := by
  rw [tooLarge_eq]
  apply le_of_le_div above le
  norm_num

theorem div_next (x : ℚ) (q : Int) :
  x / 2 ^ (q + 1) = x / 2 ^ q / 2
  := by
  rw [zpow_add_one₀ two_ne_zero, div_mul_eq_div_div]

include close tie in
/-- Fifty-three ones are the most digits that a number is rounded to from below. -/
theorem lt_of_fits (fits : n < 2 ^ 53) :
  x / 2 ^ q < 2 ^ 53 - 1 / 2
  := by
  obtain ⟨below, above⟩ := abs_le.mp close
  have less : (n : ℚ) + 1 ≤ (2 ^ 53 : Nat) := by exact_mod_cast fits
  push_cast at less
  by_contra large
  have half : |(n : ℚ) - x / 2 ^ q| = 1 / 2 := by
    rw [abs_sub_comm, abs_of_nonneg] <;> linarith
  have ones : n + 1 = 2 ^ 53 := by
    have same : (n : ℚ) + 1 = (2 ^ 53 : Nat) := by push_cast; linarith
    exact_mod_cast same
  obtain ⟨k, even⟩ := tie half
  omega

include least unit close tie in
/-- Units that fit into fifty-three binary digits are a double as they stand. -/
theorem rounds_of_fits (fits : n < 2 ^ 53) (inside : q ≤ 971)
    (bits : partsOfBits (bitsOfUnits q n) = .finite false ⟨n, q⟩) :
  Rounds false x (partsOfBits (bitsOfUnits q n))
  := by
  rw [bits]
  constructor
  · apply lt_tooLarge (lt_of_fits close tie fits) inside
  · apply isNearest_of_close unit close tie ⟨fits, least, inside⟩ rfl id

include least most unit close tie in
/-- Units with one binary digit too many are a double of the next unit, or they are infinite when
there is no next unit. -/
theorem rounds_of_full (full : n = 2 ^ 53) (inside : q ≤ 971) :
  Rounds false x (partsOfBits (bitsOfUnits q n))
  := by
  have nearest {d : Dyadic} := isNearest_of_close unit close tie (d := d)
  obtain ⟨below, above⟩ := abs_le.mp close
  subst full
  push_cast at below
  rw [bitsOfUnits_full least]
  rcases inside.lt_or_eq with lower | rfl
  · have least' : -1074 ≤ q + 1 := by omega
    have inside' : q + 1 ≤ 971 := by omega
    rw [bitsOfUnits_normal least' inside' le_rfl (by norm_num)]
    apply Rounds.finite
    · apply lt_tooLarge _ inside'
      rw [div_next]
      linarith
    · apply nearest ⟨by norm_num, least', inside'⟩
      · rw [Dyadic.value, zpow_add_one₀ two_ne_zero]
        push_cast
        ring
      · exact fun _ => ⟨2 ^ 51, by norm_num⟩
  · rw [bitsOfUnits_infinite (by omega) le_rfl]
    exact .infinite (tooLarge_le (q := 971) (by linarith) le_rfl)

include least most unit close tie in
/-- What has been rounded in its unit is put together to the bits of the nearest double. -/
theorem rounds_of_close :
  Rounds false x (partsOfBits (bitsOfUnits q n))
  := by
  obtain ⟨below, above⟩ := abs_le.mp close
  have bound : n ≤ 2 ^ 53 := by
    have less : (n : ℚ) < (2 ^ 53 : Nat) + 1 := by push_cast; linarith
    exact Nat.lt_succ_iff.mp (by exact_mod_cast less)
  rcases lt_or_ge n (2 ^ 52) with small | digits
  · have less : (n : ℚ) + 1 ≤ (2 ^ 52 : Nat) := by exact_mod_cast small
    push_cast at less
    obtain rfl : q = -1074 := unit.resolve_right (by linarith)
    apply rounds_of_fits least unit close tie (small.trans (by norm_num)) (by norm_num)
    apply bitsOfUnits_small _ small
  · rcases le_or_gt q 971 with inside | outside
    · rcases bound.lt_or_eq with fits | full
      · apply rounds_of_fits least unit close tie fits inside
        apply bitsOfUnits_normal least inside digits fits
      · apply rounds_of_full least most unit close tie full inside
    · -- The number fills the last unit but one, so it is beyond the largest double.
      rw [bitsOfUnits_infinite (by omega) digits]
      have filled : 2 ^ 52 ≤ x / 2 ^ q := unit.resolve_left (by omega)
      have before := div_next x (q - 1)
      rw [sub_add_cancel] at before
      exact .infinite (tooLarge_le (q := q - 1) (by linarith) (by omega))

end Unit

/-- The bits of a number are those of the nearest double. -/
theorem rounds_nearestBits (num : Nat) {den : Nat} (pos : 0 < den) :
  Rounds false (num / den) (partsOfBits (nearestBits num den))
  := by
  rcases Nat.eq_zero_or_pos num with rfl | positive
  · have bits : nearestBits 0 den = bitsOfUnits (-1074) 0 := rfl
    rw [bits, Nat.cast_zero, zero_div]
    apply rounds_of_close le_rfl _ (.inl rfl) <;> norm_num
  · obtain ⟨most, least, unit⟩ := unitExponent_spec positive pos
    simp only [nearestBits, if_neg positive.ne']
    generalize unitExponent num den = q at *
    split_ifs with negative
    · have scaled : (num / den / 2 ^ q : ℚ) = (num * twoTo q.natAbs : Nat) / den := by
        rw [zpow_of_neg negative, div_inv_eq_mul, div_mul_eq_mul_div]
        push_cast [cast_twoTo]
        rfl
      obtain ⟨close, tie⟩ := roundHalfEven_close (num * twoTo q.natAbs) pos
      rw [← scaled] at close tie
      apply rounds_of_close least most unit close tie
    · have scaled : (num / den / 2 ^ q : ℚ) = num / (den * twoTo q.natAbs : Nat) := by
        rw [zpow_of_nonneg negative, div_div]
        push_cast [cast_twoTo]
        rfl
      have pos' : 0 < den * twoTo q.natAbs := Nat.mul_pos pos (Nat.pow_pos two_pos)
      obtain ⟨close, tie⟩ := roundHalfEven_close num pos'
      rw [← scaled] at close tie
      apply rounds_of_close least most unit close tie

/-! ### The bits of a double -/

section Bits

open Float.Model UnpackedFloat

variable {bits : BitVec Format.binary64.numBits}

/-- Bits that are no more than those of an infinity, but for the sign, are those of a number. -/
theorem isNaNBits_eq_false (number : bits.toNat % 2 ^ 63 ≤ 2047 * 2 ^ 52) :
  isNaNBits bits = false
  := by
  have exponent : (unpackExponent bits).toNat = bits.toNat >>> 52 % 2 ^ 11 := rfl
  have mantissa : (unpackMantissa bits).toNat = bits.toNat % 2 ^ 52 := rfl
  rw [Nat.shiftRight_eq_div_pow] at exponent
  rw [isNaNBits, decide_eq_false_iff_not]
  rintro ⟨ones, some⟩
  have largest : (unpackExponent bits).toNat = 2047 := by
    rw [ones]
    rfl
  apply some
  apply BitVec.eq_of_toNat_eq
  rw [mantissa, BitVec.toNat_zero]
  omega

theorem pack_unpack_eq (number : bits.toNat % 2 ^ 63 ≤ 2047 * 2 ^ 52) :
  UnpackedFloat.pack Format.binary64 (UnpackedFloat.unpack Format.binary64 bits) = bits
  := by
  rw [pack_unpack, isNaNBits_eq_false number]
  rfl

/-- The double that has been made of given bits has these bits, unless they are those of a double
that is no number. -/
theorem toBits_ofBits {bits : Nat} (fits : bits < 2 ^ 64) (number : bits % 2 ^ 63 ≤ 2047 * 2 ^ 52) :
  (Float.ofBits (UInt64.ofNat bits)).toBits.toNat = bits
  := by
  have same : (UInt64.ofNat bits).toBitVec.toNat = bits := UInt64.toNat_ofNat_of_lt' fits
  rw [← same] at number
  calc
    (Float.ofBits (UInt64.ofNat bits)).toBits.toNat
      = (UnpackedFloat.pack Format.binary64
          (UnpackedFloat.unpack Format.binary64 (UInt64.ofNat bits).toBitVec)).toNat := rfl
    _ = (UInt64.ofNat bits).toBitVec.toNat := congrArg BitVec.toNat (pack_unpack_eq number)
    _ = bits := same

end Bits

/-! ### Doubles with a sign -/

theorem nearestBits_le (num den : Nat) :
  nearestBits num den ≤ 2047 * twoTo 52
  := by
  simp only [nearestBits, bitsOfUnits]
  split_ifs <;> simp

/-- The sign stands above all other bits. -/
theorem Rounds.negate {x : ℚ} {bits : Nat} (bound : bits ≤ 2047 * twoTo 52)
    (rounds : Rounds false x (partsOfBits bits)) :
  Rounds true x (partsOfBits (twoTo 63 + bits))
  := by
  obtain ⟨t11, t52, t63⟩ := twoTo_fields
  rw [t52] at bound
  have sign : (twoTo 63 + bits) / twoTo 63 % 2 = 1 := by rw [t63]; omega
  have unsigned : bits / twoTo 63 % 2 = 0 := by rw [t63]; omega
  have exponent : (twoTo 63 + bits) / twoTo 52 % twoTo 11 = bits / twoTo 52 % twoTo 11 := by
    rw [t11, t52, t63]; omega
  have fraction : (twoTo 63 + bits) % twoTo 52 = bits % twoTo 52 := by rw [t52, t63]; omega
  simp only [partsOfBits, sign, exponent, fraction]
  simp only [partsOfBits, unsigned] at rounds
  split_ifs at rounds ⊢ <;> cases rounds <;> constructor <;> assumption

/-- The double nearest to a fraction, with a sign. -/
theorem rounds_nearest (negative : Bool) (num : Nat) {den : Nat} (pos : 0 < den) :
  Rounds negative (num / den) (parts (nearest negative num den))
  := by
  have bound := nearestBits_le num den
  have rounds := rounds_nearestBits num pos
  obtain ⟨-, t52, t63⟩ := twoTo_fields
  rw [nearest, parts, toBits_ofBits]
  · cases negative
    · simpa using rounds
    · exact rounds.negate bound
  · split <;> omega
  · split <;> omega

/-! ### Decimals -/

theorem cast_tenTo (n : Nat) :
  (tenTo n : ℚ) = 10 ^ n
  := Nat.cast_pow 10 n

/-- A hundred binary digits are no more than thirty-one decimal ones. -/
theorem lt_pow_ten (n : Nat) :
  n < 10 ^ ((Nat.log2 n + 1) * 31 / 100 + 1)
  := by
  obtain ⟨b, bits⟩ : ∃ b, b = Nat.log2 n + 1 := ⟨_, rfl⟩
  have below : n < 2 ^ b := by rw [bits]; exact Nat.lt_log2_self
  rw [← bits]
  apply below.trans_le
  apply le_of_pow_le_pow_left₀ (n := 100) (by norm_num) (Nat.zero_le _)
  calc
    (2 ^ b) ^ 100 = (2 ^ 100) ^ b := pow_right_comm 2 b 100
    _ ≤ (10 ^ 31) ^ b := Nat.pow_le_pow_left (by norm_num) b
    _ = 10 ^ (31 * b) := (pow_mul 10 31 b).symm
    _ ≤ 10 ^ ((b * 31 / 100 + 1) * 100) := Nat.pow_le_pow_right (by norm_num) (by omega)
    _ = (10 ^ (b * 31 / 100 + 1)) ^ 100 := pow_mul 10 _ 100

/-- Three decimal digits are no more than ten binary ones. -/
theorem pow_ten_le {n : Nat} (positive : 0 < n) :
  10 ^ (Nat.log2 n * 3 / 10) ≤ n
  := by
  obtain ⟨b, bits⟩ : ∃ b, b = Nat.log2 n := ⟨_, rfl⟩
  have above : 2 ^ b ≤ n := by rw [bits]; exact Nat.log2_self_le positive.ne'
  rw [← bits]
  apply le_trans _ above
  apply le_of_pow_le_pow_left₀ (n := 10) (by norm_num) (Nat.zero_le _)
  calc
    (10 ^ (b * 3 / 10)) ^ 10 = 10 ^ (b * 3 / 10 * 10) := (pow_mul 10 _ 10).symm
    _ ≤ 10 ^ (3 * b) := Nat.pow_le_pow_right (by norm_num) (by omega)
    _ = (10 ^ 3) ^ b := pow_mul 10 3 b
    _ ≤ (2 ^ 10) ^ b := Nat.pow_le_pow_left (by norm_num) b
    _ = (2 ^ b) ^ 10 := pow_right_comm 2 10 b

theorem pow_two_le :
  (2 : ℚ) ^ 1075 ≤ 10 ^ 400
  := by
  calc
    (2 : ℚ) ^ 1075 ≤ 2 ^ (3 * 400) := pow_le_pow_right₀ one_le_two (by norm_num)
    _ = (2 ^ 3) ^ 400 := pow_mul 2 3 400
    _ ≤ 10 ^ 400 := pow_le_pow_left₀ (by norm_num) (by norm_num) 400

/-- A number that is less than half of the smallest double is rounded to zero. -/
theorem rounds_zero (negative : Bool) {x : ℚ} (nonneg : 0 ≤ x) (small : x * 10 ^ 400 < 1) :
  Rounds negative x (parts (nearest negative 0 1))
  := by
  have zero : parts (nearest negative 0 1) = .finite negative ⟨0, -1074⟩ := by
    cases negative <;> rfl
  have scaled : x / 2 ^ (-1074 : Int) = x * 2 ^ 1074 := by
    rw [zpow_neg, div_inv_eq_mul]
    rfl
  have tiny : x / 2 ^ (-1074 : Int) < 1 / 2 := by
    rw [scaled, lt_div_iff₀ two_pos, mul_assoc, ← pow_succ]
    apply lt_of_le_of_lt _ small
    gcongr
    apply pow_two_le
  rw [zero]
  constructor
  · apply lt_tooLarge (q := -1074) (tiny.trans (by norm_num)) (by norm_num)
  · apply isNearest_of_close (q := -1074) (n := 0) (.inl rfl) _ (fun _ => Even.zero)
    · exact ⟨by norm_num, le_rfl, by norm_num⟩
    · simp [Dyadic.value]
    · exact id
    · rw [Nat.cast_zero, zero_sub, abs_neg, abs_of_nonneg (by positivity)]
      exact tiny.le

/-- A number that is too large for a double is rounded to an infinity. -/
theorem rounds_infinite (negative : Bool) {x : ℚ} (large : 10 ^ 400 ≤ x) :
  Rounds negative x (parts (nearest negative (twoTo 2000) 1))
  := by
  have below : tooLarge ≤ 2 ^ 1075 := by
    apply (sub_le_self _ (by positivity)).trans
    apply pow_le_pow_right₀ one_le_two
    norm_num
  have rounds := rounds_nearest negative (twoTo 2000) one_pos
  rw [Nat.cast_one, div_one, cast_twoTo] at rounds
  generalize parts (nearest negative (twoTo 2000) 1) = rounded at *
  cases rounds with
  | finite less =>
    have above : (2 : ℚ) ^ 1075 ≤ 2 ^ 2000 := pow_le_pow_right₀ one_le_two (by norm_num)
    exact absurd less (below.trans above).not_gt
  | infinite => exact .infinite (below.trans (pow_two_le.trans large))

section Decimal

variable {digits : Nat} {exponent : Int}

/-- A decimal with an exponent far below its digits is less than any double. -/
theorem decimal_lt (little : ((Nat.log2 digits + 1) * 31 / 100 : Nat) + exponent < -400) :
  (digits * 10 ^ exponent * 10 ^ 400 : ℚ) < 1
  := by
  have below : (digits : ℚ) < 10 ^ ((Nat.log2 digits + 1) * 31 / 100 + 1) := by
    exact_mod_cast lt_pow_ten digits
  generalize (Nat.log2 digits + 1) * 31 / 100 = most at *
  calc
    (digits * 10 ^ exponent * 10 ^ 400 : ℚ)
      < 10 ^ (most + 1) * 10 ^ exponent * 10 ^ 400 := by gcongr
    _ = 10 ^ ((most + 1 : Nat) + exponent + (400 : Nat)) := by
      rw [zpow_add₀ (by norm_num), zpow_add₀ (by norm_num), zpow_natCast, zpow_natCast]
    _ ≤ 10 ^ (0 : Int) := zpow_le_zpow_right₀ (by norm_num) (by push_cast; omega)
    _ = 1 := zpow_zero 10

theorem le_decimal (positive : 0 < digits)
    (much : 400 < (Nat.log2 digits * 3 / 10 : Nat) + exponent) :
  (10 ^ 400 : ℚ) ≤ digits * 10 ^ exponent
  := by
  have above : (10 ^ (Nat.log2 digits * 3 / 10) : ℚ) ≤ digits := by
    exact_mod_cast pow_ten_le positive
  generalize Nat.log2 digits * 3 / 10 = least at *
  calc
    (10 ^ 400 : ℚ) = 10 ^ (400 : Int) := (zpow_natCast 10 400).symm
    _ ≤ 10 ^ (least + exponent) := zpow_le_zpow_right₀ (by norm_num) much.le
    _ = 10 ^ least * 10 ^ exponent := by rw [zpow_add₀ (by norm_num), zpow_natCast]
    _ ≤ digits * 10 ^ exponent := by gcongr

end Decimal

/-- A decimal is rounded to the nearest double. -/
theorem rounds_ofDecimal (negative : Bool) (digits : Nat) (exponent : Int) :
  Rounds negative (digits * 10 ^ exponent) (parts (ofDecimal negative digits exponent))
  := by
  simp only [ofDecimal]
  split_ifs with little much below
  · apply rounds_zero negative (by positivity)
    rcases little with rfl | little
    · norm_num
    · apply decimal_lt little
  · apply rounds_infinite
    apply le_decimal _ much
    omega
  · have power : (10 : ℚ) ^ exponent = (tenTo exponent.natAbs : ℚ)⁻¹ := by
      rw [cast_tenTo, ← zpow_natCast, ← zpow_neg, Int.ofNat_natAbs_of_nonpos below.le, neg_neg]
    rw [power, ← div_eq_mul_inv]
    apply rounds_nearest
    apply Nat.pow_pos (by norm_num)
  · have power : (10 : ℚ) ^ exponent = tenTo exponent.natAbs := by
      rw [cast_tenTo, ← zpow_natCast, Int.natAbs_of_nonneg (not_lt.mp below)]
    have rounds := rounds_nearest negative (digits * tenTo exponent.natAbs) one_pos
    rw [Nat.cast_one, div_one, Nat.cast_mul, ← power] at rounds
    exact rounds

end Muster.Decimal
