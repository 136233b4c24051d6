import Mathlib.Algebra.Group.Nat.Defs
import Mathlib.Data.List.Induction
import Mathlib.Data.List.TakeWhile
import Muster.Decimal.Numeral
/-!
# Whole numbers in writing

A whole number that is written and read again is the same number, as long as it does not have more
digits than a numeral may have.  No numeral for a number is shorter than its written form.
-/

namespace Muster.Decimal

open Text

/-! ### Digits -/

theorem toNat_of_isDigit {c : Char} (digit : c.isDigit = true) :
  48 ≤ c.toNat ∧ c.toNat ≤ 57
  := by
  simpa [Char.isDigit, UInt32.le_iff_toNat_le] using digit

theorem decimalValue?_of_isDigit {c : Char} (digit : c.isDigit = true) :
  decimalValue? c = some (c.toNat - '0'.toNat)
  := by
  obtain ⟨least, most⟩ := toNat_of_isDigit digit
  obtain ⟨others, codes⟩ : ∃ others, zeroCodes = 0x30 :: others := ⟨_, rfl⟩
  have below : c.toNat < 0x30 + 10 := by omega
  rw [decimalValue?, codes, List.find?_cons]
  simp [least, below]

theorem ofDigits_concat (ds : List Nat) (d : Nat) :
  ofDigits (ds ++ [d]) = ofDigits ds * 10 + d
  := by
  simp [ofDigits]

/-- A number with some digits is below the power of ten with as many zeros. -/
theorem ofDigits_lt {ds : List Nat} (digits : ∀ d ∈ ds, d < 10) :
  ofDigits ds < 10 ^ ds.length
  := by
  induction ds using List.reverseRecOn with
  | nil => decide
  | append_singleton ds d ih =>
    have before := ih fun d' member => digits d' (by simp [member])
    have last := digits d (by simp)
    rw [ofDigits_concat, List.length_append, List.length_singleton, Nat.pow_succ]
    omega

theorem digitGroup?_cons_of_isDigit {c : Char} {r : List Char} (digit : c.isDigit = true)
    (afterDigit : Bool) :
  digitGroup? afterDigit (c :: r) = (digitGroup? true r).map ((c.toNat - '0'.toNat) :: ·)
  := by
  have not_underscore : c ≠ '_' := by
    rintro rfl
    cases digit
  rw [digitGroup?.eq_3, decimalValue?_of_isDigit digit]
  rintro _ rfl
  contradiction

/-- A run of plain digits is read digit by digit. -/
theorem digitGroup?_of_isDigit {cs : List Char} (digits : ∀ c ∈ cs, c.isDigit = true) :
  digitGroup? true cs = some (cs.map fun c => c.toNat - '0'.toNat)
  := by
  induction cs with
  | nil => rfl
  | cons c r ih =>
    obtain ⟨first, others⟩ := List.forall_mem_cons.mp digits
    rw [digitGroup?_cons_of_isDigit first, ih others]
    rfl

/-- Every digit that is read has been written. -/
theorem length_of_digitGroup? {afterDigit : Bool} {cs : List Char} {ds : List Nat}
    (read : digitGroup? afterDigit cs = some ds) :
  ds.length ≤ cs.length ∧ (∀ d ∈ ds, d < 10) ∧ (afterDigit = false → ds ≠ [])
  := by
  fun_induction digitGroup? afterDigit cs generalizing ds with
  | case1 =>
    cases read
    simp
  | case2 => cases read
  | case3 r ih =>
    obtain ⟨length, digits, some⟩ := ih read
    exact ⟨Nat.le_succ_of_le length, digits, fun _ => some rfl⟩
  | case4 afterDigit c r d value _ ih =>
    obtain ⟨others, rest, rfl⟩ := Option.map_eq_some_iff.mp read
    obtain ⟨length, digits, -⟩ := ih rest
    refine ⟨Nat.succ_le_succ length, ?_, fun _ => List.cons_ne_nil d others⟩
    exact List.forall_mem_cons.mpr ⟨decimalValue?_lt value, digits⟩
  | case5 => cases read

/-! ### Whole numbers -/

theorem ofDigits_toDigits (n : Nat) :
  ofDigits ((Nat.toDigits 10 n).map fun c => c.toNat - '0'.toNat) = n
  := by
  have written := Nat.ofDigitChars_ten_toDigits (n := n)
  rw [Nat.ofDigitChars_eq_foldl] at written
  rw [ofDigits, List.foldl_map]
  simp only [Nat.mul_comm _ 10]
  exact written

theorem not_isNumeralBlank_of_isDigit {c : Char} (digit : c.isDigit = true) :
  isNumeralBlank c = false
  := by
  obtain ⟨least, most⟩ := toNat_of_isDigit digit
  have space : c ≠ ' ' := by
    rintro rfl
    cases digit
  rw [isNumeralBlank, if_pos (by omega)]
  simp [space]
  omega

theorem trimBy_of_forall {p : Char → Bool} {cs : List Char} (kept : ∀ c ∈ cs, p c = false) :
  trimBy p cs = cs
  := trimBy_of_ends (fun c first => kept c (List.mem_of_mem_head? first))
    (fun c last => kept c (List.mem_of_mem_getLast? last))

theorem length_trimBy_le (p : Char → Bool) (cs : List Char) :
  (trimBy p cs).length ≤ cs.length
  := by
  have front := (List.dropWhile_sublist p (l := cs)).length_le
  have back := (List.dropWhile_sublist p (l := (cs.dropWhile p).reverse)).length_le
  rw [List.length_reverse] at back
  rw [trimBy, List.length_reverse]
  omega

/-- The written form of a whole number: the digits of its size, and a minus sign in front of them
if it is negative. -/
theorem toList_toString_int (n : Int) :
  (toString n).toList = (if n < 0 then ['-'] else []) ++ Nat.toDigits 10 n.natAbs
  := by
  rw [Int.toString_eq_repr, Int.repr_eq_if]
  by_cases negative : n < 0
  · rw [if_neg (by omega), if_pos negative, show (-n).toNat = n.natAbs by omega,
      Nat.repr_eq_ofList_toDigits, String.toList_append]
    simp
  · rw [if_pos (by omega), if_neg negative, show n.toNat = n.natAbs by omega,
      Nat.repr_eq_ofList_toDigits, String.toList_ofList, List.nil_append]

theorem toList_toString_ne_nil (n : Int) :
  (toString n).toList ≠ []
  := by
  rw [toList_toString_int]
  have digits := Nat.length_toDigits_pos (b := 10) (n := n.natAbs)
  intro empty
  simp [(List.append_eq_nil_iff.mp empty).2] at digits

theorem digitGroup?_toDigits (n : Nat) :
  digitGroup? false (Nat.toDigits 10 n)
    = some ((Nat.toDigits 10 n).map fun c => c.toNat - '0'.toNat)
  := by
  have digits : ∀ c ∈ Nat.toDigits 10 n, c.isDigit = true :=
    fun c member => Nat.isDigit_of_mem_toDigits (by decide) (by decide) member
  cases written : Nat.toDigits 10 n with
  | nil =>
    have := Nat.length_toDigits_pos (b := 10) (n := n)
    simp [written] at this
  | cons c r =>
    rw [written] at digits
    obtain ⟨first, others⟩ := List.forall_mem_cons.mp digits
    rw [digitGroup?_cons_of_isDigit first, digitGroup?_of_isDigit others]
    rfl

theorem takeSign_of_isDigit {cs : List Char} (digits : ∀ c ∈ cs, c.isDigit = true) :
  takeSign cs = (false, cs)
  := by
  unfold takeSign
  split
  · simp at digits
  · simp at digits
  · rfl

/-- The written form of a whole number has digits, and perhaps a minus sign. -/
theorem eq_or_isDigit_of_mem {n : Int} {c : Char} (member : c ∈ (toString n).toList) :
  c = '-' ∨ c.isDigit = true
  := by
  rw [toList_toString_int, List.mem_append] at member
  rcases member with sign | digit
  · split at sign
    · exact .inl (List.mem_singleton.mp sign)
    · cases sign
  · exact .inr (Nat.isDigit_of_mem_toDigits (by decide) (by decide) digit)

/-- What is written with digits and perhaps a minus sign is read as it stands. -/
theorem takeSign_toString (n : Int) :
  takeSign (trimBy isNumeralBlank (toString n).toList)
    = (decide (n < 0), Nat.toDigits 10 n.natAbs)
  := by
  have digits : ∀ c ∈ Nat.toDigits 10 n.natAbs, c.isDigit = true :=
    fun c member => Nat.isDigit_of_mem_toDigits (by decide) (by decide) member
  have kept : ∀ c ∈ (toString n).toList, isNumeralBlank c = false := by
    intro c member
    rcases eq_or_isDigit_of_mem member with rfl | digit
    · rfl
    · exact not_isNumeralBlank_of_isDigit digit
  rw [trimBy_of_forall kept, toList_toString_int]
  split
  · next negative => simp [takeSign, negative]
  · next positive => rw [List.nil_append, takeSign_of_isDigit digits, decide_eq_false positive]

theorem signed_natAbs (n : Int) :
  signed (decide (n < 0)) n.natAbs = n
  := by
  by_cases negative : n < 0
  · rw [signed, decide_eq_true negative, if_pos rfl]
    omega
  · rw [signed, decide_eq_false negative, if_neg Bool.false_ne_true]
    omega

/-- No two whole numbers are written alike. -/
theorem toString_int_inj {m n : Int} :
  toString m = toString n ↔ m = n
  := by
  constructor
  · intro same
    have parts := takeSign_toString m
    rw [same, takeSign_toString n, Prod.mk.injEq] at parts
    obtain ⟨sign, digits⟩ := parts
    have size : n.natAbs = m.natAbs := by
      rw [← ofDigits_toDigits n.natAbs, digits, ofDigits_toDigits]
    rw [← signed_natAbs m, ← signed_natAbs n, sign, size]
  · exact congrArg toString

theorem natAbs_signed (negative : Bool) (n : Nat) :
  (signed negative n).natAbs = n
  := by
  cases negative <;> simp [signed]

/-- A whole number that has no more digits than a numeral may have. -/
def Fits (n : Int) : Prop :=
  n.natAbs < 10 ^ digitLimit

/-- A whole number is read from its written form, unless it has too many digits. -/
theorem intOfText?_toString_iff {n : Int} :
  intOfText? (toString n) = some n ↔ Fits n
  := by
  have short : (Nat.toDigits 10 n.natAbs).length ≤ digitLimit ↔ Fits n :=
    Nat.length_toDigits_le_iff (by decide) (by decide)
  simp only [intOfText?, takeSign_toString, digitGroup?_toDigits, List.length_map,
    ofDigits_toDigits, signed_natAbs]
  simpa using short

theorem length_takeSign {cs : List Char} {negative : Bool} {r : List Char}
    (taken : takeSign cs = (negative, r)) :
  (if negative then 1 else 0) + r.length ≤ cs.length
  := by
  unfold takeSign at taken
  split at taken <;> cases taken
  · simp
    omega
  · simp
  · simp

/-- The written form of a number with some digits has no more digits, and a sign only if the number
has one. -/
theorem length_toString_signed_le (negative : Bool) {ds : List Nat} (digits : ∀ d ∈ ds, d < 10)
    (some : ds ≠ []) :
  (toString (signed negative (ofDigits ds))).length ≤ (if negative then 1 else 0) + ds.length
  := by
  have written : (Nat.toDigits 10 (ofDigits ds)).length ≤ ds.length :=
    (Nat.length_toDigits_le_iff (by decide) (List.length_pos_iff.mpr some)).mpr (ofDigits_lt digits)
  rw [← String.length_toList, toList_toString_int, natAbs_signed, List.length_append]
  cases negative with
  | false =>
    have positive : ¬ signed false (ofDigits ds) < 0 := by simp [signed]
    rw [if_neg positive]
    simpa using written
  | true =>
    have sign : (if signed true (ofDigits ds) < 0 then ['-'] else []).length ≤ 1 := by
      split <;> simp
    simp only [if_true]
    omega

/-- No numeral for a number is shorter than its written form. -/
theorem length_toString_le {s : String} {n : Int} (read : intOfText? s = some n) :
  (toString n).length ≤ s.length
  := by
  obtain ⟨negative, r, taken⟩ : ∃ negative r,
      takeSign (trimBy isNumeralBlank s.toList) = (negative, r) := ⟨_, _, rfl⟩
  have signs := length_takeSign taken
  have trimmed := length_trimBy_le isNumeralBlank s.toList
  rw [String.length_toList] at trimmed
  simp only [intOfText?, taken] at read
  cases digits : digitGroup? false r with
  | none => simp [digits] at read
  | some ds =>
    obtain ⟨length, bounds, some⟩ := length_of_digitGroup? digits
    have written := length_toString_signed_le negative bounds (some rfl)
    simp only [digits] at read
    split at read
    · cases read
      omega
    · cases read

/-- A number that has been read from a numeral fits into one. -/
theorem fits_of_intOfText? {s : String} {n : Int} (read : intOfText? s = some n) :
  Fits n
  := by
  simp only [intOfText?] at read
  split at read
  · next ds digits =>
    split at read
    · next short =>
      cases read
      obtain ⟨-, bounds, -⟩ := length_of_digitGroup? digits
      rw [Fits, natAbs_signed]
      apply Nat.lt_of_lt_of_le (ofDigits_lt bounds)
      apply Nat.pow_le_pow_right (by decide) short
    · cases read
  · cases read

/-! ### The signs of a numeral -/

theorem mem_dropWhile_of_mem {p : Char → Bool} {cs : List Char} {c : Char} (mem : c ∈ cs)
    (stays : p c = false) :
  c ∈ cs.dropWhile p
  := by
  rw [← List.takeWhile_append_dropWhile (p := p) (l := cs), List.mem_append] at mem
  apply mem.resolve_left
  intro taken
  have goes : p c = true := List.mem_takeWhile_imp taken
  rw [stays] at goes
  cases goes

/-- Only what may go at the ends is taken away. -/
theorem mem_trimBy_of_mem {p : Char → Bool} {cs : List Char} {c : Char} (mem : c ∈ cs)
    (stays : p c = false) :
  c ∈ trimBy p cs
  := by
  have front := mem_dropWhile_of_mem mem stays
  apply List.mem_reverse.mpr
  apply mem_dropWhile_of_mem (List.mem_reverse.mpr front) stays

theorem mem_takeSign_of_mem {cs : List Char} {c : Char} (mem : c ∈ cs) (minus : c ≠ '-')
    (plus : c ≠ '+') :
  c ∈ (takeSign cs).2
  := by
  unfold takeSign
  split
  · apply List.mem_of_ne_of_mem minus mem
  · apply List.mem_of_ne_of_mem plus mem
  · apply mem

/-- A group of digits is made of digits, with underscores between them. -/
theorem isDecimal_of_digitGroup? {afterDigit : Bool} {cs : List Char} {ds : List Nat}
    (read : digitGroup? afterDigit cs = some ds) {c : Char} (mem : c ∈ cs) (other : c ≠ '_') :
  isDecimal c = true
  := by
  fun_induction digitGroup? afterDigit cs generalizing ds with
  | case1 | case2 => cases mem
  | case3 r ih => apply ih read (List.mem_of_ne_of_mem other mem)
  | case4 afterDigit first r d value _ ih =>
    obtain ⟨others, rest, -⟩ := Option.map_eq_some_iff.mp read
    rcases List.mem_cons.mp mem with rfl | mem
    · rw [isDecimal, value]
      rfl
    · apply ih rest mem
  | case5 => cases read

/-- The signs that may stand in a numeral. -/
def isNumeralSign (c : Char) : Bool :=
  isNumeralBlank c || c == '-' || c == '+' || c == '_' || isDecimal c

/-- No other sign stands in a numeral. -/
theorem not_mem_of_intOfText? {s : String} {n : Int} (read : intOfText? s = some n) {c : Char}
    (other : isNumeralSign c = false) :
  c ∉ s.toList
  := by
  intro mem
  simp only [isNumeralSign, Bool.or_eq_false_iff, beq_eq_false_iff_ne] at other
  obtain ⟨⟨⟨⟨blank, minus⟩, plus⟩, underscore⟩, digit⟩ := other
  have inside := mem_takeSign_of_mem (mem_trimBy_of_mem mem blank) minus plus
  simp only [intOfText?] at read
  split at read
  · next ds digits =>
    rw [isDecimal_of_digitGroup? digits inside underscore] at digit
    cases digit
  · cases read

end Muster.Decimal
