import Mathlib.Algebra.BigOperators.Group.List.Basic
import Mathlib.Algebra.Order.Field.Rat
import Mathlib.Data.List.Induction
import Mathlib.Tactic.FieldSimp
import Mathlib.Tactic.NormNum
import Mathlib.Tactic.Ring
import Muster.Duration
import Muster.Proofs.Decimal.Nearest
/-!
# Durations in writing

A duration that is no plain number is written as parts, one directly behind the other, each with its
digits and its unit.  Digits belong to the number as long as they go on, and a unit is followed by a
digit or by nothing, so a minute is never taken for the beginning of a millisecond.  Hence there is
only one way to divide a text into parts, and it is the one that the parts are found in: a text is
refused exactly if there is none.  Apart from rounding, the length of the whole is the sum of the
numbers times their units, and the numbers and the units are rounded to the nearest doubles.
-/

namespace Muster

namespace Duration

open Text Decimal

/-! ### Parts in writing -/

/-- The written forms of a unit. -/
def TimeUnit.symbols : TimeUnit → List String
  | nanosecond => ["ns"]
  | microsecond => ["us", "µs"]
  | millisecond => ["ms"]
  | second => ["s"]
  | minute => ["m"]
  | hour => ["h"]

/-- A part is written with at least one digit, perhaps with a point and more digits behind it, and
with a unit. -/
structure Part.Written (p : Part) (piece : List Char) : Prop where
  some : p.whole ≠ []
  whole : ∀ c ∈ p.whole, isDecimal c = true
  fraction : ∀ c ∈ p.fraction, isDecimal c = true
  text : ∃ symbol ∈ p.unit.symbols, piece = p.whole ++ pointed p.fraction ++ symbol.toList

/-- Some parts are written in a text, one directly behind the other. -/
def Spells (ps : List Part) (cs : List Char) : Prop :=
  ∃ pieces, List.Forall₂ Part.Written ps pieces ∧ pieces.flatten = cs

variable {cs rest : List Char} {unit : TimeUnit} {symbol : String} {p : Part} {ps : List Part}

/-! ### Reading a unit -/

theorem exists_symbol_of_takeUnit? (read : takeUnit? cs = some (unit, rest)) :
  ∃ symbol ∈ unit.symbols, cs = symbol.toList ++ rest
  := by
  unfold takeUnit? at read
  split at read
  case h_1 => cases read; exact ⟨"ns", .head _, rfl⟩
  case h_2 => cases read; exact ⟨"us", .head _, rfl⟩
  case h_3 => cases read; exact ⟨"µs", .tail _ (.head _), rfl⟩
  case h_4 => cases read; exact ⟨"ms", .head _, rfl⟩
  case h_5 => cases read; exact ⟨"s", .head _, rfl⟩
  case h_6 => cases read; exact ⟨"m", .head _, rfl⟩
  case h_7 => cases read; exact ⟨"h", .head _, rfl⟩
  case h_8 => cases read

/-- A unit is read as it is written if no letter comes behind it. -/
theorem takeUnit?_symbol (known : symbol ∈ unit.symbols)
    (ends : ∀ c ∈ rest.head?, isDecimal c = true) :
  takeUnit? (symbol.toList ++ rest) = some (unit, rest)
  := by
  cases unit with
  | minute =>
    obtain rfl := List.mem_singleton.mp known
    -- Only a minute may be taken for something longer.
    apply takeUnit?.eq_6
    rintro _ rfl
    have digit : isDecimal 's' = true := ends 's' rfl
    revert digit
    decide
  | microsecond =>
    rcases List.mem_pair.mp known with rfl | rfl <;> rfl
  | _ =>
    obtain rfl := List.mem_singleton.mp known
    rfl

/-- A unit begins with a letter. -/
theorem exists_toList_symbol (known : symbol ∈ unit.symbols) :
  ∃ c r, symbol.toList = c :: r ∧ isDecimal c = false ∧ c ≠ '.'
  := by
  cases unit with
  | microsecond =>
    rcases List.mem_pair.mp known with rfl | rfl
    all_goals exact ⟨_, _, rfl, by decide, by decide⟩
  | _ =>
    obtain rfl := List.mem_singleton.mp known
    exact ⟨_, _, rfl, by decide, by decide⟩

/-! ### Reading a number -/

section Number

variable {β : Type} {next : List Char → List Char → Option β} {before digits fraction : List Char}
  {b : β}

theorem takeDigits?_eq_none (ends : ∀ c ∈ rest.head?, isDecimal c = false) :
  takeDigits? next before rest = none
  := by
  cases rest with
  | nil => rfl
  | cons c rest =>
    rw [takeDigits?, if_neg]
    simpa using ends c rfl

/-- All digits are taken, up to something else, if it can be gone on with from there. -/
theorem takeDigits?_append (some : digits ≠ []) (all : ∀ c ∈ digits, isDecimal c = true)
    (ends : ∀ c ∈ rest.head?, isDecimal c = false)
    (goesOn : next (before ++ digits) rest = .some b) :
  takeDigits? next before (digits ++ rest) = .some b
  := by
  induction digits generalizing before with
  | nil => exact absurd rfl some
  | cons c digits ih =>
    obtain ⟨digit, others⟩ := List.forall_mem_cons.mp all
    rw [List.cons_append, takeDigits?, if_pos digit]
    by_cases last : digits = []
    · subst last
      rw [List.nil_append, takeDigits?_eq_none ends]
      exact goesOn
    · rw [ih last others (by simpa using goesOn)]

/-- The digits behind a point are taken, and nothing is if there is no point. -/
theorem takeFraction?_pointed (all : ∀ c ∈ fraction, isDecimal c = true)
    (ends : ∀ c ∈ rest.head?, isDecimal c = false ∧ c ≠ '.')
    (goesOn : next fraction rest = some b) :
  takeFraction? next (pointed fraction ++ rest) = some b
  := by
  rw [pointed]
  split
  · next none =>
    subst none
    rw [List.nil_append, takeFraction?.eq_def]
    split
    · exact absurd rfl (ends '.' rfl).2
    · exact goesOn
  · next more =>
    rw [List.cons_append, takeFraction?,
      takeDigits?_append more all (fun c first => (ends c first).1) (by simpa using goesOn)]

end Number

/-! ### Reading parts -/

/-- A part is read as it is written if no letter comes behind it. -/
theorem takePart?_append {piece : List Char} (written : p.Written piece)
    (ends : ∀ c ∈ rest.head?, isDecimal c = true) :
  takePart? (piece ++ rest) = some (p, rest)
  := by
  obtain ⟨symbol, known, rfl⟩ := written.text
  have read := takeUnit?_symbol known ends
  obtain ⟨c, r, letters, letter, apart⟩ := exists_toList_symbol known
  have behind : ∀ d ∈ (symbol.toList ++ rest).head?, isDecimal d = false ∧ d ≠ '.' := by
    rw [letters]
    rintro _ ⟨⟩
    exact ⟨letter, apart⟩
  have behindWhole : ∀ d ∈ (pointed p.fraction ++ (symbol.toList ++ rest)).head?,
      isDecimal d = false := by
    rw [pointed]
    split
    · exact fun d first => (behind d first).1
    · rintro _ ⟨⟩
      decide
  rw [List.append_assoc, List.append_assoc, takePart?]
  apply takeDigits?_append written.some written.whole behindWhole
  apply takeFraction?_pointed written.fraction behind
  rw [read]
  rfl

/-- What is read as a part is written so. -/
theorem exists_written_of_takePart? (taken : takePart? cs = some (p, rest)) :
  ∃ piece, p.Written piece ∧ cs = piece ++ rest
  := by
  obtain ⟨some, whole, fraction, behind, rfl, read⟩ := exists_of_takePart? taken
  obtain ⟨symbol, known, rfl⟩ := exists_symbol_of_takeUnit? read
  exact ⟨_, ⟨some, whole, fraction, symbol, known, rfl⟩, by simp⟩

theorem takeParts_of_takePart? (taken : takePart? cs = some (p, rest)) :
  takeParts cs = (p :: (takeParts rest).1, (takeParts rest).2)
  := by
  have found := findPart?_eq_nil_iff.mpr taken
  rw [takeParts]
  split
  · next found' =>
    cases found.symm.trans found'
    rfl
  · next other => exact absurd found (other _ _)

/-- The parts at the head of a text are written there, and what is left of it is left out. -/
theorem exists_written_takeParts (cs : List Char) :
  ∃ pieces, List.Forall₂ Part.Written (takeParts cs).1 pieces
    ∧ cs = pieces.flatten ++ (takeParts cs).2
  := by
  induction cs using takeParts.induct with
  | case1 cs p rest found _ _ _ ih =>
    have taken := findPart?_eq_nil_iff.mp found
    obtain ⟨pieces, others, same⟩ := ih
    obtain ⟨piece, written, rfl⟩ := exists_written_of_takePart? taken
    rw [takeParts_of_takePart? taken]
    refine ⟨piece :: pieces, .cons written others, ?_⟩
    rw [List.flatten_cons, List.append_assoc, ← same]
  | case2 cs none =>
    have nothing : takeParts cs = ([], cs) := by
      rw [takeParts]
      split
      · next found => exact absurd found (none _ _)
      · rfl
    rw [nothing]
    exact ⟨[], .nil, rfl⟩

/-- Parts in writing begin with a digit. -/
theorem isDecimal_head {pieces : List (List Char)} (written : List.Forall₂ Part.Written ps pieces) :
  ∀ c ∈ pieces.flatten.head?, isDecimal c = true
  := by
  cases written with
  | nil => nofun
  | @cons p piece _ _ first others =>
    obtain ⟨symbol, -, rfl⟩ := first.text
    obtain ⟨c, r, whole⟩ := List.exists_cons_of_ne_nil first.some
    rw [whole]
    rintro _ ⟨⟩
    apply first.whole c
    rw [whole]
    apply List.mem_cons_self

/-- Parts are read as they are written. -/
theorem takeParts_flatten {pieces : List (List Char)}
    (written : List.Forall₂ Part.Written ps pieces) :
  takeParts pieces.flatten = (ps, [])
  := by
  induction written with
  | nil =>
    rw [takeParts]
    rfl
  | @cons p piece ps pieces first others ih =>
    rw [List.flatten_cons, takeParts_of_takePart? (takePart?_append first (isDecimal_head others)),
      ih]

theorem takeParts_eq_iff :
  takeParts cs = (ps, []) ↔ Spells ps cs
  := by
  constructor
  · intro read
    obtain ⟨pieces, written, same⟩ := exists_written_takeParts cs
    rw [read] at written same
    exact ⟨pieces, written, by simpa using same.symm⟩
  · rintro ⟨pieces, written, rfl⟩
    apply takeParts_flatten written

/-- There is only one way to divide a text into parts. -/
theorem eq_of_written {ps' : List Part} {pieces pieces' : List (List Char)}
    (written : List.Forall₂ Part.Written ps pieces)
    (written' : List.Forall₂ Part.Written ps' pieces') (same : pieces.flatten = pieces'.flatten) :
  pieces = pieces' ∧ ps = ps'
  := by
  have read := takeParts_flatten written
  rw [same, takeParts_flatten written'] at read
  obtain rfl : ps' = ps := congrArg Prod.fst read
  clear read
  refine ⟨?_, rfl⟩
  induction written generalizing pieces' with
  | nil =>
    cases written'
    rfl
  | @cons p piece ps pieces first others ih =>
    cases written' with
    | @cons _ piece' _ pieces' first' others' =>
      rw [List.flatten_cons, List.flatten_cons] at same
      -- The same part is taken off, and so the same text is left.
      have taken := takePart?_append first (isDecimal_head others)
      rw [same, takePart?_append first' (isDecimal_head others')] at taken
      have left : pieces'.flatten = pieces.flatten := congrArg Prod.snd (Option.some.inj taken)
      rw [left] at same
      rw [List.append_cancel_right same, ih others' left.symm]

/-! ### Adding up -/

/-- The length of a unit in seconds. -/
def TimeUnit.size : TimeUnit → ℚ
  | nanosecond => 1 / 10 ^ 9
  | microsecond => 1 / 10 ^ 6
  | millisecond => 1 / 10 ^ 3
  | second => 1
  | minute => 60
  | hour => 3600

/-- The number of a part times its unit. -/
def Part.size (p : Part) : ℚ :=
  (decimalNumber p.whole + decimalNumber p.fraction / 10 ^ p.fraction.length) * p.unit.size

/-- Numbers that are not rounded. -/
instance : Magnitude ℚ where
  ofDecimal digits exponent := digits * 10 ^ exponent
  add a b := a + b
  mul a b := a * b

theorem seconds_eq_size (unit : TimeUnit) :
  (unit.seconds : ℚ) = unit.size
  := by
  cases unit <;> norm_num [TimeUnit.seconds, TimeUnit.size, Magnitude.ofDecimal]

theorem decimalNumber_append (whole fraction : List Char) :
  decimalNumber (whole ++ fraction)
    = decimalNumber whole * 10 ^ fraction.length + decimalNumber fraction
  := by
  have from_some (n : Nat) : fraction.foldl (fun n c => n * 10 + (decimalValue? c).getD 0) n
      = n * 10 ^ fraction.length + decimalNumber fraction := by
    induction fraction using List.reverseRecOn with
    | nil => simp [decimalNumber]
    | append_singleton fraction c ih =>
      simp only [decimalNumber] at ih
      simp only [decimalNumber, List.foldl_append, List.foldl_cons, List.foldl_nil, ih,
        List.length_append, List.length_singleton, pow_succ]
      ring
  rw [decimalNumber, List.foldl_append, from_some]
  rfl

theorem Part.seconds_eq_size (p : Part) :
  (p.seconds : ℚ) = p.size
  := by
  rw [Part.seconds, Part.size, Duration.seconds_eq_size, decimalNumber_append]
  simp only [Magnitude.mul, Magnitude.ofDecimal, zpow_neg, zpow_natCast]
  push_cast
  field_simp

/-- The length of some parts is the sum of their lengths. -/
theorem total_eq_sum (ps : List Part) :
  (total ps : ℚ) = (ps.map Part.size).sum
  := by
  have from_some (sum : ℚ) : ps.foldl (fun sum p => Magnitude.add sum p.seconds) sum
      = sum + (ps.map Part.size).sum := by
    induction ps generalizing sum with
    | nil => simp
    | cons p ps ih =>
      rw [List.foldl_cons, ih, Part.seconds_eq_size, List.map_cons, List.sum_cons, ← add_assoc]
      rfl
  rw [total, from_some]
  simp [Magnitude.ofDecimal]

/-! ### Reading a duration -/

theorem ofText?_eq_some_iff {s : String} (none : floatOfText? (strip s) = none) (x : Float) :
  ofText? s = some x ↔ ∃ ps, ps ≠ [] ∧ Spells ps (strip s).toList ∧ x = total ps
  := by
  simp only [ofText?, none, ← takeParts_eq_iff]
  constructor
  · intro read
    split at read
    · next p ps parts => exact ⟨p :: ps, by simp, parts, (Option.some.inj read).symm⟩
    · cases read
  · rintro ⟨ps, some, parts, rfl⟩
    obtain ⟨p, ps, rfl⟩ := List.exists_cons_of_ne_nil some
    rw [parts]

theorem ofValue_of_some (default : Float) {s : String} {x : Float} (read : ofText? s = some x) :
  ofValue default (.str s) = .ok x
  := by
  have text : ofText? (Value.str s).text = some x := read
  rw [ofValue.eq_def]
  simp only [text]

theorem ofValue_of_none (default : Float) {s : String} (refused : ofText? s = none) :
  ofValue default (.str s) = .error (.descriptor (.badDuration (.str s)))
  := by
  have text : ofText? (Value.str s).text = none := refused
  rw [ofValue.eq_def]
  simp only [text]

/-- A text is read as the plain number that it is, and else as the parts that it is written in; if
it is neither, it is refused.  The length of the parts is, but for rounding, the sum of their
numbers times their units, and there is only one way to divide a text into parts.  Each decimal is
rounded to the nearest double. -/
theorem ofValue_str (default : Float) (s : String) :
  (∀ x, floatOfText? (strip s) = some x → ofValue default (.str s) = .ok x)
    ∧ (floatOfText? (strip s) = none →
      (∀ x, ofValue default (.str s) = .ok x
        ↔ ∃ ps, ps ≠ [] ∧ Spells ps (strip s).toList ∧ x = total ps)
      ∧ ∀ fault, ofValue default (.str s) = .error fault
        ↔ fault = .descriptor (.badDuration (.str s))
          ∧ ¬ ∃ ps, ps ≠ [] ∧ Spells ps (strip s).toList)
    ∧ (∀ ps : List Part, (total ps : ℚ) = (ps.map Part.size).sum)
    ∧ (∀ ps ps' pieces pieces', List.Forall₂ Part.Written ps pieces →
      List.Forall₂ Part.Written ps' pieces' → pieces.flatten = pieces'.flatten →
        pieces = pieces' ∧ ps = ps')
    ∧ ∀ (digits : Nat) exponent, Rounds false (digits * 10 ^ exponent)
      (parts (Magnitude.ofDecimal digits exponent))
  := by
  refine ⟨fun x number => ?_, fun none => ?_, total_eq_sum, fun _ _ _ _ => eq_of_written,
    rounds_ofDecimal false⟩
  · apply ofValue_of_some
    simp only [ofText?, number]
  · have read := ofText?_eq_some_iff none
    cases there : ofText? s with
    | some x =>
      obtain ⟨ps, some, spells, rfl⟩ := (read x).mp there
      rw [ofValue_of_some default there]
      refine ⟨fun y => ?_, fun fault => ⟨nofun, ?_⟩⟩
      · rw [← read, there, Except.ok.injEq, Option.some.injEq]
      · rintro ⟨-, refused⟩
        exact absurd ⟨ps, some, spells⟩ refused
    | none =>
      have refused : ¬ ∃ ps, ps ≠ [] ∧ Spells ps (strip s).toList := by
        rintro ⟨ps, some, spells⟩
        cases there.symm.trans ((read (total ps)).mpr ⟨ps, some, spells, rfl⟩)
      rw [ofValue_of_none default there]
      refine ⟨fun y => ⟨nofun, ?_⟩, fun fault => ?_⟩
      · rintro ⟨ps, some, spells, -⟩
        exact absurd ⟨ps, some, spells⟩ refused
      · rw [Except.error.injEq]
        exact ⟨fun same => ⟨same.symm, refused⟩, fun same => same.1.symm⟩

end Duration

namespace Sample

open Duration

/-- A minute and half a minute. -/
def ninety : List Part :=
  [⟨['1'], [], .minute⟩, ⟨['3', '0'], ['0'], .second⟩]

theorem spells_ninety :
  Spells ninety (Text.strip " 1m30.0s\n").toList
  := by
  have one : Text.isDecimal '1' = true := rfl
  have three : Text.isDecimal '3' = true := rfl
  have zero : Text.isDecimal '0' = true := rfl
  have minute : Part.Written ⟨['1'], [], .minute⟩ ['1', 'm'] :=
    ⟨by simp, by simp [one], by simp, "m", .head _, rfl⟩
  have half : Part.Written ⟨['3', '0'], ['0'], .second⟩ ['3', '0', '.', '0', 's'] :=
    ⟨by simp, by simp [three, zero], by simp [zero], "s", .head _, rfl⟩
  exact ⟨_, .cons minute (.cons half .nil), rfl⟩

/-- A gap is not passed over. -/
theorem not_spells_gap :
  ¬ ∃ ps, ps ≠ [] ∧ Spells ps (Text.strip "1m 30s").toList
  := by
  rintro ⟨ps, -, spells⟩
  have minute : takePart? (Text.strip "1m 30s").toList
      = some (⟨['1'], [], .minute⟩, " 30s".toList) := by rfl
  have apart : findPart? " 30s".toList = some ([' '], ⟨['3', '0'], [], .second⟩, []) := by rfl
  have left : takeParts " 30s".toList = ([], " 30s".toList) := by
    rw [takeParts, apart]
  rw [← takeParts_eq_iff, takeParts_of_takePart? minute, left, Prod.mk.injEq] at spells
  cases spells.2

end Sample

/-- A minute and half a minute are ninety seconds, and a gap between them is refused. -/
theorem Duration.ofValue_str_ninety :
  Decimal.floatOfText? (Text.strip " 1m30.0s\n") = none
    ∧ Decimal.floatOfText? (Text.strip "1m 30s") = none
    ∧ ofValue 5 (.str " 1m30.0s\n") = .ok (total Sample.ninety)
    ∧ (total Sample.ninety : ℚ) = 90
    ∧ ofValue 5 (.str "1m 30s") = .error (.descriptor (.badDuration (.str "1m 30s")))
  := by
  have none : Decimal.floatOfText? (Text.strip " 1m30.0s\n") = none := by rfl
  have none' : Decimal.floatOfText? (Text.strip "1m 30s") = .none := by rfl
  obtain ⟨-, parts, sum, -⟩ := ofValue_str 5 " 1m30.0s\n"
  obtain ⟨-, refused, -⟩ := ofValue_str 5 "1m 30s"
  have some : Sample.ninety ≠ [] := List.cons_ne_nil _ _
  refine ⟨none, none', ((parts none).1 _).mpr ⟨_, some, Sample.spells_ninety, rfl⟩, ?_,
    ((refused none').2 _).mpr ⟨rfl, Sample.not_spells_gap⟩⟩
  have one : Text.decimalNumber ['1'] = 1 := rfl
  have thirty : Text.decimalNumber ['3', '0'] = 30 := rfl
  have nothing : Text.decimalNumber ['0'] = 0 ∧ Text.decimalNumber [] = 0 := ⟨rfl, rfl⟩
  rw [sum]
  norm_num [Sample.ninety, Part.size, TimeUnit.size, one, thirty, nothing]

end Muster
