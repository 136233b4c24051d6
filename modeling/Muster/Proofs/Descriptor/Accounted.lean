import Muster.Value.Convert
/-!
# Refusals and mishaps

A document that is no descriptor is to be refused with a fault of the descriptor.  Some of its
values are used before anything has checked them, and then the reading fails in another way: that
is a mishap.  `Accounted` says of a reading that it fails in these two ways only, and at which
mishaps it does.  The readings of a plain value come first.
-/

namespace Muster.Descriptor

open Value

/-- A reading whose failures are refusals and mishaps.  It may be refused before a mishap happens,
but it does not succeed where one is to happen. -/
structure Accounted {α : Type} (x : Except Fault α) (mishap : Fault → Prop) : Prop where
  /-- A failure is a refusal or a mishap. -/
  of_error : ∀ fault, x = .error fault → (∃ cause, fault = .descriptor cause) ∨ mishap fault
  /-- Where a mishap is to happen, the reading fails. -/
  fails : ∀ fault, mishap fault → ∃ other, x = .error other

namespace Accounted

variable {α β : Type} {x : Except Fault α} {mishap other : Fault → Prop}

theorem ok (a : α) :
  Accounted (.ok a : Except Fault α) fun _ => False
  := ⟨nofun, nofun⟩

/-- A refusal comes before whatever is to happen. -/
theorem refused (cause : DescriptorFault) :
  Accounted (.error (.descriptor cause) : Except Fault α) mishap
  := ⟨fun _ same => .inl ⟨cause, by cases same; rfl⟩, fun _ _ => ⟨_, rfl⟩⟩

/-- A condition under which a reading is refused. -/
theorem refusedIf (cause : DescriptorFault) (refuse : Bool) (accounted : Accounted x mishap) :
  Accounted (if refuse then .error (.descriptor cause) else x) mishap
  := by
  cases refuse
  · exact accounted
  · exact refused cause

theorem failed (fault : Fault) :
  Accounted (.error fault : Except Fault α) (· = fault)
  := ⟨fun _ same => .inr (by cases same; rfl), fun _ _ => ⟨fault, rfl⟩⟩

/-- The same mishaps in other words. -/
theorem congr (accounted : Accounted x mishap) (same : ∀ fault, mishap fault ↔ other fault) :
  Accounted x other
  where
  of_error fault failure := (accounted.of_error fault failure).imp_right (same fault).mp
  fails fault happens := accounted.fails fault ((same fault).mpr happens)

/-- A condition under which a reading fails. -/
theorem failedIf (fault : Fault) (fail : Bool) (accounted : Accounted x mishap) :
  Accounted (if fail then .error fault else x) fun other => fail ∧ other = fault ∨ mishap other
  := by
  cases fail with
  | false => exact accounted.congr fun _ => (or_iff_right (by simp)).symm
  | true =>
    constructor
    · rintro _ ⟨⟩
      exact .inr (.inl ⟨rfl, rfl⟩)
    · exact fun _ _ => ⟨fault, rfl⟩

/-- A reading in which no mishap happens. -/
theorem of_safe (safe : ∀ fault, ¬ mishap fault) (accounted : Accounted x fun _ => False) :
  Accounted x mishap
  := accounted.congr fun fault => ⟨False.elim, safe fault⟩

/-- Of two readings, the mishaps of the second happen only if the first succeeds. -/
theorem bind {f : α → Except Fault β} {later : α → Fault → Prop} (first : Accounted x mishap)
    (second : ∀ a, x = .ok a → Accounted (f a) (later a)) :
  Accounted (x >>= f) fun fault => mishap fault ∨ ∃ a, x = .ok a ∧ later a fault
  := by
  cases x with
  | error cause =>
    constructor
    · intro fault failure
      cases failure
      exact (first.of_error cause rfl).imp_right .inl
    · intro fault _
      exact ⟨cause, rfl⟩
  | ok a =>
    constructor
    · intro fault failure
      exact ((second a rfl).of_error fault failure).imp_right fun happens => .inr ⟨a, rfl, happens⟩
    · rintro fault (happens | ⟨_, same, happens⟩)
      · obtain ⟨_, failure⟩ := first.fails fault happens
        cases failure
      · cases same
        exact (second a rfl).fails fault happens

/-- A reading that begins with a success. -/
theorem of_ok {f : α → Except Fault β} {a : α} (rest : Accounted (f a) mishap) :
  Accounted (.ok a >>= f) mishap
  := rest

/-- Of two readings, the mishaps of the second do not depend on the first. -/
theorem andThen {f : α → Except Fault β} (first : Accounted x mishap)
    (second : ∀ a, x = .ok a → Accounted (f a) other) :
  Accounted (x >>= f) fun fault => mishap fault ∨ other fault
  := by
  have both := first.bind second
  refine ⟨fun fault failure => (both.of_error fault failure).imp_right ?_, ?_⟩
  · rintro (happens | ⟨_, _, happens⟩)
    · exact .inl happens
    · exact .inr happens
  · rintro fault (happens | happens)
    · exact both.fails fault (.inl happens)
    · cases x with
      | error cause => exact ⟨cause, rfl⟩
      | ok a => exact both.fails fault (.inr ⟨a, rfl, happens⟩)

theorem map (f : α → β) (accounted : Accounted x mishap) :
  Accounted (x.map f) mishap
  := by
  cases x with
  | error cause =>
    constructor
    · intro fault failure
      cases failure
      exact accounted.of_error cause rfl
    · intro fault _
      exact ⟨cause, rfl⟩
  | ok a =>
    refine ⟨nofun, fun fault happens => ?_⟩
    obtain ⟨_, failure⟩ := accounted.fails fault happens
    cases failure

/-- A mishap happens at a list if one happens at a member. -/
theorem mapM {f : α → Except Fault β} {mishapAt : α → Fault → Prop}
    (each : ∀ a, Accounted (f a) (mishapAt a)) (items : List α) :
  Accounted (items.mapM f) fun fault => ∃ a ∈ items, mishapAt a fault
  := by
  induction items with
  | nil => exact of_safe (by simp) (ok _)
  | cons a r ih =>
    rw [List.mapM_cons]
    apply ((each a).andThen fun _ _ => ih.andThen fun _ _ => ok _).congr
    simp

end Accounted

/-! ### Values of a wrong type -/

/-- A value that is neither a list nor a member of a list of one. -/
def IsOdd : Value → Prop
  | .float _ | .date _ | .moment _ | .loop _ => True
  | _ => False

/-- A value without members. -/
def IsBare : Value → Prop
  | .null | .bool _ | .int _ => True
  | v => IsOdd v

/-- A value that does not stand for a number, whatever it is. -/
def IsNumberless : Value → Prop
  | .bool _ | .int _ | .float _ | .str _ | .bytes _ => False
  | _ => True

/-- An infinite number. -/
def IsInfinite : Value → Prop
  | .float x => ∃ negative, Decimal.parts x = .infinite negative
  | _ => False

/-- A whole number that is out of the range of doubles. -/
def IsHuge : Value → Prop
  | .int n => Decimal.ofInt? n = none
  | _ => False

theorem accounted_members (v : Value) :
  Accounted v.members fun fault => IsBare v ∧ fault = .wrongType
  := by
  cases v
  case null | bool | int | float | date | moment | loop =>
    exact (Accounted.failed _).congr fun _ => (and_iff_right trivial).symm
  all_goals exact .of_safe (by simp [IsBare, IsOdd]) (.ok _)

/-- What is not given has no members. -/
theorem members_of_missing {v : Value} {items : List Value} (missing : ¬ v.isGiven)
    (members : v.members = .ok items) :
  items = []
  := by
  cases v <;> simp_all [isGiven, Value.members]

theorem accounted_toList (v : Value) :
  Accounted v.toList fun fault => IsOdd v ∧ fault = .wrongType
  := by
  cases v
  case float | date | moment | loop =>
    exact (Accounted.failed _).congr fun _ => (and_iff_right trivial).symm
  all_goals exact .of_safe (by simp [IsOdd]) (.ok _)

/-- What happens to a value that is read as a whole number and is not a badly written one. -/
inductive Mishap.Number (v : Value) : Fault → Prop where
  | numberless : IsNumberless v → Number v .wrongType
  | infinite : IsInfinite v → Number v .overflow

theorem toInt_of_mishap {v : Value} {fault : Fault} (happens : Mishap.Number v fault) :
  v.toInt = .error fault
  := by
  cases happens with
  | numberless none => cases v <;> first | rfl | exact none.elim
  | infinite infinite =>
    cases v <;> try exact infinite.elim
    obtain ⟨negative, parts⟩ := infinite
    rw [toInt, truncate, parts]

theorem toInt_error_cases {v : Value} {fault : Fault} (failure : v.toInt = .error fault) :
  fault = .badValue ∨ Mishap.Number v fault
  := by
  cases v with
  | bool | int => cases failure
  | float x =>
    simp only [toInt, truncate] at failure
    split at failure
    · cases failure
      exact .inl rfl
    · next negative parts =>
      cases failure
      exact .inr (.infinite ⟨negative, parts⟩)
    · cases failure
  | str s =>
    rw [toInt] at failure
    cases read : Decimal.intOfText? s <;> simp_all
  | bytes bs =>
    rw [toInt] at failure
    split at failure
    · next ascii =>
      cases read : Decimal.intOfText? (String.ofList (bs.map fun b => Char.ofNat b.toNat)) <;>
        simp_all
    · cases failure
      exact .inl rfl
  | _ =>
    cases failure
    exact .inr (.numberless trivial)

end Muster.Descriptor
