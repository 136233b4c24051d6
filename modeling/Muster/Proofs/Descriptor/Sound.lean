import Muster.Proofs.Descriptor.Declares
import Muster.Proofs.Numeral
/-!
# What reading a service makes sure of

A service that has been read has something to run, because a value that counts as given has a text
that is not empty.  The test of its health check says how it is run.
-/

namespace Muster

open Value

/-! ### Given values -/

theorem ofList_cons_ne_empty (c : Char) (r : List Char) :
  String.ofList (c :: r) ≠ ""
  := by
  intro empty
  have chars := congrArg String.toList empty
  rw [String.toList_ofList] at chars
  cases chars

namespace Decimal

theorem positional_ne_nil (ds : List Char) (decade : Int) :
  positional ds decade ≠ []
  := by
  rw [positional]
  split
  · simp
  · dsimp only
    split <;> simp

theorem writeScientific_ne_nil (f : Notation) (s : Scientific) :
  f.writeScientific s ≠ []
  := by
  rw [Notation.writeScientific]
  dsimp only
  split
  · exact positional_ne_nil _ _
  · simp

theorem plain_write_ne_empty (x : Float) :
  plain.write x ≠ ""
  := by
  rw [Notation.write]
  rcases parts x with _ | negative | ⟨negative, s⟩
  · decide
  · cases negative <;> decide
  · rw [Notation.writeParts]
    split
    · split <;> exact ofList_cons_ne_empty _ _
    · obtain ⟨c, r, size⟩ := List.exists_cons_of_ne_nil (writeScientific_ne_nil plain (shortest s))
      rw [size]
      split <;> exact ofList_cons_ne_empty _ _

end Decimal

theorem Date.text_ne_empty (d : Date) :
  d.text ≠ ""
  := by
  intro empty
  simp only [text, String.append_eq_empty_iff] at empty
  exact absurd empty.1.2 (by decide)

theorem bracketed_ne_empty {opening : String} (inner : String) {closing : String}
    (given : opening ≠ "") :
  opening ++ inner ++ closing ≠ ""
  := by
  intro empty
  exact given (String.append_eq_empty_iff.mp (String.append_eq_empty_iff.mp empty).1).1

/-- What is given has a text. -/
theorem Value.text_ne_empty {v : Value} (given : v.isGiven = true) :
  v.text ≠ ""
  := by
  cases v with
  | null => cases given
  | bool b => cases b <;> decide
  | int n =>
    intro empty
    exact Decimal.toList_toString_ne_nil n (congrArg String.toList empty)
  | float x => exact Decimal.plain_write_ne_empty x
  | str s => simpa [isGiven] using given
  | bytes bs => exact ofList_cons_ne_empty _ _
  | date d => exact d.text_ne_empty
  | moment m =>
    intro empty
    simp only [text, Moment.text, String.append_eq_empty_iff, and_assoc] at empty
    exact m.date.text_ne_empty empty.1
  | list items =>
    change (list items).literal ≠ ""
    rw [literal.eq_def]
    exact bracketed_ne_empty _ (by decide)
  | map entries =>
    change (map entries).literal ≠ ""
    rw [literal.eq_def]
    exact bracketed_ne_empty _ (by decide)
  | pair a b =>
    change (pair a b).literal ≠ ""
    rw [literal.eq_def]
    simp [String.append_eq_empty_iff]
  | set items =>
    change (set items).literal ≠ ""
    rw [literal.eq_def]
    dsimp only
    split
    · decide
    · exact bracketed_ne_empty _ (by decide)
  | loop isMap => cases isMap <;> decide

/-! ### Services -/

namespace Descriptor

/-- A health check that is read is put together from its fields. -/
theorem readHealthCheck_map_eq_ok_iff {service : String} {entries : List (Value × Value)}
    {c' : Option HealthCheck} :
  readHealthCheck service (.map entries) = .ok c' ↔ ∃ c, c' = some c
      ∧ readTest service (field "test" entries) = .ok c.test
      ∧ readRetries service ((field? "retries" entries).getD (.int defaultRetries)) = .ok c.retries
      ∧ Duration.ofValue defaultInterval (field "interval" entries) = .ok c.interval
      ∧ Duration.ofValue defaultInterval (field "timeout" entries) = .ok c.timeout
      ∧ Duration.ofValue noTime (field "start_period" entries) = .ok c.startPeriod
      ∧ c.disabled = (field "disable" entries).toFlag
  := by
  rw [readHealthCheck]
  constructor
  · intro read
    obtain ⟨test, hTest, read⟩ := bind_eq_ok_iff.mp read
    obtain ⟨retries, hRetries, read⟩ := bind_eq_ok_iff.mp read
    obtain ⟨interval, hInterval, read⟩ := bind_eq_ok_iff.mp read
    obtain ⟨timeout, hTimeout, read⟩ := bind_eq_ok_iff.mp read
    obtain ⟨startPeriod, hStartPeriod, read⟩ := bind_eq_ok_iff.mp read
    cases read
    exact ⟨_, rfl, hTest, hRetries, hInterval, hTimeout, hStartPeriod, rfl⟩
  · rintro ⟨c, rfl, test, retries, interval, timeout, startPeriod, disabled⟩
    simp only [test, retries, interval, timeout, startPeriod, ← disabled, bind, Except.bind]
    rfl

end Descriptor

namespace Service

/-- What reading a service has made sure of: it has something to run, and the test of its health
check says how it is run. -/
structure Sound (s : Service) : Prop where
  runs : s.image ≠ "" ∨ s.command ≠ [] ∨ s.entrypoint ≠ []
  kinds : ∀ c, s.healthCheck = some c → c.test.head?.all Descriptor.isTestKind = true

theorem isTestKind_of_readTest {service : String} {v : Value} {test : List String}
    (read : Descriptor.readTest service v = .ok test) :
  test.head?.all Descriptor.isTestKind = true
  := by
  unfold Descriptor.readTest at read
  split at read
  · cases read
    rfl
  · cases read
    rfl
  · next items =>
    split at read
    · cases read
      rfl
    · next kind r _ =>
      cases read
      split
      · next known => exact known
      · rfl
  · cases read

/-- A service that has been declared is sound. -/
theorem sound_of_declares {name : String} {entries : List (Value × Value)} {s : Service}
    (declares : Descriptor.Declares name entries s) :
  s.Sound
  := by
  constructor
  · refine declares.runs.imp_left fun given => ?_
    rw [declares.image, Descriptor.imageText, if_pos given]
    exact text_ne_empty given
  · intro c found
    have read := declares.healthCheck
    rw [found] at read
    unfold Descriptor.readHealthCheck at read
    split at read
    · cases read
    · next fields =>
      obtain ⟨c', same, test, -⟩ := Descriptor.readHealthCheck_map_eq_ok_iff.mp read
      cases same
      exact isTestKind_of_readTest test
    · cases read

end Service

end Muster
