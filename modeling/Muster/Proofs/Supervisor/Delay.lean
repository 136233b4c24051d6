import Mathlib.Algebra.Group.Nat.Defs
import Mathlib.Algebra.Order.Group.Int
import Mathlib.Algebra.Order.Monoid.Unbundled.Pow
import Muster.Proofs.Supervisor.Whole
/-!
# The wait before a restart

The wait before the next restart of a service is written in two places: an attempt doubles it, up to
the longest, and a check that sees the service run for long enough sets it back.  So it is a
function of the number of attempts since it was last set back, whatever happens in between: starts
that fail, services that are watched again or are not watched any longer, other checks.
-/

namespace Muster

variable {τ : Type} [AddCommGroup τ] [LinearOrder τ]

/-! ### What a journal says -/

namespace Supervision

variable {b : Backoff τ} {name : String} {n : Note τ}

/-- The attempts to restart a service since a check has seen it run for long enough. -/
def attempts (b : Backoff τ) (name : String) : List (Note τ) → Nat
  | [] => 0
  | .attempted other _ :: past =>
    if other = name then attempts b name past + 1 else attempts b name past
  | .seen other since now :: past =>
    if other = name ∧ b.resetAfter ≤ now - since then 0 else attempts b name past
  | _ :: past => attempts b name past

/-- The last restart of a service that has been put off, unless the service has been started since:
the time at which it was put off, and the time until which. -/
def openRestart (name : String) : List (Note τ) → Option (τ × τ)
  | [] => none
  | .scheduled other now due :: past =>
    if other = name then some (now, due) else openRestart name past
  | .started other _ :: past => if other = name then none else openRestart name past
  | _ :: past => openRestart name past

/-- When the current run of a service has been put down to have started. -/
def lastBegun (name : String) : List (Note τ) → Option τ
  | [] => none
  | .begun other time :: past => if other = name then some time else lastBegun name past
  | _ :: past => lastBegun name past

/-- A service may be restarted by a check that looks at the clock at `now`. -/
def IsDue (name : String) (journal : List (Note τ)) (now : τ) : Prop :=
  ∃ since due, openRestart name journal = some (since, due) ∧ due ≤ now

theorem attempts_cons (other : n.about ≠ name) (past : List (Note τ)) :
  attempts b name (n :: past) = attempts b name past
  := by
  cases n with
  | attempted => exact if_neg other
  | seen => exact if_neg fun both => other both.1
  | _ => rfl

omit [AddCommGroup τ] [LinearOrder τ] in
theorem openRestart_cons (other : n.about ≠ name) (past : List (Note τ)) :
  openRestart name (n :: past) = openRestart name past
  := by
  cases n with
  | scheduled | started => exact if_neg other
  | _ => rfl

omit [AddCommGroup τ] [LinearOrder τ] in
theorem lastBegun_cons (other : n.about ≠ name) (past : List (Note τ)) :
  lastBegun name (n :: past) = lastBegun name past
  := by
  cases n with
  | begun => exact if_neg other
  | _ => rfl

end Supervision

/-! ### The wait after some attempts -/

/-- Times that are exact: they are added, subtracted and compared like numbers. -/
class Timeline.Exact (τ : Type) [AddCommGroup τ] [LinearOrder τ] [Timeline τ] : Prop where
  add_eq : ∀ a b : τ, add a b = a + b
  sub_eq : ∀ a b : τ, sub a b = a - b
  before_iff : ∀ a b : τ, before a b = true ↔ a < b
  atLeast_iff : ∀ a b : τ, atLeast a b = true ↔ b ≤ a

instance : Timeline.Exact Int where
  add_eq _ _ := rfl
  sub_eq _ _ := rfl
  before_iff _ _ := decide_eq_true_iff
  atLeast_iff _ _ := decide_eq_true_iff

/-- The wait before a restart after some attempts. -/
def Backoff.delayAfter (b : Backoff τ) (attempts : Nat) : τ :=
  if attempts = 0 then b.first else min (2 ^ attempts • b.first) b.longest

/-- Doubling what is cut off at a bound comes to cutting off what is doubled. -/
theorem min_add_min [IsOrderedAddMonoid τ] {a bound : τ} (pos : 0 ≤ a) (free : 0 ≤ bound) :
  min (min a bound + min a bound) bound = min (a + a) bound
  := by
  rcases le_total a bound with below | above
  · rw [min_eq_left below]
  · rw [min_eq_right above, min_eq_right (le_add_of_nonneg_left free)]
    rw [min_eq_right (above.trans (le_add_of_nonneg_left pos))]

section Delays

variable [Timeline τ] [Timeline.Exact τ] {b : Backoff τ}

theorem Backoff.next_eq (b : Backoff τ) (delay : τ) :
  b.next delay = min (delay + delay) b.longest
  := by
  simp only [Backoff.next, Timeline.Exact.add_eq]
  split
  · next long => rw [min_eq_right (le_of_lt ((Timeline.Exact.before_iff _ _).mp long))]
  · next short =>
    rw [Timeline.Exact.before_iff, not_lt] at short
    rw [min_eq_left short]

/-- An attempt lengthens the wait as it should. -/
theorem Backoff.next_delayAfter [IsOrderedAddMonoid τ] (first : 0 ≤ b.first)
    (longest : 0 ≤ b.longest) (attempts : Nat) :
  b.next (b.delayAfter attempts) = b.delayAfter (attempts + 1)
  := by
  have twice : 2 ^ (attempts + 1) • b.first = 2 ^ attempts • b.first + 2 ^ attempts • b.first := by
    rw [Nat.pow_succ, mul_nsmul, two_nsmul]
  rw [next_eq, delayAfter, delayAfter, if_neg (Nat.succ_ne_zero attempts), twice]
  split
  · next zero => rw [zero, Nat.pow_zero, one_nsmul]
  · exact min_add_min (nsmul_nonneg first _) longest

end Delays

/-! ### What the supervisor remembers -/

open Supervision

/-- A note is as it should be, after those that have been made before. -/
def Note.Timely (b : Backoff τ) (past : List (Note τ)) : Note τ → Prop
  | scheduled name now due => due = now + b.delayAfter (attempts b name past)
  | attempted name now | started name now => IsDue name past now
  | seen name since now => since = now ∨ lastBegun name past = some since
  | begun .. => True

/-- A check has looked at the clock at the time `looked`, and means to do what it should. -/
def Check.Timed (b : Backoff τ) (name : String) (journal : List (Note τ)) (sup : Supervisor τ)
    (looked : τ) : Check τ → Prop
  | probing now | crediting now | looking now | inspecting now | awaiting now => now = looked
  | scheduling now delay => now = looked ∧ delay = b.delayAfter (attempts b name journal)
  | backingOff => IsDue name journal looked
  | relaunching => IsDue name journal looked ∧ sup.pending.get? name = none
  | entering | retiring | resuming | ended _ => True

/-- What the supervisor remembers about a service is what the journal says. -/
structure Supervision.Delayed (b : Backoff τ) (name : String) (journal : List (Note τ))
    (sup : Supervisor τ) (looked : τ) (c : Check τ) : Prop where
  delay : sup.delayOf b name = b.delayAfter (attempts b name journal)
  pending : ∀ due, sup.pending.get? name = some due →
    ∃ since, openRestart name journal = some (since, due)
  watched : ∀ time, sup.watched.get? name = some time → lastBegun name journal = some time
  timed : c.Timed b name journal sup looked

section Keeps

variable [IsOrderedAddMonoid τ] [Timeline τ] [Timeline.Exact τ] {b : Backoff τ} {s : Service}
  {clock looked : τ} {sup sup' : Supervisor τ} {state state' : ServiceState} {c c' : Check τ}
  {journal : List (Note τ)} {v v' : Supervision τ} {note : Option (Note τ)} {name : String}

omit [IsOrderedAddMonoid τ] in
/-- What a check puts down is as it should be. -/
theorem Supervision.Delayed.timely (delayed : Delayed b name journal sup looked c) {n : Note τ}
    (noted : c.notes name clock looked sup = some n) :
  n.Timely b journal
  := by
  cases c with
  | crediting now =>
    cases noted
    cases watched : sup.watched.get? name with
    | none => exact .inl rfl
    | some time => exact .inr (delayed.watched time watched)
  | resuming =>
    obtain ⟨-, same⟩ := Option.ite_none_right_eq_some.mp noted
    cases same
    trivial
  | scheduling now delay =>
    obtain ⟨-, same⟩ := Option.ite_none_right_eq_some.mp noted
    cases same
    rw [Note.Timely, Timeline.Exact.add_eq, delayed.timed.1, delayed.timed.2]
  | backingOff =>
    cases noted
    exact delayed.timed
  | relaunching =>
    cases noted
    exact delayed.timed.1
  | _ => cases noted

omit [IsOrderedAddMonoid τ] [Timeline τ] [Timeline.Exact τ] in
theorem Check.Timed.mono (timed : c.Timed b name journal sup looked) {journal' : List (Note τ)}
    (same : attempts b name journal' = attempts b name journal)
    (opened : openRestart name journal' = openRestart name journal)
    (pending : ∀ due, sup'.pending.get? name = some due → sup.pending.get? name = some due) :
  c.Timed b name journal' sup' looked
  := by
  cases c with
  | scheduling now delay => exact ⟨timed.1, by rw [same, timed.2]⟩
  | backingOff => rwa [Timed, IsDue, opened]
  | relaunching =>
    refine ⟨by rw [IsDue, opened]; exact timed.1, ?_⟩
    cases found : sup'.pending.get? name with
    | none => rfl
    | some due => exact (pending due found).symm.trans timed.2
  | _ => exact timed

omit [IsOrderedAddMonoid τ] [Timeline τ] [Timeline.Exact τ] in
/-- Whatever does not concern a service leaves the journal right about it. -/
theorem Supervision.Delayed.apart
    (delayed : Delayed b name journal v.supervisor (v.looked name) (v.check name))
    (apart : Apart b name v note v') :
  Delayed b name (note.toList ++ journal) v'.supervisor (v'.looked name) (v'.check name)
  where
  delay := by rw [apart.forgets.delay, delayed.delay, Note.eq_of_silent attempts_cons apart.silent]
  pending due found := by
    rw [Note.eq_of_silent openRestart_cons apart.silent]
    apply delayed.pending due (apart.forgets.pending due found)
  watched time found := by
    rw [Note.eq_of_silent lastBegun_cons apart.silent]
    apply delayed.watched time (apart.forgets.watched time found)
  timed := by
    rcases apart.check with same | ⟨entered, -⟩
    · rw [same, apart.looked]
      apply delayed.timed.mono (Note.eq_of_silent attempts_cons apart.silent journal)
        (Note.eq_of_silent openRestart_cons apart.silent journal) apart.forgets.pending
    · rw [entered]
      trivial

omit [IsOrderedAddMonoid τ] [Timeline τ] [Timeline.Exact τ] in
/-- Watching a service begins a run of it, and keeps the wait. -/
theorem Supervision.Delayed.watch (delayed : Delayed b name journal sup looked c) (now : τ) :
  Delayed b name (.begun name now :: journal) (sup.watch b now name) looked c
  where
  delay := (sup.delayOf_watch b now name name).trans delayed.delay
  pending := delayed.pending
  watched time found := by
    cases ((Table.get?_insert ..).trans (if_pos rfl)).symm.trans found
    exact if_pos rfl
  timed := delayed.timed.mono rfl rfl fun _ => id

/-- A check that goes on leaves the journal right about its service. -/
theorem Supervision.Delayed.goes (first : 0 ≤ b.first) (longest : 0 ≤ b.longest)
    (delayed : Delayed b s.name journal sup looked c)
    (goes : Check.Goes s b clock sup state c c' sup' state') :
  Delayed b s.name ((c.notes s.name clock looked sup).toList ++ journal) sup'
    (c.lastLook clock looked) c'
  := by
  have delay := delayed.delay
  have pending := delayed.pending
  have watched := delayed.watched
  have timed := delayed.timed
  cases goes with
  | rest | skip => exact ⟨delay, pending, watched, trivial⟩
  | look => exact ⟨delay, pending, watched, rfl⟩
  | up | down | found | ask => exact ⟨delay, pending, watched, timed⟩
  | @credit now =>
    have same : now = looked := timed
    subst same
    simp only [Supervisor.credit, Timeline.Exact.atLeast_iff, Timeline.Exact.sub_eq]
    split
    · next long =>
      refine ⟨?_, pending, watched, trivial⟩
      simp [Supervisor.delayOf, Backoff.delayAfter, Check.notes, attempts, long]
    · next short =>
      refine ⟨?_, pending, watched, trivial⟩
      simpa [Check.notes, attempts, short] using delay
  | refuse => exact ⟨delay, pending, watched, trivial⟩
  | retire =>
    refine ⟨delay, fun due found => ?_, fun time found => ?_, trivial⟩
    · cases (sup.pending_unwatch s.name).symm.trans found
    · apply watched time ((sup.forgets_unwatch b s.name s.name).watched time found)
  | allow => exact ⟨delay, pending, watched, timed, delay⟩
  | schedule =>
    rw [Supervisor.schedule, ← Supervisor.isWatching, Check.notes]
    by_cases watching : sup.isWatching s.name = true
    · rw [if_pos watching, if_pos watching]
      refine ⟨delay, fun due found => ?_, watched, timed.1⟩
      cases ((Table.get?_insert ..).trans (if_pos rfl)).symm.trans found
      exact ⟨looked, if_pos rfl⟩
    · rw [if_neg watching, if_neg watching]
      exact ⟨delay, pending, watched, timed.1⟩
  | wait => exact ⟨delay, pending, watched, trivial⟩
  | @fallDue now due found past =>
    obtain ⟨since, opened⟩ := pending due found
    refine ⟨delay, pending, watched, since, due, opened, ?_⟩
    have same : now = looked := timed
    have late : ¬ now < due := by simp [← Timeline.Exact.before_iff, past]
    exact same ▸ not_lt.mp late
  | backOff =>
    have gone := sup.pending_backOff b s.name
    refine ⟨?_, fun due found => ?_, watched, timed, gone⟩
    · rw [Supervisor.delayOf_backOff, delay, Backoff.next_delayAfter first longest]
      simp [Check.notes, attempts]
    · cases gone.symm.trans found
  | start | fail =>
    refine ⟨delay, fun due found => ?_, watched, trivial⟩
    cases timed.2.symm.trans found
  | resume =>
    rw [Supervisor.resume, ← Supervisor.isWatching, Check.notes]
    by_cases watching : sup.isWatching s.name = true
    · rw [if_pos watching, if_pos watching]
      refine ⟨delay, pending, fun time found => ?_, trivial⟩
      cases ((Table.get?_insert ..).trans (if_pos rfl)).symm.trans found
      exact if_pos rfl
    · rw [if_neg watching, if_neg watching]
      exact ⟨delay, pending, watched, trivial⟩
  | broken calls other =>
    have silent : c.notes s.name clock looked sup = none := by
      cases c <;> cases calls <;> first | rfl | exact absurd rfl other
    rw [silent]
    exact ⟨delay, pending, watched, trivial⟩

end Keeps

section Runs

variable [IsOrderedAddMonoid τ] [Timeline τ] [Timeline.Exact τ] {services : Table Service}
  {b : Backoff τ} {v₀ v : Supervision τ} {journal : List (Note τ)}

omit [IsOrderedAddMonoid τ] [Timeline τ] [Timeline.Exact τ] in
/-- Before anything is done, every wait is the first. -/
theorem Supervision.Fresh.delayed (fresh : v₀.Fresh) (name : String) :
  Delayed b name [] v₀.supervisor (v₀.looked name) (v₀.check name)
  where
  delay := by
    rw [Supervisor.delayOf, fresh.delays]
    rfl
  pending due found := by
    rw [fresh.pending] at found
    cases found
  watched time found := by
    rw [fresh.watched] at found
    cases found
  timed := by
    obtain ⟨fault, idle⟩ := fresh.idle name
    rw [idle]
    trivial

/-- A step of a run leaves the journal right about every service, and puts down what it should. -/
theorem Supervision.Step.delayed (first : 0 ≤ b.first) (longest : 0 ≤ b.longest)
    {v' : Supervision τ} {note : Option (Note τ)} (step : Step services b v note v')
    (delayed : ∀ name, Delayed b name journal v.supervisor (v.looked name) (v.check name)) :
  (∀ name, Delayed b name (note.toList ++ journal) v'.supervisor (v'.looked name) (v'.check name))
    ∧ ∀ made, note = some made → made.Timely b journal
  := by
  refine ⟨fun name => ?_, fun made noted => ?_⟩
  · cases step.happens name with
    | apart apart => apply (delayed name).apart apart
    | watch noted same =>
      subst noted same
      apply (delayed name).watch
    | turn same found turn =>
      subst same
      rw [turn.note, turn.looked]
      apply (delayed _).goes first longest turn.goes
  · cases step.happens made.about with
    | apart apart => exact absurd rfl (apart.silent made noted)
    | watch begun same =>
      rw [Option.some.inj (noted.symm.trans begun)]
      trivial
    | turn same found turn => apply (delayed _).timely (turn.note.symm.trans noted)

/-- In every run the supervisor remembers what the journal says, and all that the journal says is
as it should be. -/
theorem Supervision.Run.delayed (first : 0 ≤ b.first) (longest : 0 ≤ b.longest)
    (fresh : v₀.Fresh) (run : Run services b v₀ journal v) :
  (∀ name, Delayed b name journal v.supervisor (v.looked name) (v.check name))
    ∧ ∀ made past, made :: past <:+ journal → made.Timely b past
  := by
  induction run with
  | start => exact ⟨fresh.delayed, fun made past suffix => by cases List.suffix_nil.mp suffix⟩
  | @step journal v note v' run step ih =>
    obtain ⟨delayed, timely⟩ := ih
    obtain ⟨delayed', made⟩ := step.delayed first longest delayed
    refine ⟨delayed', fun last past suffix => ?_⟩
    cases note with
    | none => exact timely last past suffix
    | some new =>
      rcases List.suffix_cons_iff.mp suffix with same | earlier
      · cases same
        exact made last rfl
      · exact timely last past earlier

/-- The wait before the next restart of a service is the first one, doubled with every attempt since
the service was last seen to run for long enough, and from the first attempt on at most the longest.
What a check has seen running is the run that began when the service was last watched or restarted.
A restart is put off by the wait, and no check goes on to restart a service before its time. -/
theorem Supervision.Run.restart_times (first : 0 ≤ b.first) (longest : 0 ≤ b.longest)
    (fresh : v₀.Fresh) (run : Run services b v₀ journal v) :
  (∀ name, v.supervisor.delayOf b name = b.delayAfter (attempts b name journal))
    ∧ (∀ name since now past, .seen name since now :: past <:+ journal →
      since = now ∨ lastBegun name past = some since)
    ∧ (∀ name now due past, .scheduled name now due :: past <:+ journal →
      due = now + b.delayAfter (attempts b name past))
    ∧ ∀ name now past,
      .attempted name now :: past <:+ journal ∨ .started name now :: past <:+ journal →
        IsDue name past now
  := by
  obtain ⟨delayed, timely⟩ := run.delayed first longest fresh
  refine ⟨fun name => (delayed name).delay, ?_, ?_, ?_⟩
  · intro name since now past made
    exact timely _ _ made
  · intro name now due past made
    exact timely _ _ made
  · rintro name now past (made | made)
    · exact timely _ _ made
    · exact timely _ _ made

end Runs

/-- The lamp has been lit again, and the next time is put off for twice as long. -/
theorem Supervision.Run.restart_times_lamp :
  0 ≤ Sample.patience.first ∧ 0 ≤ Sample.patience.longest ∧ Sample.unlit.Fresh
    ∧ ∃ journal v, Run Sample.lamps Sample.patience Sample.unlit journal v
      ∧ starts "lamp" journal = 1 ∧ v.supervisor.delayOf Sample.patience "lamp" = 2
      ∧ Sample.patience.delayAfter (attempts Sample.patience "lamp" journal) = 2
      ∧ ∀ now past, .started "lamp" now :: past <:+ journal → IsDue "lamp" past now
  := by
  have first : 0 ≤ Sample.patience.first := by decide
  have longest : 0 ≤ Sample.patience.longest := by decide
  refine ⟨first, longest, Sample.fresh_unlit, ?_⟩
  obtain ⟨journal, v, run, lit, -, -, -, wait, -⟩ := Sample.exists_relit
  obtain ⟨delays, -, -, timely⟩ := run.restart_times first longest Sample.fresh_unlit
  refine ⟨journal, v, run, lit, wait, (delays "lamp").symm.trans wait, fun now past made => ?_⟩
  apply timely "lamp" now past (.inr made)

end Muster
