import Mathlib.Data.List.Range
import Muster.Health.Poll
import Muster.Host
/-!
# What a poll does

The results of the checks that a poll may run are fixed beforehand, one for every number, and so are
the moment at which a stop is asked for, if it is at all, and the times that are too long to be
waited for.  `Plan` holds all three, and `Plan.surroundings` plays them.  A poll does then what
`Plan.Polled` says: which checks it runs, when it waits and for how long, what it comes to, and what
it puts down about the service.  Where no time is too long, it runs its checks until one of them
succeeds, its attempts are used up or a stop is asked for.
-/

namespace Muster.Poll

/-- What a poll asks of its surroundings. -/
inductive Call where
  | wait (seconds : Float)
  | check

/-- Whether a call is a run of the check. -/
def Call.isCheck : Call → Bool
  | check => true
  | wait _ => false

/-- A moment at which a stop is asked for.  Checks are numbered from zero. -/
inductive Moment where
  /-- Before the poll begins. -/
  | beforehand
  /-- During the start period. -/
  | settling
  | checking (k : Nat)
  /-- During the wait after a check. -/
  | resting (k : Nat)
deriving DecidableEq

/-- What is fixed beforehand: the result of every check, the moment of a stop, and what is wrong with
the times that cannot be waited for. -/
structure Plan where
  result : Nat → CheckResult
  stop : Option Moment
  refusal : Float → Option Fault

/-- What has happened so far: the calls, oldest first, and whether a stop has been asked for. -/
structure Tape where
  calls : List Call
  stopped : Bool

/-- The number of checks that have been run. -/
def Tape.checks (t : Tape) : Nat :=
  t.calls.countP Call.isCheck

/-- The moment of a wait after some checks. -/
def Moment.ofWait : (checks : Nat) → Moment
  | 0 => .settling
  | k + 1 => .resting k

namespace Plan

/-- The tape before the poll. -/
def begin (plan : Plan) : Tape :=
  ⟨[], plan.stop == some .beforehand⟩

/-- The surroundings in which a plan is played.  When a stop has been asked for, a wait is over at
once, however long it was to be. -/
def surroundings (plan : Plan) : Surroundings Tape where
  stopped t := t.stopped
  wait seconds t :=
    match if t.stopped then none else plan.refusal seconds with
    | some fault => .error fault
    | none =>
      .ok ⟨t.calls ++ [.wait seconds], t.stopped || plan.stop == some (.ofWait t.checks)⟩
  check _ t :=
    (.ok (plan.result t.checks),
      ⟨t.calls ++ [.check], t.stopped || plan.stop == some (.checking t.checks)⟩)

@[simp]
theorem stopped_surroundings (plan : Plan) (t : Tape) :
  plan.surroundings.stopped t = t.stopped
  := rfl

/-- The number of checks that a poll may run: as many as there are retries, and one at least. -/
def allowance (check : HealthCheck) : Nat :=
  (max check.retries 1).toNat

/-- Whether there is a start period. -/
def settles (check : HealthCheck) : Bool :=
  Decimal.ofDecimal false 0 0 < check.startPeriod

/-- Whether a stop is asked for before a check would begin.  The start period is a moment only for
a check that has one. -/
def stopsBefore (plan : Plan) (check : HealthCheck) (k : Nat) : Bool :=
  match plan.stop with
  | none => false
  | some .beforehand => true
  | some .settling => settles check
  | some (.checking j) | some (.resting j) => j < k

/-- Whether a stop is asked for before a check has come to its end. -/
def stopsBy (plan : Plan) (check : HealthCheck) (k : Nat) : Bool :=
  plan.stopsBefore check k || plan.stop == some (.checking k)

/-- Whether a poll is to wait after a check: the check has failed, it was not the last one, and no
stop has been asked for. -/
def rests (plan : Plan) (check : HealthCheck) (k : Nat) : Bool :=
  !(plan.result k).success && k + 1 < allowance check && !plan.stopsBy check k

/-- What keeps a poll from waiting for the start period: that is too long, and no stop has been asked
for beforehand. -/
def settlingFault? (plan : Plan) (check : HealthCheck) : Option Fault :=
  if settles check && plan.stop != some .beforehand then plan.refusal check.startPeriod else none

/-- What keeps a poll from waiting after a check: the interval is too long. -/
def restingFault? (plan : Plan) (check : HealthCheck) (k : Nat) : Option Fault :=
  if plan.rests check k then plan.refusal check.interval else none

/-- The calls of a poll that runs some checks: it waits for the start period if that is positive,
and then for the interval after every check after which it rests, unless these are too long. -/
def calls (plan : Plan) (check : HealthCheck) (n : Nat) : List Call :=
  (if settles check && (plan.settlingFault? check).isNone then [.wait check.startPeriod] else [])
    ++ (List.range n).flatMap fun k =>
      .check :: if plan.rests check k && (plan.restingFault? check k).isNone
        then [.wait check.interval] else []

/-- The state of a service after some checks: of what was known, only the output has changed. -/
def noted (plan : Plan) (state : ServiceState) : (n : Nat) → ServiceState
  | 0 => state
  | k + 1 => { state with lastOutput := (plan.result k).output }

/-- How a poll ends that goes on no further: at a time that cannot be waited for, or because it has
been interrupted. -/
def brokenOff : Option Fault → Ending
  | some fault => .broken fault
  | none => .interrupted

/-- What a poll comes to after some checks.  The last of them decides: its success ends the poll
even when a stop has been asked for, its failure uses up the attempts if it was the last attempt and
no stop has been asked for.  Otherwise the poll has been interrupted, or it cannot wait as long as it
is to. -/
def ending (plan : Plan) (check : HealthCheck) : (n : Nat) → Ending
  | 0 => brokenOff (plan.settlingFault? check)
  | k + 1 =>
    if (plan.result k).success then .healthy (plan.result k)
    else if k + 1 = allowance check ∧ plan.stopsBy check k = false then
      .exhausted (allowance check) (plan.result k).output
    else brokenOff (plan.restingFault? check k)

/-- What a poll does that runs `n` checks: its calls, and its end. -/
structure Polled (plan : Plan) (check : HealthCheck) (n : Nat) (calls : List Call)
    (ending : Ending) : Prop where
  /-- A check is run unless the attempts are used up, an earlier one has succeeded, a stop has been
  asked for, or a time before it could not be waited for. -/
  runs : ∀ k, k < n ↔ k < allowance check ∧ (∀ j < k, (plan.result j).success = false)
    ∧ plan.stopsBefore check k = false
    ∧ plan.settlingFault? check = none ∧ ∀ j < k, plan.restingFault? check j = none
  calls : calls = plan.calls check n
  ending : ending = plan.ending check n

variable {plan : Plan} {check : HealthCheck}

theorem checks_calls (n : Nat) (stopped : Bool) :
  Tape.checks ⟨plan.calls check n, stopped⟩ = n
  := by
  have rounds : ((List.range n).flatMap fun k => Call.check ::
      if plan.rests check k && (plan.restingFault? check k).isNone
        then [Call.wait check.interval] else []).countP Call.isCheck = n := by
    induction n with
    | zero => rfl
    | succ n ih =>
      rw [List.range_succ, List.flatMap_append, List.countP_append, ih]
      simp only [List.flatMap_cons, List.flatMap_nil, List.append_nil, List.countP_cons]
      split <;> simp [Call.isCheck]
  rw [Tape.checks, calls, List.countP_append, rounds]
  split <;> simp [Call.isCheck]

theorem calls_succ (n : Nat) :
  plan.calls check (n + 1)
    = plan.calls check n ++ .check :: if plan.rests check n && (plan.restingFault? check n).isNone
        then [.wait check.interval] else []
  := by
  simp [calls, List.range_succ, List.flatMap_append, List.append_assoc]

theorem stopsBefore_succ (k : Nat) :
  plan.stopsBefore check (k + 1) = (plan.stopsBy check k || plan.stop == some (.resting k))
  := by
  unfold stopsBy stopsBefore
  split <;> simp_all
  all_goals grind

/-- A stop is not taken back. -/
theorem stopsBefore_mono {j k : Nat} (le : j ≤ k) (stopped : plan.stopsBefore check j = true) :
  plan.stopsBefore check k = true
  := by
  unfold stopsBefore at *
  split <;> simp_all
  all_goals omega

theorem stopsBefore_of_stopsBy {j k : Nat} (lt : j < k) (stopped : plan.stopsBy check j = true) :
  plan.stopsBefore check k = true
  := by
  apply stopsBefore_mono lt
  rw [stopsBefore_succ, stopped, Bool.true_or]

/-! ### The course of a poll -/

/-- A check is due: all earlier ones have failed, with no stop until then, and there was no time
that could not be waited for. -/
structure Due (plan : Plan) (check : HealthCheck) (k : Nat) (t : Tape) : Prop where
  calls : t.calls = plan.calls check k
  stopped : t.stopped = plan.stopsBefore check k
  failed : ∀ j < k, (plan.result j).success = false
  free : ∀ j < k, plan.stopsBy check j = false
  settled : plan.settlingFault? check = none
  rested : ∀ j < k, plan.restingFault? check j = none

variable {k n left : Nat} {t : Tape} {state : ServiceState} {name : String} {p : Progress Tape}

theorem attempts_eq (check : HealthCheck) :
  check.attempts = allowance check
  := by
  unfold HealthCheck.attempts allowance
  omega

theorem Due.checks (due : plan.Due check k t) :
  t.checks = k
  := by
  obtain ⟨calls, stopped⟩ := t
  obtain rfl := due.calls
  apply checks_calls

/-- The checks before one that is due are those that are run until then. -/
theorem Due.runs (due : plan.Due check k t) (attempts : k < allowance check) {j : Nat}
    (lt : j < k) :
  j < allowance check ∧ (∀ i < j, (plan.result i).success = false)
    ∧ plan.stopsBefore check j = false
    ∧ plan.settlingFault? check = none ∧ ∀ i < j, plan.restingFault? check i = none
  := by
  have free := due.free j lt
  simp only [stopsBy, Bool.or_eq_false_iff] at free
  exact ⟨by omega, fun i hi => due.failed i (by omega), free.1, due.settled,
    fun i hi => due.rested i (by omega)⟩

/-- A poll that is interrupted before a check that is due. -/
theorem Due.interrupted (due : plan.Due check k t) (attempts : k < allowance check)
    (stopped : plan.stopsBefore check k = true) :
  plan.Polled check k t.calls .interrupted
  where
  runs j := by
    refine ⟨due.runs attempts, ?_⟩
    rintro ⟨-, -, free, -⟩
    by_contra late
    rw [stopsBefore_mono (by omega) stopped] at free
    cases free
  calls := due.calls
  ending := by
    cases k with
    | zero => rw [ending, due.settled, brokenOff]
    | succ j =>
      have failed := due.failed j (by omega)
      have more : j + 1 ≠ allowance check := by omega
      simp [ending, failed, more, due.rested j (by omega), brokenOff]

/-- A poll that ends with a check that was due, or because it cannot wait after it. -/
theorem Due.ended (due : plan.Due check k t) (attempts : k < allowance check)
    (free : plan.stopsBefore check k = false)
    (last : plan.rests check k = false ∨ (plan.restingFault? check k).isSome) :
  plan.Polled check (k + 1) (t.calls ++ [.check]) (plan.ending check (k + 1))
  where
  runs j := by
    constructor
    · intro lt
      rcases Nat.lt_succ_iff_lt_or_eq.mp lt with before | rfl
      · exact due.runs attempts before
      · exact ⟨attempts, due.failed, free, due.settled, due.rested⟩
    · rintro ⟨more, failed, going, -, rested⟩
      by_contra late
      have later : k < j := by omega
      have stopped : plan.stopsBy check k = false := by
        by_contra stopped
        rw [stopsBefore_of_stopsBy later (by simpa using stopped)] at going
        cases going
      have open_ : k + 1 < allowance check := by omega
      rcases last with last | refused
      · simp [rests, failed k later, open_, stopped] at last
      · rw [rested k later] at refused
        cases refused
  calls := by
    rw [calls_succ, due.calls]
    rcases last with last | refused
    · simp [last]
    · obtain ⟨fault, refused⟩ := Option.isSome_iff_exists.mp refused
      simp [refused]
  ending := rfl

/-- After a check after which it does not rest a poll has come to its end. -/
theorem hear_of_not_rests (attempts : k + left + 1 = allowance check)
    (last : plan.rests check k = false) :
  hear (plan.stopsBy check k) k left (.ok (plan.result k)) = .ended (plan.ending check (k + 1))
  := by
  simp only [hear, ending, restingFault?, last, Bool.false_eq_true, if_false, brokenOff]
  split
  · rfl
  · next failed =>
    cases stopped : plan.stopsBy check k with
    | true => simp
    | false =>
      have used : left = 0 := by
        have : ¬ k + 1 < allowance check := by simpa [rests, failed, stopped] using last
        omega
      have all : k + 1 = allowance check := by omega
      subst used
      simp [all]

theorem rests_iff :
  plan.rests check k = true ↔ ((plan.result k).success = false ∧ k + 1 < allowance check)
    ∧ plan.stopsBy check k = false
  := by
  simp only [Plan.rests, Bool.and_eq_true, Bool.not_eq_true', decide_eq_true_eq]

/-- After a check after which it rests a poll goes on to the wait. -/
theorem hear_of_rests (attempts : k + left + 1 = allowance check)
    (rests : plan.rests check k = true) :
  ∃ fewer, left = fewer + 1
    ∧ hear (plan.stopsBy check k) k left (.ok (plan.result k)) = .resting (k + 1) fewer
  := by
  obtain ⟨⟨failed, more⟩, free⟩ := rests_iff.mp rests
  obtain ⟨fewer, rfl⟩ : ∃ fewer, left = fewer + 1 := ⟨left - 1, by omega⟩
  exact ⟨fewer, rfl, by simp [hear, failed, free]⟩

/-- The tape after a check that was due. -/
theorem Due.tape (due : plan.Due check k t) (free : plan.stopsBefore check k = false) :
  plan.surroundings.check check t
    = (.ok (plan.result k), ⟨t.calls ++ [.check], plan.stopsBy check k⟩)
  := by
  simp [surroundings, due.checks, due.stopped, free, stopsBy]

/-- When the interval is too long to be waited for, the poll ends with the fault. -/
theorem wait_of_restingFault {fault : Fault} (calls : List Call)
    (refused : plan.restingFault? check k = some fault) :
  plan.surroundings.wait check.interval ⟨calls, plan.stopsBy check k⟩ = .error fault
    ∧ plan.ending check (k + 1) = .broken fault
  := by
  rw [restingFault?] at refused
  split at refused
  · next rests =>
    obtain ⟨⟨failed, more⟩, free⟩ := rests_iff.mp rests
    have some : k + 1 ≠ allowance check := by omega
    simp [surroundings, free, refused, ending, failed, some, restingFault?, rests, brokenOff]
  · cases refused

/-- After the wait that follows a check the next one is due. -/
theorem Due.next (due : plan.Due check k t) (rests : plan.rests check k = true)
    (rested : plan.restingFault? check k = none) :
  ∃ t', plan.surroundings.wait check.interval ⟨t.calls ++ [.check], plan.stopsBy check k⟩ = .ok t'
    ∧ plan.Due check (k + 1) t'
  := by
  obtain ⟨⟨failed, -⟩, free⟩ := rests_iff.mp rests
  have accepted : plan.refusal check.interval = none := by
    simpa [restingFault?, rests] using rested
  have calls : plan.calls check (k + 1) = t.calls ++ [.check] ++ [.wait check.interval] := by
    rw [calls_succ, due.calls, rests, rested]
    simp
  have checks : Tape.checks ⟨t.calls ++ [.check], plan.stopsBy check k⟩ = k + 1 := by
    have := due.checks
    simp_all [Tape.checks, Call.isCheck]
  have until_now {P : Nat → Prop} (before : ∀ j < k, P j) (now : P k) : ∀ j < k + 1, P j := by
    intro j lt
    rcases Nat.lt_succ_iff_lt_or_eq.mp lt with earlier | rfl
    · exact before j earlier
    · exact now
  refine ⟨⟨t.calls ++ [.check] ++ [.wait check.interval],
    plan.stopsBy check k || plan.stop == some (.resting k)⟩, ?_, calls.symm,
    (stopsBefore_succ k).symm, until_now due.failed failed, until_now due.free free, due.settled,
    until_now due.rested rested⟩
  rw [free] at checks ⊢
  simp [surroundings, accepted, checks, Moment.ofWait]

theorem noteResult_noted (k : Nat) :
  noteResult (.ok (plan.result k)) (plan.noted state k) = plan.noted state (k + 1)
  := by
  cases k <;> rfl

/-- From a check that is due on, a poll does what it is to do. -/
theorem Due.polled (due : plan.Due check k p.world) (attempts : k + left + 1 = allowance check)
    (state_eq : p.state = plan.noted state k) :
  ∃ n, plan.Polled check n (drive plan.surroundings name check (.due k left) p).2.world.calls
      (drive plan.surroundings name check (.due k left) p).1
    ∧ (drive plan.surroundings name check (.due k left) p).2.state = plan.noted state n
  := by
  induction left using Nat.strongRecOn generalizing k p with
  | ind left ih =>
    have further : noteResult (.ok (plan.result k)) p.state = plan.noted state (k + 1) := by
      rw [state_eq, noteResult_noted]
    rw [drive, stopped_surroundings, due.stopped]
    cases stop : plan.stopsBefore check k with
    | true =>
      rw [if_pos rfl, drive]
      exact ⟨k, due.interrupted (by omega) stop, state_eq⟩
    | false =>
      rw [if_neg Bool.false_ne_true, due.tape stop]
      simp only [stopped_surroundings]
      cases rests : plan.rests check k with
      | false =>
        rw [hear_of_not_rests attempts rests, drive]
        exact ⟨k + 1, due.ended (by omega) stop (.inl rests), further⟩
      | true =>
        obtain ⟨fewer, rfl, goes⟩ := hear_of_rests attempts rests
        rw [goes, drive]
        cases refused : plan.restingFault? check k with
        | none =>
          obtain ⟨t, waited, next⟩ := due.next rests refused
          rw [waited]
          exact ih fewer (by omega) next (by omega) further
        | some fault =>
          obtain ⟨broken, ending⟩ := wait_of_restingFault (p.world.calls ++ [.check]) refused
          have polled := due.ended (by omega) stop (.inr (by rw [refused]; rfl))
          rw [ending] at polled
          rw [broken]
          simp only [drive]
          exact ⟨k + 1, polled, further⟩

/-- The first check is due at once where there is no start period. -/
theorem due_begin (unsettled : settles check = false) :
  plan.Due check 0 plan.begin
  where
  calls := by simp [calls, unsettled, begin]
  stopped := by
    cases stop : plan.stop with
    | none => simp [stopsBefore, stop, begin]
    | some moment => cases moment <;> simp [stopsBefore, stop, unsettled, begin]
  failed := by simp
  free := by simp
  settled := by simp [settlingFault?, unsettled]
  rested := by simp

/-- After the start period the first check is due. -/
theorem exists_due_settled (settles : settles check = true)
    (settled : plan.settlingFault? check = none) :
  ∃ t, plan.surroundings.wait check.startPeriod plan.begin = .ok t ∧ plan.Due check 0 t
  := by
  have accepted : (if plan.begin.stopped then none else plan.refusal check.startPeriod) = none := by
    cases stop : plan.stop == some .beforehand with
    | true => simp [begin, stop]
    | false =>
      have other : plan.stop ≠ some .beforehand := by simpa using stop
      simpa [settlingFault?, settles, other, begin, stop] using settled
  refine ⟨⟨[.wait check.startPeriod], plan.begin.stopped || plan.stop == some .settling⟩, ?_, ?_, ?_,
    by simp, by simp, settled, by simp⟩
  · simp only [surroundings, accepted]
    rfl
  · simp [calls, settles, settled]
  · cases stop : plan.stop with
    | none => simp [stopsBefore, stop, begin]
    | some moment => cases moment <;> simp [stopsBefore, stop, settles, begin]

/-- A start period that is too long ends the poll before its first check. -/
theorem wait_of_settlingFault {fault : Fault} (refused : plan.settlingFault? check = some fault) :
  plan.surroundings.wait check.startPeriod plan.begin = .error fault
    ∧ plan.Polled check 0 plan.begin.calls (.broken fault)
  := by
  have both : (settles check = true ∧ plan.stop ≠ some .beforehand)
      ∧ plan.refusal check.startPeriod = some fault := by
    simpa [settlingFault?] using refused
  obtain ⟨⟨settles, other⟩, too_long⟩ := both
  refine ⟨by simp [surroundings, begin, other, too_long], fun k => ?_, ?_, ?_⟩
  · simp [refused]
  · simp [calls, refused, begin]
  · rw [ending, refused, brokenOff]

/-- A service whose start period is too long is not waited for. -/
theorem run_of_settlingFault (plan : Plan) {s : Service} {log : List LogEntry} {fault : Fault}
    (active : s.activeCheck? = some check) (refused : plan.settlingFault? check = some fault) :
  Poll.run plan.surroundings s ⟨plan.begin, state, log⟩
    = (.error fault, ⟨plan.begin, noteStart state, log⟩)
  := by
  have settles : settles check = true := by
    by_contra unsettled
    simp [settlingFault?, unsettled] at refused
  have begins : start check = .settling (check.attempts - 1) := by
    rw [start, if_pos (by simpa [Plan.settles] using settles)]
  rw [Poll.run, active]
  simp [begins, drive, (plan.wait_of_settlingFault refused).1, Ending.outcome, endLog]

/-- A poll does what it is to do. -/
theorem polled (plan : Plan) (check : HealthCheck) (name : String) (state : ServiceState)
    (log : List LogEntry) :
  ∃ n, plan.Polled check n
      (drive plan.surroundings name check (start check) ⟨plan.begin, state, log⟩).2.world.calls
      (drive plan.surroundings name check (start check) ⟨plan.begin, state, log⟩).1
    ∧ (drive plan.surroundings name check (start check) ⟨plan.begin, state, log⟩).2.state
      = plan.noted state n
  := by
  have pos : 0 < allowance check := attempts_eq check ▸ check.attempts_pos
  have attempts : 0 + (check.attempts - 1) + 1 = allowance check := by
    rw [attempts_eq]
    omega
  rw [start]
  cases settles : settles check with
  | true =>
    rw [if_pos (by simpa [Plan.settles] using settles), drive]
    cases refused : plan.settlingFault? check with
    | some fault =>
      obtain ⟨broken, polled⟩ := plan.wait_of_settlingFault refused
      rw [broken]
      simp only [drive]
      exact ⟨0, polled, rfl⟩
    | none =>
      -- The start period is waited for, and a stop during it ends the poll.
      obtain ⟨t, waited, due⟩ := plan.exists_due_settled settles refused
      rw [waited]
      simp only [stopped_surroundings, due.stopped]
      cases stop : plan.stopsBefore check 0 with
      | true =>
        rw [wake, if_pos rfl, drive]
        exact ⟨0, due.interrupted pos stop, rfl⟩
      | false =>
        rw [wake, if_neg Bool.false_ne_true]
        exact due.polled attempts rfl
  | false =>
    rw [if_neg (by simpa [Plan.settles] using settles)]
    exact (plan.due_begin settles).polled attempts rfl

end Plan

/-- Waiting for a service does what a poll of its check is to do, however the checks go, whenever a
stop is asked for and whatever times are too long to be waited for.  Whatever is known about the
service stays as it is, except that its health is starting and its output is that of the last check.
A service without a check that is run is healthy at once. -/
theorem run_polled (plan : Plan) (s : Service) (state : ServiceState) (log : List LogEntry) :
  (s.activeCheck? = none →
    Poll.run plan.surroundings s ⟨plan.begin, state, log⟩
      = (.ok ⟨true, "", none⟩, ⟨plan.begin, state, log⟩))
  ∧ ∀ check, s.activeCheck? = some check →
      ∃ n ending after,
        Poll.run plan.surroundings s ⟨plan.begin, state, log⟩ = (ending.outcome s.name, after)
        ∧ plan.Polled check n after.world.calls ending
        ∧ after.state = plan.noted { state with health := .starting } n
  := by
  constructor
  · intro none
    rw [Poll.run, none]
  · intro check some
    obtain ⟨n, polled, state⟩ := plan.polled check s.name (noteStart state) log
    exact ⟨n, _, _, by rw [Poll.run, some], polled, state⟩

/-- A service whose check has some attempts, and time to start before them. -/
def sluggish (retries : Int) (startPeriod : Float) : Service where
  name := "search"
  healthCheck := some ⟨["CMD", "ready"], 1, 1, retries, startPeriod, false⟩

/-- All checks fail, and a stop may be asked for. -/
def givenUp (stop : Option Moment) : Plan where
  result k := ⟨false, if k = 0 then "refused" else "not ready", some 1⟩
  stop
  refusal := Host.waitFault?

/-- Three attempts are used up, but the stop comes first: the poll has been interrupted.  Without
retries there is one attempt. -/
theorem run_polled_givenUp :
  (∃ after, Poll.run (givenUp (some (.checking 2))).surroundings (sluggish 3 5)
        ⟨(givenUp (some (.checking 2))).begin, { name := "search" }, []⟩
      = (.error (.stack (.interrupted "Stopped while waiting for search")), after)
    ∧ after.world.calls = [.wait 5, .check, .wait 1, .check, .wait 1, .check]
    ∧ after.state = { name := "search", health := .starting, lastOutput := "not ready" })
  ∧ ∃ after, Poll.run (givenUp none).surroundings (sluggish 0 0)
        ⟨(givenUp none).begin, { name := "search" }, []⟩
      = (.error (.stack (.exhausted "search" 1 "refused")), after)
    ∧ after.world.calls = [.check]
  := by
  constructor
  · obtain ⟨n, ending, after, run, polled, state⟩ :=
      (run_polled (givenUp (some (.checking 2))) (sluggish 3 5) { name := "search" } []).2
        ⟨["CMD", "ready"], 1, 1, 3, 5, false⟩ rfl
    have three : n = 3 := by
      have some : 2 < n := (polled.runs 2).mpr (by decide)
      have last : ¬ 3 < n := fun lt => absurd ((polled.runs 3).mp lt).1 (by decide)
      omega
    subst three
    obtain rfl := polled.ending
    refine ⟨after, run.trans ?_, polled.calls.trans ?_, state⟩
    · rfl
    · rfl
  · obtain ⟨n, ending, after, run, polled, -⟩ :=
      (run_polled (givenUp none) (sluggish 0 0) { name := "search" } []).2
        ⟨["CMD", "ready"], 1, 1, 0, 0, false⟩ rfl
    have one : n = 1 := by
      have some : 0 < n := (polled.runs 0).mpr (by decide)
      have last : ¬ 1 < n := fun lt => absurd ((polled.runs 1).mp lt).1 (by decide)
      omega
    subst one
    obtain rfl := polled.ending
    refine ⟨after, run.trans ?_, polled.calls.trans ?_⟩
    · rfl
    · rfl

/-- All checks succeed, and no stop is asked for. -/
def welcome : Plan where
  result _ := ⟨true, "", some 0⟩
  stop := none
  refusal := Host.waitFault?

/-- A start period of ten thousand million seconds cannot be waited for: the first check would
succeed, but none is run, and the poll ends neither well nor exhausted nor interrupted. -/
theorem run_overlong :
  Poll.run welcome.surroundings (sluggish 3 10000000000)
      ⟨welcome.begin, { name := "search" }, []⟩
    = (.error .overflow, ⟨⟨[], false⟩, { name := "search", health := .starting }, []⟩)
  := by
  have active : (sluggish 3 10000000000).activeCheck?
      = some ⟨["CMD", "ready"], 1, 1, 3, 10000000000, false⟩ := rfl
  rw [welcome.run_of_settlingFault active rfl]
  rfl

end Muster.Poll
