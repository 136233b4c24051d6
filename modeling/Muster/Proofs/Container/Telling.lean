import Muster.Proofs.Container.Errand
/-!
# What an errand tells

The engine may refuse any call for any cause.  An errand deals with some causes and lets others get
through to whoever has sent it.  An `Honest` errand has a fault of the engine exactly when one of its
calls was refused for a cause that gets through, and any other fault it has is its own.  There is a
lemma for each way to put errands together; where one errand deals with the faults of another, the
causes that get through become fewer.
-/

namespace Muster

namespace Engine

variable {α β : Type} {own : Fault → Prop} {kinds : List EngineAction}
  {through : EngineAction → EngineFault → Bool} {e e' : Engine} {made more : List EngineCall}
  {c : EngineCall} {cause : EngineFault}

/-- One of some calls is refused for a cause that gets through. -/
def Slips (through : EngineAction → EngineFault → Bool) (e : Engine) (made : List EngineCall)
    (cause : EngineFault) : Prop :=
  ∃ c ∈ made, e.Refuses c.action cause ∧ through c.action cause = true

theorem not_slips_nil :
  ¬ Slips through e [] cause
  := by
  rintro ⟨c, mem, -⟩
  cases mem

theorem slips_append (after : After e made e') :
  Slips through e (made ++ more) cause ↔ Slips through e made cause ∨ Slips through e' more cause
  := by
  simp only [Slips, List.mem_append, after.refuses_iff, or_and_right, exists_or]

theorem slips_singleton :
  Slips through e [c] cause ↔ e.Refuses c.action cause ∧ through c.action cause = true
  := by
  simp [Slips]

/-- Where the answers of the engine are dealt with besides, the others are what gets through. -/
theorem slips_iff_of_fewer {getting : EngineAction → EngineFault → Bool}
    (mem : ∀ c ∈ made, c.action ∈ kinds)
    (fewer : ∀ kind ∈ kinds, ∀ cause,
      through kind cause = (getting kind cause && !cause.isAnswer)) :
  Slips through e made cause ↔ Slips getting e made cause ∧ cause.isAnswer = false
  := by
  constructor
  · rintro ⟨c, found, refuses, gets⟩
    rw [fewer _ (mem c found), Bool.and_eq_true, Bool.not_eq_true'] at gets
    exact ⟨⟨c, found, refuses, gets.1⟩, gets.2⟩
  · rintro ⟨⟨c, found, refuses, gets⟩, trouble⟩
    refine ⟨c, found, refuses, ?_⟩
    rw [fewer _ (mem c found), gets, trouble]
    rfl

/-- How an errand ends: it has made calls of some kinds; it has a fault of the engine exactly when a
call was refused for a cause that gets through, and otherwise no fault but one of its own. -/
structure Tells (own : Fault → Prop) (kinds : List EngineAction)
    (through : EngineAction → EngineFault → Bool) (e : Engine) (made : List EngineCall)
    (result : Except Fault α) (e' : Engine) : Prop where
  after : After e made e'
  kinds : ∀ c ∈ made, c.action ∈ kinds
  slips : ∀ cause, result = .error (.engine cause) ↔ Slips through e made cause
  others : ∀ fault, result = .error fault → own fault ∨ ∃ cause, fault = .engine cause

/-- An errand that ends in this way whatever causes the engine has for its refusals. -/
def Honest (own : Fault → Prop) (kinds : List EngineAction)
    (through : EngineAction → EngineFault → Bool) (t : Errand α) : Prop :=
  ∀ e, e.Plain → ∃ made, Tells own kinds through e made (t.run e).1 (t.run e).2

/-! ### How an errand ends -/

theorem tells_own {fault : Fault} (apart : ∀ cause, ¬ own (.engine cause)) (meant : own fault)
    (after : After e made e') (mem : ∀ c ∈ made, c.action ∈ kinds)
    (dealt : ∀ cause, ¬ Slips through e made cause) :
  Tells own kinds through e made (.error fault : Except Fault α) e'
  where
  after := after
  kinds := mem
  slips cause := by
    constructor
    · rintro ⟨⟩
      exact absurd meant (apart cause)
    · intro slips
      exact absurd slips (dealt cause)
  others := by
    rintro _ ⟨⟩
    exact .inl meant

theorem tells_raised (after : After e made e') (mem : ∀ c ∈ made, c.action ∈ kinds)
    (slips : ∀ other, Slips through e made other ↔ cause = other) :
  Tells own kinds through e made (.error (.engine cause) : Except Fault α) e'
  where
  after := after
  kinds := mem
  slips other := by simp [slips]
  others := by
    rintro _ ⟨⟩
    exact .inr ⟨cause, rfl⟩

/-- What follows calls that have let nothing through. -/
theorem Honest.after {t : Errand β} (next : Honest own kinds through t) (plain : e.Plain)
    (after : After e made e') (mem : ∀ c ∈ made, c.action ∈ kinds)
    (dealt : ∀ cause, ¬ Slips through e made cause) :
  ∃ made, Tells own kinds through e made (t.run e').1 (t.run e').2
  := by
  obtain ⟨more, tells⟩ := next e' (after.plain plain)
  refine ⟨made ++ more, after.trans tells.after, ?_, fun cause => ?_, tells.others⟩
  · intro c found
    rcases List.mem_append.mp found with found | found
    · exact mem c found
    · exact tells.kinds c found
  · rw [tells.slips, slips_append after, or_iff_right (dealt cause)]

/-! ### Errands without a call -/

theorem honest_pure (a : α) :
  Honest own kinds through (pure a : Errand α)
  := fun e _ => ⟨[], .refl e, nofun, fun _ => by simp [run_pure, not_slips_nil], nofun⟩

/-- A change of nothing that decides how a call ends. -/
theorem honest_modify {f : Engine → Engine} (after : ∀ e, After e [] (f e)) :
  Honest own kinds through (modify f : Errand PUnit)
  := fun e _ => ⟨[], after e, nofun, fun _ => by simp [run_modify, not_slips_nil], nofun⟩

theorem honest_note (entry : LogEntry) :
  Honest own kinds through (note entry)
  := honest_modify fun _ => .of_silent rfl rfl rfl rfl

theorem honest_throw (apart : ∀ cause, ¬ own (.engine cause)) {fault : Fault} (meant : own fault) :
  Honest own kinds through (throw fault : Errand α)
  := fun e _ => ⟨[], tells_own apart meant (.refl e) nofun fun _ => not_slips_nil⟩

/-- An errand that looks at the engine. -/
theorem honest_get {f : Engine → Errand β} (next : ∀ now, Honest own kinds through (f now)) :
  Honest own kinds through (do f (← get))
  := by
  intro e plain
  rw [run_bind, run_get]
  exact next e e plain

/-- A result that is known without the engine. -/
theorem honest_lift (apart : ∀ cause, ¬ own (.engine cause)) {result : Except Fault α}
    (meant : ∀ fault, result = .error fault → own fault) :
  Honest own kinds through (liftM result : Errand α)
  := by
  cases result with
  | ok a => exact honest_pure a
  | error fault => exact honest_throw apart (meant fault rfl)

/-! ### One errand after another -/

theorem honest_bind {t : Errand α} {f : α → Errand β} (first : Honest own kinds through t)
    (next : ∀ a, Honest own kinds through (f a)) :
  Honest own kinds through (t >>= f)
  := by
  intro e plain
  obtain ⟨made, tells⟩ := first e plain
  rw [run_bind]
  generalize t.run e = ended at tells
  obtain ⟨result, e'⟩ := ended
  cases result with
  | error fault =>
    -- Nothing follows, and the fault of the first errand is that of both.
    refine ⟨made, tells.after, tells.kinds, fun cause => ?_, ?_⟩
    · rw [← tells.slips]
      simp
    · rintro _ ⟨⟩
      exact tells.others fault rfl
  | ok a =>
    apply (next a).after plain tells.after tells.kinds
    intro cause slips
    cases (tells.slips cause).mpr slips

/-- An errand whose faults are dealt with: an answer of the engine is told as a fault of its own, and
everything else is passed on. -/
theorem honest_retold {inner : List EngineAction} {getting : EngineAction → EngineFault → Bool}
    {t : Errand α} {f : Except Fault α → Errand β} (apart : ∀ cause, ¬ own (.engine cause))
    (first : Honest own inner getting t) (mem : ∀ kind ∈ inner, kind ∈ kinds)
    (fewer : ∀ kind ∈ inner, ∀ cause,
      through kind cause = (getting kind cause && !cause.isAnswer))
    (ok : ∀ a, Honest own kinds through (f (.ok a)))
    (passed : ∀ fault, own fault → f (.error fault) = throw fault)
    (answer : ∀ cause, cause.isAnswer = true → ∃ fault, own fault
      ∧ f (.error (.engine cause)) = throw fault)
    (trouble : ∀ cause, cause.isAnswer = false → f (.error (.engine cause))
      = throw (.engine cause)) :
  Honest own kinds through (do f (← attempt t))
  := by
  intro e plain
  obtain ⟨made, tells⟩ := first e plain
  have mem' : ∀ c ∈ made, c.action ∈ kinds := fun c found => mem _ (tells.kinds c found)
  have slips_iff (cause : EngineFault) :
      Slips through e made cause ↔ (t.run e).1 = .error (.engine cause) ∧ cause.isAnswer = false := by
    rw [tells.slips]
    exact slips_iff_of_fewer tells.kinds fewer
  rw [run_bind, run_attempt]
  generalize t.run e = ended at tells slips_iff
  obtain ⟨result, e'⟩ := ended
  cases result with
  | ok a =>
    apply (ok a).after plain tells.after mem'
    intro cause slips
    cases ((slips_iff cause).mp slips).1
  | error fault =>
    rcases tells.others fault rfl with meant | ⟨cause, rfl⟩
    · refine ⟨made, ?_⟩
      simp only [passed fault meant, run_throw]
      apply tells_own apart meant tells.after mem'
      intro cause slips
      cases ((slips_iff cause).mp slips).1
      exact apart cause meant
    · -- An answer is told as a fault of the errand's own, so that it does not get through any more.
      cases answers : cause.isAnswer with
      | true =>
        obtain ⟨told, meant, same⟩ := answer cause answers
        refine ⟨made, ?_⟩
        simp only [same, run_throw]
        apply tells_own apart meant tells.after mem'
        intro other slips
        obtain ⟨same, trouble⟩ := (slips_iff other).mp slips
        cases same
        cases answers.symm.trans trouble
      | false =>
        refine ⟨made, ?_⟩
        simp only [trouble cause answers, run_throw]
        apply tells_raised tells.after mem'
        intro other
        rw [slips_iff]
        constructor
        · rintro ⟨⟨⟩, -⟩
          rfl
        · rintro rfl
          exact ⟨rfl, answers⟩

/-! ### Errands of a single call -/

section Outcome

variable {absent : EngineFault → Prop} {good : α → Prop} {t : Errand α}

/-- An errand that makes a single call and then deals with what has become of it: a cause that does
not get through is dealt with, and any other is passed on. -/
theorem honest_attempt {f : Except Fault α → Errand β} (apart : ∀ cause, ¬ own (.engine cause))
    (away : ∀ message, own (.stack (.startFailed message)))
    (outcome : ∀ e, e.Plain → Outcome e c absent good (t.run e).1 (t.run e).2)
    (mem : c.action ∈ kinds) (ok : ∀ a, good a → Honest own kinds through (f (.ok a)))
    (passed : ∀ fault, own fault → f (.error fault) = throw fault)
    (raised : ∀ cause, through c.action cause = true → f (.error (.engine cause))
      = throw (.engine cause))
    (dealt : ∀ cause, through c.action cause = false ∨ absent cause →
      Honest own kinds through (f (.error (.engine cause)))) :
  Honest own kinds through (do f (← attempt t))
  := by
  intro e plain
  rw [run_bind, run_attempt]
  have outcome := outcome e plain
  have mem' : ∀ c' ∈ [c], c'.action ∈ kinds := by simpa using mem
  have answered (answers : e.Answers c.action) (cause : EngineFault) :
      ¬ Slips through e [c] cause := by
    rw [slips_singleton]
    rintro ⟨refuses, -⟩
    cases answers.2.symm.trans refuses.2
  generalize t.run e = ended at outcome
  obtain ⟨result, e'⟩ := ended
  cases outcome with
  | unreachable reason =>
    -- The engine is out of reach, and no call is made.
    refine ⟨[], ?_⟩
    simp only [passed _ (away _), run_throw]
    exact tells_own apart (away _) (.refl _) nofun fun _ => not_slips_nil
  | refused cause refuses after =>
    have only (other : EngineFault) (refuses' : e.Refuses c.action other) : cause = other := by
      cases refuses.2.symm.trans refuses'.2
      rfl
    cases gets : through c.action cause with
    | true =>
      refine ⟨[c], ?_⟩
      simp only [raised cause gets, run_throw]
      apply tells_raised after mem'
      intro other
      rw [slips_singleton]
      constructor
      · exact fun slips => only other slips.1
      · rintro rfl
        exact ⟨refuses, gets⟩
    | false =>
      apply (dealt cause (.inl gets)).after plain after mem'
      intro other
      rw [slips_singleton]
      rintro ⟨refuses', gets'⟩
      cases only other refuses'
      cases gets.symm.trans gets'
  | absent cause missing answers after =>
    exact (dealt cause (.inr missing)).after plain after mem' (answered answers)
  | done a isGood answers after =>
    exact (ok a isGood).after plain after mem' (answered answers)

/-- An errand that makes a single call and passes on all that comes of it. -/
theorem honest_of_outcome (apart : ∀ cause, ¬ own (.engine cause))
    (away : ∀ message, own (.stack (.startFailed message)))
    (outcome : ∀ e, e.Plain → Outcome e c (fun _ => False) good (t.run e).1
      (t.run e).2)
    (mem : c.action ∈ kinds) (all : ∀ cause, through c.action cause = true) :
  Honest own kinds through t
  := by
  have same : t = (do liftM (← attempt t)) := by
    funext e
    change t.run e = (attempt t >>= fun result => (liftM result : Errand α)).run e
    rw [run_bind, run_attempt]
    rfl
  rw [same]
  apply honest_attempt apart away outcome mem
  · exact fun a _ => honest_pure a
  · exact fun _ _ => rfl
  · exact fun _ _ => rfl
  · rintro cause (none | ⟨⟨⟩⟩)
    cases (all cause).symm.trans none

end Outcome

end Engine

end Muster
