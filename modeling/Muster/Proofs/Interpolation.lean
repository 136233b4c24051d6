import Muster.Interpolation
/-!
# Texts without references

The segments of a template, written one after the other, are the template.  A text is inert if it
has no references: it stands for itself, whatever the variables are.  Where no variable is set, only
inert texts stand for themselves, because what any other segment stands for is shorter than the
segment.
-/

namespace Muster.Interpolation

/-! ### The source of the segments -/

theorem source_takeAction? {cs r : List Char} {action : Action} {strict : Bool}
    (taken : takeAction? cs = some (action, strict, r)) :
  (if strict then [':'] else []) ++ action.sign :: r = cs
  := by
  have sign {c : Char} (ofSign : Action.ofSign? c = some action) : action.sign = c := by
    unfold Action.ofSign? at ofSign
    split at ofSign <;> cases ofSign <;> rfl
  unfold takeAction? at taken
  split at taken
  all_goals
    simp only [Option.map_eq_some_iff, Prod.mk.injEq, reduceCtorEq] at taken
  · obtain ⟨_, ofSign, rfl, rfl, rfl⟩ := taken
    simp [sign ofSign]
  · obtain ⟨_, ofSign, rfl, rfl, rfl⟩ := taken
    simp [sign ofSign]

theorem source_takeBraced? {cs r : List Char} {g : Segment} (taken : takeBraced? cs = some (g, r)) :
  g.source ++ r = '$' :: '\x7b' :: cs
  := by
  unfold takeBraced? at taken
  split at taken
  · cases taken
  · next c cs =>
    have name := List.takeWhile_append_dropWhile (p := isNameChar) (l := cs)
    split at taken
    · split at taken
      · next rest brace =>
        cases taken
        rw [brace] at name
        simp only [Segment.source, List.cons_append, List.append_assoc, List.nil_append, name]
      · split at taken
        · cases taken
        · next action strict r' actionTaken =>
          have argument := List.takeWhile_append_dropWhile (p := (· != '}')) (l := r')
          have rule := source_takeAction? actionTaken
          split at taken
          · cases taken
          · next d rest closed =>
            cases taken
            have brace : d = '}' := by
              have := List.head?_dropWhile_not (· != '}') r'
              simpa [closed] using this
            rw [closed, brace] at argument
            simp only [Segment.source, List.cons_append, List.append_assoc, List.nil_append,
              argument, rule, name]
    · cases taken

/-- A segment, followed by what comes after it, is what it has been taken from. -/
theorem source_takeSegment (c : Char) (r : List Char) :
  (takeSegment c r).1.source ++ (takeSegment c r).2 = c :: r
  := by
  unfold takeSegment
  split
  · next dollar =>
    split
    · rfl
    · next d rest =>
      split
      · simp_all [Segment.source]
      · split
        · next brace =>
          cases taken : takeBraced? rest with
          | none => rfl
          | some p =>
            have := source_takeBraced? (g := p.1) (r := p.2) taken
            simp_all
        · split
          · have := List.takeWhile_append_dropWhile (p := isNameChar) (l := rest)
            simp [Segment.source, dollar, this]
          · rfl
  · rfl

/-- The segments of a template, written one after the other, are the template. -/
theorem source_read (cs : List Char) :
  (Segment.read cs).flatMap Segment.source = cs
  := by
  induction cs using Segment.read.induct with
  | case1 => simp [Segment.read]
  | case2 c r ih => rw [Segment.read, List.flatMap_cons, ih, source_takeSegment]

/-! ### Inert texts -/

/-- A text without references: each of its characters stands for itself. -/
def Inert (s : String) : Prop :=
  ∀ g ∈ Segment.read s.toList, ∃ c, g = .plain c

theorem expandAll_of_plain {context : Table String} {gs : List Segment}
    (plain : ∀ g ∈ gs, ∃ c, g = .plain c) :
  Segment.expandAll context gs = .ok (.ofText (String.ofList (gs.flatMap Segment.source)))
  := by
  induction gs with
  | nil => rfl
  | cons g gs ih =>
    obtain ⟨c, rfl⟩ := plain g (by simp)
    have first : String.singleton c ++ String.ofList (gs.flatMap Segment.source)
        = String.ofList (c :: gs.flatMap Segment.source) := by
      apply String.toList_inj.mp
      simp
    rw [Segment.expandAll, ih fun g' member => plain g' (by simp [member])]
    exact congrArg (fun text => Except.ok (Expansion.ofText text)) first

/-- An inert text stands for itself. -/
theorem interpolate_of_inert {s : String} (inert : Inert s) (context : Table String) :
  interpolate context s = .ok (.ofText s)
  := by
  rw [interpolate, expandAll_of_plain inert, source_read, String.ofList_toList]

theorem inert_of_not_mem {s : String} (free : '$' ∉ s.toList) :
  Inert s
  := by
  have plain (cs : List Char) (free : '$' ∉ cs) : ∀ g ∈ Segment.read cs, ∃ c, g = .plain c := by
    induction cs with
    | nil => simp [Segment.read]
    | cons c r ih =>
      simp only [List.mem_cons, not_or] at free
      have taken : takeSegment c r = (.plain c, r) := by simp [takeSegment, Ne.symm free.1]
      intro g member
      rw [Segment.read, taken] at member
      rcases List.mem_cons.mp member with rfl | later
      · exact ⟨c, rfl⟩
      · exact ih free.2 g later
  exact plain s.toList free

theorem lookUp_empty (name : String) :
  Segment.lookUp ∅ name = ⟨"", [name]⟩
  := rfl

theorem counted_none (rule : Rule) :
  rule.counted none = none
  := by
  unfold Rule.counted
  split <;> rfl

/-- Where no variable is set, a segment that is no plain character is longer than what it stands
for. -/
theorem length_expand_empty {g : Segment} {e : Expansion} (ok : g.expand ∅ = .ok e) :
  (∃ c, g = .plain c) ∧ e.text.length = g.source.length ∨ e.text.length < g.source.length
  := by
  cases g with
  | plain c =>
    cases ok
    exact .inl ⟨⟨c, rfl⟩, String.length_singleton⟩
  | dollar =>
    cases ok
    exact .inr (by decide)
  | bare name =>
    cases ok
    simp [Segment.source, lookUp_empty]
  | braced name rule =>
    right
    cases rule with
    | none =>
      cases ok
      simp [Segment.source, lookUp_empty]
    | some rule =>
      have missing : (∅ : Table String).get? (String.ofList name) = none := rfl
      rw [Segment.expand, missing, Rule.apply, counted_none] at ok
      cases action : rule.action <;> rw [action] at ok <;> cases ok
      all_goals
        simp only [Segment.source, Expansion.ofText, String.length_ofList, String.length_empty,
          List.length_cons, List.length_append]
        omega

theorem length_expandAll_empty {gs : List Segment} {e : Expansion}
    (ok : Segment.expandAll ∅ gs = .ok e) :
  (∀ g ∈ gs, ∃ c, g = .plain c) ∧ e.text.length = (gs.flatMap Segment.source).length
    ∨ e.text.length < (gs.flatMap Segment.source).length
  := by
  induction gs generalizing e with
  | nil =>
    cases ok
    exact .inl ⟨by simp, rfl⟩
  | cons g gs ih =>
    rw [Segment.expandAll] at ok
    cases first : g.expand ∅ with
    | error fault => simp [first, bind, Except.bind] at ok
    | ok a =>
      cases others : Segment.expandAll ∅ gs with
      | error fault => simp [first, others, bind, Except.bind] at ok
      | ok b =>
        simp only [first, others, bind, Except.bind] at ok
        cases ok
        have length : (a ++ b).text.length = a.text.length + b.text.length :=
          String.length_append ..
        rw [List.flatMap_cons, List.length_append, length]
        rcases length_expand_empty first with ⟨plain, here⟩ | here
        · rcases ih others with ⟨all, there⟩ | there
          · exact .inl ⟨List.forall_mem_cons.mpr ⟨plain, all⟩, by omega⟩
          · exact .inr (by omega)
        · have : b.text.length ≤ (gs.flatMap Segment.source).length := by
            rcases ih others with ⟨_, there⟩ | there <;> omega
          exact .inr (by omega)

/-- Where no variable is set, a text that is not inert is longer than what it stands for. -/
theorem inert_or_shorter {s : String} {e : Expansion} (ok : interpolate ∅ s = .ok e) :
  Inert s ∨ e.text.length < s.length
  := by
  have shorter := length_expandAll_empty ok
  rw [source_read, String.length_toList] at shorter
  exact shorter.imp_left And.left

/-- The inert texts are those that stand for themselves where no variable is set. -/
theorem inert_iff {s : String} :
  Inert s ↔ ∃ unset, interpolate ∅ s = .ok ⟨s, unset⟩
  := by
  constructor
  · exact fun inert => ⟨[], interpolate_of_inert inert ∅⟩
  · rintro ⟨unset, ok⟩
    exact (inert_or_shorter ok).resolve_right (Nat.lt_irrefl _)

/-! ### Templates that are never refused -/

/-- Whether a segment refuses a missing variable. -/
def Segment.Demands (g : Segment) : Prop :=
  ∃ name rule, g = .braced name (some rule) ∧ rule.action = .require

/-- A template that refuses no variables. -/
def Undemanding (s : String) : Prop :=
  ∀ g ∈ Segment.read s.toList, ¬ g.Demands

theorem exists_expand_of_not_demands {g : Segment} (free : ¬ g.Demands) (context : Table String) :
  ∃ e, g.expand context = .ok e
  := by
  rcases g with c | _ | name | ⟨name, _ | rule⟩
  all_goals try exact ⟨_, rfl⟩
  have other : rule.action ≠ .require := fun same => free ⟨name, rule, rfl, same⟩
  rw [Segment.expand, Rule.apply]
  cases action : rule.action with
  | require => exact (other action).elim
  | default => cases rule.counted (context.get? (String.ofList name)) <;> exact ⟨_, rfl⟩
  | replace => cases rule.counted (context.get? (String.ofList name)) <;> exact ⟨_, rfl⟩

theorem not_demands_of_expand_empty {g : Segment} {e : Expansion} (ok : g.expand ∅ = .ok e) :
  ¬ g.Demands
  := by
  rintro ⟨name, rule, rfl, action⟩
  have missing : (∅ : Table String).get? (String.ofList name) = none := rfl
  rw [Segment.expand, missing, Rule.apply, counted_none, action] at ok
  cases ok

theorem exists_expandAll_iff {context : Table String} {gs : List Segment} :
  (∃ e, Segment.expandAll context gs = .ok e) ↔ ∀ g ∈ gs, ∃ e, g.expand context = .ok e
  := by
  induction gs with
  | nil => simp [Segment.expandAll]
  | cons g gs ih =>
    rw [List.forall_mem_cons, ← ih, Segment.expandAll]
    cases g.expand context <;> cases Segment.expandAll context gs <;>
      simp [bind, Except.bind, pure, Except.pure]

/-- A template stands for something under all variables exactly when it refuses none. -/
theorem undemanding_iff {s : String} :
  Undemanding s ↔ ∀ context, ∃ e, interpolate context s = .ok e
  := by
  constructor
  · intro free context
    rw [interpolate, exists_expandAll_iff]
    exact fun g mem => exists_expand_of_not_demands (free g mem) context
  · intro always g mem
    obtain ⟨e, ok⟩ := exists_expandAll_iff.mp (always ∅) g mem
    exact not_demands_of_expand_empty ok

end Muster.Interpolation
