import Mathlib.Tactic.Use
import Muster.Proofs.Interpolation
/-!
# Templates made of segments

A template is written as a sequence of segments.  Each of them is read back as it was written if it
fits before what is written after it: a bare name must not be gone on with, and a dollar sign that
stands for itself must not begin a reference.  What the template stands for is what its segments
stand for, one after the other, and it is refused when one of them is, for the reason of the first.
-/

namespace Muster

namespace Interpolation

/-! ### Reading what has been written -/

/-- A name of a variable. -/
def IsName : List Char → Prop
  | [] => False
  | c :: r => isNameStart c = true ∧ ∀ d ∈ r, isNameChar d = true

/-- A segment is not taken for anything else before a text. -/
def Segment.Fits (after : List Char) : Segment → Prop
  | plain c => c = '$' → ∀ d ∈ after.head?, d ≠ '$' ∧ d ≠ '\x7b' ∧ isNameStart d = false
  | dollar => True
  | bare name => IsName name ∧ ∀ d ∈ after.head?, isNameChar d = false
  | braced name none => IsName name
  | braced name (some rule) => IsName name ∧ '\x7d' ∉ rule.argument

/-- Each of some segments fits before those after it. -/
def Fit : List Segment → Prop
  | [] => True
  | g :: gs => g.Fits (gs.flatMap Segment.source) ∧ Fit gs

instance : DecidablePred IsName
  | [] => inferInstanceAs (Decidable False)
  | c :: r => decidable_of_iff (isNameStart c = true ∧ r.all isNameChar = true) (by simp [IsName])

instance (after : List Char) : DecidablePred (Segment.Fits after)
  | .plain c => decidable_of_iff
      (c = '$' → after.head?.all (fun d => d != '$' && d != '\x7b' && !isNameStart d) = true)
      (by cases after <;> simp [Segment.Fits, and_assoc])
  | .dollar => inferInstanceAs (Decidable True)
  | .bare name => decidable_of_iff
      (IsName name ∧ after.head?.all (fun d => !isNameChar d) = true)
      (by cases after <;> simp [Segment.Fits])
  | .braced name none => inferInstanceAs (Decidable (IsName name))
  | .braced name (some rule) =>
    inferInstanceAs (Decidable (IsName name ∧ '\x7d' ∉ rule.argument))

instance decidableFit : DecidablePred Fit
  | [] => inferInstanceAs (Decidable True)
  | g :: gs =>
    have := decidableFit gs
    inferInstanceAs (Decidable (g.Fits (gs.flatMap Segment.source) ∧ Fit gs))

section Span

variable {p : Char → Bool} {cs after : List Char}

theorem takeWhile_append_of_ends (inside : ∀ c ∈ cs, p c = true)
    (ends : ∀ d ∈ after.head?, p d = false) :
  (cs ++ after).takeWhile p = cs
  := by
  rw [List.takeWhile_append_of_pos inside]
  cases after with
  | nil => simp
  | cons d after => simp [ends d rfl]

theorem dropWhile_append_of_ends (inside : ∀ c ∈ cs, p c = true)
    (ends : ∀ d ∈ after.head?, p d = false) :
  (cs ++ after).dropWhile p = after
  := by
  rw [List.dropWhile_append_of_pos inside]
  cases after with
  | nil => rfl
  | cons d after => simp [ends d rfl]

end Span

variable {name rest after : List Char}

theorem takeAction?_signs (action : Action) (strict : Bool) (rest : List Char) :
  takeAction? ((if strict then [':'] else []) ++ action.sign :: rest) = some (action, strict, rest)
  := by
  cases strict <;> cases action <;> rfl

/-- A name goes on neither with the signs of a rule nor with a closing brace. -/
theorem ends_signs (action : Action) (strict : Bool) (rest : List Char) :
  ∀ d ∈ ((if strict then [':'] else []) ++ action.sign :: rest).head?,
    isNameChar d = false ∧ d ≠ '\x7d'
  := by
  cases strict <;> cases action <;> rintro _ ⟨⟩ <;> decide

theorem takeBraced?_name (isName : IsName name) (after : List Char) :
  takeBraced? (name ++ '\x7d' :: after) = some (.braced name none, after)
  := by
  obtain _ | ⟨c, r⟩ := name
  · exact isName.elim
  · obtain ⟨first, others⟩ := isName
    have ends : ∀ d ∈ ('\x7d' :: after).head?, isNameChar d = false := by
      rintro _ ⟨⟩
      decide
    rw [List.cons_append, takeBraced?]
    simp only [first, if_true, takeWhile_append_of_ends others ends,
      dropWhile_append_of_ends others ends]

/-- A rule is read up to the first closing brace. -/
theorem takeBraced?_rule (isName : IsName name) {rule : Rule} (closed : '\x7d' ∉ rule.argument)
    (ends : ∀ d ∈ rest.head?, isNameChar d = false ∧ d ≠ '\x7d')
    (taken : takeAction? rest = some (rule.action, rule.strict, rule.argument ++ '\x7d' :: after)) :
  takeBraced? (name ++ rest) = some (.braced name (some rule), after)
  := by
  obtain _ | ⟨c, r⟩ := name
  · exact isName.elim
  · obtain ⟨first, others⟩ := isName
    have nameEnds : ∀ d ∈ rest.head?, isNameChar d = false := fun d mem => (ends d mem).1
    have inside : ∀ d ∈ rule.argument, (d != '\x7d') = true := by
      intro d mem
      rw [bne_iff_ne]
      rintro rfl
      apply closed mem
    have argumentEnds : ∀ d ∈ ('\x7d' :: after).head?, (d != '\x7d') = false := by
      rintro _ ⟨⟩
      rfl
    rw [List.cons_append, takeBraced?]
    simp only [first, if_true, takeWhile_append_of_ends others nameEnds,
      dropWhile_append_of_ends others nameEnds]
    split
    · next brace => exact absurd rfl (ends '\x7d' rfl).2
    · simp only [taken, takeWhile_append_of_ends inside argumentEnds,
        dropWhile_append_of_ends inside argumentEnds]

theorem takeSegment_dollar_brace (rest : List Char) :
  takeSegment '$' ('\x7b' :: rest) = (takeBraced? rest).getD (.plain '$', '\x7b' :: rest)
  := rfl

theorem takeSegment_dollar_name (isName : IsName name)
    (ends : ∀ d ∈ after.head?, isNameChar d = false) :
  takeSegment '$' (name ++ after) = (.bare name, after)
  := by
  obtain _ | ⟨c, r⟩ := name
  · exact isName.elim
  · obtain ⟨first, others⟩ := isName
    have dollar : c ≠ '$' := by
      rintro rfl
      revert first
      decide
    have brace : c ≠ '\x7b' := by
      rintro rfl
      revert first
      decide
    rw [List.cons_append, takeSegment]
    simp only [if_true, dollar, brace, if_false, first, takeWhile_append_of_ends others ends,
      dropWhile_append_of_ends others ends]

/-- A plain character is read as one; a dollar sign only if it fits before what comes after it. -/
theorem takeSegment_plain {c : Char} (fits : (Segment.plain c).Fits after) :
  takeSegment c after = (.plain c, after)
  := by
  by_cases dollar : c = '$'
  · obtain _ | ⟨d, rest⟩ := after
    · rw [takeSegment, if_pos dollar]
    · obtain ⟨other, brace, letter⟩ := fits dollar d rfl
      simp only [takeSegment, if_pos dollar, if_neg other, if_neg brace, letter, Bool.false_eq_true,
        if_false]
  · rw [takeSegment.eq_def, if_neg dollar]

/-- A segment that fits before a text is read back as it was written. -/
theorem read_source_append {g : Segment} (fits : g.Fits after) :
  Segment.read (g.source ++ after) = g :: Segment.read after
  := by
  suffices taken : ∃ c r, g.source ++ after = c :: r ∧ takeSegment c r = (g, after) by
    obtain ⟨c, r, same, taken⟩ := taken
    rw [same, Segment.read, taken]
  cases g with
  | plain c => exact ⟨c, after, rfl, takeSegment_plain fits⟩
  | dollar => exact ⟨'$', '$' :: after, rfl, rfl⟩
  | bare name => exact ⟨'$', name ++ after, rfl, takeSegment_dollar_name fits.1 fits.2⟩
  | braced name rule? =>
    cases rule? with
    | none =>
      refine ⟨'$', '\x7b' :: (name ++ '\x7d' :: after), by simp [Segment.source], ?_⟩
      rw [takeSegment_dollar_brace, takeBraced?_name fits]
      rfl
    | some rule =>
      have taken := takeBraced?_rule fits.1 fits.2 (ends_signs rule.action rule.strict _)
        (takeAction?_signs rule.action rule.strict (rule.argument ++ '\x7d' :: after))
      refine ⟨'$', _, by simp [Segment.source]; rfl, ?_⟩
      rw [takeSegment_dollar_brace, taken]
      rfl

/-- Segments that fit are read back as they were written. -/
theorem read_sources {gs : List Segment} (fit : Fit gs) :
  Segment.read (gs.flatMap Segment.source) = gs
  := by
  induction gs with
  | nil => rw [List.flatMap_nil, Segment.read]
  | cons g gs ih => rw [List.flatMap_cons, read_source_append fit.1, ih fit.2]

theorem append_ofText_empty (e : Expansion) :
  e ++ Expansion.ofText "" = e
  := by
  show Expansion.mk (e.text ++ "") (e.unset ++ []) = e
  rw [String.append_empty, List.append_nil]

/-- A name in braces stands for the value of its variable. -/
theorem interpolate_braced (context : Table String) (isName : IsName name) :
  interpolate context (String.ofList ('$' :: '\x7b' :: (name ++ ['\x7d'])))
    = .ok (Segment.lookUp context (String.ofList name))
  := by
  have fit : Fit [.braced name none] := ⟨isName, trivial⟩
  have read := read_sources fit
  rw [List.flatMap_singleton, Segment.source] at read
  rw [interpolate, String.toList_ofList, read]
  apply congrArg Except.ok (append_ofText_empty _)

/-! ### What segments stand for -/

/-- Whether a rule finds a value; one that is strict passes over an empty value. -/
def Rule.finds (rule : Rule) : Option String → Bool
  | none => false
  | some value => !rule.strict || value != ""

namespace Segment

/-- The text that stands in the place of a segment. -/
def meaning (context : Table String) : Segment → String
  | plain c => String.singleton c
  | dollar => "$"
  | bare name => (context.get? (String.ofList name)).getD ""
  | braced name none => (context.get? (String.ofList name)).getD ""
  | braced name (some rule) =>
    let value := context.get? (String.ofList name)
    match rule.action, rule.finds value with
    | .default, false => String.ofList rule.argument
    | .replace, true => String.ofList rule.argument
    | .replace, false => ""
    | _, _ => value.getD ""

/-- The variable that a plain reference misses. -/
def missed (context : Table String) : Segment → List String
  | bare name => [String.ofList name].filter (!context.contains ·)
  | braced name none => [String.ofList name].filter (!context.contains ·)
  | _ => []

/-- What a segment says when the value that it demands is not found. -/
def complaint? (context : Table String) : Segment → Option String
  | braced name (some rule) =>
    if rule.action = .require ∧ rule.finds (context.get? (String.ofList name)) = false then
      if rule.argument = [] then
        some ("Required variable " ++ String.ofList name ++ " is not set")
      else some (String.ofList rule.argument)
    else none
  | _ => none

end Segment

theorem counted_eq (rule : Rule) (value : Option String) :
  rule.counted value = if rule.finds value then value else none
  := by
  obtain ⟨action, strict, argument⟩ := rule
  cases value with
  | none => simp [counted_none]
  | some v => cases strict <;> simp [Rule.counted, Rule.finds, Option.filter]

theorem lookUp_eq (context : Table String) (name : String) :
  Segment.lookUp context name
    = ⟨(context.get? name).getD "", [name].filter (!context.contains ·)⟩
  := by
  rw [Segment.lookUp]
  cases found : context.get? name <;> simp [Table.contains, found, Expansion.ofText]

theorem ofList_eq_empty_iff {cs : List Char} :
  String.ofList cs = "" ↔ cs = []
  := by
  rw [← String.toList_inj, String.toList_ofList]
  rfl

/-- A rule that finds a value finds one that there is. -/
theorem exists_of_finds {rule : Rule} {value : Option String} (finds : rule.finds value = true) :
  ∃ v, value = some v
  := by
  cases value with
  | none => cases finds
  | some v => exact ⟨v, rfl⟩

theorem expand_of_content {context : Table String} {g : Segment}
    (content : g.complaint? context = none) :
  g.expand context = .ok ⟨g.meaning context, g.missed context⟩
  := by
  match g with
  | .plain c => rfl
  | .dollar => rfl
  | .bare name => exact congrArg Except.ok (lookUp_eq context _)
  | .braced name none => exact congrArg Except.ok (lookUp_eq context _)
  | .braced name (some rule) =>
    simp only [Segment.expand, Rule.apply, counted_eq, Segment.meaning, Segment.missed]
    cases finds : rule.finds (context.get? (String.ofList name)) with
    | true =>
      obtain ⟨v, value⟩ := exists_of_finds finds
      cases action : rule.action <;> simp [value, Except.map, Expansion.ofText]
    | false =>
      cases action : rule.action with
      | require =>
        simp only [Segment.complaint?, action, finds, and_self, if_true] at content
        split at content <;> cases content
      | _ => simp [Except.map, Expansion.ofText]

theorem expand_of_complaint {context : Table String} {g : Segment} {message : String}
    (complaint : g.complaint? context = some message) :
  ∃ fault, g.expand context = .error fault ∧ fault.message = message
  := by
  match g with
  | .braced name (some rule) =>
    simp only [Segment.complaint?] at complaint
    split at complaint
    · next refused =>
      use .missingVariable (String.ofList name) (String.ofList rule.argument)
      constructor
      · simp only [Segment.expand, Rule.apply, counted_eq, refused.1, refused.2]
        rfl
      · have worded : (DescriptorFault.missingVariable (String.ofList name)
            (String.ofList rule.argument)).message
          = if String.ofList rule.argument = "" then
              "Required variable " ++ String.ofList name ++ " is not set"
            else String.ofList rule.argument := rfl
        rw [worded]
        by_cases empty : rule.argument = []
        · rw [if_pos empty] at complaint
          rw [if_pos (ofList_eq_empty_iff.mpr empty)]
          apply Option.some.inj complaint
        · rw [if_neg empty] at complaint
          rw [if_neg (mt ofList_eq_empty_iff.mp empty)]
          apply Option.some.inj complaint
    · cases complaint

/-- Segments stand for what they stand for one after the other, unless one of them complains: then
the first complaint counts. -/
theorem expandAll_cases (context : Table String) (gs : List Segment) :
  match gs.findSome? (Segment.complaint? context) with
  | some message =>
    ∃ fault, Segment.expandAll context gs = .error fault ∧ fault.message = message
  | none => Segment.expandAll context gs = .ok
    ⟨String.join (gs.map (Segment.meaning context)), gs.flatMap (Segment.missed context)⟩
  := by
  induction gs with
  | nil => rfl
  | cons g gs ih =>
    rw [List.findSome?_cons, Segment.expandAll]
    cases complaint : g.complaint? context with
    | some message =>
      obtain ⟨fault, failed, same⟩ := expand_of_complaint complaint
      exact ⟨fault, by rw [failed]; rfl, same⟩
    | none =>
      rw [expand_of_content complaint]
      cases later : gs.findSome? (Segment.complaint? context) with
      | some message =>
        rw [later] at ih
        obtain ⟨fault, failed, same⟩ := ih
        exact ⟨fault, by rw [failed]; rfl, same⟩
      | none =>
        rw [later] at ih
        simp only [ih, List.map_cons, String.join_cons, List.flatMap_cons]
        rfl

/-- What segments warn of is what those before the first complaint miss. -/
theorem warnings_eq (context : Table String) (gs : List Segment) :
  Segment.warnings context gs
    = (gs.takeWhile fun g => (g.complaint? context).isNone).flatMap (Segment.missed context)
  := by
  induction gs with
  | nil => rfl
  | cons g gs ih =>
    rw [Segment.warnings, List.takeWhile_cons]
    cases complaint : g.complaint? context with
    | some message =>
      obtain ⟨fault, failed, -⟩ := expand_of_complaint complaint
      rw [failed]
      rfl
    | none =>
      rw [expand_of_content complaint, ih]
      rfl

/-! ### Dollar signs that stand for themselves -/

/-- A text with every dollar sign written twice. -/
def escaped (s : String) : String :=
  String.ofList (s.toList.flatMap fun c => if c = '$' then ['$', '$'] else [c])

/-- A character written so that it stands for itself. -/
def literal (c : Char) : Segment :=
  if c = '$' then .dollar else .plain c

theorem source_literal (c : Char) :
  (literal c).source = if c = '$' then ['$', '$'] else [c]
  := by
  unfold literal
  split <;> rfl

theorem fits_literal (c : Char) (after : List Char) :
  (literal c).Fits after
  := by
  unfold literal
  split
  · trivial
  · next other => exact fun dollar => absurd dollar other

theorem fit_literals (cs : List Char) :
  Fit (cs.map literal)
  := by
  induction cs with
  | nil => trivial
  | cons c cs ih => exact ⟨fits_literal c _, ih⟩

theorem expandAll_literals (context : Table String) (cs : List Char) :
  Segment.expandAll context (cs.map literal) = .ok (.ofText (String.ofList cs))
  := by
  induction cs with
  | nil => rfl
  | cons c cs ih =>
    have first : (literal c).expand context = .ok (.ofText (String.singleton c)) := by
      unfold literal
      split
      · next dollar =>
        rw [dollar]
        rfl
      · rfl
    have text : String.singleton c ++ String.ofList cs = String.ofList (c :: cs) := by
      apply String.toList_inj.mp
      simp
    rw [List.map_cons, Segment.expandAll, first, ih, ← text]
    rfl

theorem interpolate_escaped (context : Table String) (s : String) :
  interpolate context (escaped s) = .ok (.ofText s)
  := by
  have written : s.toList.flatMap (fun c => if c = '$' then ['$', '$'] else [c])
      = (s.toList.map literal).flatMap Segment.source := by
    simp only [List.flatMap_map, source_literal]
  rw [interpolate, escaped, String.toList_ofList, written, read_sources (fit_literals _),
    expandAll_literals, String.ofList_toList]

/-- A template of segments that fit is refused when one of them demands a value that is not there,
with what the first of these says.  Otherwise it stands for what its segments stand for, and the
plain references among them tell which variables they miss.  A text whose dollar signs are all
written twice stands for itself.  A template that is refused has warned of what the segments before
the refusal miss. -/
theorem interpolate_sources (context : Table String) :
  (∀ gs, Fit gs → match gs.findSome? (Segment.complaint? context) with
    | some message =>
      ∃ fault, interpolate context (String.ofList (gs.flatMap Segment.source)) = .error fault
        ∧ fault.message = message
    | none => interpolate context (String.ofList (gs.flatMap Segment.source)) = .ok
      ⟨String.join (gs.map (Segment.meaning context)), gs.flatMap (Segment.missed context)⟩)
    ∧ (∀ s, interpolate context (escaped s) = .ok (.ofText s))
    ∧ ∀ gs, Fit gs → warnings context (String.ofList (gs.flatMap Segment.source))
      = (gs.takeWhile fun g => (g.complaint? context).isNone).flatMap (Segment.missed context)
  := by
  refine ⟨?_, interpolate_escaped context, ?_⟩
  · intro gs fit
    rw [interpolate, String.toList_ofList, read_sources fit]
    apply expandAll_cases
  · intro gs fit
    rw [warnings, String.toList_ofList, read_sources fit]
    apply warnings_eq

end Interpolation

namespace Sample

open Interpolation

/-- Variables of which one has a value that looks like a reference, and another an empty one. -/
def tricky : Table String :=
  ⟨[("A", "$\x7bB\x7d"), ("B", "")], by decide⟩

/-- Segments one directly after the other. -/
def crowded : List Segment :=
  [.plain 'x', .dollar, .bare ['A'], .plain '-',
    .braced ['B'] (some ⟨.default, true, "$A \x7bx".toList⟩), .braced ['C'] none, .plain '$']

/-- Segments of which two demand a value. -/
def demanding : List Segment :=
  [.braced ['C'] none, .braced ['B'] (some ⟨.require, true, "no $B".toList⟩),
    .braced ['D'] (some ⟨.require, false, []⟩)]

end Sample

/-- Neither the value of a variable nor a default is read again, and the first demand counts. -/
theorem Interpolation.interpolate_sources_tricky :
  Fit Sample.crowded ∧ Fit Sample.demanding
    ∧ interpolate Sample.tricky "x$$$A-$\x7bB:-$A \x7bx\x7d$\x7bC\x7d$"
      = .ok ⟨"x$$\x7bB\x7d-$A \x7bx$", ["C"]⟩
    ∧ (∃ fault, interpolate Sample.tricky "$\x7bC\x7d$\x7bB:?no $B\x7d$\x7bD?\x7d" = .error fault
      ∧ fault.message = "no $B")
    ∧ warnings Sample.tricky "$\x7bC\x7d$\x7bB:?no $B\x7d$\x7bD?\x7d" = ["C"]
  := by
  have crowded : Fit Sample.crowded := by decide
  have demanding : Fit Sample.demanding := by decide
  have written : String.ofList (Sample.demanding.flatMap Segment.source)
      = "$\x7bC\x7d$\x7bB:?no $B\x7d$\x7bD?\x7d" := by decide
  obtain ⟨template, -, warned⟩ := interpolate_sources Sample.tricky
  rw [← written]
  exact ⟨crowded, demanding, template _ crowded, template _ demanding, warned _ demanding⟩

end Muster
