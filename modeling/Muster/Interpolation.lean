import Muster.Fault
import Muster.Table
/-!
# Interpolation

A template is a text with references to variables: `$NAME`, `$` before a name in braces, with
an optional rule for missing values, and `$$` for the dollar sign itself.  `Segment.read`
takes a template apart, `Segment.source` writes a segment back and `Segment.expand` says what
it stands for.
-/

namespace Muster.Interpolation

/-- A letter of the Latin script or an underscore. -/
def isNameStart (c : Char) : Bool :=
  ('A' ≤ c && c ≤ 'Z') || ('a' ≤ c && c ≤ 'z') || c == '_'

/-- A character that a name may go on with. -/
def isNameChar (c : Char) : Bool :=
  isNameStart c || ('0' ≤ c && c ≤ '9')

/-- What a rule does: it gives a default for a missing value, or replaces a present one, or
refuses a missing one. -/
inductive Action where
  | default
  | replace
  | require
deriving Repr, DecidableEq

/-- A rule for missing values.  A strict rule takes an empty value for a missing one. -/
structure Rule where
  action : Action
  strict : Bool
  argument : List Char
deriving Repr, DecidableEq

/-- A piece of a template. -/
inductive Segment where
  /-- A character that stands for itself. -/
  | plain (c : Char)
  /-- The dollar sign, written twice. -/
  | dollar
  /-- A reference to a variable by its bare name. -/
  | bare (name : List Char)
  /-- A reference in braces, with or without a rule. -/
  | braced (name : List Char) (rule : Option Rule)
deriving Repr, DecidableEq

/-- The action that a sign stands for. -/
def Action.ofSign? : Char → Option Action
  | '-' => some .default
  | '+' => some .replace
  | '?' => some .require
  | _ => none

/-- The sign of an action. -/
def Action.sign : Action → Char
  | default => '-'
  | replace => '+'
  | require => '?'

@[simp]
theorem Action.ofSign?_sign (a : Action) :
  Action.ofSign? a.sign = some a
  := by
  cases a <;> rfl

/-- Reads the action of a rule, and whether the rule is strict. -/
def takeAction? : List Char → Option (Action × Bool × List Char)
  | ':' :: c :: r => (Action.ofSign? c).map fun a => (a, true, r)
  | c :: r => (Action.ofSign? c).map fun a => (a, false, r)
  | [] => none

/-- Reads a reference after its opening brace. -/
def takeBraced? : List Char → Option (Segment × List Char)
  | [] => none
  | c :: r =>
    if isNameStart c then
      let name := c :: r.takeWhile isNameChar
      match r.dropWhile isNameChar with
      | '}' :: rest => some (.braced name none, rest)
      | rest =>
        match takeAction? rest with
        | none => none
        | some (action, strict, r) =>
          match r.dropWhile (· != '}') with
          | [] => none
          | _ :: rest => some (.braced name (some ⟨action, strict, r.takeWhile (· != '}')⟩), rest)
    else none

/-- Reads the segment at the head of a template.  A dollar sign that starts no reference stands
for itself. -/
def takeSegment (c : Char) (r : List Char) : Segment × List Char :=
  if c = '$' then
    match r with
    | [] => (.plain c, [])
    | d :: rest =>
      if d = '$' then (.dollar, rest)
      else if d = '\x7b' then (takeBraced? rest).getD (.plain c, r)
      else if isNameStart d then
        (.bare (d :: rest.takeWhile isNameChar), rest.dropWhile isNameChar)
      else (.plain c, r)
  else (.plain c, r)

theorem length_dropWhile_le (p : Char → Bool) (cs : List Char) :
  (cs.dropWhile p).length ≤ cs.length
  := (List.dropWhile_sublist p).length_le

theorem length_takeAction? {cs : List Char} {a : Action} {strict : Bool} {r : List Char}
    (h : takeAction? cs = some (a, strict, r)) :
  r.length < cs.length
  := by
  unfold takeAction? at h
  split at h <;> simp only [Option.map_eq_some_iff, Prod.mk.injEq, reduceCtorEq] at h
  · obtain ⟨_, _, _, _, rfl⟩ := h
    simp only [List.length_cons]
    omega
  · obtain ⟨_, _, _, _, rfl⟩ := h
    simp

theorem length_takeBraced? {cs : List Char} {g : Segment} {r : List Char}
    (h : takeBraced? cs = some (g, r)) :
  r.length < cs.length
  := by
  unfold takeBraced? at h
  split at h
  · cases h
  · next c cs =>
    have hd := length_dropWhile_le isNameChar cs
    split at h
    · split at h
      · next rest heq =>
        cases h
        rw [heq] at hd
        simp only [List.length_cons] at hd ⊢
        omega
      · split at h
        · cases h
        · next r' ha =>
          have h1 := length_takeAction? ha
          have h2 := length_dropWhile_le (· != '}') r'
          split at h
          · cases h
          · next d rest hr =>
            cases h
            rw [hr] at h2
            simp only [List.length_cons] at h2 ⊢
            omega
    · cases h

/-- Reading a segment uses up at least one character. -/
theorem length_takeSegment (c : Char) (r : List Char) :
  (takeSegment c r).2.length ≤ r.length
  := by
  unfold takeSegment
  split
  · split
    · exact Nat.le_refl _
    · next d rest =>
      split
      · exact Nat.le_succ _
      · split
        · cases h : takeBraced? rest with
          | none => exact Nat.le_refl _
          | some p =>
            have := length_takeBraced? (g := p.1) (r := p.2) h
            simp only [Option.getD_some, List.length_cons]
            omega
        · split
          · have := length_dropWhile_le isNameChar rest
            simp only [List.length_cons]
            omega
          · exact Nat.le_refl _
  · exact Nat.le_refl _

namespace Segment

/-- The segments of a template. -/
def read : List Char → List Segment
  | [] => []
  | c :: r => (takeSegment c r).1 :: read (takeSegment c r).2
termination_by cs => cs.length
decreasing_by
  have := length_takeSegment c r
  simp only [List.length_cons]
  omega

/-- How a segment is written in a template. -/
def source : Segment → List Char
  | plain c => [c]
  | dollar => ['$', '$']
  | bare name => '$' :: name
  | braced name none => '$' :: '\x7b' :: (name ++ ['}'])
  | braced name (some rule) =>
    '$' :: '\x7b' :: (name ++ (if rule.strict then [':'] else [])
      ++ rule.action.sign :: (rule.argument ++ ['}']))

end Segment

/-- What a piece of a template stands for: its text, and the names it missed without a rule. -/
structure Expansion where
  text : String
  unset : List String
deriving Repr, DecidableEq

namespace Expansion

/-- The expansion of a text that misses nothing. -/
def ofText (s : String) : Expansion :=
  ⟨s, []⟩

/-- One expansion after another. -/
def append (a b : Expansion) : Expansion :=
  ⟨a.text ++ b.text, a.unset ++ b.unset⟩

instance : Append Expansion := ⟨append⟩

end Expansion

namespace Rule

/-- The value that counts for a rule: a strict rule drops an empty one. -/
def counted (rule : Rule) (value : Option String) : Option String :=
  if rule.strict then value.filter (· != "") else value

/-- What a reference with a rule stands for. -/
def apply (rule : Rule) (name : String) (value : Option String) :
    Except DescriptorFault String :=
  let argument := String.ofList rule.argument
  match rule.action, rule.counted value with
  | .default, some v => .ok v
  | .default, none => .ok argument
  | .replace, some _ => .ok argument
  | .replace, none => .ok ""
  | .require, some v => .ok v
  | .require, none => .error (.missingVariable name argument)

end Rule

namespace Segment

/-- What a plain reference stands for. -/
def lookUp (context : Table String) (name : String) : Expansion :=
  match context.get? name with
  | some v => .ofText v
  | none => ⟨"", [name]⟩

/-- What a segment stands for under the variables of a context. -/
def expand (context : Table String) : Segment → Except DescriptorFault Expansion
  | plain c => .ok (.ofText (String.singleton c))
  | dollar => .ok (.ofText "$")
  | bare name => .ok (lookUp context (String.ofList name))
  | braced name none => .ok (lookUp context (String.ofList name))
  | braced name (some rule) =>
    let name := String.ofList name
    (rule.apply name (context.get? name)).map .ofText

/-- What a sequence of segments stands for; the first refusal counts. -/
def expandAll (context : Table String) : List Segment → Except DescriptorFault Expansion
  | [] => .ok (.ofText "")
  | g :: gs => do
    let first ← g.expand context
    let others ← expandAll context gs
    return first ++ others

/-- The names that a sequence of segments warns of: those that it misses before the first refusal,
if there is one. -/
def warnings (context : Table String) : List Segment → List String
  | [] => []
  | g :: gs =>
    match g.expand context with
    | .ok e => e.unset ++ warnings context gs
    | .error _ => []

end Segment

/-- What a template stands for under the variables of a context. -/
def interpolate (context : Table String) (template : String) :
    Except DescriptorFault Expansion :=
  Segment.expandAll context (Segment.read template.toList)

/-- The names that a template warns of, whether or not it is refused. -/
def warnings (context : Table String) (template : String) : List String :=
  Segment.warnings context (Segment.read template.toList)

end Muster.Interpolation
