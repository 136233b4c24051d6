import Muster.Proofs.Environment.Agree
/-!
# Where the values of an environment file come from

The value of a statement is made of characters and of references.  A reference to what has been
read before leads to the value there, any other reference leads to the host's environment.  `traces`
marks the variables whose values have something from there in them.

The values that a file has in two environments are compared with any relation that goes with
joining texts.  Two such relations say all: that values without a mark are the same, and that values
with a mark are longer in an environment in which all that is referred to is long.
-/

namespace Muster.EnvFile

/-! ### Pieces -/

/-- A piece of a value: a character, or a reference to a variable with what stands for it if it is
missing. -/
inductive Piece where
  | plain (c : Char)
  | reference (name default : String)

/-- The pieces of a value, of which there are at most `fuel`. -/
def pieces : (fuel : Nat) → List Char → List Piece
  | 0, _ => []
  | _, [] => []
  | fuel + 1, c :: r =>
    match reference? (c :: r) with
    | some (name, default, rest) => .reference name default :: pieces fuel rest
    | none => .plain c :: pieces fuel r

/-- The pieces of the value of a statement, if it has one. -/
def piecesOf (s : Statement) : List Piece :=
  match s.2 with
  | some v => pieces (v.length + 1) v.toList
  | none => []

/-- What a piece contributes to a value. -/
def Piece.fill (lookup : String → Option String) : Piece → List Char
  | plain c => [c]
  | reference name default => ((lookup name).getD default).toList

/-- A value is what its pieces contribute to it. -/
theorem expand_eq (lookup : String → Option String) (fuel : Nat) (cs : List Char) :
  expand lookup fuel cs = (pieces fuel cs).flatMap (·.fill lookup)
  := by
  induction fuel generalizing cs with
  | zero => rfl
  | succ fuel ih =>
    cases cs with
    | nil => rfl
    | cons c r =>
      rw [expand, pieces]
      cases reference? (c :: r) with
      | none => simp only [ih, List.flatMap_cons, Piece.fill, List.singleton_append]
      | some found => simp only [ih, List.flatMap_cons, Piece.fill]

/-- What a reference finds: what has been read before counts first, then the environment. -/
def seek (environ : Table String) (known : Table (Option String)) (name : String) :
    Option String :=
  match known.get? name with
  | some value => some (value.getD "")
  | none => environ.get? name

/-- The value of a statement. -/
def valueOf (environ : Table String) (known : Table (Option String)) (s : Statement) :
    Option String :=
  s.2.map fun v => String.ofList (expand (seek environ known) (v.length + 1) v.toList)

theorem toList_valueOf (environ : Table String) (known : Table (Option String)) (s : Statement) :
  ((valueOf environ known s).getD "").toList
    = (piecesOf s).flatMap (·.fill (seek environ known))
  := by
  unfold valueOf piecesOf
  cases s.2 with
  | none => rfl
  | some v => rw [Option.map_some, Option.getD_some, String.toList_ofList, expand_eq]

/-! ### Marks -/

/-- Whether a host's environment can have a variable: its name is not empty, and there is no equals
sign and no character zero in it. -/
def settable (name : String) : Bool :=
  name != "" && name.toList.all fun c => c != '=' && c != '\x00'

/-- Whether a piece has something from the host's environment in it, where some variables have been
read before and are marked. -/
def Piece.leadsOut (marks : Table Bool) : Piece → Bool
  | plain _ => false
  | reference name _ => (marks.get? name).getD (settable name)

/-- The variables that some statements define, each with whether its value has something from the
host's environment in it. -/
def traces (statements : List Statement) : Table Bool :=
  statements.foldl (fun marks s => marks.insert s.1 ((piecesOf s).any (·.leadsOut marks))) ∅

/-! ### Comparing values -/

/-- A relation between texts that goes with joining them. -/
structure Joins (R : Bool → List Char → List Char → Prop) : Prop where
  refl : ∀ cs, R false cs cs
  append : ∀ m m' cs cs' ds ds', R m cs ds → R m' cs' ds' → R (m || m') (cs ++ cs') (ds ++ ds')

/-- How two values, which may be missing, are compared. -/
def Valued (R : Bool → List Char → List Char → Prop) (mark : Bool) (x y : Option String) : Prop :=
  R mark (x.getD "").toList (y.getD "").toList

/-- The references of some statements find values that compare in two environments when nothing has
been read before. -/
def Hosts (R : Bool → List Char → List Char → Prop) (a b : Table String)
    (statements : List Statement) : Prop :=
  ∀ s ∈ statements, ∀ name default, .reference name default ∈ piecesOf s →
    R (settable name) ((a.get? name).getD default).toList ((b.get? name).getD default).toList

variable {R : Bool → List Char → List Char → Prop} {a b : Table String} {marks : Table Bool}
  {t u : Table (Option String)} {statements : List Statement}

theorem Joins.flatMap (joins : Joins R) {leads : Piece → Bool} {fill fill' : Piece → List Char}
    {ps : List Piece} (related : ∀ p ∈ ps, R (leads p) (fill p) (fill' p)) :
  R (ps.any leads) (ps.flatMap fill) (ps.flatMap fill')
  := by
  induction ps with
  | nil => exact joins.refl []
  | cons p ps ih =>
    apply joins.append
    · exact related p List.mem_cons_self
    · exact ih fun p mem => related p (List.mem_cons_of_mem _ mem)

/-- A piece compares as its mark says. -/
theorem Piece.related_fill (joins : Joins R) (agree : Table.Agree (Valued R) marks t u)
    (p : Piece) (host : ∀ name default, p = .reference name default →
      R (settable name) ((a.get? name).getD default).toList ((b.get? name).getD default).toList) :
  R (p.leadsOut marks) (p.fill (seek a t)) (p.fill (seek b u))
  := by
  cases p with
  | plain c => exact joins.refl [c]
  | reference name default =>
    rcases agree.get? name with ⟨unmarked, left, right⟩ | ⟨mark, x, y, marked, left, right, related⟩
    · simp only [leadsOut, fill, seek, unmarked, left, right, Option.getD_none]
      exact host name default rfl
    · simp only [leadsOut, fill, seek, marked, left, right, Option.getD_some]
      exact related

/-- The variables that some statements define compare as their marks say. -/
theorem evaluate_agree (joins : Joins R) (hosts : Hosts R a b statements) :
  Table.Agree (Valued R) (traces statements) (evaluate a statements) (evaluate b statements)
  := by
  -- The statements are read in their order, and each sees the marks of those before it.
  have read (marks : Table Bool) (t u : Table (Option String))
      (agree : Table.Agree (Valued R) marks t u) :
      Table.Agree (Valued R)
        (statements.foldl
          (fun marks s => marks.insert s.1 ((piecesOf s).any (·.leadsOut marks))) marks)
        (statements.foldl (fun known s => known.insert s.1 (valueOf a known s)) t)
        (statements.foldl (fun known s => known.insert s.1 (valueOf b known s)) u) := by
    induction statements generalizing marks t u with
    | nil => exact agree
    | cons s rest ih =>
      apply ih fun s' mem => hosts s' (List.mem_cons_of_mem s mem)
      apply agree.insert
      rw [Valued, toList_valueOf, toList_valueOf]
      apply joins.flatMap
      intro p mem
      apply p.related_fill joins agree
      rintro name default rfl
      exact hosts s List.mem_cons_self name default mem
  exact read ∅ ∅ ∅ .empty

/-! ### Two ways to compare -/

/-- A table that can be the environment of a host. -/
def IsHost (environ : Table String) : Prop :=
  ∀ name, settable name = false → environ.get? name = none

/-- Texts without a mark are the same. -/
def Same (mark : Bool) (cs ds : List Char) : Prop :=
  mark = false → cs = ds

theorem joins_same :
  Joins Same
  where
  refl cs _ := rfl
  append m m' cs cs' ds ds' first second none := by
    obtain ⟨none, none'⟩ := Bool.or_eq_false_iff.mp none
    rw [first none, second none']

theorem hosts_same (host : IsHost a) (host' : IsHost b) (statements : List Statement) :
  Hosts Same a b statements
  := by
  intro s mem name default found unsettable
  rw [host name unsettable, host' name unsettable]

/-- A text grows, and one with a mark grows strictly. -/
def Grows (mark : Bool) (cs ds : List Char) : Prop :=
  cs.length ≤ ds.length ∧ (mark = true → cs.length < ds.length)

theorem joins_grows :
  Joins Grows
  where
  refl cs := ⟨Nat.le_refl _, nofun⟩
  append m m' cs cs' ds ds' first second := by
    simp only [Grows, List.length_append, Bool.or_eq_true] at *
    refine ⟨by omega, ?_⟩
    rintro (marked | marked)
    · have := first.2 marked
      omega
    · have := second.2 marked
      omega

end Muster.EnvFile
