import Muster.Proofs.Environment
import Muster.Proofs.Environment.Trace
/-!
# What an environment borrows from the host

The environment of a service is borrowed, in part, when a variable that an environment file defines
refers to a variable of the host and no later layer replaces it.  A borrowed variable is not the
same in all environments of the host: it has a longer value in one that has long values for all that
the files refer to.  Everything else is the same in all of them.
-/

namespace Muster.Environment

open EnvFile

variable {files : Files} {base : String} {paths : List String} {explicit a b : Table String}

/-- The environment of a service that does not inherit the host's, when no file is missing. -/
def ofFiles (files : Files) (environ : Table String) (base : String) (paths : List String)
    (explicit : Table String) : Table String :=
  overlay (∅ :: paths.map (fun path => layer files environ (Path.join base path)) ++ [explicit, ∅])

/-- The variables of that environment, each with whether it is borrowed from the host. -/
def borrowed (files : Files) (base : String) (paths : List String) (explicit : Table String) :
    Table Bool :=
  overlay (∅ :: paths.map (fun path => traces (fileStatements files (Path.join base path)))
    ++ [explicit.map fun _ => false, ∅])

/-- The environments of a service compare as their marks say. -/
theorem ofFiles_agree {R : Bool → List Char → List Char → Prop} (joins : Joins R)
    (explicit : Table String)
    (hosts : ∀ path ∈ paths, Hosts R a b (fileStatements files (Path.join base path))) :
  Table.Agree (fun mark x y => R mark x.toList y.toList) (borrowed files base paths explicit)
    (ofFiles files a base paths explicit) (ofFiles files b base paths explicit)
  := by
  let layers : List (Table Bool × Table String × Table String) :=
    (∅, ∅, ∅) :: paths.map (fun path => (traces (fileStatements files (Path.join base path)),
      layer files a (Path.join base path), layer files b (Path.join base path)))
    ++ [(explicit.map fun _ => false, explicit, explicit), (∅, ∅, ∅)]
  have agree : ∀ i ∈ layers, Table.Agree (fun mark x y => R mark x.toList y.toList) i.1 i.2.1 i.2.2 := by
    simp only [layers, List.cons_append, List.forall_mem_cons, List.forall_mem_append,
      List.forall_mem_map]
    refine ⟨.empty, fun path mem => ?_, ?_, .empty, nofun⟩
    · exact (evaluate_agree joins (hosts path mem)).map _ fun _ _ _ related => related
    · exact .refl (fun x => joins.refl x.toList) explicit
  simpa [layers, borrowed, ofFiles, Function.comp_def] using Table.Agree.overlay layers agree

/-- What is not borrowed is the same in all environments of the host. -/
theorem ofFiles_eq_of_not_borrowed (host : IsHost a) (host' : IsHost b)
    (own : ∀ name, (borrowed files base paths explicit).get? name ≠ some true) :
  ofFiles files a base paths explicit = ofFiles files b base paths explicit
  := by
  have agree := ofFiles_agree joins_same explicit fun path (_ : path ∈ paths) =>
    hosts_same host host' (fileStatements files (Path.join base path))
  exact agree.eq (fun x y same => String.toList_inj.mp (same rfl)) own

/-! ### An environment with long values -/

/-- The variable that a piece refers to, if the environment of a host can have it. -/
def sought? : Piece → Option String
  | .plain _ => none
  | .reference name _ => if settable name then some name else none

/-- What stands for a missing variable. -/
def substitute : Piece → List Char
  | .plain _ => []
  | .reference _ default => default.toList

/-- An environment with a value for every variable that some pieces refer to, longer than whatever
stands for a missing one. -/
def loud (ps : List Piece) : Table String :=
  let value := String.ofList ('x' :: (ps.map substitute).flatten)
  Table.ofList ((ps.filterMap sought?).map (·, value))

theorem get?_ofList_same {α : Type} (names : List String) (value : α) (name : String) :
  (Table.ofList (names.map (·, value))).get? name = if name ∈ names then some value else none
  := by
  have inserted (t : Table α) : (t.insertAll (names.map (·, value))).get? name
      = if name ∈ names then some value else t.get? name := by
    induction names generalizing t with
    | nil => rfl
    | cons first names ih =>
      rw [List.map_cons, Table.insertAll, List.foldl_cons, ← Table.insertAll, ih, Table.get?_insert]
      by_cases later : name ∈ names <;> simp [later]
  exact inserted Table.empty

theorem isHost_loud (ps : List Piece) :
  IsHost (loud ps)
  := by
  intro name unsettable
  rw [loud, get?_ofList_same, if_neg]
  intro mem
  obtain ⟨p, -, sought⟩ := List.mem_filterMap.mp mem
  cases p with
  | plain c => cases sought
  | reference name' default =>
    rw [sought?] at sought
    split at sought
    · next settable =>
      cases sought
      cases settable.symm.trans unsettable
    · cases sought

/-- All that is referred to is longer in the loud environment than in none. -/
theorem hosts_grows {ps : List Piece} {statements : List Statement}
    (among : ∀ s ∈ statements, piecesOf s ⊆ ps) :
  Hosts Grows ∅ (loud ps) statements
  := by
  intro s mem name default found
  have within : .reference name default ∈ ps := among s mem found
  cases possible : settable name with
  | false =>
    rw [isHost_loud ps name possible]
    exact joins_grows.refl _
  | true =>
    have sought : name ∈ ps.filterMap sought? :=
      List.mem_filterMap.mpr ⟨_, within, by simp [sought?, possible]⟩
    have short : default.toList.length ≤ (ps.map substitute).flatten.length :=
      (List.sublist_flatten_of_mem (List.mem_map_of_mem (f := substitute) within)).length_le
    have unset : (∅ : Table String).get? name = none := rfl
    rw [loud, get?_ofList_same, if_pos sought, unset]
    simp only [Grows, Option.getD_none, Option.getD_some, String.toList_ofList, List.length_cons]
    constructor <;> omega

/-- A borrowed variable is not the same in all environments of the host. -/
theorem exists_ofFiles_ne_of_borrowed {name : String}
    (taken : (borrowed files base paths explicit).get? name = some true) :
  ∃ a b, IsHost a ∧ IsHost b
    ∧ (ofFiles files a base paths explicit).get? name ≠ (ofFiles files b base paths explicit).get? name
  := by
  let ps := paths.flatMap fun path =>
    (fileStatements files (Path.join base path)).flatMap piecesOf
  -- The value is longer in the loud environment than in the empty one, whatever else is in it.
  refine ⟨∅, loud ps, fun _ _ => rfl, isHost_loud ps, ?_⟩
  have agree := ofFiles_agree joins_grows explicit fun path mem =>
    hosts_grows fun s among p found => show p ∈ ps from
      List.mem_flatMap.mpr ⟨path, mem, List.mem_flatMap.mpr ⟨s, among, found⟩⟩
  rcases agree.get? name with ⟨unmarked, -, -⟩ | ⟨mark, x, y, marked, left, right, grows⟩
  · cases unmarked.symm.trans taken
  · cases marked.symm.trans taken
    rw [left, right]
    rintro ⟨⟩
    exact absurd (grows.2 rfl) (Nat.lt_irrefl _)

end Muster.Environment
