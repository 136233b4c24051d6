import Muster.Proofs.Environment
/-!
# How an environment is put together

The layers of an environment are the host's environment, if it is inherited, the environment files
in their order, the service's own variables and some given at last.  The environment lays them over
one another, and that in two opposite ways: a variable has the value of the last layer that has it,
and stands where the first layer that has it puts it.  There is no environment when a file is
missing, and the fault names the first file that is.
-/

namespace Muster

namespace Environment

/-! ### Tables laid over one another -/

/-- A table lays some layers over one another, the lowest of which comes first. -/
structure LaysOver {α : Type} (layers : List (Table α)) (t : Table α) : Prop where
  /-- A key is there when a layer has it. -/
  mem_keys_iff : ∀ key, key ∈ t.keys ↔ ∃ layer ∈ layers, key ∈ layer.keys
  /-- It has the value of the last layer that has it. -/
  last : ∀ below layer above, layers = below ++ layer :: above → ∀ key value,
    layer.get? key = some value → (∀ other ∈ above, key ∉ other.keys) → t.get? key = some value
  /-- It stands where it comes first. -/
  order : t.keys = (layers.flatMap Table.keys).eraseDups

variable {α : Type} {layers : List (Table α)} {t u : Table α}

/-- A key of some layers is one of a last layer that has it. -/
theorem exists_last {key : String} (there : ∃ layer ∈ layers, key ∈ layer.keys) :
  ∃ below layer above, layers = below ++ layer :: above ∧ key ∈ layer.keys
    ∧ ∀ other ∈ above, key ∉ other.keys
  := by
  induction layers with
  | nil =>
    obtain ⟨layer, mem, -⟩ := there
    cases mem
  | cons first layers ih =>
    by_cases later : ∃ layer ∈ layers, key ∈ layer.keys
    · obtain ⟨below, layer, above, rfl, has, last⟩ := ih later
      use first :: below, layer, above, rfl
    · obtain ⟨layer, mem, has⟩ := there
      have here : layer = first :=
        (List.mem_cons.mp mem).resolve_right fun mem => later ⟨layer, mem, has⟩
      use [], first, layers, rfl, here ▸ has
      intro other mem has
      apply later ⟨other, mem, has⟩

/-- There is one table only that lays some layers over one another. -/
theorem LaysOver.unique (one : LaysOver layers t) (other : LaysOver layers u) :
  t = u
  := by
  apply Table.eq_of_keys_of_get? (one.order.trans other.order.symm)
  intro key
  by_cases there : ∃ layer ∈ layers, key ∈ layer.keys
  · obtain ⟨below, layer, above, rfl, has, last⟩ := exists_last there
    obtain ⟨value, found⟩ := Option.isSome_iff_exists.mp (Table.contains_iff.mpr has)
    rw [one.last below layer above rfl key value found last,
      other.last below layer above rfl key value found last]
  · have absent {v : Table α} (lays : LaysOver layers v) : v.get? key = none := by
      apply Table.get?_eq_none_of_not_mem
      rwa [lays.mem_keys_iff]
    rw [absent one, absent other]

/-- Layers are laid over one another by putting all their entries into one table. -/
theorem overlay_eq_ofList (layers : List (Table α)) :
  overlay layers = Table.ofList (layers.flatMap Table.entries)
  := by
  rw [Table.ofList, Table.insertAll, List.foldl_flatMap]
  rfl

theorem keys_overlay (layers : List (Table α)) :
  (overlay layers).keys = (layers.flatMap Table.keys).eraseDups
  := by
  rw [overlay_eq_ofList, Table.keys_ofList, List.map_flatMap]
  rfl

theorem laysOver_overlay (layers : List (Table α)) :
  LaysOver layers (overlay layers)
  where
  mem_keys_iff key := by
    rw [keys_overlay, List.mem_eraseDups, List.mem_flatMap]
  last := by
    rintro below layer above rfl key value found last
    have passed : above.reverse.findSome? (·.get? key) = none := by
      rw [List.findSome?_eq_none_iff]
      intro other mem
      apply Table.get?_eq_none_of_not_mem (last other (List.mem_reverse.mp mem))
    simp [get?_overlay, passed, found]
  order := keys_overlay layers

/-! ### The layers of an environment -/

/-- What stands in an environment file: variables, which need not have a value.  Nothing stands in a
directory. -/
def fileVariables (files : Files) (environ : Table String) (path : String) :
    Table (Option String) :=
  match files.read path with
  | .ok content => EnvFile.read environ content
  | .error _ => ∅

/-- The layers of an environment, the lowest first.  A variable of a file that has no value counts
as empty. -/
def layersOf (files : Files) (environ : Table String) (base : String) (inherits : Bool)
    (paths : List String) (explicit extra : Table String) : List (Table String) :=
  (if inherits then [environ] else [])
    ++ paths.map (fun path => (fileVariables files environ (Path.join base path)).map (·.getD ""))
    ++ [explicit, extra]

/-- The first of some files that is missing. -/
def IsFirstMissing (files : Files) (base : String) (paths : List String) (path : String) : Prop :=
  ∃ before after, paths = before ++ path :: after ∧ files.exists (Path.join base path) = false
    ∧ ∀ earlier ∈ before, files.exists (Path.join base earlier) = true

variable {files : Files} {base : String} {paths : List String}

theorem missing?_cases (files : Files) (base : String) (paths : List String) :
  (∃ path, IsFirstMissing files base paths path ∧ missing? files base paths
      = some (.stack (.startFailed ("env file " ++ Path.join base path ++ " not found"))))
    ∨ (∀ path ∈ paths, files.exists (Path.join base path) = true)
      ∧ missing? files base paths = none
  := by
  rw [missing?]
  cases found : paths.find? fun path => !files.exists (Path.join base path) with
  | some path =>
    obtain ⟨missing, before, after, rfl, there⟩ := List.find?_eq_some_iff_append.mp found
    exact .inl ⟨path, ⟨before, after, rfl, by simpa using missing, by simpa using there⟩, rfl⟩
  | none => exact .inr ⟨by simpa using found, rfl⟩

theorem fileVariables_eq (files : Files) (environ : Table String) (path : String) :
  (fileVariables files environ path).map (·.getD "") = layer files environ path
  := by
  rw [fileVariables, layer, fileStatements]
  cases files.read path <;> rfl

/-- A host's environment that is not inherited is an empty layer, which makes no difference. -/
theorem overlay_layersOf (files : Files) (environ : Table String) (base : String) (inherits : Bool)
    (paths : List String) (explicit extra : Table String) :
  overlay ((if inherits then environ else ∅)
      :: paths.map (fun path => layer files environ (Path.join base path)) ++ [explicit, extra])
    = overlay (layersOf files environ base inherits paths explicit extra)
  := by
  simp only [layersOf, fileVariables_eq]
  cases inherits <;> rfl

/-- When an environment file is missing, the first one that is missing is named.  Otherwise there is
an environment, which lays its layers over one another. -/
theorem merge_layers (files : Files) (environ : Table String) (base : String) (inherits : Bool)
    (paths : List String) (explicit extra : Table String) :
  (∃ path, IsFirstMissing files base paths path
      ∧ merge files environ base inherits paths explicit extra
        = .error (.stack (.startFailed ("env file " ++ Path.join base path ++ " not found"))))
    ∨ (∀ path ∈ paths, files.exists (Path.join base path) = true)
      ∧ ∃ merged, merge files environ base inherits paths explicit extra = .ok merged
        ∧ LaysOver (layersOf files environ base inherits paths explicit extra) merged
  := by
  rw [merge_eq]
  rcases missing?_cases files base paths with ⟨path, first, missing⟩ | ⟨there, missing⟩
  · rw [missing]
    exact .inl ⟨path, first, rfl⟩
  · rw [missing, overlay_layersOf]
    exact .inr ⟨there, _, rfl, laysOver_overlay _⟩

/-- A variable of the host keeps its place when a file gives it another value, and one that a file
only names is empty. -/
example :
  (merge (Files.ofList ["desk"] [("one.env", "A=1\nB\nA=2\n"), ("two.env", "C=3\nE\n")])
      (Table.ofList [("C", "0"), ("H", "0")]) "." true ["one.env", "two.env"]
      (Table.ofList [("B", "4")]) (Table.ofList [("D", "5"), ("A", "6")])).toOption.map (·.entries)
    = some [("C", "3"), ("H", "0"), ("A", "6"), ("B", "4"), ("E", ""), ("D", "5")]
  := by decide +kernel

end Environment

end Muster
