import Muster.Environment
import Muster.Proofs.Table
/-!
# Layers of an environment

An environment is put together unless one of its files is missing, whatever the host's environment
is.  Of several layers that have a variable the last one counts.
-/

namespace Muster

namespace Environment

variable {files : Files} {environ : Table String} {base : String} {paths : List String}

/-- The statements of an environment file; a directory has none. -/
def fileStatements (files : Files) (path : String) : List EnvFile.Statement :=
  match files.read path with
  | .ok content => EnvFile.statements content
  | .error _ => []

/-- The layer of an environment file that there is. -/
def layer (files : Files) (environ : Table String) (path : String) : Table String :=
  (EnvFile.evaluate environ (fileStatements files path)).map (·.getD "")

theorem fileLayer_eq (files : Files) (environ : Table String) (path : String) :
  fileLayer files environ path = if files.exists path then .ok (layer files environ path)
    else .error (.stack (.startFailed ("env file " ++ path ++ " not found")))
  := by
  unfold fileLayer layer fileStatements
  cases files.read path <;> rfl

/-- The fault of the first file that is missing. -/
def missing? (files : Files) (base : String) (paths : List String) : Option Fault :=
  (paths.find? fun path => !files.exists (Path.join base path)).map fun path =>
    .stack (.startFailed ("env file " ++ Path.join base path ++ " not found"))

theorem fileLayers_eq (files : Files) (environ : Table String) (base : String)
    (paths : List String) :
  fileLayers files environ base paths = match missing? files base paths with
    | some fault => .error fault
    | none => .ok (paths.map fun path => layer files environ (Path.join base path))
  := by
  induction paths with
  | nil => rfl
  | cons path paths ih =>
    unfold fileLayers at ih ⊢
    rw [List.mapM_cons, fileLayer_eq, ih]
    cases there : files.exists (Path.join base path) with
    | false => simp [missing?, there, bind, Except.bind]
    | true =>
      have same : missing? files base (path :: paths) = missing? files base paths := by
        simp [missing?, there]
      rw [same]
      cases missing? files base paths <;> rfl

/-- An environment is put together unless a file is missing. -/
theorem merge_eq (files : Files) (environ : Table String) (base : String) (inherits : Bool)
    (paths : List String) (explicit extra : Table String) :
  merge files environ base inherits paths explicit extra = match missing? files base paths with
    | some fault => .error fault
    | none => .ok (overlay ((if inherits then environ else ∅)
        :: paths.map (fun path => layer files environ (Path.join base path)) ++ [explicit, extra]))
  := by
  rw [merge, fileLayers_eq]
  cases missing? files base paths <;> rfl

/-- No file is missing when there are all of them. -/
theorem missing?_eq_none (there : ∀ path ∈ paths, files.exists (Path.join base path) = true) :
  missing? files base paths = none
  := by
  rw [missing?, Option.map_eq_none_iff, List.find?_eq_none]
  intro path mem
  simp [there path mem]

theorem missing?_eq_some {fault : Fault} (missing : missing? files base paths = some fault) :
  ∃ path ∈ paths, files.exists (Path.join base path) = false
    ∧ fault = .stack (.startFailed ("env file " ++ Path.join base path ++ " not found"))
  := by
  obtain ⟨path, found, rfl⟩ := Option.map_eq_some_iff.mp missing
  refine ⟨path, List.mem_of_find?_eq_some found, ?_, rfl⟩
  simpa using List.find?_some found

/-- Of several layers that have a variable the last one counts. -/
theorem get?_overlay {α : Type} (layers : List (Table α)) (name : String) :
  (overlay layers).get? name = layers.reverse.findSome? (·.get? name)
  := by
  suffices laid : ∀ t : Table α,
      (layers.foldl (fun t layer => t.insertAll layer.entries) t).get? name
        = (layers.reverse.findSome? (·.get? name)).or (t.get? name) by
    rw [overlay, laid]
    exact Option.or_none
  induction layers with
  | nil => exact fun _ => rfl
  | cons layer layers ih =>
    intro t
    rw [List.foldl_cons, ih, Table.get?_insertAll, List.reverse_cons, List.findSome?_append,
      Option.or_assoc]
    simp

end Environment

end Muster
