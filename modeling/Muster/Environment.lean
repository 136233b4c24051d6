import Muster.EnvFile
import Muster.Files
/-!
# Environments

The environment of a service is put together from several layers, of which later ones count
more: the host's environment, the environment files of the service, its own variables, and some
given at last.  A variable keeps the place of its first mention.
-/

namespace Muster.Environment

/-- The layer that an environment file makes.  A directory makes an empty one. -/
def fileLayer (files : Files) (environ : Table String) (path : String) :
    Except Fault (Table String) :=
  if files.exists path then
    match files.read path with
    | .ok content => .ok ((EnvFile.read environ content).map (·.getD ""))
    | .error _ => .ok ∅
  else .error (.stack (.startFailed ("env file " ++ path ++ " not found")))

/-- The layers that some environment files make. -/
def fileLayers (files : Files) (environ : Table String) (base : String) (paths : List String) :
    Except Fault (List (Table String)) :=
  paths.mapM fun path => fileLayer files environ (Path.join base path)

/-- A table made of layers, later ones over earlier ones. -/
def overlay {α : Type} (layers : List (Table α)) : Table α :=
  layers.foldl (fun t layer => t.insertAll layer.entries) ∅

/-- The environment of a service.  `inherits` says whether the host's environment is the lowest
layer. -/
def merge (files : Files) (environ : Table String) (base : String) (inherits : Bool)
    (paths : List String) (explicit extra : Table String) : Except Fault (Table String) := do
  let layers ← fileLayers files environ base paths
  let host := if inherits then environ else ∅
  return overlay (host :: layers ++ [explicit, extra])

/-- The variables that a block lists: each as a name, an equals sign and a value, with the character
zero after it. -/
def ofBlock (block : String) : Table String :=
  Table.ofList ((Text.split '\x00' block).filterMap (Text.cutAt '='))

end Muster.Environment
