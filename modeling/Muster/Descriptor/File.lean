import Muster.Descriptor.Reader
import Muster.EnvFile
import Muster.Files
import Muster.Yaml.Load
/-!
# Descriptor files

A descriptor is read from a file.  Unless variables are given, those of the environment count,
and before them those of a file named `.env` in the directory of the descriptor.  Without a name
the project is named after that directory.
-/

namespace Muster.Descriptor

/-- The variables that a descriptor in a directory is read with. -/
def contextIn (files : Files) (environ : Table String) (directory : String) : Table String :=
  match files.read (Path.join directory ".env") with
  | .ok content =>
    let given := (EnvFile.read environ content).entries.filterMap fun e =>
      e.2.map fun v => (e.1, v)
    (Table.ofList given).insertAll environ.entries
  | .error _ => environ

/-- Reads the descriptor in a file. -/
def ofFile (files : Files) (environ : Table String) (context : Option (Table String))
    (path : String) (project : Option String) : Except Fault (Descriptor × List String) := do
  let content ← (files.read path).mapError .file
  let directory := Path.directory (files.absolute path)
  let context := context.getD (contextIn files environ directory)
  let base := Path.name directory
  let project := project.getD (if base.isEmpty then "default" else base)
  let document ← Yaml.load content
  read project context document

end Muster.Descriptor
