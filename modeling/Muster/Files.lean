import Muster.Fault
import Muster.Files.Path
import Muster.Table
import Muster.Text.Lines
/-!
# Files

A tree of files and directories with a current directory.  Every file and directory stands under
its absolute path, which is kept as the list of its parts.
-/

namespace Muster

/-- What stands under a path. -/
inductive FileNode where
  | directory
  | file (content : String)
deriving Repr, DecidableEq

/-- A tree of files and directories with a current directory. -/
structure Files where
  /-- The parts of the path of the current directory. -/
  current : List String
  /-- What there is, under the slash-separated parts of its path. -/
  nodes : Table FileNode := ∅

namespace Files

/-- The key of an absolute path. -/
def key (parts : List String) : String :=
  "/".intercalate parts

/-- What stands under an absolute path. -/
def at? (t : Files) (parts : List String) : Option FileNode :=
  if parts.isEmpty then some .directory else t.nodes.get? (key parts)

/-- Puts something under an absolute path, together with the directories above it. -/
def put (t : Files) (parts : List String) (node : FileNode) : Files :=
  let above := (List.range parts.length).map parts.take
  let nodes := above.foldl (fun nodes p =>
    if nodes.contains (key p) then nodes else nodes.insert (key p) .directory) t.nodes
  { t with nodes := nodes.insert (key parts) node }

/-- Follows the parts of a path from a directory, whose parts stand last first. -/
def follow (t : Files) : (done left : List String) → Except FileFault (List String)
  | done, [] => .ok done.reverse
  | done, part :: left =>
    if part = "" ∨ part = "." then follow t done left
    else if part = ".." then follow t (done.drop 1) left
    else
      let here := part :: done
      match t.at? here.reverse with
      | none => .error .notFound
      | some .directory => follow t here left
      | some (.file _) => if left.isEmpty then .ok here.reverse else .error .notDirectory

/-- The parts of the absolute path that a path leads to. -/
def locate (t : Files) (path : String) : Except FileFault (List String) :=
  if path.isEmpty then .error .notFound
  else t.follow (if Path.isAbsolute path then [] else t.current.reverse) (Path.parts path)

/-- What a path leads to. -/
def find (t : Files) (path : String) : Except FileFault FileNode :=
  match t.locate path with
  | .error fault => .error fault
  | .ok parts =>
    match t.at? parts with
    | some node => .ok node
    | none => .error .notFound

/-- Whether a path leads to anything. -/
def «exists» (t : Files) (path : String) : Bool :=
  (t.find path).toOption.isSome

/-- The content of the file that a path leads to. -/
def content (t : Files) (path : String) : Except FileFault String :=
  match t.find path with
  | .ok (.file content) => .ok content
  | .ok .directory => .error .isDirectory
  | .error fault => .error fault

/-- The text of the file that a path leads to, with line feeds at the ends of its lines. -/
def read (t : Files) (path : String) : Except FileFault String :=
  (t.content path).map fun s => String.ofList (Text.unifyLineEnds s.toList)

/-- Makes the directories of an absolute path that do not exist, where `done` is their part that
does. -/
def makeFrom (t : Files) : (done left : List String) → Except FileFault Files
  | _, [] => .ok t
  | done, part :: left =>
    let here := done ++ [part]
    match t.at? here with
    | some .directory => makeFrom t here left
    | some (.file _) => .error (if left.isEmpty then .occupied else .notDirectory)
    | none => makeFrom (t.put here .directory) here left

/-- Makes a directory and those above it, as far as they do not exist. -/
def makeDirectories (t : Files) (path : String) : Except FileFault Files :=
  t.makeFrom [] (Path.settle (if Path.isAbsolute path then [] else t.current.reverse)
    (Path.parts path))

/-- The absolute form of a path. -/
def absolute (t : Files) (path : String) : String :=
  Path.absolute ("/" ++ key t.current) path

/-- A tree with some files below its current directory. -/
def ofList (current : List String) (files : List (String × String)) : Files :=
  let t : Files := { current }
  let t := t.put current .directory
  files.foldl (fun t f => t.put (Path.settle current.reverse (Path.parts f.1)) (.file f.2)) t

end Files

end Muster
