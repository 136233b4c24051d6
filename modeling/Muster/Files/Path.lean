import Muster.Text.Split
/-!
# Paths

A path is a text whose parts stand between slashes.  One that begins with a slash is absolute,
any other starts at some directory.
-/

namespace Muster.Path

/-- The parts of a path; two slashes in a row have an empty part between them. -/
def parts (path : String) : List String :=
  Text.split '/' path

/-- Whether a path is absolute. -/
def isAbsolute (path : String) : Bool :=
  path.toList.head? == some '/'

/-- A path that starts at a directory. -/
def join (directory path : String) : String :=
  if isAbsolute path then path
  else if directory.isEmpty || directory.toList.getLast? == some '/' then directory ++ path
  else directory ++ "/" ++ path

/-- What stands after the last slash of a path. -/
def name (path : String) : String :=
  (parts path).getLast?.getD ""

/-- What stands before the last slash of a path, without slashes at its end unless it has nothing
else. -/
def directory (path : String) : String :=
  let cs := path.toList
  let head := (cs.reverse.dropWhile (· != '/'))
  let stripped := head.dropWhile (· == '/')
  String.ofList (if stripped.isEmpty then head.reverse else stripped.reverse)

/-- Drops the parts of an absolute path that say nothing, and lets two dots cancel the part before
them; `done` holds the last part first. -/
def settle : (done left : List String) → List String
  | done, [] => done.reverse
  | done, part :: left =>
    if part = "" ∨ part = "." then settle done left
    else if part = ".." then settle (done.drop 1) left
    else settle (part :: done) left

/-- The absolute form of a path that starts at an absolute directory.  Exactly two slashes at the
beginning are kept. -/
def absolute (current path : String) : String :=
  let path := join current path
  let slashes := path.toList.takeWhile (· == '/')
  (if slashes.length = 2 then "//" else "/") ++ "/".intercalate (settle [] (parts path))

end Muster.Path
