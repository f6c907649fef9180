import AccessLog.Text.Separated

/-!
# Paths

A path is written as components with a slash before each but the first, and a leading slash if it
starts at the root. In the normal form there are no empty components and none that is a single full
stop; a component of two full stops stays, since what it leads to depends on the files. A path that
starts with exactly two slashes keeps them, and the normal form of a path without components is a
full stop.
-/

namespace AccessLog

namespace Path

/-- The components of a path, without those that lead nowhere. -/
def components (path : String) : List (List Char) :=
  (Text.pieces ['/'] path.toList).filter fun c => !c.isEmpty && c ≠ ['.']

/-- What a path starts with if it starts at the root. -/
def root (path : String) : String :=
  match (path.toList.takeWhile (· == '/')).length with
  | 0 => ""
  | 2 => "//"
  | _ => "/"

/-- The normal form of a path. -/
def normal (path : String) : String :=
  let whole := root path ++ "/".intercalate ((components path).map String.ofList)
  if whole.isEmpty then "." else whole

/-- The path of an entry of a folder whose path is in normal form. -/
def child (folder name : String) : String :=
  if folder = "." then name
  else if folder = "/" ∨ folder = "//" then folder ++ name
  else folder ++ "/" ++ name

/-- The last component of a path, empty if there is none. -/
def name (path : String) : String := String.ofList ((components path).getLast?.getD [])

end Path

end AccessLog
