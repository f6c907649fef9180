import AccessLog.Directory

/-!
# Trees of files

A tree is a file or a folder with what is in it, and a path is looked up in it component by
component from the root, or from the working folder if the path does not start with a slash. An
empty component and a single full stop stay in the folder, and two full stops lead to the folder
above, which for the root is the root itself. Nothing, not even an empty component, leads on from a
file. A path may be too long, as a whole or in one component.
-/

namespace AccessLog

/-- A file or a folder, with what is in it. -/
inductive FileTree where
  /-- A regular file: its content, and where reading it fails, if it does. -/
  | file (bytes : List UInt8) (interrupt : Option Interrupt)
  /-- A folder: what it holds, by name. -/
  | folder (entries : List (String × FileTree))

namespace FileTree

/-- What a folder shows of something that it holds under a name. -/
def entry (name : String) : FileTree → Entry
  | file bytes interrupt => .file ⟨name, bytes, interrupt⟩
  | folder _ => .folder name

/-- What a tree is as the place that a path leads to. -/
def place : FileTree → Place
  | file .. => .file
  | folder entries => .folder (entries.map fun e => entry e.1 e.2)

/-- The most bytes that a component of a path may have. -/
def maxComponent : Nat := 255

/-- The most bytes that a path may have. -/
def maxPath : Nat := 4095

/-- What the components of a path lead to from a tree, below the given folders, the nearest first.
-/
def walk : List FileTree → FileTree → List String → Except ReadFailure FileTree
  | _, t, [] => .ok t
  | _, file .., _ :: _ => .error .notFolder
  | above, folder entries, c :: cs =>
    if c = "" ∨ c = "." then walk above (folder entries) cs
    else if c = ".." then
      match above with
      | [] => walk [] (folder entries) cs
      | up :: rest => walk rest up cs
    else if maxComponent < c.utf8ByteSize then .error .nameTooLong
    else
      match entries.lookup c with
      | none => .error .missing
      | some t => walk (folder entries :: above) t cs

/-- What a path leads to in the tree of the given root, seen from a working folder that is given by
its components. -/
def look (root : FileTree) (working : List String) (path : String) : Place :=
  let start := match path.toList with
    | '/' :: _ => []
    | _ => working
  if path.isEmpty then .missing
  else if maxPath < path.utf8ByteSize then .refused .nameTooLong
  else
    match walk [] root (start ++ (Text.pieces ['/'] path.toList).map String.ofList) with
    | .ok t => t.place
    | .error .missing => .missing
    | .error failure => .refused failure

end FileTree

end AccessLog
