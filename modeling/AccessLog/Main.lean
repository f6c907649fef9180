import AccessLog.Console.Toolkit

/-!
# The program

The outer layer: it looks at the file system, hands what it finds to the program, and prints the
outcome. Which path to look at is known once the arguments have been read; a path that nothing asks
for leads nowhere.
-/

namespace AccessLog

/-- Whether an entry is a regular file. What cannot be looked at is none. -/
def isFile (e : IO.FS.DirEntry) : IO Bool := do
  try
    return (← e.path.metadata).type matches .file
  catch _ =>
    return false

/-- Whether looking at an entry is forbidden. -/
def isForbidden (e : IO.FS.DirEntry) : IO Bool := do
  try
    let _ ← e.path.metadata
    return false
  catch err =>
    return err matches .permissionDenied ..

/-- The content of a folder entry. -/
def readEntry (e : IO.FS.DirEntry) : IO Entry := do
  if ← isFile e then
    try
      return .file ⟨e.fileName, (← IO.FS.readBinFile e.path).toList, none⟩
    catch err =>
      return .file ⟨e.fileName, [], some (.opening (.other (toString err)))⟩
  else
    return .folder e.fileName

/-- A folder with some entries. -/
def readFolder (entries : List IO.FS.DirEntry) : IO Place := do
  let forbidden ← entries.filterM isForbidden
  if forbidden.isEmpty then
    return .folder (← entries.mapM readEntry)
  else
    let seen ← entries.filterM fun e => return !(← isForbidden e)
    return .guarded (← seen.mapM readEntry)
      (forbidden.map fun e => ⟨e.fileName, 13, "Permission denied"⟩)

/-- What a path leads to, seen from the working folder. An empty path leads nowhere. -/
def readPlace (path : String) : IO Place := do
  if path.isEmpty then return .missing
  let asked : IO.FS.DirEntry := ⟨".", path⟩
  try
    match (← asked.path.metadata).type with
    | .dir => readFolder (← asked.path.readDir).toList
    | .file => return .file
    | _ => return .refused .notFolder
  catch err =>
    match err with
    | .noFileOrDirectory .. => return .missing
    | .inappropriateType .. => return .refused .notFolder
    | .invalidArgument .. => return .refused .nameTooLong
    | err => return .refused (.other (toString err))

/-- Prints an outcome. -/
def report (o : Command.Outcome) : IO UInt32 := do
  for e in o.log do
    IO.eprintln s!"{e.level.name} {e.message}"
  IO.print o.output
  IO.eprint o.errors
  for r in o.raised do
    IO.eprintln r.message
  return o.exit.toUInt32

/-- The year that typed years of two digits are near. -/
def presentYear : Nat := 2026

end AccessLog

open AccessLog in
/-- Runs the program on its arguments. -/
def main (args : List String) : IO UInt32 := do
  let kit := Console.toolkit presentYear
  match kit.call kit.readDate (fun _ => .missing) args with
  | .command src _ =>
    let asked ← readPlace src.directory
    let listed ← readPlace (Path.normal src.directory)
    report (kit.run (fun path => if path = src.directory then asked else listed) args)
  | .ended .. => report (kit.run (fun _ => .missing) args)
