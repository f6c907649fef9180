import AccessLog.Path
import AccessLog.Settings
import AccessLog.Text.LowerCase

/-!
# Directories and their log files

What a path leads to is a folder, a regular file, nothing, or something that cannot be listed. A
folder has entries, and those that are regular files and whose names end with the extension, both
taken in lower case, are its log files. They are read in the order of their names by code points.

A file can fail to be opened, or reading it can fail after some of its lines. What a failure is
called is its reason: the text that the system gives for it, or its number where the system gives
none.

A guarded folder can be listed, but what some of its entries are cannot be found out. Where the name
of such an entry ends with the extension this is no failure to be reported: unless the system says
that there is no such entry, it ends everything.
-/

namespace AccessLog

/-- Why a folder or a file cannot be read. -/
inductive ReadFailure where
  /-- The path leads to nothing. -/
  | missing
  /-- The path leads to, or over, something where a folder is wanted and that is none. -/
  | notFolder
  /-- The path, or one of its components, is too long. -/
  | nameTooLong
  /-- The system reports an error by number and text. -/
  | system (number : Int) (text : String)
  /-- The reading fails with a message of its own. -/
  | other (message : String)
deriving DecidableEq, Repr

/-- What a failure is called. -/
def ReadFailure.reason : ReadFailure → String
  | .missing => "No such file or directory"
  | .notFolder => "Not a directory"
  | .nameTooLong => "File name too long"
  | .system number text => if text.isEmpty then s!"[Errno {number}] " else text
  | .other message => message

/-- A failure to read a file to its end. -/
inductive Interrupt where
  /-- The file cannot be opened. -/
  | opening (failure : ReadFailure)
  /-- Reading fails after a number of lines. -/
  | reading (lines : Nat) (failure : ReadFailure)
deriving DecidableEq, Repr

namespace Interrupt

/-- The number of lines that are read before. -/
def after : Interrupt → Nat
  | opening _ => 0
  | reading lines _ => lines

/-- What fails. -/
def failure : Interrupt → ReadFailure
  | opening failure => failure
  | reading _ failure => failure

/-- Why a file cannot be opened, if it cannot. -/
def opening? : Interrupt → Option ReadFailure
  | opening failure => some failure
  | reading _ _ => none

end Interrupt

/-- A regular file. -/
structure SourceFile where
  /-- The name. -/
  name : String
  /-- The content. -/
  bytes : List UInt8
  /-- Where reading the file fails, if it does. -/
  interrupt : Option Interrupt := none
deriving DecidableEq, Repr

/-- What a folder holds under a name. -/
inductive Entry where
  /-- A regular file. -/
  | file (f : SourceFile)
  /-- Something else, such as a folder. -/
  | folder (name : String)
deriving DecidableEq, Repr

namespace Entry

/-- The name of an entry. -/
def name : Entry → String
  | file f => f.name
  | folder n => n

/-- The regular file that an entry is. -/
def file? : Entry → Option SourceFile
  | file f => some f
  | folder _ => none

/-- The entries are read in the order of their names. -/
def notAfter (a b : Entry) : Bool := decide (a.name ≤ b.name)

end Entry

/-- An entry that cannot be looked at. -/
structure Unseen where
  /-- Its name. -/
  name : String
  /-- The number that the system gives for this. -/
  number : Int
  /-- The text that the system gives for this. -/
  text : String
deriving DecidableEq, Repr

/-- What a path leads to. -/
inductive Place where
  /-- Nothing. -/
  | missing
  /-- A regular file. -/
  | file
  /-- A folder, with its entries in any order. -/
  | folder (entries : List Entry)
  /-- Something that cannot be listed. -/
  | refused (failure : ReadFailure)
  /-- A folder, with its entries in any order, those apart that cannot be looked at. -/
  | guarded (entries : List Entry) (unseen : List Unseen)
deriving DecidableEq, Repr

namespace Place

/-- Whether a name ends with an extension, both in lower case. -/
def hasExtension (extension name : String) : Bool :=
  (Text.lower extension).toList.isSuffixOf (Text.lower name).toList

/-- The log files among some entries, in the order of their names. -/
def logFiles (extension : String) (entries : List Entry) : List SourceFile :=
  ((entries.mergeSort Entry.notAfter).filter fun e => hasExtension extension e.name).filterMap
    Entry.file?

/-- The numbers of the errors by which an entry counts as no regular file: there is none, its path
leads over a file or in a circle, or it is closed. -/
def passedOver : List Int := [2, 9, 20, 40]

/-- The first entry, in the order of the names, that may be a log file and cannot be looked at. -/
def unseen? (extension : String) : Place → Option Unseen
  | guarded _ unseen =>
    (unseen.mergeSort fun a b => decide (a.name ≤ b.name)).find? fun u =>
      hasExtension extension u.name && !passedOver.contains u.number
  | _ => none

/-- The log files of a place with no entry in the way (`unseen?`), or why it cannot be listed. -/
def discover (extension : String) : Place → Except ReadFailure (List SourceFile)
  | missing => .error .missing
  | file => .error .notFolder
  | folder entries => .ok (logFiles extension entries)
  | refused failure => .error failure
  | guarded entries _ => .ok (logFiles extension entries)

end Place

end AccessLog
