import AccessLog.Directory
import AccessLog.Line

/-!
# The report of a reading

Reading a directory leaves a report behind: how many files and lines there were, what became of the
lines, which lines were rejected and where, and the failure that stopped the reading, if one did.
-/

namespace AccessLog

/-- A text behind the place that it is about: the path of a file, and what tells the line where one
is known. -/
def located {α : Type} [ToString α] (path : String) (line : Option α) (text : String) : String :=
  s!"{path}:{describeOption toString line}: {text}"

/-- A line that was rejected. -/
structure LineError where
  /-- Why it was rejected. -/
  rejection : Line.Rejection
  /-- The path of its file. -/
  path : String
  /-- Its number, from one. -/
  line : Nat
deriving DecidableEq, Repr

/-- The wording of a line error. -/
def LineError.message (e : LineError) : String := located e.path (some e.line) e.rejection.message

/-- A folder or a file that could not be read. -/
structure ReadError where
  /-- Its path. -/
  path : String
  /-- Why it could not be read. -/
  failure : ReadFailure
deriving DecidableEq, Repr

/-- The wording of a read error. -/
def ReadError.message (e : ReadError) : String := s!"Cannot read {e.path}: {e.failure.reason}"

/-- What a reading counted and found. -/
structure Report where
  /-- The files that were read to their end. -/
  files : Nat := 0
  /-- The lines. -/
  totalLines : Nat := 0
  /-- The lines that gave a record. -/
  parsedLines : Nat := 0
  /-- The lines that are blank or were rejected. -/
  skippedLines : Nat := 0
  /-- The records without an instant. -/
  unparsedTimestamps : Nat := 0
  /-- The records without an event. -/
  unknownEvents : Nat := 0
  /-- The records without a status. -/
  unknownStatuses : Nat := 0
  /-- The rejected lines, in the order in which they were read. -/
  errors : Array LineError := #[]
  /-- The failure that stopped the reading. -/
  readError : Option ReadError := none
deriving DecidableEq, Repr

end AccessLog
