import AccessLog.Report

/-!
# The journal of a reading

While a directory is read, notices are taken: which file is being read, which lines are skipped and
why, what is wrong with a line that is kept, and how the reading ended. Each kind of notice has a
level, and the levels have an order, so that a journal can be cut down to what matters.
-/

namespace AccessLog

/-- How much a notice matters. -/
inductive Level where
  /-- A detail. -/
  | debug
  /-- A fact of interest. -/
  | info
  /-- Something that may be wrong. -/
  | warning
  /-- Something that went wrong. -/
  | error
deriving DecidableEq, Repr

namespace Level

/-- The name of a level. -/
def name : Level → String
  | debug => "DEBUG"
  | info => "INFO"
  | warning => "WARNING"
  | error => "ERROR"

/-- The position of a level in the order, from the lowest. -/
def rank : Level → Nat
  | debug => 0
  | info => 1
  | warning => 2
  | error => 3

instance : LE Level where
  le a b := a.rank ≤ b.rank

instance (a b : Level) : Decidable (a ≤ b) := inferInstanceAs (Decidable (a.rank ≤ b.rank))

end Level

/-- What is noted while a directory is read. -/
inductive Notice where
  /-- A file is being read. -/
  | reading (path : String)
  /-- A line is blank. -/
  | blankLine (path : String) (line : Nat)
  /-- A line is rejected. -/
  | rejected (e : LineError)
  /-- Something is wrong with a line that is kept. -/
  | doubtful (path : String) (line : Nat) (w : Line.Warning)
  /-- The reading stops. -/
  | stopped (e : ReadError)
  /-- The reading is over. -/
  | finished (directory : String) (files records skipped : Nat)
deriving DecidableEq, Repr

namespace Notice

/-- How much a notice matters. -/
def level : Notice → Level
  | reading _ | blankLine _ _ => .debug
  | rejected _ | doubtful _ _ _ => .warning
  | stopped _ => .error
  | finished _ _ _ _ => .info

/-- The wording of a notice. -/
def message : Notice → String
  | reading path => s!"Reading {path}"
  | blankLine path line => located path (some line) "blank line skipped"
  | rejected e => s!"Skipped line {e.message}"
  | doubtful path line w => located path (some line) w.message
  | stopped e => s!"Ingestion aborted: {e.message}"
  | finished directory files records skipped =>
    s!"Loaded {records} records from {files} file(s) in {directory} ({skipped} lines skipped)"

end Notice

end AccessLog
