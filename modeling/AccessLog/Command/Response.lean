import AccessLog.Command.Job
import AccessLog.Table

/-!
# What a command responds

A command reads its directory and says what it finds. If reading stops before there is any record,
that is all it reports. Everything that it does is in its response: the exit code, the lines and
tables that it prints one after the other, the entries of its log, and what ended it before its end,
if something did.

Listed values are put in a table, the values that answer a query text on a line each. Instants come
in the order of their padded forms, other values in the order of their rendered forms.
-/

namespace AccessLog.Command

/-! ## Responses -/

/-- An entry of the log. -/
inductive LogEntry where
  /-- A notice from the reading of the directory. -/
  | notice (n : Notice)
  /-- A date in a query text that cannot be read. -/
  | badDate (query : String) (w : DateWarning)
deriving DecidableEq, Repr

namespace LogEntry

/-- How much an entry matters. -/
def level : LogEntry → Level
  | notice n => n.level
  | badDate _ _ => .warning

/-- The wording of an entry. -/
def message : LogEntry → String
  | notice n => n.message
  | badDate query w => s!"QueryDateWarning: {Query.warningMessage query w}"

end LogEntry

/-- One thing that is printed. -/
inductive Print where
  /-- A line of the result. -/
  | line (text : String)
  /-- A line that reports an error. -/
  | errorLine (text : String)
  /-- A table. -/
  | table (t : Table)
deriving DecidableEq, Repr

/-- What ends a command before its end. -/
inductive Raised where
  /-- A fault in the reading of the directory. -/
  | fault (f : Fault)
  /-- A bound of the time window that does not compare with the moment of a record. -/
  | mixed (m : Moment.Mixed)
  /-- A table that cannot be drawn, with a message of its own. -/
  | drawing (message : String)
deriving DecidableEq, Repr

/-- The wording of what ends a command. -/
def Raised.message : Raised → String
  | fault f => f.message
  | mixed m => m.message
  | drawing message => message

/-- What a command does. -/
structure Response where
  /-- The exit code. -/
  exit : Nat := 0
  /-- What is printed, in order. -/
  prints : List Print := []
  /-- The log. -/
  log : List LogEntry := []
  /-- What ended the command, if it did not come to its end. -/
  raised : Option Raised := none
deriving DecidableEq, Repr

namespace Response

/-- Nothing but what ended the command. -/
def ofRaised (r : Raised) : Response := { exit := 1, raised := some r }

/-- A failure that is reported. -/
def ofFailure (message : String) : Response :=
  { exit := 1, prints := [.errorLine s!"Error: {message}"] }

end Response

/-! ## Printed values -/

/-- The text by which a value is put in order, and before it a number that puts instants first. -/
def sortKey : Scalar → Nat × String
  | .instant t => (0, t.sortForm)
  | v => (1, v.render)

/-- The order of printed values. -/
def printedBefore (u v : Scalar) : Bool :=
  let a := sortKey u
  let b := sortKey v
  a.1 < b.1 || (a.1 == b.1 && decide (a.2 ≤ b.2))

/-- Values as they are printed. -/
def printed (vs : List Scalar) : List String := (vs.mergeSort printedBefore).map Scalar.render

/-- A table of values. -/
def valueTable (title : String) (vs : List Scalar) : Table :=
  ⟨title, [⟨"Value", .left⟩], (printed vs).map ([·])⟩

/-- The number that a value is, zero for anything else. -/
def numberOf : Scalar → Int
  | .number n => n
  | _ => 0

/-- A table of tasks with their counts. -/
def taskTable (title : String) (counts : Tally) : Table :=
  let sorted := counts.mergeSort fun a b => decide (numberOf a.1 ≤ numberOf b.1)
  ⟨title, [⟨"Task", .right⟩, ⟨"Count", .right⟩], sorted.map fun c => [c.1.render, toString c.2]⟩

/-- The table of events with their counts. -/
def eventTable (counts : Tally) : Table :=
  let sorted := counts.mergeSort fun a b => decide (a.1.render ≤ b.1.render)
  ⟨"Events", [⟨"Event", .left⟩, ⟨"Records", .right⟩],
    sorted.map fun c => [c.1.render, toString c.2]⟩

/-! ## Commands -/

/-- Answers a query text. -/
def execute (d : Dataset) (query : String) (strict : Bool) : Response :=
  match d.execute strict query with
  | .error m => .ofFailure m.message
  | .ok (vs, warnings) =>
    let found := if vs.isEmpty then ["No matching records."] else printed vs
    { prints := found.map .line, log := warnings.map (.badDate query) }

/-- Shows the statistics. -/
def stats (s : Archive.Statistics) : Response :=
  let head :=
    [s!"Total records: {s.records}", s!"Unique IPs: {s.ips}", s!"Unique users: {s.users}"]
  let tail :=
    [s!"\nFiles read: {s.report.files}", s!"Lines skipped: {s.report.skippedLines}",
      s!"Unparsed timestamps: {s.report.unparsedTimestamps}",
      s!"Unknown events: {s.report.unknownEvents}",
      s!"Unknown statuses: {s.report.unknownStatuses}"]
  let stopped := s.report.readError.toList.map fun e => s!"Ingestion stopped early: {e.message}"
  { prints := head.map .line ++ [.table (eventTable s.events)] ++ tail.map .line ++
      stopped.map .errorLine }

/-- Lists values. -/
def list (c : Chronicle) (l : Listing) (w : Period) : Response :=
  match c.values l.field w l.predicates with
  | .error m => .ofRaised (.mixed m)
  | .ok vs =>
    let found := distinct vs
    { prints := [.table (valueTable l.title found), .line s!"{found.length} value(s)"] }

/-- Counts tasks. -/
def tasks (c : Chronicle) (done : Bool) (w : Period) : Response :=
  let (title, event) :=
    if done then ("Completed tasks", Event.doneTask) else ("Task attempts", Event.solveTask)
  match c.values .task w [Archive.onEvent event] with
  | .error m => .ofRaised (.mixed m)
  | .ok vs =>
    let counts := tally vs
    { prints := [.table (taskTable title counts), .line s!"{counts.length} task(s)"] }

/-- Does a job with what was read. -/
def perform (p : Progress) : Job Period → Response
  | .execute query strict => execute p.dataset query strict
  | .stats => stats (Archive.ofProgress p).statistics
  | .list l w => list p.chronicle l w
  | .tasks done w => tasks p.chronicle done w

/-- The notices that a log shows: all, or those that may mean that something is wrong. -/
def shown (verbose : Bool) (journal : Array Notice) : List LogEntry :=
  let least : Level := if verbose then .debug else .warning
  (journal.toList.filter fun n => decide (least ≤ n.level)).map .notice

/-- Reads a source and does a job with it. -/
def runJob (codecs : Registry) (look : String → Place) (src : Source) (job : Job Period) :
    Response :=
  let directory := Path.normal src.directory
  match Ingestion.read (src.settings codecs) directory (look directory) with
  | .error i => { Response.ofRaised (.fault i.fault) with log := shown src.verbose i.journal }
  | .ok p =>
    let r : Response := match p.report.readError, p.dataset.records with
      | some e, [] => .ofFailure e.message
      | _, _ => perform p job
    { r with log := shown src.verbose p.journal ++ r.log }

end AccessLog.Command
