import AccessLog.Chronicle
import AccessLog.Encoding.Basic
import AccessLog.Journal
import AccessLog.Text.Lines
import AccessLog.Text.Quoted

/-!
# Ingestion

A directory is read file by file and line by line. Every line is judged by itself; a kept line adds
its record, a rejected one its error, and every line adds to the counters. A file that cannot be
opened or read further stops the reading, and what has been read until then stays. So does a fault,
but nothing stays then except the journal.

The reading is a fold over the files, and within a file over the lines, that carries its progress.
-/

namespace AccessLog

/-- What ends a reading without a result. -/
inductive Fault where
  /-- A line cannot be read under the settings. -/
  | line (f : Line.Fault)
  /-- The name in the settings gives no encoding. -/
  | encoding (name : String) (f : Encoding.NameFault)
  /-- An entry of the directory, by its path, cannot be looked at. -/
  | unseen (path : String) (number : Int) (text : String)
deriving DecidableEq, Repr

/-- The wording of a fault. -/
def Fault.message : Fault → String
  | .line f => f.message
  | .encoding name f => f.message name
  | .unseen path number text => s!"[Errno {number}] {text}: {Text.quoted path}"

/-- A fault, and what had been noted until then. -/
structure Interruption where
  /-- The fault. -/
  fault : Fault
  /-- The journal. -/
  journal : Array Notice
deriving DecidableEq, Repr

/-- How far a reading has come. -/
structure Progress where
  /-- The records so far, with the offsets of their clocks. -/
  stamped : Array Stamped := #[]
  /-- The report so far. -/
  report : Report := {}
  /-- The journal so far. -/
  journal : Array Notice := #[]
deriving DecidableEq, Repr

namespace Progress

/-- The records so far. -/
def records (p : Progress) : Array Record := (p.stamped.toList.map Stamped.record).toArray

/-- Takes a notice. -/
def note (p : Progress) (n : Notice) : Progress := { p with journal := p.journal.push n }

/-- Counts one more line. -/
def countLine (p : Progress) : Progress :=
  { p with report.totalLines := p.report.totalLines + 1 }

/-- Counts a line that gives no record. -/
def countSkipped (p : Progress) : Progress :=
  { p with report.skippedLines := p.report.skippedLines + 1 }

/-- Counts one more file. -/
def countFile (p : Progress) : Progress := { p with report.files := p.report.files + 1 }

/-- Adds the error of a rejected line. -/
def addError (p : Progress) (e : LineError) : Progress :=
  { p with report.errors := p.report.errors.push e }

/-- Adds a record, and counts what it lacks. -/
def addRecord (p : Progress) (r : Stamped) : Progress :=
  { p with
    stamped := p.stamped.push r
    report.parsedLines := p.report.parsedLines + 1
    report.unparsedTimestamps := p.report.unparsedTimestamps + r.record.timestamp.isNone.toNat
    report.unknownEvents := p.report.unknownEvents + r.record.event.isNone.toNat
    report.unknownStatuses := p.report.unknownStatuses + r.record.status.isNone.toNat }

/-- Stops at a read error. -/
def stop (p : Progress) (e : ReadError) : Progress :=
  { p.note (.stopped e) with report.readError := some e }

/-- Notes the end of a reading that got past the listing of the directory. -/
def finish (p : Progress) (directory : String) : Progress :=
  p.note (.finished directory p.report.files p.report.parsedLines p.report.skippedLines)

/-- Enters the verdict on a line. -/
def enter (path : String) (number : Nat) (p : Progress) : Line.Verdict → Progress
  | .blank => (p.note (.blankLine path number)).countSkipped
  | .rejected r =>
    let e : LineError := ⟨r, path, number⟩
    ((p.note (.rejected e)).countSkipped).addError e
  | .kept parsed =>
    (parsed.warnings.foldl (fun p w => p.note (.doubtful path number w)) p).addRecord
      ⟨parsed.record, parsed.offset⟩

end Progress

namespace Ingestion

/-- Reads the lines of a file from the given number on. -/
def readLines (s : Settings) (path : String) :
    Nat → List (List Char) → Progress → Except Interruption Progress
  | _, [], p => .ok p
  | number, line :: rest, p =>
    let p := p.countLine
    match Line.judge s line with
    | .error f => .error ⟨.line f, p.journal⟩
    | .ok v => readLines s path (number + 1) rest (p.enter path number v)

/-- The lines of a file that are read before reading fails, and the failure, if there is one. -/
def delivered (e : Encoding) (f : SourceFile) : List (List Char) × Option ReadFailure :=
  let lines := Text.lines (e.decode f.bytes)
  match f.interrupt with
  | none => (lines, none)
  | some i => (lines.take i.after, some i.failure)

/-- Reads a file as far as it can be read. The result says whether a failure stopped it. A file is
opened before its encoding is looked up, but not under a name that holds a NUL. -/
def readFile (s : Settings) (path : String) (f : SourceFile) (p : Progress) :
    Except Interruption (Progress × Option ReadError) := do
  let p := p.note (.reading path)
  match Encoding.ofName s.codecs s.encoding with
  | .error fault =>
    match if fault = .nul then none else f.interrupt.bind Interrupt.opening? with
    | some failure => return (p, some ⟨path, failure⟩)
    | none => throw ⟨.encoding s.encoding fault, p.journal⟩
  | .ok e =>
    let d := delivered e f
    let p ← readLines s path 1 d.1 p
    return (p, d.2.map (⟨path, ·⟩))

/-- Reads files one after the other until one fails. -/
def readFiles (s : Settings) (directory : String) :
    List SourceFile → Progress → Except Interruption Progress
  | [], p => .ok p
  | f :: rest, p => do
    match ← readFile s (Path.child directory f.name) f p with
    | (p, none) => readFiles s directory rest p.countFile
    | (p, some e) => return p.stop e

/-- Reads the directory of the given path, which leads to the given place. -/
def read (s : Settings) (directory : String) (place : Place) : Except Interruption Progress :=
  match place.unseen? s.extension with
  | some u => .error ⟨.unseen (Path.child directory u.name) u.number u.text, #[]⟩
  | none =>
    match place.discover s.extension with
    | .error failure => .ok (({} : Progress).stop ⟨directory, failure⟩)
    | .ok files => return (← readFiles s directory files {}).finish directory

end Ingestion

/-- The records of a reading as a dataset. -/
def Progress.dataset (p : Progress) : Dataset := ⟨p.records.toList⟩

/-- The records of a reading with the offsets of their clocks. -/
def Progress.chronicle (p : Progress) : Chronicle := ⟨p.stamped.toList⟩

end AccessLog
