import AccessLog.Description
import AccessLog.EventToken
import AccessLog.Settings

/-!
# Lines

A line of a log consists of fields with a delimiter between them: address, user, timestamp, event
token and status. Its ending does not count, nor do empty fields at its end.

What is wrong with a line has three weights. A warning keeps the record and leaves the affected
place empty: an unreadable timestamp, an unknown event, an unknown status. A rejection drops the
line. A fault is no property of the line alone but of the settings, or of a limit on numerals, and
it ends the reading of the whole log.
-/

namespace AccessLog

namespace Line

/-- Whether the character belongs to the ending of a line. -/
def isEnding (c : Char) : Bool := c == '\r' || c == '\n'

/-- The fields of a line for a delimiter that is not empty. -/
def fields (delimiter line : List Char) : List (List Char) :=
  Text.dropTrailing List.isEmpty (Text.pieces delimiter (Text.dropTrailing isEnding line))

/-! ## What can be wrong -/

/-- What leaves a place of a record empty. -/
inductive Warning where
  /-- The timestamp cannot be read. -/
  | timestamp (u : Timestamp.Unreadable)
  /-- There is no such event. -/
  | event (token : String)
  /-- There is no such status. -/
  | status (token : String)
deriving DecidableEq, Repr

/-- The wording of a warning. -/
def Warning.message : Warning → String
  | .timestamp u => u.message
  | .event token => s!"unrecognized event {Text.quoted token}"
  | .status token => s!"unrecognized status {Text.quoted token}"

/-- Why a line gives no record. -/
inductive Rejection where
  /-- The number of fields is not the one in the settings. -/
  | fieldCount (expected : Int) (found : Nat)
  /-- The event token names a task event and has no numeral for the task. -/
  | badTask (token : String)
deriving DecidableEq, Repr

/-- The wording of a rejection. -/
def Rejection.message : Rejection → String
  | .fieldCount expected found => s!"expected {expected} fields, got {found}"
  | .badTask token => (EventToken.Fault.badTask token).message

/-- What ends the reading of a log. -/
inductive Fault where
  /-- The delimiter in the settings is empty. -/
  | emptyDelimiter
  /-- The settings ask for fewer fields than a record needs. -/
  | tooFewFields (found : Nat)
  /-- The settings ask for more fields than a record has. -/
  | tooManyFields
  /-- The date format in the settings asks for a part twice. -/
  | repeatedPart (r : Format.Repetition)
  /-- The number of a task has too many digits. -/
  | longNumeral (digits : Nat)
deriving DecidableEq, Repr

/-- The number of fields that make up a record. -/
def recordFields : Nat := 5

/-- The wording of a fault. -/
def Fault.message : Fault → String
  | .emptyDelimiter => "empty separator"
  | .tooFewFields found =>
    s!"not enough values to unpack (expected {recordFields}, got {found})"
  | .tooManyFields => s!"too many values to unpack (expected {recordFields})"
  | .repeatedPart r => r.message
  | .longNumeral digits => (EventToken.Fault.longNumeral digits).message

/-- Why a line was not read. -/
inductive Refusal where
  /-- The line is rejected. -/
  | rejected (r : Rejection)
  /-- The reading of the log ends. -/
  | fault (f : Fault)
deriving DecidableEq, Repr

/-- The wording of a refusal. -/
def Refusal.message : Refusal → String
  | .rejected r => r.message
  | .fault f => f.message

/-- What an unreadable event token does to its line. -/
def Refusal.ofToken : EventToken.Fault → Refusal
  | .badTask token => .rejected (.badTask token)
  | .longNumeral digits => .fault (.longNumeral digits)

/-! ## Reading -/

/-- A record and what was wrong with its line. -/
structure Parsed where
  /-- The record. -/
  record : Record
  /-- The warnings, in the order of the fields. -/
  warnings : List Warning
  /-- The offset of the clock that the instant was read from. -/
  offset : Option Offset := none
deriving DecidableEq, Repr

/-- The description of a line that was read. -/
def Parsed.describe (p : Parsed) : String :=
  s!"ParsedLine({p.record.describe}, warnings={p.warnings.length})"

/-- The fields of a line by the delimiter in the settings. -/
def split (s : Settings) (line : List Char) : Except Fault (List String) :=
  if s.delimiter.isEmpty then .error .emptyDelimiter
  else .ok ((fields s.delimiter.toList line).map String.ofList)

/-- The moment in a field of a line, or why there is none. -/
def momentOf (s : Settings) (date : String) :
    Except Fault (Except Timestamp.Unreadable Moment) :=
  match Timestamp.readMoment s.dateFormat date with
  | .ok m => .ok (.ok m)
  | .error u =>
    match u.repetition? with
    | some r => .error (.repeatedPart r)
    | none => .ok (.error u)

/-- The record that five fields make. -/
def ofFields (s : Settings) (ip user date token status : String) : Except Refusal Parsed := do
  let moment ← (momentOf s date).mapError .fault
  let activity ← (EventToken.read token).mapError Refusal.ofToken
  let outcome := Status.ofName? status
  let dateWarnings := match moment with
    | .ok _ => []
    | .error u => [Warning.timestamp u]
  let eventWarnings := if activity.event.isNone then [Warning.event token] else []
  let statusWarnings := if outcome.isNone then [Warning.status status] else []
  return {
    record :=
      ⟨ip, user, moment.toOption.map Moment.clock, activity.event, activity.task, outcome⟩
    warnings := dateWarnings ++ eventWarnings ++ statusWarnings
    offset := moment.toOption.bind Moment.offset }

/-- Reads a line. The number of fields is checked first, then the date format, then the event
token. -/
def parse (s : Settings) (line : List Char) : Except Refusal Parsed := do
  let fs ← (split s line).mapError .fault
  if (fs.length : Int) ≠ s.fieldCount then
    throw (.rejected (.fieldCount s.fieldCount fs.length))
  match fs with
  | [ip, user, date, token, status] => ofFields s ip user date token status
  | _ =>
    if fs.length < recordFields then throw (.fault (.tooFewFields fs.length))
    else throw (.fault .tooManyFields)

/-- What becomes of a line of a log. -/
inductive Verdict where
  /-- It holds blanks only and is passed over. -/
  | blank
  /-- It is dropped. -/
  | rejected (r : Rejection)
  /-- It gives a record. -/
  | kept (p : Parsed)
deriving DecidableEq, Repr

/-- Judges a line: a blank line is passed over, any other is read. -/
def judge (s : Settings) (line : List Char) : Except Fault Verdict :=
  if Text.allBlank line then .ok .blank
  else match parse s line with
    | .ok p => .ok (.kept p)
    | .error (.rejected r) => .ok (.rejected r)
    | .error (.fault f) => .error f

end Line

end AccessLog
