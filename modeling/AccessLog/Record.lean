import AccessLog.Timestamp.Basic
import AccessLog.Text.Quoted

/-!
# Records and their fields

A line of an access log tells who did what, when, and how it ended. A record keeps this in typed
form. The address and the user are always there; the instant, the event and the status are missing
where the line did not give a usable one, and the task is there for the events that concern a task.

A field names one of the six places of a record, and a scalar is what a field can hold. Every scalar
has a rendered form, the text by which queries refer to it.
-/

namespace AccessLog

/-- The kinds of activity that a log records. -/
inductive Event where
  /-- The user logged in. -/
  | login
  /-- The user downloaded the plugin. -/
  | downloadPlugin
  /-- The user wrote a message. -/
  | writeMessage
  /-- The user tried to solve a task. -/
  | solveTask
  /-- The user completed a task. -/
  | doneTask
deriving DecidableEq, Repr

namespace Event

/-- All events. -/
def all : List Event := [login, downloadPlugin, writeMessage, solveTask, doneTask]

/-- The name that the logs use for the event. -/
def name : Event → String
  | login => "LOGIN"
  | downloadPlugin => "DOWNLOAD_PLUGIN"
  | writeMessage => "WRITE_MESSAGE"
  | solveTask => "SOLVE_TASK"
  | doneTask => "DONE_TASK"

/-- Whether the event concerns a task, so that its name comes with the number of one. -/
def hasTask (e : Event) : Bool := e == solveTask || e == doneTask

/-- The event of the given name. -/
def ofName? (name : String) : Option Event := all.find? fun e => e.name == name

theorem mem_all (e : Event) : e ∈ all := by cases e <;> decide

end Event

/-- How an activity ended. -/
inductive Status where
  /-- It succeeded. -/
  | ok
  /-- It failed. -/
  | failed
  /-- An error happened. -/
  | error
deriving DecidableEq, Repr

namespace Status

/-- All statuses. -/
def all : List Status := [ok, failed, error]

/-- The name that the logs use for the status. -/
def name : Status → String
  | ok => "OK"
  | failed => "FAILED"
  | error => "ERROR"

/-- The status of the given name. -/
def ofName? (name : String) : Option Status := all.find? fun s => s.name == name

end Status

/-! ## Fields -/

/-- The places of a record. -/
inductive Field where
  /-- The address. -/
  | ip
  /-- The user. -/
  | user
  /-- The instant. -/
  | date
  /-- The event. -/
  | event
  /-- The status. -/
  | status
  /-- The number of the task. -/
  | task
deriving DecidableEq, Repr

namespace Field

/-- All fields. -/
def all : List Field := [ip, user, date, event, status, task]

/-- The key that names the field. -/
def key : Field → String
  | ip => "ip"
  | user => "user"
  | date => "date"
  | event => "event"
  | status => "status"
  | task => "event_param"

/-- Why a text gives no field. -/
inductive Fault where
  /-- No field has this key. -/
  | unknownKey (key : String)
  /-- A key was given where a field is wanted. -/
  | bareKey (key : String)
deriving DecidableEq, Repr

/-- The wording of a fault. -/
def Fault.message : Fault → String
  | .unknownKey key => s!"{Text.quoted key} is not a valid Field"
  | .bareKey key => s!"Unknown field: {Text.quoted key}"

/-- The field with the given key. -/
def ofKey (key : String) : Except Fault Field :=
  match all.find? fun f => f.key == key with
  | some f => .ok f
  | none => .error (.unknownKey key)

end Field

/-! ## Scalars -/

/-- What a field can hold. -/
inductive Scalar where
  /-- A text, for an address or a user. -/
  | text (s : String)
  /-- The number of a task. -/
  | number (n : Int)
  /-- An instant. -/
  | instant (t : Timestamp)
  /-- An event. -/
  | event (e : Event)
  /-- A status. -/
  | status (s : Status)
deriving DecidableEq, Repr

namespace Scalar

/-- The rendered form: a text as it is, a number in decimal, an instant in the form of the logs, an
event or a status by its name. -/
def render : Scalar → String
  | text s => s
  | number n => toString n
  | instant t => t.logForm
  | event e => e.name
  | status s => s.name

/-- The name of the kind of a scalar. -/
def kind : Scalar → String
  | text _ => "str"
  | number _ => "int"
  | instant _ => "datetime.datetime"
  | event _ => "Event"
  | status _ => "Status"

end Scalar

/-! ## Records -/

/-- One entry of a log. -/
structure Record where
  /-- The address. -/
  ip : String
  /-- The user. -/
  user : String
  /-- When it happened. -/
  timestamp : Option Timestamp
  /-- What happened. -/
  event : Option Event
  /-- The number of the task that the event concerns. -/
  task : Option Int
  /-- How it ended. -/
  status : Option Status
deriving DecidableEq, Repr

/-- What a record holds in a field. -/
def Record.get (r : Record) : Field → Option Scalar
  | .ip => some (.text r.ip)
  | .user => some (.text r.user)
  | .date => r.timestamp.map .instant
  | .event => r.event.map .event
  | .status => r.status.map .status
  | .task => r.task.map .number

end AccessLog
