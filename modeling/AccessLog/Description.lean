import AccessLog.Record

/-!
# Descriptions

The long form of a record, with the name of every place and the kind of every value. It tells apart
what the rendered form does not: a missing value from a text, a number from its digits, and instants
that differ by microseconds. The trailing zeros of an instant's seconds are left out.
-/

namespace AccessLog

/-- The description of an instant. Zero microseconds are left out, and with them zero seconds. -/
def Timestamp.describe (t : Timestamp) : String :=
  let fine :=
    if t.micro ≠ 0 then s!", {t.second}, {t.micro}"
    else if t.second ≠ 0 then s!", {t.second}"
    else ""
  s!"datetime.datetime({t.year}, {t.month}, {t.day}, {t.hour}, {t.minute}{fine})"

/-- The description of an event. -/
def Event.describe (e : Event) : String := s!"<Event.{e.name}: '{e.name}'>"

/-- The description of a status. -/
def Status.describe (s : Status) : String := s!"<Status.{s.name}: '{s.name}'>"

/-- The description of a value that may be missing. -/
def describeOption {α : Type} (describe : α → String) : Option α → String
  | none => "None"
  | some a => describe a

/-- The description of a record. -/
def Record.describe (r : Record) : String :=
  s!"LogRecord(ip={Text.quoted r.ip}, user={Text.quoted r.user}, " ++
    s!"timestamp={describeOption Timestamp.describe r.timestamp}, " ++
    s!"event={describeOption Event.describe r.event}, " ++
    s!"event_param={describeOption toString r.task}, " ++
    s!"status={describeOption Status.describe r.status})"

end AccessLog
