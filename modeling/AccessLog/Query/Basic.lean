import AccessLog.Query.Reading
import AccessLog.Reduction
import AccessLog.Timestamp.Reading

/-!
# Queries

What a query text means. Its value and its dates are texts; a date, which is also the value of a
restriction on the date, has to be read. One that cannot be read bounds nothing, or is held by no
record, and gives a warning; a strict query with a warning is malformed.

A query is answered by the distinct values of its target over the records that satisfy it.
-/

namespace AccessLog

/-- The places of a query at which a date stands. -/
inductive DateRole where
  /-- The value of a restriction on the date. -/
  | value
  /-- The date that the window begins behind. -/
  | windowStart
  /-- The date that the window ends before. -/
  | windowEnd
deriving DecidableEq, Repr

/-- The name of a role. -/
def DateRole.name : DateRole → String
  | value => "date value"
  | windowStart => "window start"
  | windowEnd => "window end"

/-- A date in a query that cannot be read. -/
structure DateWarning where
  /-- Where it stands. -/
  role : DateRole
  /-- Why it cannot be read. -/
  unreadable : Timestamp.Unreadable
deriving DecidableEq, Repr

/-- The wording of a date warning. -/
def DateWarning.message (w : DateWarning) : String := s!"{w.role.name}: {w.unreadable.message}"

/-- A query. -/
structure Query where
  /-- The field that is asked for. -/
  target : Field
  /-- What the records have to hold. -/
  predicate : Option Predicate
  /-- The window that they have to lie in. -/
  window : Window
  /-- The dates that cannot be read, in the order of the text. -/
  warnings : List DateWarning
deriving DecidableEq, Repr

namespace Query

/-- A date of a query text: the instant, or a warning. -/
def date (role : DateRole) (text : List Char) : Except DateWarning Timestamp :=
  (Timestamp.read Timestamp.logFormat (String.ofList text)).mapError (⟨role, ·⟩)

/-- The warnings that a date gives. -/
def warningsOf : Except DateWarning Timestamp → List DateWarning
  | .ok _ => []
  | .error w => [w]

/-- What a value clause demands, and the warnings that it gives. -/
def ofValueClause (v : ValueClause) : Predicate × List DateWarning :=
  if v.field = .date then
    let d := date .value v.value
    (⟨.date, d.toOption.map .instant⟩, warningsOf d)
  else (⟨v.field, some (.text (String.ofList v.value))⟩, [])

/-- The window of a window clause, and the warnings that it gives. -/
def ofWindowClause (w : WindowClause) : Window × List DateWarning :=
  let after := date .windowStart w.after
  let before := date .windowEnd w.before
  (⟨after.toOption, before.toOption⟩, warningsOf after ++ warningsOf before)

/-- What a reading means. -/
def ofReading (r : Reading) : Query :=
  let value := r.value.map ofValueClause
  let window := r.window.map ofWindowClause
  { target := r.target
    predicate := value.map Prod.fst
    window := (window.map Prod.fst).getD {}
    warnings := (value.map Prod.snd).getD [] ++ (window.map Prod.snd).getD [] }

/-! ## Malformed queries -/

/-- Why a query is malformed. -/
inductive Defect where
  /-- The text has no reading. -/
  | grammar
  /-- The query is strict and some dates cannot be read. -/
  | badDates (warnings : List DateWarning)
  /-- Something else is wrong. -/
  | other (reason : String)
deriving DecidableEq, Repr

/-- The wording of a defect. -/
def Defect.reason : Defect → String
  | .grammar => "does not match the query grammar"
  | .badDates warnings => "; ".intercalate (warnings.map DateWarning.message)
  | .other reason => reason

/-- A malformed query. -/
structure Malformed where
  /-- The text. -/
  text : String
  /-- What is wrong with it. -/
  defect : Defect
deriving DecidableEq, Repr

/-- The wording for a malformed query. -/
def Malformed.message (m : Malformed) : String :=
  s!"Invalid query {Text.quoted m.text}: {m.defect.reason}"

/-- Reads a query text. -/
def read (strict : Bool) (text : String) : Except Malformed Query :=
  match Reading.ofText? text.toList with
  | none => .error ⟨text, .grammar⟩
  | some r =>
    let q := ofReading r
    if strict && !q.warnings.isEmpty then .error ⟨text, .badDates q.warnings⟩ else .ok q

/-- The wording of a warning about a query of the given text. -/
def warningMessage (text : String) (w : DateWarning) : String :=
  s!"Query {Text.quoted text}: {w.message}"

end Query

namespace Dataset

/-- The distinct values that answer a query, in the order of their first records. -/
def run (d : Dataset) (q : Query) : List Scalar :=
  distinct (d.values q.target q.window q.predicate.toList)

/-- Reads a query text and answers it. The warnings come with the answer. -/
def execute (d : Dataset) (strict : Bool) (text : String) :
    Except Query.Malformed (List Scalar × List DateWarning) :=
  (Query.read strict text).map fun q => (d.run q, q.warnings)

end Dataset

end AccessLog
