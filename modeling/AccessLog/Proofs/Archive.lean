import AccessLog.Archive
import AccessLog.Proofs.Query.Denotation
import AccessLog.Proofs.Timestamp.LogFormat

/-!
# A question by name and its query text have the same answer

Some of the questions that an archive answers by name can also be put as query
texts (`Question`). By name the values, the events and the window are typed; in
the text they are all written out, the events and statuses by their names and
the ends of the window in the form of the logs. The answers agree all the same
(`Question.execute_eq_answer`), for three reasons. The written parts hold no
quote, so the reading with these parts is the shortest. The form of the logs is
read back as the instant that it was written from. And a typed value compares
by its rendered form, which is what the text holds.
-/

namespace AccessLog

/-! ## What can be written into a query text -/

/-- **A text that can be quoted**: it holds neither a quote nor a line feed. -/
structure Quotable where
  text : String
  no_quote : '"' ∉ text.toList := by decide
  no_feed : '\n' ∉ text.toList := by decide

/-- **The ends of a window**, as instants that the form of the logs tells apart
from all others: with a year of four digits and without microseconds. -/
structure Span where
  /-- The instant that the window begins behind. -/
  after : Timestamp
  /-- The instant that the window ends before. -/
  before : Timestamp
  after_written : 1000 ≤ after.year ∧ after.micro = 0 := by decide
  before_written : 1000 ≤ before.year ∧ before.micro = 0 := by decide

namespace Span

/-- The window between the ends, unbounded if there are none. -/
def window : Option Span → Window
  | none => {}
  | some s => ⟨some s.after, some s.before⟩

/-- The words that bound a query text to a window, none if it is unbounded. -/
def text : Option Span → String
  | none => ""
  | some s =>
    " and date between \"" ++ s.after.logForm ++ "\" and \"" ++ s.before.logForm ++ "\""

/-- The window clause between the ends. -/
def clause (s : Span) : WindowClause := ⟨s.after.logForm.toList, s.before.logForm.toList⟩

theorem clause_after (s : Span) : s.clause.after = s.after.logForm.toList := by
  unfold clause
  dsimp only

theorem clause_before (s : Span) : s.clause.before = s.before.logForm.toList := by
  unfold clause
  dsimp only

end Span

/-- **A question that can be put by name and as a query text**: for the
addresses, the users, the dates or the events, of all records or of those with a
value in some field. -/
inductive Question where
  | ips
  | ipsOfUser (user : Quotable)
  | ipsOfEvent (e : Event)
  | ipsOfStatus (s : Status)
  | usersOfIp (ip : Quotable)
  | loggedInUsers
  | pluginUsers
  | messageUsers
  | solvingUsers
  | doneUsers
  | failureDates
  | errorDates
  | events
  | eventsOfIp (ip : Quotable)
  | eventsOfUser (user : Quotable)
  | failedEvents
  | errorEvents

namespace Question

/-- The query text of a question, without the window. -/
def text : Question → String
  | ips => "get ip"
  | ipsOfUser user => "get ip for user = \"" ++ user.text ++ "\""
  | ipsOfEvent e => "get ip for event = \"" ++ e.name ++ "\""
  | ipsOfStatus s => "get ip for status = \"" ++ s.name ++ "\""
  | usersOfIp ip => "get user for ip = \"" ++ ip.text ++ "\""
  | loggedInUsers => "get user for event = \"LOGIN\""
  | pluginUsers => "get user for event = \"DOWNLOAD_PLUGIN\""
  | messageUsers => "get user for event = \"WRITE_MESSAGE\""
  | solvingUsers => "get user for event = \"SOLVE_TASK\""
  | doneUsers => "get user for event = \"DONE_TASK\""
  | failureDates => "get date for status = \"FAILED\""
  | errorDates => "get date for status = \"ERROR\""
  | events => "get event"
  | eventsOfIp ip => "get event for ip = \"" ++ ip.text ++ "\""
  | eventsOfUser user => "get event for user = \"" ++ user.text ++ "\""
  | failedEvents => "get event for status = \"FAILED\""
  | errorEvents => "get event for status = \"ERROR\""

/-- The answer of an archive to a question by name. -/
def answer (a : Archive) (w : Window) : Question → List Scalar
  | ips => a.ips w
  | ipsOfUser user => a.ipsOfUser (some (.text user.text)) w
  | ipsOfEvent e => a.ipsOfEvent (some (.event e)) w
  | ipsOfStatus s => a.ipsOfStatus (some (.status s)) w
  | usersOfIp ip => a.usersOfIp (some (.text ip.text)) w
  | loggedInUsers => a.loggedInUsers w
  | pluginUsers => a.pluginUsers w
  | messageUsers => a.messageUsers w
  | solvingUsers => a.solvingUsers none w
  | doneUsers => a.doneUsers none w
  | failureDates => a.failureDates w
  | errorDates => a.errorDates w
  | events => a.events w
  | eventsOfIp ip => a.eventsOfIp (some (.text ip.text)) w
  | eventsOfUser user => a.eventsOfUser (some (.text user.text)) w
  | failedEvents => a.failedEvents w
  | errorEvents => a.errorEvents w

/-! ## The parts of a question -/

/-- The field that a question asks for. -/
def target : Question → Field
  | ips | ipsOfUser _ | ipsOfEvent _ | ipsOfStatus _ => .ip
  | usersOfIp _ | loggedInUsers | pluginUsers | messageUsers | solvingUsers | doneUsers => .user
  | failureDates | errorDates => .date
  | events | eventsOfIp _ | eventsOfUser _ | failedEvents | errorEvents => .event

/-- The field and the value that a question demands, if it does. -/
def demand : Question → Option (Field × Scalar)
  | ips | events => none
  | ipsOfUser user | eventsOfUser user => some (.user, .text user.text)
  | usersOfIp ip | eventsOfIp ip => some (.ip, .text ip.text)
  | ipsOfEvent e => some (.event, .event e)
  | loggedInUsers => some (.event, .event .login)
  | pluginUsers => some (.event, .event .downloadPlugin)
  | messageUsers => some (.event, .event .writeMessage)
  | solvingUsers => some (.event, .event .solveTask)
  | doneUsers => some (.event, .event .doneTask)
  | ipsOfStatus s => some (.status, .status s)
  | failureDates | failedEvents => some (.status, .status .failed)
  | errorDates | errorEvents => some (.status, .status .error)

/-- The value clause of a question. -/
def valueClause? (q : Question) : Option ValueClause :=
  q.demand.map fun d => ⟨d.1, d.2.render.toList⟩

/-- The reading of a question that its parts were written from. -/
def reading (q : Question) (span : Option Span) : Reading :=
  ⟨q.target, q.valueClause?, span.map Span.clause⟩

/-- The reading is one of the query text. -/
theorem text_reading (q : Question) (span : Option Span) :
    (q.reading span).text = (q.text ++ Span.text span).toList := by
  have hspan : clauseText WindowClause.text (span.map Span.clause) = (Span.text span).toList := by
    cases span with
    | none => rfl
    | some s =>
      show Reading.betweenWord ++ _ = (_ ++ _ : String).toList
      unfold Reading.betweenWord
      simp [Span.clause_after, Span.clause_before, Reading.andWord]
  have hquestion : Reading.getWord ++ (q.target.key.toList ++
      clauseText ValueClause.text q.valueClause?) = q.text.toList := by
    unfold text
    cases q <;>
      simp [target, valueClause?, demand, clauseText, ValueClause.text, Scalar.render,
        Event.name, Status.name, Field.key, Reading.getWord, Reading.forWord, Reading.equalsWord]
  rw [String.toList_append, ← hquestion, ← hspan, Reading.text]
  simp only [reading, List.append_assoc]

/-- By name a question is answered by the values that meet its demand. -/
theorem answer_eq (q : Question) (a : Archive) (w : Window) :
    q.answer a w
      = a.collect q.target w (q.demand.map fun d => (⟨d.1, some d.2⟩ : Predicate)).toList := by
  cases q <;> rfl

/-! ## The parts are read back -/

/-- **A demand that can be written**: a field other than the date, and a value
whose rendered form can be quoted. -/
structure Writable (f : Field) (v : Scalar) : Prop where
  field_mem : f ∈ Field.queryable
  field_ne : f ≠ .date
  no_quote : '"' ∉ v.render.toList
  no_feed : '\n' ∉ v.render.toList

theorem writable_text {f : Field} (hf : f ∈ Field.queryable) (hne : f ≠ .date) (t : Quotable) :
    Writable f (.text t.text) :=
  ⟨hf, hne, t.no_quote, t.no_feed⟩

theorem writable_event (e : Event) : Writable .event (.event e) := by
  cases e <;> constructor <;> decide

theorem writable_status (s : Status) : Writable .status (.status s) := by
  cases s <;> constructor <;> decide

/-- What a question demands can be written. -/
theorem writable_of_demand {q : Question} {f : Field} {v : Scalar}
    (h : q.demand = some (f, v)) : Writable f v := by
  cases q <;> cases h <;>
    first
      | exact writable_event _
      | exact writable_status _
      | exact writable_text (by decide) (by decide) _

theorem target_mem (q : Question) : q.target ∈ Field.queryable := by
  cases q <;> simp [target, Field.queryable]

end Question

namespace Span

theorem not_mem_logForm (t : Timestamp) :
    '"' ∉ t.logForm.toList ∧ '\n' ∉ t.logForm.toList := by
  constructor <;> exact fun h => absurd (Timestamp.mem_logForm h) (by decide)

theorem instant?_logForm {t : Timestamp} (h : 1000 ≤ t.year ∧ t.micro = 0) :
    Query.instant? t.logForm.toList = some t := by
  rw [Query.instant?, String.ofList_toList, Timestamp.read_logForm h.1 h.2]
  rfl

/-- The ends of a span are read back. -/
theorem window_clause (s : Span) : s.clause.window = window (some s) := by
  rw [WindowClause.window, clause_after, clause_before, instant?_logForm s.after_written,
    instant?_logForm s.before_written]
  rfl

theorem instant?_of_mem_dates {s : Span} {date : DateRole × List Char}
    (h : date ∈ s.clause.dates) : Query.instant? date.2 ≠ none := by
  rw [WindowClause.dates, List.mem_cons, List.mem_singleton] at h
  rcases h with rfl | rfl
  · rw [clause_after, instant?_logForm s.after_written]
    exact Option.some_ne_none _
  · rw [clause_before, instant?_logForm s.before_written]
    exact Option.some_ne_none _

end Span

namespace Question

variable (q : Question) (span : Option Span)

theorem writes_reading : (q.reading span).Writes (q.text ++ Span.text span).toList := by
  refine ⟨q.text_reading span, q.target_mem, fun v hv => ?_, fun w hw => ?_⟩
  · obtain ⟨⟨f, u⟩, hd, rfl⟩ := Option.map_eq_some_iff.mp hv
    exact ⟨(writable_of_demand hd).field_mem, (writable_of_demand hd).no_feed⟩
  · obtain ⟨s, -, rfl⟩ := Option.map_eq_some_iff.mp hw
    rw [WindowClause.Clean, Span.clause_after, Span.clause_before]
    exact ⟨(Span.not_mem_logForm s.after).2, (Span.not_mem_logForm s.before).2⟩

theorem quoteFree_reading : (q.reading span).QuoteFree := by
  refine ⟨fun v hv => ?_, fun w hw => ?_⟩
  · obtain ⟨⟨f, u⟩, hd, rfl⟩ := Option.map_eq_some_iff.mp hv
    exact (writable_of_demand hd).no_quote
  · obtain ⟨s, -, rfl⟩ := Option.map_eq_some_iff.mp hw
    rw [Span.clause_after]
    exact (Span.not_mem_logForm s.after).1

/-- Every date of a question can be read. -/
theorem dateWarnings_reading : (q.reading span).dateWarnings = [] := by
  refine Query.warningsAt_eq_nil_iff.mpr fun date hdate => ?_
  rcases List.mem_append.mp hdate with hdate | hdate
  · -- a question demands no date, so its value clause holds none
    cases hvalue : (q.reading span).value with
    | none =>
      rw [hvalue] at hdate
      cases hdate
    | some v =>
      obtain ⟨⟨f, u⟩, hd, rfl⟩ := Option.map_eq_some_iff.mp hvalue
      have hne := (writable_of_demand hd).field_ne
      rw [hvalue, Option.elim_some, ValueClause.dates, if_neg hne] at hdate
      cases hdate
  · cases span with
    | none => cases hdate
    | some s => exact Span.instant?_of_mem_dates hdate

theorem bounds_reading : (q.reading span).bounds = Span.window span := by
  rw [Reading.bounds, reading, Option.map_map]
  cases span with
  | none => rfl
  | some s => exact congrArg (fun w => (some w).getD {}) s.window_clause

/-- What the value clause demands selects the same values as what the question
demands. -/
theorem values_reading (d : Dataset) (w : Window) :
    d.values q.target w (q.reading span).predicate?.toList
      = d.values q.target w
          (q.demand.map fun d => (⟨d.1, some d.2⟩ : Predicate)).toList := by
  rw [Reading.predicate?, reading, valueClause?, Option.map_map]
  cases hd : q.demand with
  | none => rfl
  | some demand =>
    obtain ⟨f, v⟩ := demand
    have hne := (writable_of_demand hd).field_ne
    refine d.values_congr q.target w fun x => ?_
    show (ValueClause.predicate ⟨f, v.render.toList⟩).holds x = _
    rw [ValueClause.predicate, if_neg hne, String.ofList_toList]
    have hrender : (Scalar.text v.render).render = v.render := rfl
    exact Predicate.holds_congr hne hrender x

/-- **A question by name and its query text have the same answer**, over every
archive and in every window. -/
theorem execute_eq_answer (a : Archive) (strict : Bool) (q : Question) (span : Option Span) :
    a.dataset.execute strict (q.text ++ Span.text span)
      = .ok (q.answer a (Span.window span), []) := by
  have hshortest := (q.writes_reading span).shortest (q.quoteFree_reading span)
  rw [a.dataset.execute_of_shortest hshortest, Query.ofReading_eq, q.dateWarnings_reading,
    q.bounds_reading, q.answer_eq, Dataset.run, Archive.collect, ← q.values_reading span]
  rw [List.isEmpty_nil, Bool.not_true, Bool.and_false]
  rfl

/-- The events of a user in a year: one record lies on an end of the year and
another has no instant, so neither counts. -/
theorem execute_eq_answer_in_year :
    let start : Timestamp := .mk 2014 1 1 0 0 0 0
    let may : Timestamp := .mk 2014 5 1 0 0 0 0
    let a : Archive :=
      { dataset := ⟨[⟨"10.0.0.1", "ann", some start, some .login, none, some .ok⟩,
          ⟨"10.0.0.1", "ann", some may, some .writeMessage, none, some .ok⟩,
          ⟨"10.0.0.1", "ann", none, some .downloadPlugin, none, some .ok⟩]⟩
        report := {} }
    a.dataset.execute true ("get event for user = \"ann\"" ++
        " and date between \"1.1.2014 0:0:0\" and \"1.1.2015 0:0:0\"")
      = .ok ([.event .writeMessage], []) := by
  intro start may a
  let q : Question := .eventsOfUser (.mk "ann")
  let span : Span := .mk start (.mk 2015 1 1 0 0 0 0)
  have htext : q.text ++ Span.text (some span) = "get event for user = \"ann\"" ++
      " and date between \"1.1.2014 0:0:0\" and \"1.1.2015 0:0:0\"" := by decide
  have hanswer : q.answer a (Span.window (some span)) = [.event .writeMessage] := by decide
  rw [← htext, execute_eq_answer a true q (some span), hanswer]

end Question

end AccessLog
