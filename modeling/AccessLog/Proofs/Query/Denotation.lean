import AccessLog.Proofs.Query.Reading
import AccessLog.Proofs.Selection
import AccessLog.Query.Basic

/-!
# A query text is answered by its denotation

A query text that has a reading asks for the values of a field over the records
that satisfy the clauses of its shortest reading (`Reading.Holds`). This is said
without queries, windows and predicates: a value clause compares a text or an
instant, and a window clause compares an instant with those of its dates that
can be read. The dates that cannot be read are told apart from the answer, in
the order of the text (`Reading.dateWarnings`).

What a reading means as a query is computed clause by clause, the meaning and the
warnings together. Here the two are separated, and each of them is compared with
what the clause says.
-/

namespace AccessLog

/-! ## Dates -/

namespace Query

/-- The instant that a date text gives, if it can be read. -/
def instant? (cs : List Char) : Option Timestamp :=
  (Timestamp.read Timestamp.logFormat (String.ofList cs)).toOption

/-- The warning that a date text gives in its place, if it cannot be read. -/
def warning? (role : DateRole) (cs : List Char) : Option DateWarning :=
  match Timestamp.read Timestamp.logFormat (String.ofList cs) with
  | .ok _ => none
  | .error e => some ⟨role, e⟩

/-- **A date gives a warning exactly if it gives no instant.** -/
theorem warning?_isSome_iff {role : DateRole} {cs : List Char} :
    (warning? role cs).isSome ↔ instant? cs = none := by
  rw [warning?, instant?]
  cases Timestamp.read Timestamp.logFormat (String.ofList cs) with
  | ok t => exact ⟨fun h => absurd h Bool.false_ne_true, fun h => absurd h (Option.some_ne_none t)⟩
  | error e => exact ⟨fun _ => rfl, fun _ => rfl⟩

/-- The warnings that dates give in their places, one for each that cannot be
read. -/
def warningsAt (dates : List (DateRole × List Char)) : List DateWarning :=
  dates.filterMap fun date => warning? date.1 date.2

theorem warningsAt_eq_nil_iff {dates : List (DateRole × List Char)} :
    warningsAt dates = [] ↔ ∀ date ∈ dates, instant? date.2 ≠ none := by
  rw [warningsAt, List.filterMap_eq_nil_iff]
  refine forall_congr' fun date => forall_congr' fun _ => ?_
  rw [← Option.not_isSome_iff_eq_none, warning?_isSome_iff]

theorem toOption_date (role : DateRole) (cs : List Char) :
    (date role cs).toOption = instant? cs := by
  rw [date, instant?]
  cases Timestamp.read Timestamp.logFormat (String.ofList cs) <;> rfl

theorem warningsAt_cons (role : DateRole) (cs : List Char)
    (dates : List (DateRole × List Char)) :
    warningsAt ((role, cs) :: dates) = warningsOf (date role cs) ++ warningsAt dates := by
  have hdate : warningsOf (date role cs) = (warning? role cs).toList := by
    rw [date, warning?]
    cases Timestamp.read Timestamp.logFormat (String.ofList cs) <;> rfl
  rw [hdate, warningsAt, List.filterMap_cons]
  cases warning? role cs <;> rfl

end Query

/-! ## What the clauses say -/

namespace ValueClause

/-- What a value clause demands: that the date be the instant its text gives, or
that another field hold its text. -/
def predicate (v : ValueClause) : Predicate :=
  if v.field = .date then ⟨.date, (Query.instant? v.value).map .instant⟩
  else ⟨v.field, some (.text (String.ofList v.value))⟩

/-- A record satisfies a value clause: it happened at the instant that the text
gives, or what it holds in the field is rendered as the text. -/
def Holds (v : ValueClause) (x : Record) : Prop :=
  if v.field = .date then ∃ t, x.timestamp = some t ∧ Query.instant? v.value = some t
  else ∃ u, x.get v.field = some u ∧ u.render = String.ofList v.value

/-- The dates of a value clause. -/
def dates (v : ValueClause) : List (DateRole × List Char) :=
  if v.field = .date then [(.value, v.value)] else []

/-- **The demand of a value clause is what the clause says.** -/
theorem holds_predicate {v : ValueClause} {x : Record} :
    v.predicate.holds x = true ↔ v.Holds x := by
  rw [predicate, Holds]
  by_cases hf : v.field = .date
  · rw [if_pos hf, if_pos hf, Predicate.holds_date]
    refine exists_congr fun t => and_congr_right fun _ => ?_
    rw [Option.map_eq_some_iff]
    exact ⟨fun ⟨u, hu, heq⟩ => Scalar.instant.inj heq ▸ hu, fun ht => ⟨t, ht, rfl⟩⟩
  · rw [if_neg hf, if_neg hf, Predicate.holds_of_ne_date hf]
    rfl

instance (v : ValueClause) (x : Record) : Decidable (v.Holds x) :=
  decidable_of_iff _ holds_predicate

end ValueClause

namespace WindowClause

/-- The window between the dates of a window clause that can be read. -/
def window (w : WindowClause) : Window := ⟨Query.instant? w.after, Query.instant? w.before⟩

/-- A record satisfies a window clause: neither date can be read, or it happened
strictly behind the first and strictly before the second, as far as they can. -/
def Holds (w : WindowClause) (x : Record) : Prop :=
  (Query.instant? w.after = none ∧ Query.instant? w.before = none) ∨
    ∃ t, x.timestamp = some t ∧ (∀ a ∈ Query.instant? w.after, a < t) ∧
      ∀ b ∈ Query.instant? w.before, t < b

/-- The dates of a window clause. -/
def dates (w : WindowClause) : List (DateRole × List Char) :=
  [(.windowStart, w.after), (.windowEnd, w.before)]

/-- **The window of a window clause is what the clause says.** -/
theorem contains_window {w : WindowClause} {x : Record} :
    w.window.Contains x.timestamp ↔ w.Holds x := by
  rw [Holds, window]
  -- how the dates are read is of no concern here
  generalize Query.instant? w.after = after
  generalize Query.instant? w.before = before
  cases x.timestamp with
  | none =>
    refine ⟨Or.inl, fun h => h.elim id fun ⟨t, hsome, _⟩ => ?_⟩
    exact absurd hsome.symm (Option.some_ne_none t)
  | some t =>
    constructor
    · exact fun h => Or.inr ⟨t, rfl, h⟩
    · rintro (⟨rfl, rfl⟩ | ⟨t', hsome, h⟩)
      · exact ⟨fun a ha => absurd ha (Option.not_mem_none a),
          fun b hb => absurd hb (Option.not_mem_none b)⟩
      · cases hsome
        exact h

instance (w : WindowClause) (x : Record) : Decidable (w.Holds x) :=
  decidable_of_iff _ contains_window

end WindowClause

namespace Reading

/-- A record satisfies the clauses of a reading. -/
def Holds (r : Reading) (x : Record) : Prop :=
  (∀ v ∈ r.value, v.Holds x) ∧ ∀ w ∈ r.window, w.Holds x

instance (r : Reading) (x : Record) : Decidable (r.Holds x) :=
  inferInstanceAs (Decidable ((∀ v ∈ r.value, v.Holds x) ∧ ∀ w ∈ r.window, w.Holds x))

/-- The dates of a reading with their places, in the order of the text. -/
def dates (r : Reading) : List (DateRole × List Char) :=
  r.value.elim [] ValueClause.dates ++ r.window.elim [] WindowClause.dates

/-- The warnings of a reading: one for each of its dates that cannot be read. -/
def dateWarnings (r : Reading) : List DateWarning := Query.warningsAt r.dates

/-- The demand of the value clause, if there is one. -/
def predicate? (r : Reading) : Option Predicate := r.value.map ValueClause.predicate

/-- The window of the window clause, unbounded if there is none. -/
def bounds (r : Reading) : Window := (r.window.map WindowClause.window).getD {}

end Reading

/-! ## What a reading means as a query -/

namespace Query

theorem ofValueClause_eq (v : ValueClause) :
    ofValueClause v = (v.predicate, warningsAt v.dates) := by
  rw [ofValueClause, ValueClause.predicate, ValueClause.dates]
  by_cases hf : v.field = .date
  · rw [if_pos hf, if_pos hf, if_pos hf, warningsAt_cons, ← toOption_date .value]
    exact congrArg _ (List.append_nil _).symm
  · rw [if_neg hf, if_neg hf, if_neg hf]
    rfl

theorem ofWindowClause_eq (w : WindowClause) :
    ofWindowClause w = (w.window, warningsAt w.dates) := by
  rw [ofWindowClause, WindowClause.window, WindowClause.dates, warningsAt_cons, warningsAt_cons,
    ← toOption_date .windowStart, ← toOption_date .windowEnd]
  exact congrArg _ (congrArg _ (List.append_nil _).symm)

/-- **What a reading means**, the meaning and the warnings separated. -/
theorem ofReading_eq (r : Reading) :
    ofReading r = ⟨r.target, r.predicate?, r.bounds, r.dateWarnings⟩ := by
  obtain ⟨target, value, window⟩ := r
  rw [ofReading, Reading.dateWarnings, Reading.dates, warningsAt, List.filterMap_append]
  cases value <;> cases window <;>
    simp [ofValueClause_eq, ofWindowClause_eq, warningsAt, Reading.predicate?, Reading.bounds]

theorem read_of_shortest {text : String} {r : Reading} (h : r.Shortest text.toList)
    (strict : Bool) :
    read strict text
      = if strict && !r.dateWarnings.isEmpty then .error ⟨text, .badDates r.dateWarnings⟩
        else .ok (ofReading r) := by
  rw [read, Reading.ofText?_eq_some_iff.mpr h]
  simp only [ofReading_eq]

theorem read_of_not_writes {text : String} (h : ∀ r : Reading, ¬r.Writes text.toList)
    (strict : Bool) : read strict text = .error ⟨text, .grammar⟩ := by
  rw [read, Reading.ofText?_eq_none_iff.mpr h]

/-- **A query text is read by its shortest reading.** Without one the text is
malformed, and with one it is not; the shortest reading is then the only one,
and the query asks for its field, demands what its value clause says and is
bounded by the dates of its window clause. -/
theorem read_lenient (text : String) :
    (read false text = .error ⟨text, .grammar⟩ ↔ ¬∃ r : Reading, r.Writes text.toList) ∧
      ((∃ r : Reading, r.Writes text.toList) →
        ∃ r : Reading, (∀ r', r'.Shortest text.toList ↔ r' = r) ∧
          ∃ q, read false text = .ok q ∧ q.target = r.target ∧
            q.predicate = r.value.map ValueClause.predicate ∧
            q.window = (r.window.map WindowClause.window).getD {}) := by
  have hread : ∀ r, Reading.Writes r text.toList →
      ∃ r' : Reading, r'.Shortest text.toList ∧ read false text = .ok (ofReading r') := by
    intro r hr
    obtain ⟨r', hr', -⟩ := Reading.ofText?_le hr
    have hshortest := Reading.ofText?_eq_some_iff.mp hr'
    exact ⟨r', hshortest, read_of_shortest hshortest false⟩
  refine ⟨⟨?_, ?_⟩, ?_⟩
  · rintro herror ⟨r, hr⟩
    obtain ⟨r', -, hok⟩ := hread r hr
    rw [herror] at hok
    cases hok
  · intro hnone
    exact read_of_not_writes (fun r hr => hnone ⟨r, hr⟩) false
  · rintro ⟨r, hr⟩
    obtain ⟨r', hshortest, hok⟩ := hread r hr
    refine ⟨r', fun r'' => ⟨fun h => h.unique hshortest, fun h => h ▸ hshortest⟩,
      ofReading r', hok, ?_⟩
    rw [ofReading_eq]
    exact ⟨rfl, rfl, rfl⟩

/-- A text whose window clause can also be read as a part of the value: the
value that is taken ends at the first quote. -/
theorem read_lenient_window_in_value :
    let text := "get ip for user = \"ann\" and date between \"b\" and \"c\""
    let value := "ann\" and date between \"b\" and \"c"
    Reading.Writes ⟨.ip, some ⟨.user, value.toList⟩, none⟩ text.toList ∧
      ∃ q, read false text = .ok q ∧ q.predicate = some ⟨.user, some (.text "ann")⟩ := by
  intro text value
  have hlong : Reading.Writes ⟨.ip, some ⟨.user, value.toList⟩, none⟩ text.toList := by
    refine ⟨by decide, by decide, fun v hv => ?_, fun w hw => absurd hw (Option.not_mem_none w)⟩
    cases hv
    exact ⟨by decide, by decide⟩
  obtain ⟨r, hunique, q, hq, -, hpredicate, -⟩ := (read_lenient text).2 ⟨_, hlong⟩
  have hr : Reading.ofText? text.toList = some
      ⟨.ip, some ⟨.user, "ann".toList⟩, some ⟨"b".toList, "c".toList⟩⟩ := by decide
  cases (hunique _).mp (Reading.ofText?_eq_some_iff.mp hr)
  exact ⟨hlong, q, hq, hpredicate⟩

end Query

/-! ## Answers -/

namespace Dataset

/-- The answer holds the values of the target over the records that satisfy the
clauses. -/
theorem mem_run {d : Dataset} {r : Reading} {v : Scalar} :
    v ∈ d.run (Query.ofReading r) ↔ ∃ x ∈ d.records, x.get r.target = some v ∧ r.Holds x := by
  rw [run, Query.ofReading_eq, mem_distinct, mem_values]
  refine exists_congr fun x => and_congr_right fun _ => and_congr_right fun _ => ?_
  rw [and_comm]
  -- the clauses one by one; a clause that is missing demands nothing
  refine and_congr ?_ ?_
  · rw [Reading.predicate?]
    cases r.value with
    | none => simp
    | some clause => simp [ValueClause.holds_predicate]
  · rw [Reading.bounds]
    cases r.window with
    | none =>
      refine ⟨fun _ w hw => absurd hw (Option.not_mem_none w), fun _ => ?_⟩
      cases x.timestamp <;> simp [Window.Contains, Window.Unbounded]
    | some clause => simp [WindowClause.contains_window]

theorem execute_of_shortest (d : Dataset) {text : String} {r : Reading}
    (h : r.Shortest text.toList) (strict : Bool) :
    d.execute strict text
      = if strict && !r.dateWarnings.isEmpty then .error ⟨text, .badDates r.dateWarnings⟩
        else .ok (d.run (Query.ofReading r), r.dateWarnings) := by
  rw [execute, Query.read_of_shortest h]
  split
  · rfl
  · rw [Query.ofReading_eq]
    rfl

end Dataset

end AccessLog
