import AccessLog.Proofs.Ingestion.Verdict
import AccessLog.Proofs.Query.Denotation
import AccessLog.Proofs.WellFormed

/-!
# A record is found again through its fields

What a record holds in a field has a rendered form, and a query text can demand
this form of the field. The query finds the record, and so answers with whatever
else the record holds (`Archive.execute_field_round_trip`).

Two things have to be seen of a record that was read from a log, because they do
not hold of every record (`Record.Written`). Its address and its user are parts
of one line, so no line feed stands in them, where no query text could be read.
Its instant has no microseconds, which the rendered form leaves out. A third is
wanted and not always there: a year of four digits that begin with no zero. The
records from before the year 1000 are found through no date.
-/

namespace AccessLog

/-! ## Records as logs write them -/

/-- **A record as logs write it**: no line feed in the address and the user, and
no microseconds in the instant. -/
structure Record.Written (r : Record) : Prop where
  ip_no_feed : '\n' ∉ r.ip.toList
  user_no_feed : '\n' ∉ r.user.toList
  no_micro : ∀ t, r.timestamp = some t → t.micro = 0

/-- The record of a line of a text is as logs write it. -/
theorem Line.written_of_record? {line cs : List Char} (hline : line ∈ Text.lines cs) {r : Record}
    (h : Line.record? {} line = some r) : r.Written := by
  have hwell := Line.wellFormed_of_record? hline h
  exact ⟨hwell.ip.no_feed, hwell.user.no_feed, hwell.no_micro rfl⟩

/-- Only the date is an instant. -/
theorem Record.eq_date_of_get {r : Record} {f : Field} {t : Timestamp}
    (h : r.get f = some (.instant t)) : f = .date := by
  cases f <;> simp [Record.get] at h ⊢

namespace Record.Written

variable {r : Record} {f : Field} {u : Scalar}

/-- What such a record holds is rendered without a line feed. -/
theorem no_feed (h : r.Written) (hf : f ∈ Field.queryable) (hu : r.get f = some u) :
    '\n' ∉ u.render.toList := by
  cases f with
  | ip => cases hu; exact h.ip_no_feed
  | user => cases hu; exact h.user_no_feed
  | date =>
    obtain ⟨t, -, rfl⟩ := Option.map_eq_some_iff.mp hu
    exact fun hmem => absurd (Timestamp.mem_logForm hmem) (by decide)
  | event =>
    obtain ⟨e, -, rfl⟩ := Option.map_eq_some_iff.mp hu
    cases e <;> decide
  | status =>
    obtain ⟨s, -, rfl⟩ := Option.map_eq_some_iff.mp hu
    cases s <;> decide
  | task => exact absurd hf (by decide)

/-- **Such a record satisfies the clause that demands what it holds**, unless this
is an instant of a short year. -/
theorem holds (h : r.Written) (hu : r.get f = some u)
    (hyear : ∀ t, u = .instant t → 1000 ≤ t.year) :
    ValueClause.Holds ⟨f, u.render.toList⟩ r := by
  by_cases hf : f = .date
  · subst hf
    obtain ⟨t, ht, rfl⟩ := Option.map_eq_some_iff.mp hu
    have hread := Timestamp.read_logForm (hyear t rfl) (h.no_micro t ht)
    rw [ValueClause.Holds, if_pos rfl]
    refine ⟨t, ht, ?_⟩
    rw [Scalar.render, Query.instant?, String.ofList_toList, hread]
    rfl
  · rw [ValueClause.Holds, if_neg hf]
    exact ⟨u, hu, String.ofList_toList.symm⟩

end Record.Written

/-- No record satisfies a clause that demands an instant of a short year. -/
theorem ValueClause.not_holds_logForm {t : Timestamp} (hy : t.year < 1000) (x : Record) :
    ¬ ValueClause.Holds ⟨.date, t.logForm.toList⟩ x := by
  have hnone : Query.instant? t.logForm.toList = none := by
    obtain ⟨e, he⟩ := Timestamp.read_logForm_of_lt hy
    rw [Query.instant?, String.ofList_toList, he]
    rfl
  rw [ValueClause.Holds, if_pos rfl, hnone]
  rintro ⟨s, -, ⟨⟩⟩

/-! ## The query -/

/-- The reading of a query text for a field whose value is given by another. -/
def Reading.getFor (target f : Field) (text : String) : Reading :=
  ⟨target, some ⟨f, text.toList⟩, none⟩

/-- Without a quote and a line feed in the value, this is the shortest reading. -/
theorem Reading.shortest_getFor {target f : Field} (htarget : target ∈ Field.queryable)
    (hf : f ∈ Field.queryable) {text : String} (hquote : '"' ∉ text.toList)
    (hfeed : '\n' ∉ text.toList) :
    (Reading.getFor target f text).Shortest
      ("get " ++ target.key ++ " for " ++ f.key ++ " = \"" ++ text ++ "\"").toList := by
  have hwrites : (Reading.getFor target f text).Writes
      ("get " ++ target.key ++ " for " ++ f.key ++ " = \"" ++ text ++ "\"").toList := by
    refine ⟨?_, htarget, fun v hv => ?_, fun w hw => absurd hw (Option.not_mem_none w)⟩
    · simp [Reading.text, Reading.getFor, clauseText, ValueClause.text, Reading.getWord,
        Reading.forWord, Reading.equalsWord]
    · cases hv
      exact ⟨hf, hfeed⟩
  refine hwrites.shortest ⟨fun v hv => ?_, fun w hw => absurd hw (Option.not_mem_none w)⟩
  cases hv
  exact hquote

namespace Archive

/-- **A record is found again through its fields.** Let a record of an archive hold
a value in one field and something in another, and let the rendered form of that
hold no quote. The query text that demands this form answers with the value – if
and only if what is demanded is not an instant of a year before 1000. -/
theorem execute_field_round_trip {directory : String} {place : Place} {a : Archive}
    (h : Archive.read {} directory place = .ok a) {r : Record} (hr : r ∈ a.dataset.records)
    {target f : Field} (htarget : target ∈ Field.queryable) (hf : f ∈ Field.queryable)
    {v u : Scalar} (hv : r.get target = some v) (hu : r.get f = some u)
    (hquote : '"' ∉ u.render.toList) :
    ∃ vs ws, a.dataset.execute false
        ("get " ++ target.key ++ " for " ++ f.key ++ " = \"" ++ u.render ++ "\"") = .ok (vs, ws) ∧
      (v ∈ vs ↔ ∀ t, u = .instant t → 1000 ≤ t.year) := by
  obtain ⟨line, cs, hline, hrecord⟩ := exists_line_of_mem_records h hr
  have hwritten : r.Written := Line.written_of_record? hline hrecord
  have hshortest := Reading.shortest_getFor htarget hf hquote (hwritten.no_feed hf hu)
  refine ⟨_, _, a.dataset.execute_of_shortest hshortest false, ?_⟩
  rw [Dataset.mem_run]
  constructor
  · rintro ⟨x, -, -, hx⟩ t rfl
    by_contra hy
    obtain rfl := Record.eq_date_of_get hu
    exact ValueClause.not_holds_logForm (Nat.lt_of_not_le hy) x (hx.1 _ rfl)
  · intro hyear
    refine ⟨r, hr, hv, fun clause hclause => ?_, fun w hw => absurd hw (Option.not_mem_none w)⟩
    cases hclause
    exact hwritten.holds hu hyear

/-- A record is found through the form of its date without padding. -/
theorem execute_field_round_trip_by_date :
    let bytes := fun text : String => text.toList.map (fun c => c.toNat.toUInt8)
    let f : SourceFile :=
      ⟨"a.log", bytes "10.0.0.1\tann\t05.03.2014 09:30:07\tSOLVE_TASK 18\tOK\n", none⟩
    ∃ a, Archive.read {} "logs" (.folder [.file f]) = .ok a ∧
      ∃ vs ws, a.dataset.execute false "get user for date = \"5.3.2014 9:30:7\"" = .ok (vs, ws) ∧
        .text "ann" ∈ vs := by
  intro bytes f
  obtain ⟨a, hread, hrecords, -⟩ := exists_read "logs" [f] (by decide) (by decide)
    (List.Perm.refl [Entry.file f]) (by decide)
  let t : Timestamp := .mk 2014 3 5 9 30 7 0
  let r : Record := ⟨"10.0.0.1", "ann", some t, some .solveTask, some 18, some .ok⟩
  have hr : r ∈ a.dataset.records := by
    rw [hrecords]
    decide
  have huser : r.get .user = some (.text "ann") := rfl
  have hdate : r.get .date = some (.instant t) := rfl
  obtain ⟨vs, ws, hexecute, hmem⟩ :=
    execute_field_round_trip hread hr (by decide) (by decide) huser hdate (by decide)
  have htext : "get " ++ Field.user.key ++ " for " ++ Field.date.key ++ " = \"" ++
      (Scalar.instant t).render ++ "\"" = "get user for date = \"5.3.2014 9:30:7\"" := by decide
  rw [htext] at hexecute
  refine ⟨a, hread, vs, ws, hexecute, hmem.mpr fun t' ht' => ?_⟩
  cases ht'
  decide

/-- A record from before the year 1000 is not found through its date. -/
theorem not_mem_execute_short_year :
    let bytes := fun text : String => text.toList.map (fun c => c.toNat.toUInt8)
    let f : SourceFile := ⟨"a.log", bytes "10.0.0.1\tann\t1.1.0999 0:0:0\tLOGIN\tOK\n", none⟩
    let t : Timestamp := .mk 999 1 1 0 0 0 0
    ∃ a, Archive.read {} "logs" (.folder [.file f]) = .ok a ∧
      ⟨"10.0.0.1", "ann", some t, some .login, none, some .ok⟩ ∈ a.dataset.records ∧
      (Scalar.instant t).render = "1.1.999 0:0:0" ∧
      ∃ vs ws, a.dataset.execute false "get user for date = \"1.1.999 0:0:0\"" = .ok (vs, ws) ∧
        .text "ann" ∉ vs := by
  intro bytes f t
  obtain ⟨a, hread, hrecords, -⟩ := exists_read "logs" [f] (by decide) (by decide)
    (List.Perm.refl [Entry.file f]) (by decide)
  have hshortest : (Reading.getFor .user .date "1.1.999 0:0:0").Shortest _ :=
    Reading.shortest_getFor (by decide) (by decide) (by decide) (by decide)
  have hform : t.logForm = "1.1.999 0:0:0" := by decide
  refine ⟨a, hread, ?_, hform, _, _, a.dataset.execute_of_shortest hshortest false, fun hmem => ?_⟩
  · rw [hrecords]
    decide
  · obtain ⟨x, -, -, hx⟩ := Dataset.mem_run.mp hmem
    refine ValueClause.not_holds_logForm (t := t) (by decide) x ?_
    rw [hform]
    exact hx.1 _ rfl

end Archive

end AccessLog
