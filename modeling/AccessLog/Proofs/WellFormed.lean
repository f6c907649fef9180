import AccessLog.Proofs.EventToken
import AccessLog.Proofs.Ingestion.Verdict
import AccessLog.Proofs.Timestamp.ShortYear

/-!
# Records that were read are well formed

Not every record can come of a log. In one that does, the address and the user are
pieces of a line, so they hold neither the delimiter nor a line ending, there is a task
exactly if the event concerns one, and the instant is one of the calendar, without
microseconds if dates have the format of the logs (`Record.WellFormed`).

That holds of the record of every line of a text (`Line.wellFormed_of_record?`), and so
of every record of an archive (`Archive.wellFormed_of_read`), whatever the settings are:
where the delimiter is empty or the number of fields is not that of a record, no line
gives one.
-/

namespace AccessLog

open SourceLine

/-- **A text that can be a field of a line**: it holds neither the delimiter nor a
character of a line ending. -/
structure Settings.FieldText (s : Settings) (text : String) : Prop where
  no_delimiter : ¬ s.delimiter.toList <:+: text.toList
  no_return : '\r' ∉ text.toList
  no_feed : '\n' ∉ text.toList

/-- **A record that a line can give.** -/
structure Record.WellFormed (s : Settings) (r : Record) : Prop where
  task_iff : r.task.isSome ↔ r.event = some .solveTask ∨ r.event = some .doneTask
  ip : s.FieldText r.ip
  user : s.FieldText r.user
  date_valid : ∀ t, r.timestamp = some t → (1 ≤ t.year ∧ t.year ≤ 9999) ∧
    (1 ≤ t.month ∧ t.month ≤ 12) ∧ 1 ≤ t.day ∧ t.day ≤ monthLength t.year t.month
  time_valid : ∀ t, r.timestamp = some t →
    t.hour ≤ 23 ∧ t.minute ≤ 59 ∧ t.second ≤ 59 ∧ t.micro ≤ 999999
  no_micro : s.dateFormat = Timestamp.logFormat → ∀ t, r.timestamp = some t → t.micro = 0

namespace Line

variable {s : Settings} {line cs : List Char}

/-- A line that is read has a delimiter to cut it at. -/
theorem delimiter_ne_nil_of_parse {p : Parsed} (h : parse s line = .ok p) :
    s.delimiter.toList ≠ [] := by
  intro hnil
  have hempty : s.delimiter = "" := String.toList_injective hnil
  rw [parse, split, hempty] at h
  cases h

/-- **The fields of a line of a text are field texts**, where there is a delimiter. -/
theorem fieldText_of_mem_fields (hline : line ∈ Text.lines cs) (hne : s.delimiter.toList ≠ [])
    {f : List Char} (hf : f ∈ fields s.delimiter.toList line) : s.FieldText (.ofList f) := by
  have hpiece := (Text.dropTrailing_sublist List.isEmpty _).mem hf
  have hending : ∀ c ∈ f, isEnding c = false := fun _ => not_isEnding_of_mem_field hline hf
  constructor
  case no_delimiter =>
    rw [String.toList_ofList]
    exact Text.not_infix_of_mem_piecesFrom hne hpiece
  case no_return =>
    rw [String.toList_ofList]
    exact fun hmem => absurd (hending _ hmem) (by decide)
  case no_feed =>
    rw [String.toList_ofList]
    exact fun hmem => absurd (hending _ hmem) (by decide)

/-- **The record of a line of a text is well formed.** -/
theorem wellFormed_of_record? (hline : line ∈ Text.lines cs) {r : Record}
    (h : record? s line = some r) : r.WellFormed s := by
  obtain ⟨p, hp, rfl⟩ := exists_parse_of_record? h
  have hne := delimiter_ne_nil_of_parse hp
  obtain ⟨⟨ip, hip, hipEq⟩, ⟨user, huser, huserEq⟩, hdate⟩ := record_of_parse hp
  obtain ⟨_, _, _, _, _, -, hfields⟩ := exists_ofFields_of_parse hp
  constructor
  case task_iff =>
    rw [EventToken.isSome_task_of_read (activity_of_ofFields hfields)]
    constructor
    · rintro ⟨e, he, htask⟩
      have hevent : p.record.event = some e := he
      rw [hevent, Option.some.injEq, Option.some.injEq]
      cases e <;> first | exact Or.inl rfl | exact Or.inr rfl | cases htask
    · rintro (he | he)
      · exact ⟨_, he, rfl⟩
      · exact ⟨_, he, rfl⟩
  case ip => rw [hipEq]; exact fieldText_of_mem_fields hline hne hip
  case user => rw [huserEq]; exact fieldText_of_mem_fields hline hne huser
  -- an instant carries that it is one
  case date_valid => exact fun t _ => t.date_valid
  case time_valid => exact fun t _ => t.time_valid
  case no_micro =>
    intro hformat t ht
    obtain ⟨date, hread⟩ := hdate t ht
    rw [hformat] at hread
    exact Timestamp.micro_of_read Timestamp.format_logFormat (by decide) hread

end Line

/-- **Every record that was read is well formed.** Whatever place is read under whatever
settings, and whether or not a failure stopped the reading. -/
theorem Archive.wellFormed_of_read {s : Settings} {directory : String} {place : Place}
    {a : Archive} (h : Archive.read s directory place = .ok a) :
    ∀ r ∈ a.dataset.records, r.WellFormed s := by
  intro r hr
  obtain ⟨line, cs, hline, hrecord⟩ := exists_line_of_mem_records h hr
  exact Line.wellFormed_of_record? hline hrecord

/-- A line that is cut at a delimiter of two characters. A third stays with the user. -/
theorem Archive.wellFormed_of_read_two_colons :
    let s : Settings := { delimiter := "::" }
    let f : SourceFile := ⟨"a.log", "10.0.0.1:::Ann::1.1.2020 9:0:0::SOLVE_TASK 7::OK\n".toList.map
      (fun c => c.toNat.toUInt8), none⟩
    ∃ a r, Archive.read s "logs" (.folder [.file f]) = .ok a ∧ r ∈ a.dataset.records ∧
      r.ip = "10.0.0.1" ∧ r.user = ":Ann" ∧ r.WellFormed s := by
  intro s f
  have hshort : ∀ l ∈ ofFiles .utf8 "logs" [f], l.text.length ≤ Text.Numeral.maxDigits := by
    decide
  obtain ⟨p, hp, hrecords, -⟩ := Ingestion.exists_read_singleton (s := s) ⟨by decide, rfl, rfl⟩
    Ingestion.ofName_default "logs" (by decide) rfl
    (fun l hl => Line.withinLimit_of_length_le (hshort l hl))
  have hread : Archive.read s "logs" (.folder [.file f]) = .ok (ofProgress p) := by
    rw [Archive.read, hp]
    rfl
  have hmem : (⟨"10.0.0.1", ":Ann", some (.mk 2020 1 1 9 0 0 0), some .solveTask, some 7, some .ok⟩
      : Record) ∈ (ofProgress p).dataset.records := by
    show _ ∈ p.dataset.records
    rw [hrecords]
    decide
  exact ⟨_, _, hread, hmem, rfl, rfl, wellFormed_of_read hread _ hmem⟩

end AccessLog
