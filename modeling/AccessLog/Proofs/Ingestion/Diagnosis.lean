import AccessLog.Proofs.Ingestion.Verdict

/-!
# Nothing is lost without a notice

What a reading drops or leaves empty stands in its journal. The notices that are
warnings are those of its lines, in their order: one for a line that is rejected, and
one for each field of a record that should have a value and has none. So there are as
many as the report has errors and missing values. The one notice of an error is the
failure that stopped the reading (`Ingestion.read_diagnosed`).

The invariant is that the journal holds the notices of the lines behind it and of the
failure, and nothing else that is about a line or a failure (`Progress.Journaled`). It
is kept by every step of a reading (`Ingestion.kept_journaled`). What is noted of a
line can be said of the line alone, without the verdict on it (`SourceLine.notices`).
-/

namespace AccessLog

/-! ## What a line lacks -/

/-- The fields of a record that a line should give and that are missing. -/
def Record.missing (r : Record) : List Field :=
  [Field.date, .event, .status].filter fun f => (r.get f).isNone

theorem Record.length_missing (r : Record) :
    r.missing.length
      = r.timestamp.isNone.toNat + r.event.isNone.toNat + r.status.isNone.toNat := by
  have hdate : (r.get .date).isNone = r.timestamp.isNone := Option.isNone_map
  have hevent : (r.get .event).isNone = r.event.isNone := Option.isNone_map
  have hstatus : (r.get .status).isNone = r.status.isNone := Option.isNone_map
  rw [missing, List.filter_cons, List.filter_cons, List.filter_cons, hdate, hevent, hstatus]
  cases r.timestamp <;> cases r.event <;> cases r.status <;> rfl

namespace Line

/-- The field that a warning is about. -/
def Warning.field : Warning → Field
  | .timestamp _ => .date
  | .event _ => .event
  | .status _ => .status

/-- The warnings of a verdict. -/
def Verdict.warnings : Verdict → List Warning
  | .kept p => p.warnings
  | _ => []

/-- The warnings of a line. A line that gives no record has none. -/
def warnings (s : Settings) (line : List Char) : List Warning :=
  if IsBlank line then [] else ((parse s line).toOption.map Parsed.warnings).getD []

/-- **The warnings of a record are about its missing fields**, each once and in their
order. -/
theorem field_warnings_of_ofFields {s : Settings} {ip user date token status : String}
    {p : Parsed} (h : ofFields s ip user date token status = .ok p) :
    p.warnings.map Warning.field = p.record.missing := by
  rw [ofFields] at h
  cases hi : momentOf s date with
  | error f => rw [hi] at h; cases h
  | ok i =>
    rw [hi] at h
    cases htoken : EventToken.read token with
    | error f => rw [htoken] at h; cases h
    | ok activity =>
      rw [htoken] at h
      cases h
      cases i <;> cases hevent : activity.event <;> cases hstatus : Status.ofName? status <;>
        simp [Record.missing, Record.get, Warning.field, Except.toOption]

theorem field_warnings (s : Settings) (line : List Char) :
    (warnings s line).map Warning.field = ((record? s line).map Record.missing).getD [] := by
  rw [warnings, record?]
  by_cases hb : IsBlank line
  · rw [if_pos hb, if_pos hb]
    rfl
  · rw [if_neg hb, if_neg hb]
    cases hp : parse s line with
    | error r => rfl
    | ok p =>
      obtain ⟨ip, user, date, token, status, -, hfields⟩ := exists_ofFields_of_parse hp
      exact field_warnings_of_ofFields hfields

theorem warnings_of_judge {s : Settings} {line : List Char} {v : Verdict}
    (h : judge s line = .ok v) : warnings s line = v.warnings := by
  rw [warnings]
  rcases judge_cases h with ⟨hb, rfl⟩ | ⟨hb, r, hr, rfl⟩ | ⟨hb, p, hp, rfl⟩
  · exact if_pos hb
  · rw [if_neg hb, hr]
    rfl
  · rw [if_neg hb, hp]
    rfl

end Line

/-! ## Notices -/

namespace Notice

/-- Whether a notice says that a line is blank. -/
def isBlankLine : Notice → Bool
  | blankLine _ _ => true
  | _ => false

/-- Whether a notice is about a line. -/
def isOfLine : Notice → Bool
  | blankLine _ _ | rejected _ | doubtful _ _ _ => true
  | _ => false

theorem isOfLine_of_warning {n : Notice} (h : n.level = .warning) : n.isOfLine = true := by
  cases n <;> first | rfl | cases h

theorem isOfLine_of_isBlankLine {n : Notice} (h : n.isBlankLine = true) :
    n.isOfLine = true := by
  cases n <;> first | rfl | cases h

end Notice

/-- What is noted of a line on which a verdict is entered. -/
def Line.Verdict.notices (path : String) (number : Nat) : Line.Verdict → List Notice
  | .blank => [.blankLine path number]
  | .rejected r => [.rejected ⟨r, path, number⟩]
  | .kept p => p.warnings.map (.doubtful path number)

namespace SourceLine

/-- What is noted of a line that is rejected or whose record has missing values. -/
def complaints (s : Settings) (l : SourceLine) : List Notice :=
  (error? s l).toList.map .rejected
    ++ (Line.warnings s l.text).map (.doubtful l.path l.number)

/-- What is noted of a line. -/
def notices (s : Settings) (l : SourceLine) : List Notice :=
  (if Line.IsBlank l.text then [.blankLine l.path l.number] else []) ++ l.complaints s

/-- The verdict on a line gives its notices. -/
theorem notices_of_judge {s : Settings} {l : SourceLine} {v : Line.Verdict}
    (h : Line.judge s l.text = .ok v) : l.notices s = v.notices l.path l.number := by
  have hagrees := Line.agrees_of_judge h
  rw [notices, complaints, error?, hagrees.rejection_eq, Line.warnings_of_judge h]
  simp only [hagrees.blank_iff]
  cases v <;> rfl

theorem level_of_mem_complaints {s : Settings} {l : SourceLine} {n : Notice}
    (h : n ∈ l.complaints s) : n.level = .warning := by
  rcases List.mem_append.mp h with h | h
  · obtain ⟨e, -, rfl⟩ := List.mem_map.mp h
    rfl
  · obtain ⟨w, -, rfl⟩ := List.mem_map.mp h
    rfl

/-- The notices of a line that are warnings are the complaints about it. -/
theorem filter_warning_notices (s : Settings) (l : SourceLine) :
    (l.notices s).filter (fun n => n.level = .warning) = l.complaints s := by
  have hcomplaints : (l.complaints s).filter (fun n => n.level = .warning) = l.complaints s :=
    List.filter_eq_self.mpr fun n hn => decide_eq_true (level_of_mem_complaints hn)
  rw [notices, List.filter_append, hcomplaints]
  split <;> rfl

/-- **Each blank line is noted as blank once**, and no other line is. -/
theorem countP_isBlankLine_notices (s : Settings) (ls : List SourceLine) :
    (ls.flatMap (notices s)).countP Notice.isBlankLine = blankCount ls := by
  induction ls with
  | nil => rfl
  | cons l ls ih =>
    have hcomplaints : (l.complaints s).countP Notice.isBlankLine = 0 := by
      refine List.countP_eq_zero.mpr fun n hn hblank => ?_
      have hlevel := level_of_mem_complaints hn
      cases n with
      | blankLine _ _ => cases hlevel
      | _ => cases hblank
    rw [List.flatMap_cons, List.countP_append, ih, notices, List.countP_append, hcomplaints,
      blankCount, blankCount, List.countP_cons, Nat.add_comm]
    by_cases hb : Line.IsBlank l.text
    · rw [if_pos hb, if_pos (decide_eq_true hb)]
      rfl
    · rw [if_neg hb, if_neg (by simpa using hb)]
      rfl

/-- **There are as many complaints as errors and missing values.** -/
theorem length_complaints (s : Settings) (ls : List SourceLine) :
    (ls.flatMap (complaints s)).length
      = (errorsOf s ls).length + (recordsOf s ls).countP (·.timestamp.isNone)
        + (recordsOf s ls).countP (·.event.isNone) + (recordsOf s ls).countP (·.status.isNone) := by
  induction ls using List.reverseRecOn with
  | nil => rfl
  | append_singleton ls l ih =>
    have hwarnings := congrArg List.length (Line.field_warnings s l.text)
    rw [List.length_map] at hwarnings
    rw [List.flatMap_append, List.flatMap_singleton, List.length_append, ih, complaints,
      List.length_append, List.length_map, List.length_map, hwarnings, errorsOf_concat,
      recordsOf_concat, List.length_append, List.countP_append, List.countP_append,
      List.countP_append]
    have hrecord : ((Line.record? s l.text).map Record.missing |>.getD []).length
        = (Line.record? s l.text).toList.countP (·.timestamp.isNone)
          + (Line.record? s l.text).toList.countP (·.event.isNone)
          + (Line.record? s l.text).toList.countP (·.status.isNone) := by
      have htoNat : ∀ b : Bool, (if b = true then 1 else 0) = b.toNat := by decide
      cases Line.record? s l.text with
      | none => rfl
      | some r =>
        show r.missing.length = [r].countP _ + [r].countP _ + [r].countP _
        rw [Record.length_missing]
        simp only [List.countP_singleton, htoNat]
    omega

end SourceLine

open SourceLine

/-! ## The invariant -/

namespace Progress

/-- **The journal holds what is noted of the lines and of the failure**, and nothing else
about a line or a failure. -/
structure Journaled (s : Settings) (stop : Option ReadError) (ls : List SourceLine)
    (p : Progress) : Prop where
  lines_eq : p.journal.toList.filter Notice.isOfLine = ls.flatMap (notices s)
  failures_eq : p.journal.toList.filter (fun n => n.level = .error) = stop.toList.map .stopped

theorem journal_foldl_note {α : Type} (n : α → Notice) (as : List α) (p : Progress) :
    (as.foldl (fun p a => p.note (n a)) p).journal.toList = p.journal.toList ++ as.map n := by
  induction as generalizing p with
  | nil => simp
  | cons a as ih => rw [List.foldl_cons, ih]; simp [note]

/-- Entering a verdict adds its notices to the journal. -/
theorem journal_enter (path : String) (number : Nat) (p : Progress) (v : Line.Verdict) :
    (p.enter path number v).journal.toList = p.journal.toList ++ v.notices path number := by
  cases v with
  | blank => exact Array.toList_push
  | rejected r => exact Array.toList_push
  | kept parsed => exact journal_foldl_note _ parsed.warnings p

namespace Journaled

variable {s : Settings} {stop : Option ReadError} {ls : List SourceLine} {p : Progress}

/-- Notices that are about no line and no failure do not matter. -/
theorem note (h : p.Journaled s stop ls) {n : Notice} (hline : n.isOfLine = false)
    (hlevel : n.level ≠ .error) : (p.note n).Journaled s stop ls := by
  refine ⟨?_, ?_⟩
  · rw [Progress.note, Array.toList_push, List.filter_append, h.lines_eq,
      List.filter_singleton, hline]
    exact List.append_nil _
  · rw [Progress.note, Array.toList_push, List.filter_append, h.failures_eq,
      List.filter_singleton, decide_eq_false hlevel]
    exact List.append_nil _

/-- The first failure is noted. -/
theorem stopped (h : p.Journaled s none ls) (e : ReadError) :
    (p.stop e).Journaled s (some e) ls := by
  refine ⟨?_, ?_⟩
  · show (p.note (.stopped e)).journal.toList.filter Notice.isOfLine = _
    rw [Progress.note, Array.toList_push, List.filter_append, h.lines_eq]
    exact List.append_nil _
  · show (p.note (.stopped e)).journal.toList.filter _ = _
    rw [Progress.note, Array.toList_push, List.filter_append, h.failures_eq]
    rfl

/-- **Entering the verdict on a line adds the notices of the line.** -/
theorem enter (h : p.Journaled s stop ls) {l : SourceLine} {v : Line.Verdict}
    (hv : Line.judge s l.text = .ok v) :
    (p.countLine.enter l.path l.number v).Journaled s stop (ls ++ [l]) := by
  have hlines : ∀ n ∈ v.notices l.path l.number, n.isOfLine = true ∧ n.level ≠ .error := by
    intro n hn
    cases v with
    | blank => cases List.mem_singleton.mp hn; exact ⟨rfl, nofun⟩
    | rejected r => cases List.mem_singleton.mp hn; exact ⟨rfl, nofun⟩
    | kept parsed => obtain ⟨w, -, rfl⟩ := List.mem_map.mp hn; exact ⟨rfl, nofun⟩
  have hjournal : (p.countLine.enter l.path l.number v).journal.toList
      = p.journal.toList ++ v.notices l.path l.number := journal_enter _ _ _ v
  refine ⟨?_, ?_⟩
  · rw [hjournal, List.filter_append, h.lines_eq,
      List.filter_eq_self.mpr fun n hn => (hlines n hn).1, List.flatMap_append,
      List.flatMap_singleton, notices_of_judge hv]
  · rw [hjournal, List.filter_append, h.failures_eq,
      List.filter_eq_nil_iff.mpr fun n hn => by simpa using (hlines n hn).2, List.append_nil]

/-- The warnings of the journal are the complaints about the lines. -/
theorem warnings_eq (h : p.Journaled s stop ls) :
    p.journal.toList.filter (fun n => n.level = .warning) = ls.flatMap (complaints s) := by
  have hof : p.journal.toList.filter (fun n => n.level = .warning)
      = (p.journal.toList.filter Notice.isOfLine).filter (fun n => n.level = .warning) := by
    rw [List.filter_filter]
    refine List.filter_congr fun n _ => ?_
    by_cases hn : n.level = .warning
    · simp [hn, Notice.isOfLine_of_warning hn]
    · simp [hn]
  rw [hof, h.lines_eq, List.filter_flatMap]
  simp only [filter_warning_notices]

/-- The blank lines are noted as blank. -/
theorem countP_isBlankLine (h : p.Journaled s stop ls) :
    p.journal.toList.countP Notice.isBlankLine = blankCount ls := by
  have hof : p.journal.toList.countP Notice.isBlankLine
      = (p.journal.toList.filter Notice.isOfLine).countP Notice.isBlankLine := by
    rw [List.countP_filter]
    refine List.countP_congr fun n _ => ?_
    rw [Bool.and_eq_true]
    exact ⟨fun hn => ⟨hn, Notice.isOfLine_of_isBlankLine hn⟩, fun hn => hn.1⟩
  rw [hof, h.lines_eq, countP_isBlankLine_notices]

end Journaled

/-- **What a reading lost is in its journal**: `ls` being the lines that it came to, its
warnings are those of the rejected lines and of the missing values, line by line, and its
errors are the failure that stopped it. -/
structure Diagnosed (s : Settings) (ls : List SourceLine) (p : Progress) : Prop where
  records : p.records.toList = recordsOf s ls
  errors : p.report.errors.toList = errorsOf s ls
  /-- A warning of a line with a record is about a missing field of it. -/
  missing : ∀ l ∈ ls, (Line.warnings s l.text).map Line.Warning.field
    = ((Line.record? s l.text).map Record.missing).getD []
  warnings : (p.journal.toList.filter fun n => n.level = .warning).map Notice.message
    = ls.flatMap fun l =>
      (error? s l).toList.map (fun e => s!"Skipped line {e.path}:{e.line}: {e.rejection.message}")
        ++ (Line.warnings s l.text).map fun w => s!"{l.path}:{l.number}: {w.message}"
  count : p.journal.toList.countP (fun n => n.level = .warning)
    = p.report.errors.size + p.report.unparsedTimestamps + p.report.unknownEvents
      + p.report.unknownStatuses
  failures : p.journal.toList.filter (fun n => n.level = .error)
    = p.report.readError.toList.map .stopped
  blanks : p.journal.toList.countP Notice.isBlankLine + p.report.errors.size
    = p.report.skippedLines

end Progress

/-! ## The run -/

namespace Ingestion

variable {s : Settings} {directory : String} {place : Place} {p : Progress}

/-- Every step of a reading keeps the journal. -/
theorem kept_journaled (s : Settings) :
    Kept s fun _ stop ls p => p.Journaled s stop ls where
  init := ⟨rfl, rfl⟩
  reading _ h := h.note rfl nofun
  enter h hv := h.enter hv
  countFile h := ⟨h.lines_eq, h.failures_eq⟩
  stop e h := h.stopped e
  finish _ h := h.note rfl nofun

/-- **Nothing is lost without a notice.** Whatever place is read under whatever settings,
and whether or not a failure stopped the reading: what the result lost of the lines that
were read is in its journal. -/
theorem read_diagnosed (h : read s directory place = .ok p) :
    p.Diagnosed s (linesRead s directory place) := by
  obtain ⟨files, stop, haccounts, hjournaled⟩ :=
    ((kept_accounts s).and (kept_journaled s)).read h
  have hreport := haccounts.report_eq
  constructor
  case records => exact haccounts.records_eq
  case errors => rw [hreport]; rfl
  case missing => exact fun l _ => Line.field_warnings s l.text
  case warnings =>
    rw [hjournaled.warnings_eq, List.map_flatMap]
    refine List.flatMap_congr fun l _ => ?_
    rw [complaints, List.map_append, List.map_map, List.map_map]
    rfl
  case count =>
    rw [List.countP_eq_length_filter, hjournaled.warnings_eq, length_complaints, hreport]
    rfl
  case failures => rw [hjournaled.failures_eq, hreport]; rfl
  case blanks => rw [hjournaled.countP_isBlankLine, hreport]; rfl

/-- A folder whose second file fails behind its first line. Of the lines before, one is
blank, one is rejected and three lack a value, one of them all values. -/
theorem read_diagnosed_stopped :
    let bytes := fun text : String => text.toList.map (fun c => c.toNat.toUInt8)
    let first : SourceFile := ⟨"a.log", bytes ("10.0.0.1\tAnn\t\tJUMP\tLATE\n\n" ++
      "10.0.0.1\tAnn\t2.1.2020 9:0:0\tJUMP\tOK\nshort\n"), none⟩
    let second : SourceFile := ⟨"b.log", bytes ("10.0.0.2\tBob\t3.1.2020 9:0:0\tLOGIN\tLATE\n" ++
      "10.0.0.2\tBob\t4.1.2020 9:0:0\tLOGIN\tOK\n"),
      some (.reading 1 (.system 5 "Input/output error"))⟩
    let place := Place.folder [.file second, .file first]
    ∃ p, read {} "logs" place = .ok p ∧
      p.report.readError = some ⟨"logs/b.log", .system 5 "Input/output error"⟩ ∧
      (p.report.errors.size, p.report.skippedLines) = (1, 2) ∧
      p.Diagnosed {} (linesRead {} "logs" place) := by
  intro bytes first second place
  obtain ⟨a, hread, -, hreport⟩ := Archive.exists_read "logs" [first, second] (by decide)
    (by decide) (List.Perm.swap (Entry.file first) (Entry.file second) []) (by decide)
  obtain ⟨p, hp, rfl⟩ := Archive.exists_progress_of_read hread
  refine ⟨p, hp, ?_, ?_, read_diagnosed hp⟩
  · show (Archive.ofProgress p).report.readError = _
    rw [hreport]
    decide
  · show ((Archive.ofProgress p).report.errors.size, (Archive.ofProgress p).report.skippedLines) = _
    rw [hreport]
    decide

end Ingestion

end AccessLog
