import AccessLog.Proofs.EventToken
import AccessLog.Proofs.Ingestion.Verdict

/-!
# Bad lines do not end a reading, long numerals do

Whatever bytes the log files of a folder hold, a line of them gives a record, is
rejected or is blank, and reading the folder gives all records and all errors –
unless one line names a task by a numeral of too many digits. Then nothing is
kept (`Ingestion.read_or_longNumeral`), and every number of digits beyond the
limit has such a line (`Ingestion.read_taskFile`).
-/

namespace AccessLog

open SourceLine

namespace Ingestion

variable {s : Settings} {e : Encoding}

/-! ## What ends a reading -/

theorem exists_judge_of_readLines {path : String} {texts : List (List Char)} {n : Nat}
    {p : Progress} {i : Interruption} (h : readLines s path n texts p = .error i) :
    ∃ text ∈ texts, ∃ f, Line.judge s text = .error f ∧ i.fault = .line f := by
  induction texts generalizing n p with
  | nil => cases h
  | cons text texts ih =>
    rw [readLines] at h
    cases hv : Line.judge s text with
    | error f =>
      simp only [hv] at h
      cases h
      exact ⟨text, List.mem_cons_self, f, hv, rfl⟩
    | ok v =>
      simp only [hv] at h
      obtain ⟨t, ht, hf⟩ := ih h
      exact ⟨t, List.mem_cons_of_mem text ht, hf⟩

/-- With a known encoding only a line ends the reading of files. -/
theorem exists_judge_of_readFiles (he : Encoding.ofName s.codecs s.encoding = .ok e)
    {directory : String}
    {fs : List SourceFile} {p : Progress} {i : Interruption}
    (h : readFiles s directory fs p = .error i) :
    ∃ text f, Line.judge s text = .error f ∧ i.fault = .line f := by
  induction fs generalizing p with
  | nil => cases h
  | cons f fs ih =>
    rw [readFiles_cons he] at h
    cases hlines : readLines s (Path.child directory f.name) 1 (delivered e f).1
        (p.note (.reading (Path.child directory f.name))) with
    | error stopped =>
      rw [hlines] at h
      cases h
      obtain ⟨text, -, hf⟩ := exists_judge_of_readLines hlines
      exact ⟨text, hf⟩
    | ok q =>
      rw [hlines] at h
      cases hfailure : failureOf directory f with
      | none =>
        rw [hfailure] at h
        exact ih h
      | some error =>
        rw [hfailure] at h
        cases h

/-- **Only long numerals end a reading.** Under regular settings with a known
encoding, reading a folder whose log files can be read gives a result exactly if
no line of theirs names a task by too many digits, and nothing else can end the
reading. The result holds the records and the errors of all lines, and each line
that is not blank gives one record or one error, not both. -/
theorem read_or_longNumeral (hs : s.Regular) (he : Encoding.ofName s.codecs s.encoding = .ok e)
    (directory : String) {entries : List Entry}
    (hreadable : ∀ f, .file f ∈ entries → Place.hasExtension s.extension f.name = true →
      f.interrupt = none) :
    let ls := ofFiles e directory (Place.logFiles s.extension entries)
    ((∃ p, read s directory (.folder entries) = .ok p) ↔ ∀ l ∈ ls, Line.WithinLimit s l.text) ∧
    (∀ i, read s directory (.folder entries) = .error i →
      ∃ d, i.fault = .line (.longNumeral d) ∧ Text.Numeral.maxDigits < d) ∧
    ∀ p, read s directory (.folder entries) = .ok p →
      p.dataset.records = recordsOf s ls ∧ p.report.errors.toList = errorsOf s ls ∧
      ∀ l ∈ ls, ¬ Line.IsBlank l.text →
        (Line.record? s l.text).isSome = !(error? s l).isSome := by
  intro ls
  have hreadable' : ∀ f ∈ Place.logFiles s.extension entries, f.interrupt = none := by
    intro f hf
    obtain ⟨hmem, hext⟩ := Place.mem_logFiles.mp hf
    exact hreadable f hmem hext
  have hls : reached e directory (Place.logFiles s.extension entries) = ls :=
    reached_of_readable e directory hreadable'
  have hiff : (∃ q, readFiles s directory (Place.logFiles s.extension entries) {} = .ok q) ↔ _ :=
    exists_readFiles_iff he directory
  rw [hls] at hiff
  rw [read_folder_eq]
  cases hread : readFiles s directory (Place.logFiles s.extension entries) {} with
  | error i =>
    refine ⟨⟨fun ⟨p, hp⟩ => (by cases hp), fun hlimit => ?_⟩, ?_, fun p hp => (by cases hp)⟩
    · obtain ⟨q, hq⟩ := hiff.mpr fun l hl => Line.exists_judge hs (hlimit l hl)
      rw [hread] at hq
      cases hq
    · rintro _ ⟨⟩
      obtain ⟨text, f, hf, hfault⟩ := exists_judge_of_readFiles he hread
      obtain ⟨d, rfl, hd⟩ := Line.judge_error hs hf
      exact ⟨d, hfault, hd⟩
  | ok q =>
    have hjudged := hiff.mp ⟨q, hread⟩
    have haccounts := readFiles_accounts he directory _ (Progress.Accounts.init s) hread
    rw [hls, List.nil_append] at haccounts
    refine ⟨⟨fun _ l hl => (Line.exists_judge_iff hs).mp (hjudged l hl), fun _ => ⟨_, rfl⟩⟩,
      fun i hi => (by cases hi), ?_⟩
    rintro _ ⟨⟩
    refine ⟨haccounts.records_eq, ?_, fun l hl hblank => ?_⟩
    · show q.report.errors.toList = errorsOf s ls
      rw [haccounts.report_eq]
      rfl
    · obtain ⟨v, hv⟩ := hjudged l hl
      rw [(Line.agrees_of_judge hv).isSome_record?_eq hblank, error?, Option.isSome_map]

/-- A file whose bytes are no text, with a line that is rejected, a line that is
kept and a blank one. -/
theorem read_or_longNumeral_broken_bytes :
    let bytes := fun text : String => text.toList.map (fun c => c.toNat.toUInt8)
    let f : SourceFile := ⟨"a.log", [0xFF, 0xC3, 0x0A] ++
      bytes "10.0.0.1\tann\t1.1.2020 0:0:0\tSOLVE_TASK x\tOK\n\n" ++ [0x80] ++
      bytes "\tann\t1.1.2020 0:0:0\tSOLVE_TASK 1\tOK", none⟩
    let ls := ofFiles .utf8 "logs" (Place.logFiles ({} : Settings).extension [.file f])
    ∃ p, read {} "logs" (.folder [.file f]) = .ok p ∧
      p.dataset.records = recordsOf {} ls ∧ p.report.errors.toList = errorsOf {} ls ∧
      ∀ l ∈ ls, ¬ Line.IsBlank l.text →
        (Line.record? {} l.text).isSome = !(error? {} l).isSome := by
  intro bytes f ls
  have hreadable : ∀ g, Entry.file g ∈ [Entry.file f] →
      Place.hasExtension ({} : Settings).extension g.name = true → g.interrupt = none := by
    intro g hg _
    rw [List.mem_singleton, Entry.file.injEq] at hg
    rw [hg]
  obtain ⟨hiff, -, hresult⟩ :=
    read_or_longNumeral Settings.regular_default ofName_default "logs" hreadable
  have hls : ls = ofFiles .utf8 "logs" [f] :=
    congrArg (ofFiles .utf8 "logs")
      (Place.logFiles_of_files [f] (by decide) (by decide) (List.Perm.refl _))
  have hshort : ∀ l ∈ ofFiles .utf8 "logs" [f], l.text.length ≤ Text.Numeral.maxDigits := by decide
  obtain ⟨p, hp⟩ := hiff.mpr fun l hl => Line.withinLimit_of_length_le (hshort l (hls ▸ hl))
  exact ⟨p, hp, hresult p hp⟩

/-! ## Long numerals -/

/-- A line on the task with the given digits, without its ending. -/
def taskLine (digits : List Char) : List Char :=
  "10.0.0.1\tann\t1.1.2020 0:0:0\tSOLVE_TASK ".toList ++ (digits ++ "\tOK".toList)

/-- The file that holds this line. -/
def taskFile (digits : List Char) : SourceFile where
  name := "a.log"
  bytes := (taskLine digits ++ ['\n']).map fun c => c.toNat.toUInt8

/-- A digit is an ASCII character and ends no line. -/
theorem ascii_of_isDigit {c : Char} (h : c.isDigit = true) :
    c.toNat < 0x80 ∧ Line.isEnding c = false := by
  refine ⟨?_, ?_⟩
  · have h9 : '9'.toNat = 0x39 := rfl
    have hc := Char.isDigit_iff_toNat.mp h
    omega
  · rw [Line.isEnding, Bool.or_eq_false_iff, beq_eq_false_iff_ne, beq_eq_false_iff_ne]
    constructor <;> rintro rfl <;> cases h

/-- All characters of the line are ASCII characters and end no line. -/
theorem ascii_of_mem_taskLine {digits : List Char} (hdigits : ∀ d ∈ digits, d.isDigit = true) :
    ∀ c ∈ taskLine digits, c.toNat < 0x80 ∧ Line.isEnding c = false := by
  have hbefore : ∀ c ∈ "10.0.0.1\tann\t1.1.2020 0:0:0\tSOLVE_TASK ".toList,
      c.toNat < 0x80 ∧ Line.isEnding c = false := by simp [Line.isEnding]
  have hbehind : ∀ c ∈ "\tOK".toList, c.toNat < 0x80 ∧ Line.isEnding c = false := by
    simp [Line.isEnding]
  intro c hc
  rcases List.mem_append.mp hc with hc | hc
  · exact hbefore c hc
  · exact (List.mem_append.mp hc).elim (fun h => ascii_of_isDigit (hdigits c h)) (hbehind c)

/-- The line is the only one of its file. -/
theorem lines_taskFile {digits : List Char} (hdigits : ∀ d ∈ digits, d.isDigit = true) :
    Text.lines (Encoding.utf8.decode (taskFile digits).bytes) = [taskLine digits ++ ['\n']] := by
  have hascii := ascii_of_mem_taskLine hdigits
  rw [taskFile, Encoding.decode_ascii, Text.lines_of_content fun c hc => (hascii c hc).2]
  intro c hc
  rcases List.mem_append.mp hc with hc | hc
  · exact (hascii c hc).1
  · rw [List.mem_singleton.mp hc]
    decide

/-- The fields of the line. -/
theorem fields_taskLine {digits : List Char} (hdigits : ∀ d ∈ digits, d.isDigit = true) :
    Line.fields ['\t'] (taskLine digits ++ ['\n'])
      = ["10.0.0.1".toList, "ann".toList, "1.1.2020 0:0:0".toList,
          Event.solveTask.name.toList ++ ' ' :: digits, "OK".toList] := by
  have htoken : '\t' ∉ Event.solveTask.name.toList ++ ' ' :: digits := by
    intro hmem
    rcases List.mem_append.mp hmem with hmem | hmem
    · exact absurd hmem (by decide)
    · rcases List.mem_cons.mp hmem with heq | hmem
      · cases heq
      · cases hdigits _ hmem
  have hline : taskLine digits
      = "10.0.0.1".toList ++ '\t' :: ("ann".toList ++ '\t' :: ("1.1.2020 0:0:0".toList ++
          '\t' :: ((Event.solveTask.name.toList ++ ' ' :: digits) ++ '\t' :: "OK".toList))) := by
    show _ ++ _ = _ ++ '\t' :: (_ ++ '\t' :: (_ ++ '\t' :: (("SOLVE_TASK".toList ++ _) ++ _)))
    simp
  have hlast : ∀ c ∈ (taskLine digits).getLast?, Line.isEnding c = false := fun c hc =>
    (ascii_of_mem_taskLine hdigits c (List.mem_of_getLast? hc)).2
  rw [Line.fields, Text.dropTrailing_concat, if_pos (by decide), Text.dropTrailing_eq_self hlast,
    hline, Text.pieces_append_cons (by decide), Text.pieces_append_cons (by decide),
    Text.pieces_append_cons (by decide), Text.pieces_append_cons htoken,
    Text.pieces_of_not_mem (by decide)]
  exact Text.dropTrailing_eq_self (by simp)

/-- **A log without a result**: a line on a task of too many digits ends the
reading of the folder. -/
theorem read_taskFile {digits : List Char} (hdigits : ∀ d ∈ digits, d.isDigit = true)
    (hlong : Text.Numeral.maxDigits < digits.length) :
    ∃ i, read {} "logs" (.folder [.file (taskFile digits)]) = .error i ∧
      i.fault = .line (.longNumeral digits.length) := by
  have hfiles : Place.logFiles ({} : Settings).extension [.file (taskFile digits)]
      = [taskFile digits] := by
    refine Place.logFiles_of_files _ (List.pairwise_singleton _ _) ?_ (List.Perm.refl _)
    intro f hf
    rw [List.mem_singleton.mp hf]
    show Place.hasExtension ".log" "a.log" = true
    decide
  have htoken : EventToken.read (.ofList (Event.solveTask.name.toList ++ ' ' :: digits))
      = .error (.longNumeral digits.length) := by
    rw [EventToken.read_name_digits (by decide) (by rintro rfl; cases hlong) hdigits]
    exact if_neg (Nat.not_le_of_gt hlong)
  have hjudge : Line.judge {} (taskLine digits ++ ['\n']) = .error (.longNumeral digits.length) :=
    Line.judge_of_longNumeral Settings.regular_default (fields_taskLine hdigits) htoken
  have hdelivered : (delivered .utf8 (taskFile digits)).1 = [taskLine digits ++ ['\n']] :=
    lines_taskFile hdigits
  rw [read_folder_eq, hfiles, readFiles_cons ofName_default, hdelivered, readLines]
  simp only [hjudge]
  exact ⟨_, rfl, rfl⟩

/-- The least number of digits beyond the limit. -/
theorem not_exists_read_taskFile :
    ¬ ∃ p, read {} "logs" (.folder [.file (taskFile (List.replicate 4301 '1'))]) = .ok p := by
  rintro ⟨p, hp⟩
  have hdigits : ∀ d ∈ List.replicate 4301 '1', d.isDigit = true := by
    intro d hd
    rw [List.eq_of_mem_replicate hd]
    rfl
  obtain ⟨i, hi, -⟩ := read_taskFile hdigits (by rw [List.length_replicate]; decide)
  rw [hi] at hp
  cases hp

end Ingestion

end AccessLog
