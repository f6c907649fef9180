import AccessLog.Archive
import AccessLog.Proofs.Ingestion.Interrupt

/-!
# A reading gives a result if every line gets a verdict

A fault on one line ends the whole reading. So reading a folder gives a result
exactly if every line that it reaches is judged (`exists_readFiles_iff`). What every
step of a reading keeps holds of a result and the lines that it came to
(`Kept.read`), and so it accounts for lines that were judged
(`exists_accounts_of_read`). That holds of every place and under all settings,
whether or not a failure stopped the reading.

A line that is judged is blank, gives a record or is rejected, and so the lines
behind a result are as many as its records, its blank lines and its errors
(`SourceLine.length_eq_of_judged`).
-/

namespace AccessLog

namespace SourceLine

theorem map_text_numbered (path : String) (n : Nat) (texts : List (List Char)) :
    (numbered path n texts).map text = texts := by
  refine List.ext_getElem (by simp [numbered]) fun i _ _ => ?_
  simp [numbered]

/-- What is said of the texts of numbered lines is said of the texts. -/
theorem forall_mem_numbered {P : List Char → Prop} (path : String) (n : Nat)
    (texts : List (List Char)) :
    (∀ l ∈ numbered path n texts, P l.text) ↔ ∀ t ∈ texts, P t := by
  rw [← List.forall_mem_map (f := text), map_text_numbered]

end SourceLine

open SourceLine

namespace Ingestion

variable {s : Settings} {e : Encoding}

/-- The lines of a file are read to the end exactly if each gets a verdict. -/
theorem exists_readLines_iff (path : String) {texts : List (List Char)} {n : Nat} {p : Progress} :
    (∃ q, readLines s path n texts p = .ok q)
      ↔ ∀ text ∈ texts, ∃ v, Line.judge s text = .ok v := by
  refine ⟨?_, fun h => exists_readLines path h n p⟩
  induction texts generalizing n p with
  | nil => exact fun _ _ ht => absurd ht List.not_mem_nil
  | cons text texts ih =>
    rintro ⟨q, hq⟩
    rw [readLines] at hq
    cases hv : Line.judge s text with
    | error f => simp only [hv] at hq; cases hq
    | ok v =>
      simp only [hv] at hq
      exact List.forall_mem_cons.mpr ⟨⟨v, hv⟩, ih ⟨q, hq⟩⟩

/-- **Files are read to a result exactly if every line that is reached gets a
verdict.** -/
theorem exists_readFiles_iff (he : Encoding.ofName s.codecs s.encoding = .ok e) (directory : String)
    {fs : List SourceFile} {p : Progress} :
    (∃ q, readFiles s directory fs p = .ok q)
      ↔ ∀ l ∈ reached e directory fs, ∃ v, Line.judge s l.text = .ok v := by
  induction fs generalizing p with
  | nil => exact ⟨fun _ _ hl => absurd hl List.not_mem_nil, fun _ => ⟨p, rfl⟩⟩
  | cons f fs ih =>
    have hlines : (∃ q, readLines s (Path.child directory f.name) 1 (delivered e f).1
        (p.note (.reading (Path.child directory f.name))) = .ok q) ↔ _ :=
      exists_readLines_iff (Path.child directory f.name)
    rw [← forall_mem_numbered (Path.child directory f.name) 1] at hlines
    rw [readFiles_cons he, reached, List.forall_mem_append, ← hlines]
    unfold failureOf
    cases readLines s (Path.child directory f.name) 1 (delivered e f).1
        (p.note (.reading (Path.child directory f.name))) with
    | error i => simp [Except.bind]
    | ok q =>
      cases f.interrupt with
      | none => simpa [Except.bind] using ih
      | some i => simp [Except.bind]

/-- The same of a folder: finding its log files cannot fail. -/
theorem exists_read_iff (he : Encoding.ofName s.codecs s.encoding = .ok e) (directory : String)
    {entries : List Entry} :
    (∃ p, read s directory (.folder entries) = .ok p)
      ↔ ∀ l ∈ reached e directory (Place.logFiles s.extension entries),
          ∃ v, Line.judge s l.text = .ok v := by
  have hfiles : (∃ q, readFiles s directory (Place.logFiles s.extension entries) {} = .ok q) ↔ _ :=
    exists_readFiles_iff he directory
  rw [← hfiles, read_folder_eq]
  cases readFiles s directory (Place.logFiles s.extension entries) {} with
  | error i => simp [Except.map]
  | ok q => exact iff_of_true ⟨_, rfl⟩ ⟨q, rfl⟩

/-- Every line that is reached is a line of the text of a file. -/
theorem mem_lines_of_mem_reached {directory : String} {fs : List SourceFile} {l : SourceLine}
    (h : l ∈ reached e directory fs) : ∃ f ∈ fs, l.text ∈ Text.lines (e.decode f.bytes) := by
  induction fs with
  | nil => cases h
  | cons f fs ih =>
    rw [reached, List.mem_append] at h
    rcases h with h | h
    · have htext : l.text ∈ (delivered e f).1 := by
        rw [← map_text_numbered (Path.child directory f.name) 1 (delivered e f).1]
        exact List.mem_map_of_mem h
      refine ⟨f, List.mem_cons_self, ?_⟩
      unfold delivered at htext
      cases hi : f.interrupt with
      | none => simpa [hi] using htext
      | some i =>
        simp only [hi] at htext
        exact List.mem_of_mem_take htext
    · cases hi : f.interrupt with
      | none =>
        rw [hi] at h
        obtain ⟨g, hg, htext⟩ := ih h
        exact ⟨g, List.mem_cons_of_mem f hg, htext⟩
      | some i => rw [hi] at h; cases h

/-- **Without a known encoding** a reading comes to an end only if there is no log file, or
if the first one cannot be opened. -/
theorem readFiles_of_unknown {fault : Encoding.NameFault}
    (hfault : Encoding.ofName s.codecs s.encoding = .error fault) {directory : String}
    {fs : List SourceFile} {p q : Progress} (h : readFiles s directory fs p = .ok q) :
    q = p ∨ ∃ path e, q = (p.note (.reading path)).stop e := by
  cases fs with
  | nil => exact .inl (Except.ok.inj h).symm
  | cons f fs =>
    simp only [readFiles, readFile, hfault] at h
    cases hopening : if fault = .nul then none else f.interrupt.bind Interrupt.opening? with
    | none => simp only [hopening] at h; cases h
    | some failure =>
      simp only [hopening] at h
      exact .inr ⟨_, _, (Except.ok.inj h).symm⟩

/-- The lines that a reading comes to, file by file. -/
def linesRead (s : Settings) (directory : String) (place : Place) : List SourceLine :=
  match place.discover s.extension, Encoding.ofName s.codecs s.encoding with
  | .ok files, .ok e => reached e directory files
  | _, _ => []

/-- **A reading that gives a result** has stopped at the directory, or has read its log
files. -/
theorem read_cases {directory : String} {place : Place} {p : Progress}
    (h : read s directory place = .ok p) :
    (∃ failure, place.discover s.extension = .error failure ∧
        p = ({} : Progress).stop ⟨directory, failure⟩) ∨
      ∃ files q, place.discover s.extension = .ok files ∧
        readFiles s directory files {} = .ok q ∧ p = q.finish directory := by
  unfold read at h
  cases hunseen : place.unseen? s.extension with
  | some u => rw [hunseen] at h; cases h
  | none =>
    simp only [hunseen] at h
    cases hplace : place.discover s.extension with
    | error failure =>
      simp only [hplace] at h
      exact .inl ⟨failure, rfl, (Except.ok.inj h).symm⟩
    | ok files =>
      simp only [hplace] at h
      cases hq : readFiles s directory files {} with
      | error stopped => rw [hq] at h; cases h
      | ok q =>
        rw [hq] at h
        exact .inr ⟨files, q, rfl, hq, (Except.ok.inj h).symm⟩

/-- **What every step of a reading keeps holds of its result.** -/
theorem Kept.read {I : Nat → Option ReadError → List SourceLine → Progress → Prop}
    (hI : Kept s I) {directory : String} {place : Place} {p : Progress}
    (h : Ingestion.read s directory place = .ok p) :
    ∃ files stop, I files stop (linesRead s directory place) p := by
  unfold linesRead
  rcases read_cases h with ⟨failure, hplace, rfl⟩ | ⟨files, q, hplace, hq, rfl⟩
  · rw [hplace]
    exact ⟨0, _, hI.stop _ hI.init⟩
  · rw [hplace]
    cases he : Encoding.ofName s.codecs s.encoding with
    | ok e => exact ⟨_, _, hI.finish directory (hI.readFiles he directory files hI.init hq)⟩
    | error fault =>
      rcases readFiles_of_unknown he hq with rfl | ⟨path, e, rfl⟩
      · exact ⟨0, none, hI.finish directory hI.init⟩
      · exact ⟨0, some e, hI.finish directory (hI.stop e (hI.reading path hI.init))⟩

/-- The lines behind a result were judged, and each is a line of a text. -/
theorem judged_of_mem_linesRead {directory : String} {place : Place} {p : Progress}
    (h : read s directory place = .ok p) :
    ∀ l ∈ linesRead s directory place,
      (∃ v, Line.judge s l.text = .ok v) ∧ ∃ cs, l.text ∈ Text.lines cs := by
  intro l hl
  unfold linesRead at hl
  rcases read_cases h with ⟨failure, hplace, -⟩ | ⟨files, q, hplace, hq, -⟩
  · rw [hplace] at hl
    cases hl
  · rw [hplace] at hl
    cases he : Encoding.ofName s.codecs s.encoding with
    | error fault => rw [he] at hl; cases hl
    | ok e =>
      rw [he] at hl
      obtain ⟨f, -, htext⟩ := mem_lines_of_mem_reached hl
      exact ⟨(exists_readFiles_iff he directory).mp ⟨q, hq⟩ l hl, _, htext⟩

/-- **A result accounts for lines that were judged**, each of them a line of a
text. -/
theorem exists_accounts_of_read {directory : String} {place : Place} {p : Progress}
    (h : read s directory place = .ok p) :
    ∃ files stop ls, p.Accounts s files stop ls ∧
      ∀ l ∈ ls, (∃ v, Line.judge s l.text = .ok v) ∧ ∃ cs, l.text ∈ Text.lines cs := by
  obtain ⟨files, stop, haccounts⟩ := (kept_accounts s).read h
  exact ⟨files, stop, _, haccounts, judged_of_mem_linesRead h⟩

/-- **A record comes of a line of a text.** -/
theorem exists_line_of_mem_records {directory : String} {place : Place} {p : Progress}
    (h : read s directory place = .ok p) {r : Record} (hr : r ∈ p.dataset.records) :
    ∃ line cs, line ∈ Text.lines cs ∧ Line.record? s line = some r := by
  obtain ⟨files, stop, ls, haccounts, hls⟩ := exists_accounts_of_read h
  rw [show p.dataset.records = recordsOf s ls from haccounts.records_eq] at hr
  obtain ⟨l, hl, hrecord⟩ := List.mem_filterMap.mp hr
  obtain ⟨-, cs, hline⟩ := hls l hl
  exact ⟨l.text, cs, hline, hrecord⟩

/-- Within the limit on numerals, reading a folder whose log files can be read gives
the records and the errors of their lines, whatever the order of its entries. -/
theorem exists_read_folder (hs : s.Regular) (he : Encoding.ofName s.codecs s.encoding = .ok e)
    (directory : String) {entries : List Entry} (hnames : (entries.map Entry.name).Nodup)
    (hreadable : ∀ f ∈ Place.logFiles s.extension entries, f.interrupt = none)
    (hlimit : ∀ l ∈ ofFiles e directory (Place.logFiles s.extension entries),
      Line.WithinLimit s l.text) :
    ∃ p, (∀ listing : List Entry, listing.Perm entries →
        read s directory (.folder listing) = .ok p) ∧
      p.dataset.records = recordsOf s (ofFiles e directory (Place.logFiles s.extension entries)) ∧
      p.report.errors.toList
        = errorsOf s (ofFiles e directory (Place.logFiles s.extension entries)) := by
  have hreached := reached_of_readable e directory hreadable
  obtain ⟨q, hq⟩ := (exists_readFiles_iff he directory (p := {})).mpr
    fun l hl => Line.exists_judge hs (hlimit l (hreached ▸ hl))
  have haccounts := readFiles_accounts he directory _ (Progress.Accounts.init s) hq
  rw [hreached, List.nil_append] at haccounts
  refine ⟨q.finish directory, fun listing hperm => ?_, haccounts.records_eq, ?_⟩
  · rw [read_folder_eq, Place.logFiles_of_perm s.extension hperm hnames, hq]
    rfl
  · show q.report.errors.toList = _
    rw [haccounts.report_eq]
    rfl

/-- The same of a folder that holds one log file. -/
theorem exists_read_singleton (hs : s.Regular) (he : Encoding.ofName s.codecs s.encoding = .ok e)
    (directory : String) {f : SourceFile} (hext : Place.hasExtension s.extension f.name = true)
    (hreadable : f.interrupt = none)
    (hlimit : ∀ l ∈ ofFiles e directory [f], Line.WithinLimit s l.text) :
    ∃ p, read s directory (.folder [.file f]) = .ok p ∧
      p.dataset.records = recordsOf s (ofFiles e directory [f]) ∧
      p.report.errors.toList = errorsOf s (ofFiles e directory [f]) := by
  have hnames : ([.file f].map Entry.name).Nodup := List.nodup_singleton f.name
  have hfiles := Place.logFiles_singleton hext
  obtain ⟨p, hp, hrecords, herrors⟩ := exists_read_folder hs he directory hnames
    (fun g hg => List.mem_singleton.mp (hfiles ▸ hg) ▸ hreadable) (by rwa [hfiles])
  rw [hfiles] at hrecords herrors
  exact ⟨p, hp _ (List.Perm.refl _), hrecords, herrors⟩

end Ingestion

/-- An archive is made of what is read in the end. -/
theorem Archive.exists_progress_of_read {s : Settings} {directory : String} {place : Place}
    {a : Archive} (h : Archive.read s directory place = .ok a) :
    ∃ p, Ingestion.read s directory place = .ok p ∧ ofProgress p = a := by
  unfold Archive.read at h
  cases hp : Ingestion.read s directory place with
  | error stopped => rw [hp] at h; cases h
  | ok p =>
    rw [hp] at h
    exact ⟨p, rfl, Except.ok.inj h⟩

/-- **A record of an archive comes of a line of a text.** -/
theorem Archive.exists_line_of_mem_records {s : Settings} {directory : String} {place : Place}
    {a : Archive} (h : Archive.read s directory place = .ok a) {r : Record}
    (hr : r ∈ a.dataset.records) :
    ∃ line cs, line ∈ Text.lines cs ∧ Line.record? s line = some r := by
  obtain ⟨p, hp, rfl⟩ := exists_progress_of_read h
  exact Ingestion.exists_line_of_mem_records hp hr

/-- **Short lines give an archive.** Under the default settings, a folder of log
files is read whatever its lines hold, if no line has more characters than a
numeral may have digits. -/
theorem Archive.exists_read (directory : String) (files : List SourceFile)
    (hsorted : files.Pairwise (fun f g => f.name < g.name))
    (hext : ∀ f ∈ files, Place.hasExtension ({} : Settings).extension f.name = true)
    {listing : List Entry} (hlisting : listing.Perm (files.map .file))
    (hshort : ∀ f ∈ files, ∀ text ∈ Text.lines (Encoding.utf8.decode f.bytes),
      text.length ≤ Text.Numeral.maxDigits) :
    ∃ a, Archive.read {} directory (.folder listing) = .ok a ∧
      a.dataset.records = recordsOf {} (Ingestion.reached .utf8 directory files) ∧
      a.report = Report.recount {} (Ingestion.finishedCount files)
        (Ingestion.firstFailure directory files) (Ingestion.reached .utf8 directory files) := by
  have hverdicts : ∀ f ∈ files, ∀ text ∈ Text.lines (Encoding.utf8.decode f.bytes),
      ∃ v, Line.judge {} text = .ok v := fun f hf text htext =>
    Line.exists_judge Settings.regular_default
      (Line.withinLimit_of_length_le (hshort f hf text htext))
  obtain ⟨q, hq⟩ := Ingestion.exists_readFiles Ingestion.ofName_default directory hverdicts {}
  have haccounts := Ingestion.readFiles_accounts Ingestion.ofName_default directory _
    (Progress.Accounts.init {}) hq
  rw [List.nil_append, Nat.zero_add] at haccounts
  refine ⟨ofProgress (q.finish directory), ?_, haccounts.records_eq, haccounts.report_eq⟩
  rw [Archive.read, Ingestion.read_folder_eq,
    Place.logFiles_of_files files hsorted hext hlisting, hq]
  rfl

end AccessLog
