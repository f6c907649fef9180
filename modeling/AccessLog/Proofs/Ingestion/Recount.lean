import AccessLog.Ingestion
import AccessLog.Proofs.Directory
import AccessLog.Proofs.Line
import Mathlib.Data.List.Sort

/-!
# Reading a folder is recounting its lines

Reading a folder goes from file to file and from line to line and carries along
what it has found. What it has found at the end can be said without the way
there: the records are those of the lines, in the order of the files and within
a file of the lines, and every counter of the report is a count over the same
lines (`Report.recount`).

The invariant is that the progress *accounts* for the lines behind it
(`Progress.Accounts`). Entering the verdict on a line keeps it
(`Progress.Accounts.enter`). Whatever every step keeps (`Ingestion.Kept`), the
lines of a file keep and the files one after the other do
(`Ingestion.Kept.readFiles`), also where a failure stops the reading, and so
they keep the account (`Ingestion.readFiles_accounts`). That there is a result at
all is a separate matter: it needs settings under which no line ends the reading.

For a folder whose log files can all be read the two come together
(`Ingestion.read_folder`). The order in which the folder lists its entries does
not show in the result.
-/

namespace AccessLog

/-! ## Lines and what they contribute -/

/-- A line of a log file, with the place where it stands. -/
structure SourceLine where
  /-- The path of the file. -/
  path : String
  /-- The number of the line, from one. -/
  number : Nat
  /-- The line. -/
  text : List Char
deriving DecidableEq, Repr

namespace SourceLine

/-- The error of a line that is rejected. -/
def error? (s : Settings) (l : SourceLine) : Option LineError :=
  (Line.rejection? s l.text).map (fun r => ⟨r, l.path, l.number⟩)

/-- The records of some lines, in their order. -/
def recordsOf (s : Settings) (ls : List SourceLine) : List Record :=
  ls.filterMap (fun l => Line.record? s l.text)

/-- The errors of some lines, in their order. -/
def errorsOf (s : Settings) (ls : List SourceLine) : List LineError :=
  ls.filterMap (error? s)

/-- How many of some lines are blank. -/
def blankCount (ls : List SourceLine) : Nat :=
  ls.countP (fun l => decide (Line.IsBlank l.text))

/-- The lines of a file, numbered from `n` on. -/
def numbered (path : String) (n : Nat) (texts : List (List Char)) : List SourceLine :=
  texts.mapIdx (fun i text => ⟨path, n + i, text⟩)

/-- The lines of some files of a folder, file by file. -/
def ofFiles (e : Encoding) (directory : String) (files : List SourceFile) : List SourceLine :=
  files.flatMap (fun f =>
    numbered (Path.child directory f.name) 1 (Text.lines (e.decode f.bytes)))

theorem numbered_cons (path : String) (n : Nat) (text : List Char)
    (texts : List (List Char)) :
    numbered path n (text :: texts) = ⟨path, n, text⟩ :: numbered path (n + 1) texts := by
  simp [numbered, List.mapIdx_cons, Nat.add_comm, Nat.add_left_comm]

theorem recordsOf_concat (s : Settings) (ls : List SourceLine) (l : SourceLine) :
    recordsOf s (ls ++ [l]) = recordsOf s ls ++ (Line.record? s l.text).toList := by
  unfold recordsOf
  rw [List.filterMap_append]
  cases h : Line.record? s l.text <;> simp [h]

theorem errorsOf_concat (s : Settings) (ls : List SourceLine) (l : SourceLine) :
    errorsOf s (ls ++ [l]) = errorsOf s ls ++ (error? s l).toList := by
  unfold errorsOf
  rw [List.filterMap_append]
  cases h : error? s l <;> simp [h]

theorem blankCount_concat (ls : List SourceLine) (l : SourceLine) :
    blankCount (ls ++ [l]) = blankCount ls + if Line.IsBlank l.text then 1 else 0 := by
  unfold blankCount
  rw [List.countP_append, List.countP_singleton]
  simp

end SourceLine

open SourceLine

/-- **The report of some lines**: every counter is a count over them, and the
errors are theirs. The number of files and the failure that stopped the reading
are not seen in the lines. -/
def Report.recount (s : Settings) (files : Nat) (stop : Option ReadError)
    (ls : List SourceLine) : Report where
  files := files
  totalLines := ls.length
  parsedLines := (recordsOf s ls).length
  skippedLines := blankCount ls + (errorsOf s ls).length
  unparsedTimestamps := (recordsOf s ls).countP (·.timestamp.isNone)
  unknownEvents := (recordsOf s ls).countP (·.event.isNone)
  unknownStatuses := (recordsOf s ls).countP (·.status.isNone)
  errors := (errorsOf s ls).toArray
  readError := stop

/-! ## The invariant -/

namespace Progress

/-- **The progress accounts for the lines behind it**: it holds their records
and the report that a recount of them gives. -/
structure Accounts (s : Settings) (files : Nat) (stop : Option ReadError)
    (ls : List SourceLine) (p : Progress) : Prop where
  /-- The records are those of the lines. -/
  records_eq : p.records.toList = recordsOf s ls
  /-- The report is the recount of the lines. -/
  report_eq : p.report = Report.recount s files stop ls

theorem records_addRecord (p : Progress) (r : Stamped) :
    (p.addRecord r).records = p.records.push r.record := by
  simp [Progress.addRecord, records]

theorem stamped_foldl_note {α : Type} (n : α → Notice) (as : List α) (p : Progress) :
    (as.foldl (fun p a => p.note (n a)) p).stamped = p.stamped := by
  induction as generalizing p with
  | nil => rfl
  | cons a as ih => rw [List.foldl_cons, ih]; rfl

theorem report_foldl_note {α : Type} (n : α → Notice) (as : List α) (p : Progress) :
    (as.foldl (fun p a => p.note (n a)) p).report = p.report := by
  induction as generalizing p with
  | nil => rfl
  | cons a as ih => rw [List.foldl_cons, ih]; rfl

namespace Accounts

variable {s : Settings} {files : Nat} {stop : Option ReadError} {ls : List SourceLine}
  {p : Progress}

theorem init (s : Settings) : Accounts s 0 none [] {} := ⟨rfl, rfl⟩

/-- Notices do not count. -/
theorem note (h : p.Accounts s files stop ls) (n : Notice) :
    (p.note n).Accounts s files stop ls :=
  ⟨h.records_eq, h.report_eq⟩

theorem countFile (h : p.Accounts s files stop ls) :
    p.countFile.Accounts s (files + 1) stop ls := by
  refine ⟨h.records_eq, ?_⟩
  rw [Progress.countFile, h.report_eq]
  rfl

theorem stopped (h : p.Accounts s files none ls) (e : ReadError) :
    (p.stop e).Accounts s files (some e) ls := by
  refine ⟨h.records_eq, ?_⟩
  rw [Progress.stop, Progress.note, h.report_eq]
  rfl

/-- **Entering the verdict on a line keeps the account.** -/
theorem enter (h : p.Accounts s files stop ls) {l : SourceLine} {v : Line.Verdict}
    (hv : Line.judge s l.text = .ok v) :
    (p.countLine.enter l.path l.number v).Accounts s files stop (ls ++ [l]) := by
  have hagrees := Line.agrees_of_judge hv
  have hrecords := recordsOf_concat s ls l
  have herrors := errorsOf_concat s ls l
  have hblanks := blankCount_concat ls l
  rw [hagrees.record_eq] at hrecords
  rw [error?, hagrees.rejection_eq] at herrors
  simp only [hagrees.blank_iff] at hblanks
  have hreport := h.report_eq
  cases v with
  | blank =>
    refine ⟨?_, ?_⟩
    · rw [hrecords]
      exact h.records_eq.trans (List.append_nil _).symm
    · simp only [Progress.enter, Progress.countSkipped, Progress.note, Progress.countLine,
        hreport, Report.recount, hrecords, herrors, hblanks]
      simp [Line.Verdict.record?, Line.Verdict.rejection?, Nat.add_right_comm]
  | rejected r =>
    refine ⟨?_, ?_⟩
    · rw [hrecords]
      exact h.records_eq.trans (List.append_nil _).symm
    · simp only [Progress.enter, Progress.addError, Progress.countSkipped, Progress.note,
        Progress.countLine, hreport, Report.recount, hrecords, herrors, hblanks]
      simp [Line.Verdict.record?, Line.Verdict.rejection?, Nat.add_assoc]
  | kept parsed =>
    refine ⟨?_, ?_⟩
    · rw [Progress.enter, records_addRecord, Array.toList_push, records, stamped_foldl_note,
        hrecords]
      exact congrArg (· ++ [parsed.record]) h.records_eq
    · simp only [Progress.enter, Progress.addRecord, report_foldl_note, Progress.countLine,
        hreport, Report.recount, hrecords, herrors, hblanks]
      -- the counters go up by one for each part that is missing
      have htoNat : ∀ b : Bool, b.toNat = if b = true then 1 else 0 := by decide
      simp [Line.Verdict.record?, Line.Verdict.rejection?, List.countP_append,
        List.countP_singleton, htoNat]

end Accounts

end Progress

/-! ## The run -/

namespace Ingestion

/-- **A property that every step of a reading keeps.** It is said of the number of the
files that are finished, the failure that stopped the reading, the lines behind it and
how far it has come. -/
structure Kept (s : Settings) (I : Nat → Option ReadError → List SourceLine → Progress → Prop) :
    Prop where
  init : I 0 none [] {}
  reading {files : Nat} {ls : List SourceLine} {p : Progress} (path : String) :
    I files none ls p → I files none ls (p.note (.reading path))
  enter {files : Nat} {ls : List SourceLine} {p : Progress} {l : SourceLine} {v : Line.Verdict} :
    I files none ls p → Line.judge s l.text = .ok v →
      I files none (ls ++ [l]) (p.countLine.enter l.path l.number v)
  countFile {files : Nat} {ls : List SourceLine} {p : Progress} :
    I files none ls p → I (files + 1) none ls p.countFile
  stop {files : Nat} {ls : List SourceLine} {p : Progress} (e : ReadError) :
    I files none ls p → I files (some e) ls (p.stop e)
  finish {files : Nat} {stop : Option ReadError} {ls : List SourceLine} {p : Progress}
    (directory : String) : I files stop ls p → I files stop ls (p.finish directory)

/-- What is kept is kept together. -/
theorem Kept.and {s : Settings}
    {I J : Nat → Option ReadError → List SourceLine → Progress → Prop} (hI : Kept s I)
    (hJ : Kept s J) : Kept s fun files stop ls p => I files stop ls p ∧ J files stop ls p where
  init := ⟨hI.init, hJ.init⟩
  reading path h := ⟨hI.reading path h.1, hJ.reading path h.2⟩
  enter h hv := ⟨hI.enter h.1 hv, hJ.enter h.2 hv⟩
  countFile h := ⟨hI.countFile h.1, hJ.countFile h.2⟩
  stop e h := ⟨hI.stop e h.1, hJ.stop e h.2⟩
  finish directory h := ⟨hI.finish directory h.1, hJ.finish directory h.2⟩

/-- **Reading the lines of a file keeps what every step keeps.** -/
theorem Kept.readLines {s : Settings}
    {I : Nat → Option ReadError → List SourceLine → Progress → Prop} (hI : Kept s I)
    {path : String} {files : Nat} (texts : List (List Char)) {n : Nat} {ls : List SourceLine}
    {p q : Progress} (hp : I files none ls p) (h : Ingestion.readLines s path n texts p = .ok q) :
    I files none (ls ++ numbered path n texts) q := by
  induction texts generalizing n ls p with
  | nil =>
    cases h
    rw [show numbered path n [] = [] from rfl, List.append_nil]
    exact hp
  | cons text texts ih =>
    rw [Ingestion.readLines] at h
    cases hv : Line.judge s text with
    | error f => simp only [hv] at h; cases h
    | ok v =>
      simp only [hv] at h
      have hstep := hI.enter (l := ⟨path, n, text⟩) hp hv
      rw [numbered_cons, ← List.singleton_append, ← List.append_assoc]
      exact ih hstep h

/-- Lines that all get a verdict are read to the end. -/
theorem exists_readLines {s : Settings} (path : String) {texts : List (List Char)}
    (h : ∀ text ∈ texts, ∃ v, Line.judge s text = .ok v) (n : Nat) (p : Progress) :
    ∃ q, readLines s path n texts p = .ok q := by
  induction texts generalizing n p with
  | nil => exact ⟨p, rfl⟩
  | cons text texts ih =>
    obtain ⟨v, hv⟩ := h text List.mem_cons_self
    rw [readLines]
    simp only [hv]
    exact ih (fun t ht => h t (List.mem_cons_of_mem text ht)) (n + 1) _

/-- The failure that stops the reading of a file. -/
def failureOf (directory : String) (f : SourceFile) : Option ReadError :=
  f.interrupt.map (fun i => ⟨Path.child directory f.name, i.failure⟩)

/-- The lines that are read of some files: up to and with the first file that
fails. -/
def reached (e : Encoding) (directory : String) : List SourceFile → List SourceLine
  | [] => []
  | f :: fs =>
    numbered (Path.child directory f.name) 1 (delivered e f).1 ++
      match f.interrupt with
      | none => reached e directory fs
      | some _ => []

/-- The number of files before the first that fails. -/
def finishedCount (fs : List SourceFile) : Nat :=
  (fs.takeWhile (·.interrupt.isNone)).length

/-- The failure of the first file that fails. -/
def firstFailure (directory : String) (fs : List SourceFile) : Option ReadError :=
  fs.findSome? (failureOf directory)

variable {s : Settings} {e : Encoding}

/-- A file is read line by line, and the failure in it comes last. -/
theorem readFile_eq (he : Encoding.ofName s.codecs s.encoding = .ok e) (directory : String)
    (f : SourceFile) (p : Progress) :
    readFile s (Path.child directory f.name) f p
      = (readLines s (Path.child directory f.name) 1 (delivered e f).1
          (p.note (.reading (Path.child directory f.name)))).map
            (fun q => (q, failureOf directory f)) := by
  have hfailure : (delivered e f).2.map (fun r => (⟨Path.child directory f.name, r⟩ : ReadError))
      = failureOf directory f := by
    rw [delivered, failureOf]
    cases f.interrupt <;> rfl
  rw [readFile, he, ← hfailure]
  rfl

/-- **Reading files one after the other keeps what every step keeps**, to the end or
to the first failure. -/
theorem Kept.readFiles {I : Nat → Option ReadError → List SourceLine → Progress → Prop}
    (hI : Kept s I) (he : Encoding.ofName s.codecs s.encoding = .ok e) (directory : String)
    (fs : List SourceFile) {files : Nat} {ls : List SourceLine} {p q : Progress}
    (hp : I files none ls p) (h : Ingestion.readFiles s directory fs p = .ok q) :
    I (files + finishedCount fs) (firstFailure directory fs) (ls ++ reached e directory fs) q := by
  induction fs generalizing files ls p with
  | nil =>
    cases h
    rw [reached, List.append_nil]
    exact hp
  | cons f fs ih =>
    rw [Ingestion.readFiles, readFile_eq he] at h
    cases hlines : Ingestion.readLines s (Path.child directory f.name) 1 (delivered e f).1
        (p.note (.reading (Path.child directory f.name))) with
    | error i => rw [hlines] at h; cases h
    | ok r =>
      have hr := hI.readLines (delivered e f).1 (hI.reading _ hp) hlines
      rw [hlines] at h
      rw [reached, finishedCount, firstFailure, List.findSome?_cons]
      unfold failureOf at h ⊢
      cases hi : f.interrupt with
      -- the file is read to its end, and the others follow
      | none =>
        rw [hi] at h
        have hrest := ih (hI.countFile hr) h
        rw [List.takeWhile_cons_of_pos (by rw [hi]; rfl), List.length_cons]
        rw [finishedCount, firstFailure, List.append_assoc, Nat.add_right_comm] at hrest
        exact hrest
      -- the file fails, and none follows
      | some i =>
        rw [hi] at h
        cases h
        rw [List.takeWhile_cons_of_neg (by rw [hi]; simp), List.append_nil]
        exact hI.stop _ hr

/-- The account is kept by every step. -/
theorem kept_accounts (s : Settings) :
    Kept s fun files stop ls p => p.Accounts s files stop ls where
  init := Progress.Accounts.init s
  reading path h := h.note (.reading path)
  enter h hv := h.enter hv
  countFile h := h.countFile
  stop e h := h.stopped e
  finish _ h := h.note _

/-- **Reading files one after the other keeps the account.** -/
theorem readFiles_accounts (he : Encoding.ofName s.codecs s.encoding = .ok e) (directory : String)
    (fs : List SourceFile) {files : Nat} {ls : List SourceLine} {p q : Progress}
    (hp : p.Accounts s files none ls) (h : readFiles s directory fs p = .ok q) :
    q.Accounts s (files + finishedCount fs) (firstFailure directory fs)
      (ls ++ reached e directory fs) :=
  (kept_accounts s).readFiles he directory fs hp h

/-- Files whose lines all get a verdict are read to a result. -/
theorem exists_readFiles (he : Encoding.ofName s.codecs s.encoding = .ok e) (directory : String)
    {fs : List SourceFile}
    (h : ∀ f ∈ fs, ∀ text ∈ Text.lines (e.decode f.bytes), ∃ v, Line.judge s text = .ok v)
    (p : Progress) : ∃ q, readFiles s directory fs p = .ok q := by
  induction fs generalizing p with
  | nil => exact ⟨p, rfl⟩
  | cons f fs ih =>
    -- a file that fails delivers some of its lines, and no others
    have htexts : ∀ text ∈ (delivered e f).1, ∃ v, Line.judge s text = .ok v := by
      intro text htext
      refine h f List.mem_cons_self text ?_
      rw [delivered] at htext
      cases hi : f.interrupt with
      | none => simpa [hi] using htext
      | some i =>
        simp only [hi] at htext
        exact List.mem_of_mem_take htext
    obtain ⟨q, hq⟩ := exists_readLines (Path.child directory f.name) htexts 1
      (p.note (.reading (Path.child directory f.name)))
    rw [readFiles, readFile_eq he, hq]
    cases hfailure : failureOf directory f with
    | none =>
      simp only [Except.map]
      exact ih (fun g hg => h g (List.mem_cons_of_mem f hg)) q.countFile
    | some error =>
      simp only [Except.map]
      exact ⟨q.stop error, rfl⟩

/-! ## Files that can be read -/

theorem failureOf_of_readable {f : SourceFile} (h : f.interrupt = none) (directory : String) :
    failureOf directory f = none := by
  rw [failureOf, h]
  rfl

theorem firstFailure_of_readable {fs : List SourceFile} (h : ∀ f ∈ fs, f.interrupt = none)
    (directory : String) : firstFailure directory fs = none :=
  List.findSome?_eq_none_iff.mpr (fun f hf => failureOf_of_readable (h f hf) directory)

theorem finishedCount_of_readable {fs : List SourceFile} (h : ∀ f ∈ fs, f.interrupt = none) :
    finishedCount fs = fs.length := by
  rw [finishedCount, List.takeWhile_eq_self_iff.mpr]
  intro f hf
  rw [h f hf]
  rfl

/-- All lines of files that can be read are read. -/
theorem reached_of_readable (e : Encoding) (directory : String) {fs : List SourceFile}
    (h : ∀ f ∈ fs, f.interrupt = none) :
    reached e directory fs = ofFiles e directory fs := by
  induction fs with
  | nil => rfl
  | cons f fs ih =>
    have hf := h f List.mem_cons_self
    have hfs := ih (fun g hg => h g (List.mem_cons_of_mem f hg))
    rw [reached, delivered, hf, hfs]
    rfl

/-- **Reading a folder is recounting its lines.** Under regular settings with a
known encoding, and where no task has more digits than a numeral may have,
reading a folder whose log files can be read gives a result. Its records are
those of the lines of the log files, the files taken in the order of their names
and the lines as they stand there, and its report is the recount of the same
lines. In which order the folder lists its entries does not matter. -/
theorem read_folder {s : Settings} (hs : s.Regular) {e : Encoding}
    (he : Encoding.ofName s.codecs s.encoding = .ok e) (directory : String) {entries : List Entry}
    (hnames : (entries.map Entry.name).Nodup)
    (hreadable : ∀ f, .file f ∈ entries → Place.hasExtension s.extension f.name = true →
      f.interrupt = none)
    (hlimit : ∀ f, .file f ∈ entries → Place.hasExtension s.extension f.name = true →
      ∀ text ∈ Text.lines (e.decode f.bytes), Line.WithinLimit s text) :
    ∃ files : List SourceFile,
      files.Pairwise (fun f g => f.name < g.name) ∧
      (∀ f, f ∈ files ↔
        .file f ∈ entries ∧ Place.hasExtension s.extension f.name = true) ∧
      ∃ p : Progress,
        (∀ listing : List Entry, listing.Perm entries →
          read s directory (.folder listing) = .ok p) ∧
        p.dataset.records = recordsOf s (ofFiles e directory files) ∧
        p.report = Report.recount s files.length none (ofFiles e directory files) := by
  have hreadable' : ∀ f ∈ Place.logFiles s.extension entries, f.interrupt = none := by
    intro f hf
    obtain ⟨hmem, hext⟩ := Place.mem_logFiles.mp hf
    exact hreadable f hmem hext
  have hverdicts : ∀ f ∈ Place.logFiles s.extension entries,
      ∀ text ∈ Text.lines (e.decode f.bytes), ∃ v, Line.judge s text = .ok v := by
    intro f hf text htext
    obtain ⟨hmem, hext⟩ := Place.mem_logFiles.mp hf
    exact Line.exists_judge hs (hlimit f hmem hext text htext)
  obtain ⟨q, hq⟩ := exists_readFiles he directory hverdicts {}
  have haccounts := readFiles_accounts he directory _ (Progress.Accounts.init s) hq
  rw [reached_of_readable e directory hreadable', finishedCount_of_readable hreadable',
    firstFailure_of_readable hreadable', List.nil_append, Nat.zero_add] at haccounts
  refine ⟨Place.logFiles s.extension entries, Place.pairwise_logFiles s.extension hnames,
    fun f => Place.mem_logFiles, q.finish directory, ?_, ?_, ?_⟩
  · intro listing hperm
    -- the listing is looked at for its log files only
    rw [read, Place.discover, Place.logFiles_of_perm s.extension hperm hnames]
    simp only [hq]
    rfl
  · exact haccounts.records_eq
  · exact haccounts.report_eq

/-- The encoding of the default settings is known. -/
theorem ofName_default :
    Encoding.ofName ({} : Settings).codecs ({} : Settings).encoding = .ok .utf8 := by
  -- replacing characters of a text is not computed, so its result is named first
  have hdotless : (Encoding.normalName ({} : Settings).encoding).map
      (fun c => if c = '.' then '_' else c) = "utf_8" :=
    String.toList_injective (by rw [String.toList_map]; decide)
  rw [Encoding.ofName, hdotless]
  rfl

/-- Two log files listed against the order of their names, beside a folder. One
holds a line without an instant, a blank line and a line with too few fields. -/
theorem read_folder_two_files :
    let bytes := fun text : String => text.toList.map (fun c => c.toNat.toUInt8)
    let b : SourceFile := ⟨"b.LOG", bytes "10.0.0.2\tBob\t1.1.2020 0:0:0\tLOGIN\tOK\n", none⟩
    let a : SourceFile :=
      ⟨"a.log", bytes "10.0.0.1\tAnn\t\tSOLVE_TASK 18\tFAILED\n\nshort\n", none⟩
    let entries : List Entry := [.file b, .folder "c.log", .file a]
    ∃ p : Progress,
      (∀ listing : List Entry, listing.Perm entries →
        read {} "logs" (.folder listing) = .ok p) ∧
      p.dataset.records =
        [⟨"10.0.0.1", "Ann", none, some .solveTask, some 18, some .failed⟩,
          ⟨"10.0.0.2", "Bob", some ⟨2020, 1, 1, 0, 0, 0, 0, by decide, by decide⟩,
            some .login, none, some .ok⟩] ∧
      p.report =
        { files := 2, totalLines := 4, parsedLines := 2, skippedLines := 2,
          unparsedTimestamps := 1, unknownEvents := 0, unknownStatuses := 0,
          errors := #[⟨.fieldCount 5 1, "logs/a.log", 3⟩], readError := none } := by
  intro bytes b a entries
  have hs : Settings.Regular {} := ⟨by decide, rfl, rfl⟩
  have hnames : (entries.map Entry.name).Nodup := by decide
  have hfile : ∀ f, Entry.file f ∈ entries → f = b ∨ f = a := by
    intro f hf
    simpa [entries] using hf
  have hreadable : ∀ f, Entry.file f ∈ entries → f.interrupt = none := by
    intro f hf
    rcases hfile f hf with rfl | rfl <;> rfl
  have hshort : ∀ f, Entry.file f ∈ entries →
      ∀ text ∈ Text.lines (Encoding.utf8.decode f.bytes),
        text.length ≤ Text.Numeral.maxDigits := by
    intro f hf
    rcases hfile f hf with rfl | rfl <;> decide
  obtain ⟨files, hsorted, hmem, p, hp, hrecords, hreport⟩ :=
    read_folder hs ofName_default "logs" hnames (fun f hf _ => hreadable f hf)
      (fun f hf _ text htext => Line.withinLimit_of_length_le (hshort f hf text htext))
  -- the files are told by their members and their order
  have hfiles : files = [a, b] := by
    have : Std.Irrefl fun f g : SourceFile => f.name < g.name := ⟨fun f => String.lt_irrefl f.name⟩
    have : Std.Antisymm fun f g : SourceFile => f.name < g.name :=
      ⟨fun f g hfg hgf => absurd hgf (String.lt_asymm hfg)⟩
    refine hsorted.eq_of_mem_iff (by decide) fun f => ?_
    rw [hmem f]
    refine ⟨fun h => ?_, fun h => ?_⟩
    · rcases hfile f h.1 with rfl | rfl <;> simp
    · simp only [List.mem_cons, List.not_mem_nil, or_false] at h
      rcases h with rfl | rfl <;> exact ⟨by simp [entries], by decide⟩
  subst hfiles
  exact ⟨p, hp, hrecords.trans (by decide), hreport.trans (by decide)⟩

end Ingestion

end AccessLog
