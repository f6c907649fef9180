import AccessLog.Proofs.Encoding
import AccessLog.Proofs.Ingestion.Recount

/-!
# A failing file cuts the reading at a line

Where reading a folder stops at a file that fails, it has come as far as reading
the folder that holds the files before and what could be read of this one, and
nothing else: the records are the same, and the report is the same but for the
number of files and the failure (`Ingestion.read_interrupted`). What comes behind
the file does not matter.

The two readings enter the same lines in the same order and part only behind the
last of them, where the one stops and the other counts the file
(`Ingestion.readFiles_cut`). That the lines which a file delivers before it fails
are the lines of a file is a matter of its bytes, since a file can be cut at the
end of each of its lines (`SourceFile.exists_cutTo`).
-/

namespace AccessLog

namespace SourceFile

/-- **A file cut to its first lines**: a file of the same name that can be read
and holds the first `m` lines. -/
structure CutTo (e : Encoding) (m : Nat) (f g : SourceFile) : Prop where
  name_eq : g.name = f.name
  readable : g.interrupt = none
  lines_eq : Text.lines (e.decode g.bytes) = (Text.lines (e.decode f.bytes)).take m

/-- The file with its first `n` bytes, which can be read. -/
def cut (f : SourceFile) (n : Nat) : SourceFile :=
  { f with bytes := f.bytes.take n, interrupt := none }

/-- **Every file can be cut to its first lines**, by taking some of its bytes. -/
theorem exists_cutTo (e : Encoding) (m : Nat) (f : SourceFile) : ∃ n, f.CutTo e m (f.cut n) := by
  obtain ⟨n, hn⟩ := e.exists_lines_decode_take f.bytes m
  exact ⟨n, rfl, rfl, hn⟩

end SourceFile

/-- **The first log file that fails**: behind the files `before`, which can be
read, the reading of a folder comes to `f`, which fails at `i`. -/
structure FirstFailure (extension : String) (entries : List Entry) (before : List SourceFile)
    (f : SourceFile) (i : Interrupt) : Prop where
  names_nodup : (entries.map Entry.name).Nodup
  logFiles_eq : ∃ behind, Place.logFiles extension entries = before ++ f :: behind
  before_readable : ∀ g ∈ before, g.interrupt = none
  interrupt_eq : f.interrupt = some i

namespace FirstFailure

variable {extension : String} {entries : List Entry} {before : List SourceFile}
  {f g : SourceFile} {i : Interrupt} {e : Encoding}

/-- The folder of the files before and of the file cut where it fails lists just
these. -/
theorem logFiles_cut (h : FirstFailure extension entries before f i) (hg : f.CutTo e i.after g)
    {listing : List Entry} (hlisting : listing.Perm ((before ++ [g]).map .file)) :
    Place.logFiles extension listing = before ++ [g] := by
  obtain ⟨behind, hfiles⟩ := h.logFiles_eq
  have hsorted := Place.pairwise_logFiles extension h.names_nodup
  rw [hfiles, List.append_cons] at hsorted
  have hbefore := (List.pairwise_append.mp hsorted).1
  refine Place.logFiles_of_files _ ?_ ?_ hlisting
  · rw [List.pairwise_append] at hbefore ⊢
    refine ⟨hbefore.1, List.pairwise_singleton _ g, fun a ha b hb => ?_⟩
    rw [List.mem_singleton.mp hb, hg.name_eq]
    exact hbefore.2.2 a ha f (List.mem_singleton.mpr rfl)
  · have hext : ∀ a ∈ before ++ f :: behind, Place.hasExtension extension a.name = true :=
      fun a ha => Place.hasExtension_of_mem_logFiles (hfiles ▸ ha)
    intro a ha
    rcases List.mem_append.mp ha with ha | ha
    · exact hext a (List.mem_append_left _ ha)
    · rw [List.mem_singleton.mp ha, hg.name_eq]
      exact hext f (List.mem_append_right _ List.mem_cons_self)

end FirstFailure

namespace Ingestion

variable {s : Settings} {e : Encoding}

/-! ## Two readings side by side -/

/-- Reading a file and then others: the others follow unless the file fails. -/
theorem readFiles_cons (he : Encoding.ofName s.codecs s.encoding = .ok e) (directory : String)
    (f : SourceFile) (fs : List SourceFile) (p : Progress) :
    readFiles s directory (f :: fs) p
      = (readLines s (Path.child directory f.name) 1 (delivered e f).1
          (p.note (.reading (Path.child directory f.name)))).bind (fun q =>
        match failureOf directory f with
        | none => readFiles s directory fs q.countFile
        | some error => .ok (q.stop error)) := by
  rw [readFiles, readFile_eq he]
  cases readLines s (Path.child directory f.name) 1 (delivered e f).1
    (p.note (.reading (Path.child directory f.name))) with
  | error i => rfl
  | ok q => cases failureOf directory f <;> rfl

/-- Behind files that can be read the reading goes on with the others. -/
theorem readFiles_append (he : Encoding.ofName s.codecs s.encoding = .ok e) (directory : String)
    {before : List SourceFile} (h : ∀ f ∈ before, f.interrupt = none) (fs : List SourceFile)
    (p : Progress) :
    readFiles s directory (before ++ fs) p
      = (readFiles s directory before p).bind (readFiles s directory fs) := by
  induction before generalizing p with
  | nil => rfl
  | cons f before ih =>
    have hf := failureOf_of_readable (h f List.mem_cons_self) directory
    rw [List.cons_append, readFiles_cons he, readFiles_cons he, hf]
    cases readLines s (Path.child directory f.name) 1 (delivered e f).1
      (p.note (.reading (Path.child directory f.name))) with
    | error i => rfl
    | ok q => exact ih (fun g hg => h g (List.mem_cons_of_mem f hg)) q.countFile

/-- **The file that fails and the file cut there are read alike**, up to where
the one stops and the other is counted. -/
theorem readFiles_cut (he : Encoding.ofName s.codecs s.encoding = .ok e) (directory : String)
    {f g : SourceFile} {i : Interrupt} (hi : f.interrupt = some i) (hg : f.CutTo e i.after g)
    (behind : List SourceFile) (p : Progress) :
    ∃ r : Except Interruption Progress,
      readFiles s directory (f :: behind) p
        = r.map (·.stop ⟨Path.child directory f.name, i.failure⟩) ∧
      readFiles s directory [g] p = r.map (·.countFile) := by
  have hdelivered : (delivered e g).1 = (delivered e f).1 := by
    simp only [delivered, hg.readable, hi]
    exact hg.lines_eq
  refine ⟨readLines s (Path.child directory f.name) 1 (delivered e f).1
    (p.note (.reading (Path.child directory f.name))), ?_, ?_⟩
  · rw [readFiles_cons he, failureOf, hi]
    cases readLines s (Path.child directory f.name) 1 (delivered e f).1
      (p.note (.reading (Path.child directory f.name))) <;> rfl
  · rw [readFiles_cons he, failureOf_of_readable hg.readable, hdelivered, hg.name_eq]
    cases readLines s (Path.child directory f.name) 1 (delivered e f).1
      (p.note (.reading (Path.child directory f.name))) <;> rfl

theorem read_folder_eq (directory : String) (entries : List Entry) :
    read s directory (.folder entries)
      = (readFiles s directory (Place.logFiles s.extension entries) {}).map
          (·.finish directory) := by
  show (readFiles s directory (Place.logFiles s.extension entries) {}).bind _ = _
  cases readFiles s directory (Place.logFiles s.extension entries) {} <;> rfl

/-- Both readings give the same up to their ends. -/
theorem read_cut (he : Encoding.ofName s.codecs s.encoding = .ok e) (directory : String)
    {entries : List Entry} {before : List SourceFile} {f g : SourceFile} {i : Interrupt}
    (h : FirstFailure s.extension entries before f i) (hg : f.CutTo e i.after g)
    {listing : List Entry} (hlisting : listing.Perm ((before ++ [g]).map .file)) :
    ∃ r : Except Interruption Progress,
      read s directory (.folder entries)
        = r.map (fun q => (q.stop ⟨Path.child directory f.name, i.failure⟩).finish directory) ∧
      read s directory (.folder listing) = r.map (fun q => q.countFile.finish directory) := by
  obtain ⟨behind, hfiles⟩ := h.logFiles_eq
  rw [read_folder_eq, read_folder_eq, hfiles, h.logFiles_cut hg hlisting,
    readFiles_append he directory h.before_readable,
    readFiles_append he directory h.before_readable]
  cases readFiles s directory before {} with
  | error stopped => exact ⟨.error stopped, rfl, rfl⟩
  | ok p =>
    obtain ⟨r, hstop, hcut⟩ := readFiles_cut he directory h.interrupt_eq hg behind p
    refine ⟨r, ?_, ?_⟩
    · rw [Except.bind, hstop]
      cases r <;> rfl
    · rw [Except.bind, hcut]
      cases r <;> rfl

/-- The cut folder is read to its end: every file is counted, and none fails. -/
theorem report_of_cut (he : Encoding.ofName s.codecs s.encoding = .ok e) (directory : String)
    {entries : List Entry} {before : List SourceFile} {f g : SourceFile} {i : Interrupt}
    (h : FirstFailure s.extension entries before f i) (hg : f.CutTo e i.after g)
    {listing : List Entry} (hlisting : listing.Perm ((before ++ [g]).map .file)) {q : Progress}
    (hq : read s directory (.folder listing) = .ok q) :
    q.report.files = before.length + 1 ∧ q.report.readError = none := by
  have hreadable : ∀ a ∈ before ++ [g], a.interrupt = none := by
    intro a ha
    rcases List.mem_append.mp ha with ha | ha
    · exact h.before_readable a ha
    · exact List.mem_singleton.mp ha ▸ hg.readable
  rw [read_folder_eq, h.logFiles_cut hg hlisting] at hq
  cases hfiles : readFiles s directory (before ++ [g]) {} with
  | error stopped => rw [hfiles] at hq; cases hq
  | ok p =>
    rw [hfiles] at hq
    cases hq
    have haccounts := readFiles_accounts he directory _ (Progress.Accounts.init s) hfiles
    show p.report.files = _ ∧ p.report.readError = _
    rw [haccounts.report_eq, finishedCount_of_readable hreadable,
      firstFailure_of_readable hreadable, List.length_append]
    exact ⟨Nat.zero_add _, rfl⟩

/-- **A failing file cuts the reading at a line.** Where a folder is read and `f`
is its first log file that fails, the result is that of a folder which holds the
files before it and `f` cut to the lines that it delivers, in whatever order it
lists them: the same records and the same report, except that `f` is not counted
and its failure is kept. Under regular settings and within the limit on numerals
there is such a result. A place that cannot be listed gives nothing but its
failure. -/
theorem read_interrupted (he : Encoding.ofName s.codecs s.encoding = .ok e) (directory : String) :
    (∀ {entries : List Entry} {before : List SourceFile} {f : SourceFile} {i : Interrupt},
      FirstFailure s.extension entries before f i →
      (∃ n, f.CutTo e i.after (f.cut n)) ∧
      ∀ g, f.CutTo e i.after g → ∀ listing : List Entry,
        listing.Perm ((before ++ [g]).map .file) →
        (∀ q, read s directory (.folder listing) = .ok q →
          q.report.files = before.length + 1 ∧ q.report.readError = none ∧
          ∃ p, read s directory (.folder entries) = .ok p ∧ p.dataset = q.dataset ∧
            p.report = { q.report with
              files := before.length
              readError := some ⟨Path.child directory f.name, i.failure⟩ }) ∧
        (s.Regular →
          (∀ h ∈ before ++ [g], ∀ text ∈ Text.lines (e.decode h.bytes),
            Line.WithinLimit s text) →
          ∃ q, read s directory (.folder listing) = .ok q)) ∧
    (∀ place failure, place.discover s.extension = .error failure →
      ∃ p, read s directory place = .ok p ∧ p.dataset = {} ∧
        p.report = { readError := some ⟨directory, failure⟩ }) ∧
    (∀ number text, text ≠ "" → (ReadFailure.system number text).reason = text) ∧
    ∀ message, (ReadFailure.other message).reason = message := by
  refine ⟨?_, ?_, ?_, fun message => rfl⟩
  · intro entries before f i h
    refine ⟨f.exists_cutTo e i.after, fun g hg listing hlisting => ⟨fun q hq => ?_, ?_⟩⟩
    · obtain ⟨hfiles, herror⟩ := report_of_cut he directory h hg hlisting hq
      obtain ⟨r, hstop, hcut⟩ := read_cut he directory h hg hlisting
      rw [hcut] at hq
      cases r with
      | error stopped => cases hq
      | ok p =>
        cases hq
        have hbefore : p.report.files = before.length := Nat.succ.inj hfiles
        refine ⟨hfiles, herror, _, hstop, rfl, ?_⟩
        rw [← hbefore]
        rfl
    · intro hs hlimit
      have hverdicts : ∀ a ∈ before ++ [g], ∀ text ∈ Text.lines (e.decode a.bytes),
          ∃ v, Line.judge s text = .ok v :=
        fun a ha text htext => Line.exists_judge hs (hlimit a ha text htext)
      obtain ⟨q, hq⟩ := exists_readFiles he directory hverdicts {}
      rw [read_folder_eq, h.logFiles_cut hg hlisting, hq]
      exact ⟨_, rfl⟩
  · intro place failure hplace
    refine ⟨_, by rw [read, Place.unseen?_eq_none hplace, hplace], rfl, rfl⟩
  · intro number text htext
    rw [ReadFailure.reason, if_neg]
    simpa using htext

/-- A file that fails behind its first line, between a file that can be read and
one that is not reached. -/
theorem read_interrupted_second_file :
    let bytes := fun text : String => text.toList.map (fun c => c.toNat.toUInt8)
    let a : SourceFile := ⟨"a.log", bytes "10.0.0.1\tAnn\t1.1.2020 9:0:0\tLOGIN\tOK\n", none⟩
    let b : SourceFile := ⟨"b.log", bytes "short\n10.0.0.2\tBob\t\tLOGIN\tOK\n",
      some (.reading 1 (.system 5 "Input/output error"))⟩
    let cut : SourceFile := ⟨"b.log", bytes "short\n", none⟩
    let c : SourceFile := ⟨"c.log", bytes "10.0.0.3", some (.opening .missing)⟩
    ∃ p q, read {} "logs" (.folder [.file c, .file b, .file a]) = .ok p ∧
      read {} "logs" (.folder [.file cut, .file a]) = .ok q ∧ p.dataset = q.dataset ∧
      p.report = { q.report with
        files := 1
        readError := some ⟨"logs/b.log", .system 5 "Input/output error"⟩ } := by
  intro bytes a b cut c
  have hfailure : FirstFailure ({} : Settings).extension [.file c, .file b, .file a] [a] b
      (.reading 1 (.system 5 "Input/output error")) := by
    refine ⟨by decide, ⟨[c], ?_⟩, by decide, rfl⟩
    exact Place.logFiles_of_files [a, b, c] (by decide) (by decide) (by decide)
  have hcut : b.CutTo .utf8 1 cut := ⟨rfl, rfl, by decide⟩
  have hshort : ∀ h ∈ [a] ++ [cut], ∀ text ∈ Text.lines (Encoding.utf8.decode h.bytes),
      text.length ≤ Text.Numeral.maxDigits := by decide
  obtain ⟨hsame, hexists⟩ := ((read_interrupted ofName_default "logs").1 hfailure).2 cut hcut
    [.file cut, .file a] (List.Perm.swap _ _ _)
  obtain ⟨q, hq⟩ := hexists Settings.regular_default
    fun h hh text htext => Line.withinLimit_of_length_le (hshort h hh text htext)
  obtain ⟨-, -, p, hp, hdataset, hreport⟩ := hsame q hq
  exact ⟨p, q, hp, hq, hdataset, hreport⟩

end Ingestion

end AccessLog
