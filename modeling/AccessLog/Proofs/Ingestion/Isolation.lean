import AccessLog.Proofs.Encoding.Cut
import AccessLog.Proofs.Ingestion.Verdict
import AccessLog.Proofs.Text.Lines

/-!
# One line does not show in the others

A line of a file can be replaced by any other bytes, broken ones too, and the
reading of the folder gives the same records and the same errors for all other
lines, in the same order (`Ingestion.read_line_replaced`). Both readings are
recounts of lines, and their lines are the same but for that one: the bytes
around it are decoded by themselves, since a line begins and ends at an ASCII
byte, and they are cut into the same lines.

In one case the lines behind have other numbers. A carriage return and a line
feed are one ending, so a line that stands between them and is replaced by
nothing is gone (`LineSlot.Vanishes`, `Ingestion.read_vanished_line`).
-/

namespace AccessLog

open SourceLine

theorem SourceLine.numbered_append (path : String) (n : Nat) (xs ys : List (List Char)) :
    numbered path n (xs ++ ys) = numbered path n xs ++ numbered path (n + xs.length) ys := by
  simp [numbered, List.mapIdx_append, Nat.add_comm, Nat.add_left_comm]

/-! ## A file with a place for a line -/

/-- **A file with a place for one line**: what stands before the line is empty or
ends with an ending, and what stands behind it is empty or begins with one. -/
structure LineSlot where
  /-- The name of the file. -/
  name : String
  /-- The bytes before the line. -/
  before : List UInt8
  /-- The bytes behind the line, its ending among them. -/
  behind : List UInt8
  before_ends : ∀ b ∈ before.getLast?, Encoding.Utf8.isEnding b = true
  behind_begins : ∀ b ∈ behind.head?, Encoding.Utf8.isEnding b = true

namespace LineSlot

variable (g : LineSlot)

/-- The file with a line of the given content. -/
def file (content : List UInt8) : SourceFile := ⟨g.name, g.before ++ (content ++ g.behind), none⟩

/-- **A content that makes no line**: none, where the ending before the line and the
one behind it become a single ending. -/
def Vanishes (content : List UInt8) : Prop :=
  content = [] ∧ g.before.getLast? = some 0x0D ∧ g.behind.head? = some 0x0A

instance (content : List UInt8) : Decidable (g.Vanishes content) :=
  inferInstanceAs (Decidable (content = [] ∧ _ ∧ _))

/-- The number of the line in its file. -/
def number : Nat := 1 + (Text.lines (Encoding.utf8.decode g.before)).length

/-- The line that a content makes, if it makes one. At the end of the file it has
no ending. -/
def line (path : String) (content : List UInt8) : List SourceLine :=
  if content = [] ∧ g.behind = [] ∨ g.Vanishes content then []
  else [⟨path, g.number,
    if g.behind = [] then Encoding.utf8.decode content
    else Encoding.utf8.decode content ++ ['\n']⟩]

/-- The texts of the lines behind the line. -/
def rest : List (List Char) := (Text.lines (Encoding.utf8.decode g.behind)).tail

/-- **The lines behind the line**. Where a content makes no line, they have the numbers
from that of the line on. -/
def linesBehind (path : String) (content : List UInt8) : List SourceLine :=
  numbered path (if g.Vanishes content then g.number else g.number + 1) g.rest

variable {g} {content : List UInt8}

theorem ascii_before (g : LineSlot) : ∀ b ∈ g.before.getLast?, b.toNat < 0x80 := fun b hb =>
  Encoding.Utf8.ascii_of_isEnding (g.before_ends b hb)

theorem ascii_behind (g : LineSlot) : ∀ b ∈ g.behind.head?, b.toNat < 0x80 := fun b hb =>
  Encoding.Utf8.ascii_of_isEnding (g.behind_begins b hb)

/-- The bytes around a line are decoded by themselves. -/
theorem decode_file (g : LineSlot) (content : List UInt8) :
    Encoding.utf8.decode (g.file content).bytes
      = Encoding.utf8.decode g.before
          ++ (Encoding.utf8.decode content ++ Encoding.utf8.decode g.behind) := by
  show Encoding.Utf8.decode (g.before ++ (content ++ g.behind)) = _
  rw [Encoding.Utf8.decode_append_of_last g.ascii_before,
    Encoding.Utf8.decode_append_of_head _ g.ascii_behind]
  rfl

theorem getLast?_before (g : LineSlot) :
    (Encoding.utf8.decode g.before).getLast? = g.before.getLast?.map fun b => Char.ofNat b.toNat :=
  Encoding.Utf8.getLast?_decode g.ascii_before

theorem head?_behind (g : LineSlot) :
    (Encoding.utf8.decode g.behind).head? = g.behind.head?.map fun b => Char.ofNat b.toNat :=
  Encoding.Utf8.head?_decode g.ascii_behind

/-- The text before the line ends with an ending. -/
theorem atEnding_before (g : LineSlot) : Text.AtEnding (Encoding.utf8.decode g.before) := by
  intro c hc
  rw [g.getLast?_before, Option.mem_map] at hc
  obtain ⟨b, hb, rfl⟩ := hc
  exact g.before_ends b hb

/-- The text behind the line begins with an ending. -/
theorem isEnding_head?_behind (g : LineSlot) :
    ∀ c ∈ (Encoding.utf8.decode g.behind).head?, Line.isEnding c = true := by
  intro c hc
  rw [g.head?_behind, Option.mem_map] at hc
  obtain ⟨b, hb, rfl⟩ := hc
  exact g.behind_begins b hb

/-- The endings around the line are one if their bytes are. -/
theorem joined_iff (g : LineSlot) :
    Text.Joined (Encoding.utf8.decode g.before) (Encoding.utf8.decode g.behind)
      ↔ g.before.getLast? = some 0x0D ∧ g.behind.head? = some 0x0A := by
  -- the character of an ASCII byte tells the byte
  have hbyte : ∀ {o : Option UInt8} {y : UInt8}, (∀ x ∈ o, x.toNat < 0x80) → y.toNat < 0x80 →
      (o.map (fun x => Char.ofNat x.toNat) = some (Char.ofNat y.toNat) ↔ o = some y) := by
    intro o y ho hy
    cases o with
    | none => simp
    | some x =>
      rw [Option.map_some, Option.some.injEq, Option.some.injEq]
      exact Encoding.Utf8.ofNat_eq_iff (ho x rfl) hy
  rw [Text.Joined, g.getLast?_before, g.head?_behind]
  exact and_congr (hbyte (y := 0x0D) g.ascii_before (by decide))
    (hbyte (y := 0x0A) g.ascii_behind (by decide))

/-- A content makes no line if its text makes none. -/
theorem lineBetween_eq_nil_iff (g : LineSlot) (content : List UInt8) :
    (Encoding.utf8.decode content = [] ∧ (Encoding.utf8.decode g.behind = [] ∨
        Text.Joined (Encoding.utf8.decode g.before) (Encoding.utf8.decode g.behind)))
      ↔ (content = [] ∧ g.behind = [] ∨ g.Vanishes content) := by
  have hnil : ∀ bs, Encoding.utf8.decode bs = [] ↔ bs = [] :=
    fun _ => Encoding.Utf8.decode_eq_nil_iff
  rw [hnil, hnil, g.joined_iff, and_or_left]
  rfl

/-- **The lines of the file**: those before the line and those behind it are the
same for every content. -/
theorem lines_file (g : LineSlot) {content : List UInt8}
    (h : ∀ b ∈ content, Encoding.Utf8.isEnding b = false) (path : String) :
    numbered path 1 (Text.lines (Encoding.utf8.decode (g.file content).bytes))
      = numbered path 1 (Text.lines (Encoding.utf8.decode g.before))
          ++ (g.line path content ++ g.linesBehind path content) := by
  have hcontent : ∀ c ∈ Encoding.utf8.decode content, Line.isEnding c = false :=
    Encoding.Utf8.not_isEnding_of_mem_decode h
  have hnil : Encoding.utf8.decode g.behind = [] ↔ g.behind = [] :=
    Encoding.Utf8.decode_eq_nil_iff
  rw [g.decode_file, Text.lines_between g.atEnding_before hcontent g.isEnding_head?_behind,
    numbered_append, numbered_append, Text.lineBetween]
  simp only [g.lineBetween_eq_nil_iff]
  simp only [hnil]
  refine congrArg (_ ++ ·) ?_
  rw [line, linesBehind]
  by_cases hnone : content = [] ∧ g.behind = [] ∨ g.Vanishes content
  · rw [if_pos hnone, if_pos hnone]
    rcases hnone with ⟨-, hbehind⟩ | hvanishes
    · rw [rest, hbehind]
      rfl
    · rw [if_pos hvanishes]
      rfl
  · rw [if_neg hnone, if_neg hnone, if_neg fun hvanishes => hnone (Or.inr hvanishes)]
    rfl

end LineSlot

/-! ## The two readings -/

namespace SourceLine

theorem recordsOf_append (s : Settings) (ls ks : List SourceLine) :
    recordsOf s (ls ++ ks) = recordsOf s ls ++ recordsOf s ks := List.filterMap_append

theorem errorsOf_append (s : Settings) (ls ks : List SourceLine) :
    errorsOf s (ls ++ ks) = errorsOf s ls ++ errorsOf s ks := List.filterMap_append

/-- The number of a line does not matter to its record. -/
theorem recordsOf_numbered (s : Settings) (path : String) (n : Nat) (texts : List (List Char)) :
    recordsOf s (numbered path n texts) = texts.filterMap (Line.record? s) := by
  have hcomp : recordsOf s (numbered path n texts)
      = (numbered path n texts).filterMap (Line.record? s ∘ text) := rfl
  rw [hcomp, ← List.filterMap_map, map_text_numbered]

end SourceLine

/-- **Two readings agree around a line**: both give what the lines before it give, then
what the line gives, then what the lines behind it give. The lines behind it may have
other numbers in the second reading, which shows in their errors. -/
structure AgreeAround (s : Settings) (front this that behind behind' : List SourceLine)
    (p q : Progress) : Prop where
  records : p.dataset.records = recordsOf s front ++ (recordsOf s this ++ recordsOf s behind)
  records' : q.dataset.records = recordsOf s front ++ (recordsOf s that ++ recordsOf s behind)
  errors : p.report.errors.toList = errorsOf s front ++ (errorsOf s this ++ errorsOf s behind)
  errors' : q.report.errors.toList = errorsOf s front ++ (errorsOf s that ++ errorsOf s behind')

namespace Ingestion

variable {s : Settings} {e : Encoding}

/-- The log files of a folder with the file can be read, if those of the others can. -/
theorem readable_logFiles_file (g : LineSlot) (content : List UInt8) {others : List Entry}
    (h : ∀ f, .file f ∈ others → Place.hasExtension s.extension f.name = true →
      f.interrupt = none) :
    ∀ f ∈ Place.logFiles s.extension (.file (g.file content) :: others), f.interrupt = none := by
  intro f hf
  obtain ⟨hmem, hext⟩ := Place.mem_logFiles.mp hf
  rcases List.mem_cons.mp hmem with heq | hmem
  · rw [Entry.file.inj heq]
    rfl
  · exact h f hmem hext

/-- **The lines of a folder with the file**: those before the line, in this file and in
others, and those of the files behind do not depend on the content of the line. -/
theorem exists_lines_folder (directory : String) (g : LineSlot) {others : List Entry}
    (hnames : (g.name :: others.map Entry.name).Nodup)
    (hext : Place.hasExtension s.extension g.name = true) :
    ∃ front back, ∀ content : List UInt8,
      (∀ b ∈ content, Encoding.Utf8.isEnding b = false) →
      ofFiles .utf8 directory (Place.logFiles s.extension (.file (g.file content) :: others))
        = front ++ (g.line (Path.child directory g.name) content
            ++ (g.linesBehind (Path.child directory g.name) content ++ back)) := by
  obtain ⟨before, after, hfiles⟩ := Place.exists_logFiles_cons hext hnames
  refine ⟨ofFiles .utf8 directory before
      ++ numbered (Path.child directory g.name) 1 (Text.lines (Encoding.utf8.decode g.before)),
    ofFiles .utf8 directory after, fun content hcontent => ?_⟩
  have hthis := g.lines_file hcontent (Path.child directory g.name)
  rw [hfiles (g.file content) rfl, ofFiles, List.flatMap_append, List.flatMap_cons]
  show _ ++ (numbered (Path.child directory g.name) 1
    (Text.lines (Encoding.utf8.decode (g.file content).bytes)) ++ _) = _
  rw [hthis]
  simp only [List.append_assoc]
  rfl

/-- **One line does not show in the others.** Under regular settings with UTF-8, let a
file of a folder have a line that is replaced by other bytes without a line ending,
and let the log files be readable and the tasks in both versions within the limit on
numerals. Both versions are read, and their readings agree around the line: they are
readings of the same lines but for this one. If the new content vanishes, the lines
behind it in the file have the numbers lower by one, and otherwise the same. -/
theorem read_line_replaced (hs : s.Regular) (he : Encoding.ofName s.codecs s.encoding = .ok .utf8)
    (directory : String) (g : LineSlot) {old new : List UInt8}
    (hold : ∀ b ∈ old, Encoding.Utf8.isEnding b = false)
    (hnew : ∀ b ∈ new, Encoding.Utf8.isEnding b = false) (hline : ¬ g.Vanishes old)
    {others : List Entry} (hnames : (g.name :: others.map Entry.name).Nodup)
    (hext : Place.hasExtension s.extension g.name = true)
    (hreadable : ∀ f, .file f ∈ others → Place.hasExtension s.extension f.name = true →
      f.interrupt = none)
    (hlimit : ∀ content ∈ [old, new], ∀ l ∈ ofFiles .utf8 directory
      (Place.logFiles s.extension (.file (g.file content) :: others)), Line.WithinLimit s l.text) :
    let path := Path.child directory g.name
    ∃ front back p q,
      (∀ listing : List Entry, listing.Perm (.file (g.file old) :: others) →
        read s directory (.folder listing) = .ok p) ∧
      (∀ listing : List Entry, listing.Perm (.file (g.file new) :: others) →
        read s directory (.folder listing) = .ok q) ∧
      ofFiles .utf8 directory (Place.logFiles s.extension (.file (g.file old) :: others))
        = front ++ (g.line path old ++ (numbered path (g.number + 1) g.rest ++ back)) ∧
      ofFiles .utf8 directory (Place.logFiles s.extension (.file (g.file new) :: others))
        = front ++ (g.line path new ++ (g.linesBehind path new ++ back)) ∧
      AgreeAround s front (g.line path old) (g.line path new)
        (numbered path (g.number + 1) g.rest ++ back) (g.linesBehind path new ++ back) p q := by
  intro path
  obtain ⟨front, back, hlines⟩ := exists_lines_folder (s := s) directory g hnames hext
  have hlinesOld := hlines old hold
  rw [LineSlot.linesBehind, if_neg hline] at hlinesOld
  have hlinesNew := hlines new hnew
  have hnamesOf : ∀ content, ((.file (g.file content) :: others).map Entry.name).Nodup :=
    fun _ => hnames
  obtain ⟨p, hp, hprecords, hperrors⟩ := exists_read_folder hs he directory (hnamesOf old)
    (readable_logFiles_file g old hreadable) (hlimit old (by simp))
  obtain ⟨q, hq, hqrecords, hqerrors⟩ := exists_read_folder hs he directory (hnamesOf new)
    (readable_logFiles_file g new hreadable) (hlimit new (by simp))
  rw [hlinesOld] at hprecords hperrors
  rw [hlinesNew] at hqrecords hqerrors
  refine ⟨front, back, p, q, hp, hq, hlinesOld, hlinesNew, ?_⟩
  -- the records of the lines behind are those of their texts
  have hbehind : recordsOf s (g.linesBehind path new ++ back)
      = recordsOf s (numbered path (g.number + 1) g.rest ++ back) := by
    rw [recordsOf_append, recordsOf_append, LineSlot.linesBehind, recordsOf_numbered,
      recordsOf_numbered]
  constructor
  case records => rw [hprecords, recordsOf_append, recordsOf_append]
  case records' => rw [hqrecords, recordsOf_append, recordsOf_append, hbehind]
  case errors => rw [hperrors, errorsOf_append, errorsOf_append]
  case errors' => rw [hqerrors, errorsOf_append, errorsOf_append]

/-- A line is replaced by a multi-byte sequence that breaks off at the line feed. -/
theorem read_line_replaced_broken_sequence :
    let g : LineSlot := ⟨"a.log", [0x78, 0x0A], [0x0A, 0x61, 0x09, 0x62],
      fun _ hb => Option.some.inj hb ▸ rfl, fun _ hb => Option.some.inj hb ▸ rfl⟩
    ∃ front back p q,
      read {} "logs" (.folder [.file (g.file [0x79])]) = .ok p ∧
      read {} "logs" (.folder [.file (g.file [0xE2, 0x82])]) = .ok q ∧
      AgreeAround {} front (g.line "logs/a.log" [0x79]) (g.line "logs/a.log" [0xE2, 0x82])
        (numbered "logs/a.log" (g.number + 1) g.rest ++ back)
        (g.linesBehind "logs/a.log" [0xE2, 0x82] ++ back) p q := by
  intro g
  have hold : ∀ b ∈ ([0x79] : List UInt8), Encoding.Utf8.isEnding b = false :=
    List.forall_mem_singleton.mpr rfl
  have hnew : ∀ b ∈ ([0xE2, 0x82] : List UInt8), Encoding.Utf8.isEnding b = false :=
    List.forall_mem_cons.mpr ⟨rfl, List.forall_mem_singleton.mpr rfl⟩
  have hline : ¬ g.Vanishes [0x79] := by decide
  have hnames : (g.name :: ([] : List Entry).map Entry.name).Nodup := by decide
  have hext : Place.hasExtension ({} : Settings).extension g.name = true := by decide
  have hlimit : ∀ content ∈ ([[0x79], [0xE2, 0x82]] : List (List UInt8)),
      ∀ l ∈ ofFiles .utf8 "logs" (Place.logFiles ({} : Settings).extension
        [.file (g.file content)]), Line.WithinLimit {} l.text := by
    intro content hcontent l hl
    have hshort : ∀ content ∈ ([[0x79], [0xE2, 0x82]] : List (List UInt8)),
        ∀ l ∈ ofFiles .utf8 "logs" [g.file content], l.text.length ≤ Text.Numeral.maxDigits := by
      decide
    rw [Place.logFiles_singleton (f := g.file content) hext] at hl
    exact Line.withinLimit_of_length_le (hshort content hcontent l hl)
  obtain ⟨front, back, p, q, hp, hq, -, -, hagree⟩ :=
    read_line_replaced Settings.regular_default ofName_default "logs" g hold hnew hline hnames hext
      (fun f hf => absurd hf List.not_mem_nil) hlimit
  exact ⟨front, back, p, q, hp _ (List.Perm.refl _), hq _ (List.Perm.refl _), hagree⟩

/-- **A vanished line shows in the others.** The line between the carriage return and the
line feed is replaced by nothing. The next one was line 3 and is line 2. -/
theorem read_vanished_line :
    let g : LineSlot := ⟨"a.log", [0x61, 0x0D], [0x0A, 0x63, 0x09, 0x64, 0x0A],
      fun _ hb => Option.some.inj hb ▸ rfl, fun _ hb => Option.some.inj hb ▸ rfl⟩
    ∃ p q,
      read {} "logs" (.folder [.file (g.file [0x78])]) = .ok p ∧
      read {} "logs" (.folder [.file (g.file [])]) = .ok q ∧
      p.report.errors.toList = [⟨.fieldCount 5 1, "logs/a.log", 1⟩,
        ⟨.fieldCount 5 1, "logs/a.log", 2⟩, ⟨.fieldCount 5 2, "logs/a.log", 3⟩] ∧
      q.report.errors.toList = [⟨.fieldCount 5 1, "logs/a.log", 1⟩,
        ⟨.fieldCount 5 2, "logs/a.log", 2⟩] := by
  intro g
  have hext : Place.hasExtension ({} : Settings).extension "a.log" = true := by decide
  have hshort : ∀ content ∈ ([[0x78], []] : List (List UInt8)),
      ∀ l ∈ ofFiles .utf8 "logs" [g.file content], l.text.length ≤ Text.Numeral.maxDigits := by
    decide
  have hread : ∀ content ∈ ([[0x78], []] : List (List UInt8)),
      ∃ p, read {} "logs" (.folder [.file (g.file content)]) = .ok p ∧
        p.report.errors.toList = errorsOf {} (ofFiles .utf8 "logs" [g.file content]) := by
    intro content hcontent
    obtain ⟨p, hp, -, herrors⟩ := exists_read_singleton (f := g.file content)
      Settings.regular_default ofName_default "logs" hext rfl
      (fun l hl => Line.withinLimit_of_length_le (hshort content hcontent l hl))
    exact ⟨p, hp, herrors⟩
  obtain ⟨p, hp, hperrors⟩ := hread [0x78] (by decide)
  obtain ⟨q, hq, hqerrors⟩ := hread [] (by decide)
  refine ⟨p, q, hp, hq, ?_, ?_⟩
  · rw [hperrors]
    decide
  · rw [hqerrors]
    decide

end Ingestion

end AccessLog
