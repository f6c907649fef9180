import AccessLog.Proofs.Encoding.Cut
import AccessLog.Proofs.Ingestion.Verdict

/-!
# How lines end does not matter

The lines of a file may end with a line feed, with a carriage return and a line feed, or
with a carriage return, and the ending of a last line that is not empty may be missing.
Reading the folder comes to the same: the same records, the same report and the same
journal, or the same fault (`Ingestion.read_written`).

Two facts carry this. However some lines are written, a file has just these lines, one
for each (`Ending.Writes.map_judge_lines`): a carriage return and a line feed are one
ending, and two carriage returns are two, as no line begins with a line feed. And a line
is judged without its ending (`Line.judge_concat_feed`).
-/

namespace AccessLog

/-! ## Lines without their endings -/

namespace Line

theorem fields_concat_feed (delimiter line : List Char) :
    fields delimiter (line ++ ['\n']) = fields delimiter line := by
  rw [fields, Text.dropTrailing_concat]
  rfl

/-- **A line is judged without its ending.** -/
theorem judge_concat_feed (s : Settings) (line : List Char) :
    judge s (line ++ ['\n']) = judge s line := by
  have hblank : Text.allBlank (line ++ ['\n']) = Text.allBlank line := by
    rw [Text.allBlank, List.all_append, show ['\n'].all Text.isBlank = true from by decide,
      Bool.and_true]
    rfl
  rw [judge, judge, hblank, parse, parse, split, split, fields_concat_feed]

end Line

/-! ## Writing lines -/

/-- The ways to end a line. -/
inductive Ending where
  /-- A line feed. -/
  | feed
  /-- A carriage return and a line feed. -/
  | returnFeed
  /-- A carriage return. -/
  | carriageReturn
deriving DecidableEq, Repr

namespace Ending

/-- The bytes of an ending. -/
def bytes : Ending → List UInt8
  | feed => [0x0A]
  | returnFeed => [0x0D, 0x0A]
  | carriageReturn => [0x0D]

/-- The characters of an ending. -/
def chars : Ending → List Char
  | feed => ['\n']
  | returnFeed => ['\r', '\n']
  | carriageReturn => ['\r']

/-- **The bytes that write some lines**, with one ending behind each. Behind the last line
it may be missing, if that is not empty. -/
inductive Writes (e : Ending) : List (List UInt8) → List UInt8 → Prop
  /-- No lines. -/
  | nil : Writes e [] []
  /-- A last line that has no ending. -/
  | last {l : List UInt8} (h : l ≠ []) : Writes e [l] l
  /-- A line with its ending in front of others. -/
  | cons (l : List UInt8) {ls : List (List UInt8)} {bs : List UInt8} (h : Writes e ls bs) :
    Writes e (l :: ls) (l ++ (e.bytes ++ bs))

/-- Lines are written with an ending behind each. -/
theorem writes_ended (e : Ending) (ls : List (List UInt8)) :
    e.Writes ls (ls.flatMap (· ++ e.bytes)) := by
  induction ls with
  | nil => exact .nil
  | cons l ls ih =>
    rw [List.flatMap_cons, List.append_assoc]
    exact .cons l ih

/-- The last line is written without an ending. -/
theorem writes_open (e : Ending) (ls : List (List UInt8)) {l : List UInt8} (h : l ≠ []) :
    e.Writes (ls ++ [l]) (ls.flatMap (· ++ e.bytes) ++ l) := by
  induction ls with
  | nil => exact .last h
  | cons k ls ih =>
    rw [List.cons_append, List.flatMap_cons, List.append_assoc, List.append_assoc]
    exact .cons k ih

/-- The bytes around an ending are decoded by themselves. -/
theorem decode_append_bytes (e : Ending) (l bs : List UInt8) :
    Encoding.utf8.decode (l ++ (e.bytes ++ bs))
      = Encoding.utf8.decode l ++ (e.chars ++ Encoding.utf8.decode bs) := by
  have hhead : ∀ b ∈ (e.bytes ++ bs).head?, b.toNat < 0x80 := by
    cases e <;> exact fun b hb => Option.some.inj hb ▸ by decide
  have hlast : ∀ b ∈ e.bytes.getLast?, b.toNat < 0x80 := by
    cases e <;> exact fun b hb => Option.some.inj hb ▸ by decide
  show Encoding.Utf8.decode _ = _
  rw [Encoding.Utf8.decode_append_of_head l hhead, Encoding.Utf8.decode_append_of_last hlast]
  cases e <;> rfl

/-- **An ending ends one line**, unless a line feed follows that would belong to it. -/
theorem lines_append_chars (e : Ending) {m : List Char} (hm : ∀ c ∈ m, Line.isEnding c = false)
    {rest : List Char} (hrest : ¬ Text.Joined e.chars rest) :
    Text.lines (m ++ (e.chars ++ rest)) = (m ++ ['\n']) :: Text.lines rest := by
  have hchars : Text.lines (e.chars ++ rest) = ['\n'] :: Text.lines rest := by
    cases e with
    | feed | returnFeed => rfl
    | carriageReturn =>
      refine Text.lines_return fun more heq => hrest ⟨rfl, ?_⟩
      exact List.head?_eq_some_iff.mpr ⟨more, heq⟩
  rw [Text.lines_content_append hm, hchars, List.tail_cons]
  · cases e <;> exact List.cons_ne_nil _ _
  · cases e <;> exact fun c hc => Option.some.inj hc ▸ rfl

namespace Writes

variable {e : Ending} {ls : List (List UInt8)} {bs : List UInt8}

/-- No line begins with a line feed, so what follows an ending does not belong to it. -/
theorem not_joined (h : e.Writes ls bs)
    (hls : ∀ l ∈ ls, ∀ b ∈ l, Encoding.Utf8.isEnding b = false) :
    ¬ Text.Joined e.chars (Encoding.utf8.decode bs) := by
  rintro ⟨hlast, hhead⟩
  have hcontent : ∀ l ∈ ls, (Encoding.utf8.decode l).head? ≠ some '\n' := fun l hl hfeed =>
    absurd (Encoding.Utf8.not_isEnding_of_mem_decode (hls l hl) '\n' (List.mem_of_mem_head? hfeed))
      (by decide)
  cases h with
  | nil => cases hhead
  | last => exact hcontent bs List.mem_cons_self hhead
  | cons l h =>
    rw [decode_append_bytes, List.head?_append] at hhead
    cases hl : (Encoding.utf8.decode l).head? with
    | none =>
      -- the line is empty, and its own ending begins with a carriage return
      rw [hl] at hhead
      cases e with
      | feed | returnFeed => cases hlast
      | carriageReturn => cases hhead
    | some c =>
      rw [hl] at hhead
      exact hcontent l List.mem_cons_self (hl.trans hhead)

/-- **The lines of a written file are those that were written**, one for each: they get
the same verdicts. -/
theorem map_judge_lines (h : e.Writes ls bs)
    (hls : ∀ l ∈ ls, ∀ b ∈ l, Encoding.Utf8.isEnding b = false) (s : Settings) :
    (Text.lines (Encoding.utf8.decode bs)).map (Line.judge s)
      = ls.map fun l => Line.judge s (Encoding.utf8.decode l) := by
  induction h with
  | nil => rfl
  | @last l hne =>
    have hl : ∀ c ∈ Encoding.utf8.decode l, Line.isEnding c = false :=
      Encoding.Utf8.not_isEnding_of_mem_decode (hls l List.mem_cons_self)
    have hdecode : Encoding.utf8.decode l ≠ [] := mt Encoding.Utf8.decode_eq_nil_iff.mp hne
    rw [Text.lines_content hdecode hl]
    rfl
  | cons l h ih =>
    have hl : ∀ c ∈ Encoding.utf8.decode l, Line.isEnding c = false :=
      Encoding.Utf8.not_isEnding_of_mem_decode (hls l List.mem_cons_self)
    have hrest := fun k hk => hls k (List.mem_cons_of_mem l hk)
    rw [decode_append_bytes, lines_append_chars e hl (h.not_joined hrest), List.map_cons,
      List.map_cons, Line.judge_concat_feed, ih hrest]

end Writes

end Ending

/-! ## Reading by verdicts -/

namespace Ingestion

variable {s : Settings} {e : Encoding}

/-- **Lines with the same verdicts are read alike.** -/
theorem readLines_congr (path : String) {texts texts' : List (List Char)}
    (h : texts.map (Line.judge s) = texts'.map (Line.judge s)) (n : Nat) (p : Progress) :
    readLines s path n texts p = readLines s path n texts' p := by
  induction texts generalizing texts' n p with
  | nil => rw [List.map_eq_nil_iff.mp h.symm]
  | cons text texts ih =>
    cases texts' with
    | nil => cases h
    | cons text' texts' =>
      obtain ⟨hjudge, hrest⟩ := List.cons.inj h
      rw [readLines, readLines, hjudge]
      cases Line.judge s text' with
      | error f => rfl
      | ok v => exact ih hrest (n + 1) _

/-- Files of one name whose lines have the same verdicts are read alike, if they fail alike. -/
theorem readFile_congr (he : Encoding.ofName s.codecs s.encoding = .ok e) {f g : SourceFile}
    (hinterrupt : f.interrupt = g.interrupt)
    (h : (Text.lines (e.decode f.bytes)).map (Line.judge s)
      = (Text.lines (e.decode g.bytes)).map (Line.judge s)) (path : String) (p : Progress) :
    readFile s path f p = readFile s path g p := by
  have hlines : (delivered e f).1.map (Line.judge s) = (delivered e g).1.map (Line.judge s) := by
    unfold delivered
    rw [hinterrupt]
    cases g.interrupt with
    | none => exact h
    | some i => simp only [List.map_take, h]
  have hfailure : (delivered e f).2 = (delivered e g).2 := by
    unfold delivered
    rw [hinterrupt]
    cases g.interrupt <;> rfl
  rw [readFile, readFile, he]
  simp only [readLines_congr path hlines, hfailure]

/-- A file may be replaced by another of its name that is read alike. -/
theorem readFiles_congr (directory : String) {f g : SourceFile}
    (h : ∀ path p, readFile s path f p = readFile s path g p) (hname : f.name = g.name)
    (front back : List SourceFile) (p : Progress) :
    readFiles s directory (front ++ f :: back) p
      = readFiles s directory (front ++ g :: back) p := by
  induction front generalizing p with
  | nil => rw [List.nil_append, List.nil_append, readFiles, readFiles, hname, h]
  | cons k front ih =>
    rw [List.cons_append, List.cons_append, readFiles, readFiles]
    cases readFile s (Path.child directory k.name) k p with
    | error i => rfl
    | ok r =>
      obtain ⟨q, stop⟩ := r
      cases stop with
      | none => exact ih q.countFile
      | some error => rfl

/-- **Files that write the same lines are read alike** in a folder, whatever its order. -/
theorem read_eq_of_writes (he : Encoding.ofName s.codecs s.encoding = .ok .utf8)
    (directory : String)
    {name : String} {interrupt : Option Interrupt} {ls : List (List UInt8)}
    (hls : ∀ l ∈ ls, ∀ b ∈ l, Encoding.Utf8.isEnding b = false) {others : List Entry}
    (hnames : (name :: others.map Entry.name).Nodup)
    (hext : Place.hasExtension s.extension name = true) {e e' : Ending} {bs bs' : List UInt8}
    (h : e.Writes ls bs) (h' : e'.Writes ls bs') {listing listing' : List Entry}
    (hperm : listing.Perm (.file ⟨name, bs, interrupt⟩ :: others))
    (hperm' : listing'.Perm (.file ⟨name, bs', interrupt⟩ :: others)) :
    read s directory (.folder listing) = read s directory (.folder listing') := by
  have hverdicts := (h.map_judge_lines hls s).trans (h'.map_judge_lines hls s).symm
  have hread : ∀ path p, readFile s path ⟨name, bs, interrupt⟩ p
      = readFile s path ⟨name, bs', interrupt⟩ p := readFile_congr he rfl hverdicts
  obtain ⟨front, back, hfiles⟩ := Place.exists_logFiles_cons hext hnames
  rw [read_folder_eq, read_folder_eq, Place.logFiles_of_perm s.extension hperm hnames,
    Place.logFiles_of_perm s.extension hperm' hnames, hfiles _ rfl, hfiles _ rfl,
    readFiles_congr directory hread rfl]

/-- **How lines end does not matter.** Under settings with UTF-8, let a file of a folder
hold some lines without line endings in them. However the lines are written – each with a
line feed behind it, each with a carriage return and a line feed, or each with a carriage
return, and the last one, if it is not empty, with its ending or without – the file has these
lines, one for each, and the reading of the folder comes to the same: to one result with its
records, report and journal, or to one fault. Under regular settings and within the limit on
numerals it comes to a result. -/
theorem read_written (he : Encoding.ofName s.codecs s.encoding = .ok .utf8)
    (directory name : String)
    (interrupt : Option Interrupt) {ls : List (List UInt8)}
    (hls : ∀ l ∈ ls, ∀ b ∈ l, Encoding.Utf8.isEnding b = false) {others : List Entry}
    (hnames : (name :: others.map Entry.name).Nodup)
    (hext : Place.hasExtension s.extension name = true) :
    (∀ (e : Ending) (bs : List UInt8), e.Writes ls bs →
      (Text.lines (Encoding.utf8.decode bs)).map (Line.judge s)
        = ls.map fun l => Line.judge s (Encoding.utf8.decode l)) ∧
    ∃ outcome : Except Interruption Progress,
      (∀ (e : Ending) (bs : List UInt8), e.Writes ls bs → ∀ listing : List Entry,
        listing.Perm (.file ⟨name, bs, interrupt⟩ :: others) →
        read s directory (.folder listing) = outcome) ∧
      (s.Regular → (∀ l ∈ ls, Line.WithinLimit s (Encoding.utf8.decode l)) →
        (∀ f, .file f ∈ others → ∀ text ∈ Text.lines (Encoding.utf8.decode f.bytes),
          Line.WithinLimit s text) →
        ∃ p, outcome = .ok p) := by
  have hended := Ending.feed.writes_ended ls
  let file : SourceFile := ⟨name, ls.flatMap (· ++ Ending.feed.bytes), interrupt⟩
  refine ⟨fun e bs h => h.map_judge_lines hls s, read s directory (.folder (.file file :: others)),
    fun e bs h listing hperm => read_eq_of_writes he directory hls hnames hext h hended hperm
      (List.Perm.refl _), fun hs hlimit hothers => ?_⟩
  have hverdicts : ∀ f ∈ Place.logFiles s.extension (.file file :: others),
      ∀ text ∈ Text.lines (Encoding.utf8.decode f.bytes), ∃ v, Line.judge s text = .ok v := by
    intro f hf text htext
    rcases List.mem_cons.mp (Place.mem_logFiles.mp hf).1 with heq | hmem
    · -- the verdict is that on a line that was written
      cases Entry.file.inj heq
      have hjudge : Line.judge s text ∈ (Text.lines (Encoding.utf8.decode file.bytes)).map _ :=
        List.mem_map_of_mem htext
      rw [hended.map_judge_lines hls s] at hjudge
      obtain ⟨l, hl, hsame⟩ := List.mem_map.mp hjudge
      rw [← hsame]
      exact Line.exists_judge hs (hlimit l hl)
    · exact Line.exists_judge hs (hothers f hmem text htext)
  obtain ⟨q, hq⟩ := exists_readFiles he directory hverdicts {}
  exact ⟨q.finish directory, by rw [read_folder_eq, hq]; rfl⟩

/-- Three lines, one of them empty, are written in three ways. In the third the last line has
no ending. -/
theorem read_written_three_ways :
    let bytes := fun text : String => text.toList.map (fun c => c.toNat.toUInt8)
    let place := fun text : String => Place.folder [.file ⟨"a.log", bytes text, none⟩]
    ∃ p, read {} "logs" (place "10.0.0.1\tann\t1.1.2020 9:0:0\tLOGIN\tOK\n\nshort\n") = .ok p ∧
      read {} "logs" (place "10.0.0.1\tann\t1.1.2020 9:0:0\tLOGIN\tOK\r\n\r\nshort\r\n") = .ok p ∧
      read {} "logs" (place "10.0.0.1\tann\t1.1.2020 9:0:0\tLOGIN\tOK\r\rshort") = .ok p := by
  intro bytes place
  let login := bytes "10.0.0.1\tann\t1.1.2020 9:0:0\tLOGIN\tOK"
  have hplain : ∀ l ∈ [login, [], bytes "short"], l.any Encoding.Utf8.isEnding = false := by
    decide
  have hls : ∀ l ∈ [login, [], bytes "short"], ∀ b ∈ l, Encoding.Utf8.isEnding b = false :=
    fun l hl b hb => Bool.eq_false_iff.mpr (List.any_eq_false.mp (hplain l hl) b hb)
  have hnames : ("a.log" :: ([] : List Entry).map Entry.name).Nodup := by decide
  obtain ⟨-, outcome, hread, hexists⟩ :=
    read_written ofName_default "logs" "a.log" none hls hnames (by decide)
  have hshort : ∀ l ∈ [login, [], bytes "short"],
      (Encoding.utf8.decode l).length ≤ Text.Numeral.maxDigits := by decide
  obtain ⟨p, hp⟩ := hexists Settings.regular_default
    (fun l hl => Line.withinLimit_of_length_le (hshort l hl)) nofun
  have hways := fun e bs h => (hread e bs h _ (List.Perm.refl _)).trans hp
  refine ⟨p, hways .feed _ ?_, hways .returnFeed _ ?_, hways .carriageReturn _ ?_⟩
  · exact Ending.feed.writes_ended [login, [], bytes "short"]
  · exact Ending.returnFeed.writes_ended [login, [], bytes "short"]
  · exact Ending.carriageReturn.writes_open [login, []] (by decide)

end Ingestion

end AccessLog
