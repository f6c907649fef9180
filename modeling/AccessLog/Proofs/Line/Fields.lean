import AccessLog.Proofs.Line
import AccessLog.Proofs.Text.Joined

/-!
# The fields of a line

A line is cut into fields at a delimiter. What the fields are is said without cutting: none of
them holds the delimiter, the last one is not empty, and joined by the delimiter, with some number
of empty ones behind them, they are the line without the carriage returns and line feeds at its
end (`Line.CutAt`). So empty fields at the beginning and in the middle are kept.

Cutting a line gives such fields for every delimiter that is not empty (`Line.cutAt_fields`), since
joining the pieces of a text gives the text back (`Text.intercalate_pieces`). For a delimiter of
one character there are no others (`Line.CutAt.fields_eq`): the pieces of what is joined are what
was joined. A longer delimiter can overlap itself, and then a line is joined in several ways.
-/

namespace AccessLog

namespace Line

/-- **The content of a line**: the line without the carriage returns and line feeds at its end. -/
def HasContent (line content : List Char) : Prop :=
  ∃ ending, line = content ++ ending ∧ (∀ c ∈ ending, c = '\r' ∨ c = '\n') ∧
    ∀ c ∈ content.getLast?, c ≠ '\r' ∧ c ≠ '\n'

/-- **Fields that a line is cut into at a delimiter**: they do not hold it, the last one is not
empty, and joined by it, with some empty ones behind them, they are the content of the line. -/
structure CutAt (delimiter line : List Char) (fs : List (List Char)) : Prop where
  /-- No field holds the delimiter. -/
  whole : ∀ f ∈ fs, ¬ delimiter <:+: f
  /-- The last field is not empty. -/
  getLast?_ne : fs.getLast? ≠ some []
  /-- The line is joined of the fields and of empty ones behind them. -/
  joined : ∃ k, HasContent line (delimiter.intercalate (fs ++ List.replicate k []))

theorem isEnding_iff {c : Char} : isEnding c = true ↔ c = '\r' ∨ c = '\n' := by
  rw [isEnding, Bool.or_eq_true, beq_iff_eq, beq_iff_eq]

theorem isEnding_eq_false_iff {c : Char} : isEnding c = false ↔ c ≠ '\r' ∧ c ≠ '\n' := by
  rw [← Bool.not_eq_true, isEnding_iff, not_or]

/-- A line has one content. -/
theorem hasContent_iff {line content : List Char} :
    HasContent line content ↔ Text.dropTrailing isEnding line = content := by
  constructor
  · rintro ⟨ending, rfl, hending, hlast⟩
    exact Text.dropTrailing_append_eq_left
      (fun c hc => isEnding_eq_false_iff.mpr (hlast c hc))
      (fun c hc => isEnding_iff.mpr (hending c hc))
  · rintro rfl
    obtain ⟨ending, hline, hending⟩ := Text.exists_dropTrailing_append isEnding line
    exact ⟨ending, hline, fun c hc => isEnding_iff.mp (hending c hc),
      fun c hc => isEnding_eq_false_iff.mp (Text.getLast?_dropTrailing c hc)⟩

/-- **Cutting a line gives its fields**, for every delimiter that is not empty. -/
theorem cutAt_fields {delimiter : List Char} (hdelimiter : delimiter ≠ []) (line : List Char) :
    CutAt delimiter line (fields delimiter line) := by
  obtain ⟨empty, hpieces, hempty⟩ := Text.exists_dropTrailing_append List.isEmpty
    (Text.pieces delimiter (Text.dropTrailing isEnding line))
  refine ⟨fun f hf => ?_, fun hlast => ?_, empty.length, ?_⟩
  · exact Text.not_infix_of_mem_piecesFrom hdelimiter
      ((Text.dropTrailing_sublist List.isEmpty _).mem hf)
  · cases Text.getLast?_dropTrailing [] hlast
  · have hreplicate : empty = List.replicate empty.length [] :=
      List.eq_replicate_iff.mpr ⟨rfl, fun f hf => List.isEmpty_iff.mp (hempty f hf)⟩
    rw [hasContent_iff, fields, ← hreplicate, ← hpieces, Text.intercalate_pieces hdelimiter]

/-- A field does not hold a delimiter of one character. -/
theorem not_mem_of_mem_fields {c : Char} {line f : List Char} (h : f ∈ fields [c] line) : c ∉ f :=
  Text.not_mem_of_mem_pieces ((Text.dropTrailing_sublist List.isEmpty _).mem h)

/-- **A line is cut in one way** at a delimiter of one character. -/
theorem CutAt.fields_eq {c : Char} {line : List Char} {fs : List (List Char)}
    (h : CutAt [c] line fs) : fields [c] line = fs := by
  obtain ⟨k, hcontent⟩ := h.joined
  have hempty : ∀ f ∈ List.replicate k ([] : List Char), f.isEmpty = true := fun f hf => by
    rw [List.eq_of_mem_replicate hf]
    rfl
  have hlast : ∀ f ∈ fs.getLast?, f.isEmpty = false := fun f hf => by
    refine Bool.eq_false_iff.mpr fun hnil => h.getLast?_ne ?_
    rw [← List.isEmpty_iff.mp hnil]
    exact hf
  rw [fields, hasContent_iff.mp hcontent]
  by_cases hne : fs ++ List.replicate k [] = []
  · -- a line without content has one empty piece and no field
    obtain ⟨rfl, -⟩ := List.append_eq_nil_iff.mp hne
    rw [hne]
    rfl
  · rw [Text.pieces_intercalate hne, Text.dropTrailing_append_eq_left hlast hempty]
    intro f hf
    rcases List.mem_append.mp hf with hf | hf
    · exact fun hmem => h.whole f hf ((List.singleton_infix_iff c f).mpr hmem)
    · rw [List.eq_of_mem_replicate hf]
      exact List.not_mem_nil

/-- **Neither delimiters at the end nor the ending matter**: a line has the fields of its content,
with any delimiters and then any ending behind it. -/
theorem fields_append_replicate {line content : List Char} (h : HasContent line content) (c : Char)
    (k : Nat) {ending : List Char} (hending : ∀ e ∈ ending, e = '\r' ∨ e = '\n') :
    fields [c] (content ++ List.replicate k c ++ ending) = fields [c] line := by
  have hline := hasContent_iff.mp h
  have hcontent : ∀ e ∈ content.getLast?, isEnding e = false := by
    rw [← hline]
    exact Text.getLast?_dropTrailing
  have hends : ∀ e ∈ ending, isEnding e = true := fun e he => isEnding_iff.mpr (hending e he)
  rw [fields, fields, hline, Text.dropTrailing_append_of_all hends]
  by_cases hc : isEnding c = true
  · -- the delimiter belongs to the ending as well
    rw [Text.dropTrailing_append_eq_left hcontent]
    intro e he
    rwa [List.eq_of_mem_replicate he]
  · have hlast : ∀ e ∈ (content ++ List.replicate k c).getLast?, isEnding e = false := by
      intro e he
      rw [List.getLast?_append, List.getLast?_replicate] at he
      split at he
      · exact hcontent e he
      · cases he
        exact Bool.eq_false_iff.mpr hc
    rw [Text.dropTrailing_eq_self hlast, Text.pieces_append_replicate,
      Text.dropTrailing_append_of_all]
    intro f hf
    rw [List.eq_of_mem_replicate hf]
    rfl

/-- **The fields of a line are exactly what it is joined of.** Every delimiter that is not empty
cuts a line into fields that do not hold it, of which the last is not empty, and that give the
content of the line when they are joined, with empty ones behind them. For a delimiter of one
character these are the only such fields, and they stay the same whatever delimiters are put
behind the content and whatever the ending. -/
theorem split_exact {s : Settings} (hs : s.delimiter ≠ "") (line : List Char) :
    ∃ fs, split s line = .ok (fs.map String.ofList) ∧ CutAt s.delimiter.toList line fs ∧
      ∀ c, s.delimiter.toList = [c] →
        (∀ gs, CutAt [c] line gs → gs = fs) ∧
        ∀ content, HasContent line content → ∀ (k : Nat) (ending : List Char),
          (∀ e ∈ ending, e = '\r' ∨ e = '\n') →
          split s (content ++ List.replicate k c ++ ending) = .ok (fs.map String.ofList) := by
  have hne : s.delimiter.toList ≠ [] := by simpa using hs
  have hsplit := split_eq_fields hs
  refine ⟨fields s.delimiter.toList line, hsplit line, cutAt_fields hne line, fun c hc => ?_⟩
  rw [hc] at hsplit ⊢
  refine ⟨fun gs hgs => hgs.fields_eq.symm, fun content hcontent k ending hending => ?_⟩
  rw [hsplit, fields_append_replicate hcontent c k hending]

/-- Empty fields at the beginning and in the middle, and three at the end. -/
theorem split_exact_empty_fields :
    let s : Settings := { delimiter := ";" }
    s.delimiter ≠ "" ∧ s.delimiter.toList = [';'] ∧
      HasContent ";a;;b;;\r\n".toList ";a;;b;;".toList ∧
      split s ";a;;b;;\r\n".toList = .ok ["", "a", "", "b"] ∧
      split s (";a;;b;;".toList ++ List.replicate 1 ';' ++ ['\r']) = .ok ["", "a", "", "b"] := by
  intro s
  have hcontent : HasContent ";a;;b;;\r\n".toList ";a;;b;;".toList :=
    hasContent_iff.mpr (by decide)
  obtain ⟨fs, hfs, -, hone⟩ := split_exact (s := s) (by decide) ";a;;b;;\r\n".toList
  obtain ⟨-, hmore⟩ := hone ';' (by decide)
  have hmore := hmore _ hcontent 1 ['\r'] (by simp)
  have hsplit : split s ";a;;b;;\r\n".toList = .ok ["", "a", "", "b"] := by decide
  rw [← hfs, hsplit] at hmore
  exact ⟨by decide, by decide, hcontent, hsplit, hmore⟩

end Line

end AccessLog
