import AccessLog.Proofs.Timestamp.ShortYear

/-!
# Padded numbers, and texts without a full stop

A number that is padded to a fixed width is spelled by as many digits (`spells_padded`), which is
what dates are typed with where the form of the logs is not used. The form of the logs has full
stops between its numbers, and a text without any is not of this form
(`Timestamp.read_logFormat_of_no_dot`).
-/

namespace AccessLog

/-! ## Texts without a full stop -/

namespace Format

/-- What is left behind an item is the end of the text. -/
theorem isSuffix_of_mem_starts {i : Item} {cs : List Char} {s : Found × List Char}
    (h : s ∈ i.starts cs) : s.2 <:+ cs := by
  cases i with
  | part d =>
    obtain ⟨f, -, r, hr, rfl⟩ := mem_starts_part.mp h
    exact ⟨r.1, (eq_append_of_fit hr).1.symm⟩
  | literal l =>
    cases cs with
    | nil => cases h
    | cons c cs =>
      rw [Item.starts] at h
      split at h
      · rw [List.mem_singleton.mp h]
        exact List.suffix_cons c cs
      · cases h
  | gap =>
    obtain ⟨k, -, rfl⟩ := List.mem_map.mp h
    exact List.drop_suffix _ cs

/-- A character of the format is wanted in the text. -/
theorem exists_sameLetter_of_layOut {items : List Item} {cs : List Char}
    {r : Found × List Char} (h : layOut items cs = some r) {l : Char}
    (hl : .literal l ∈ items) : ∃ c ∈ cs, Text.sameLetter l c = true := by
  induction items generalizing cs r with
  | nil => cases hl
  | cons i items ih =>
    obtain ⟨s, hs, r', hr', -⟩ := exists_start_of_layOut h
    rcases List.mem_cons.mp hl with rfl | hl
    · cases cs with
      | nil => cases hs
      | cons c cs =>
        rw [Item.starts] at hs
        split at hs
        · rename_i hc
          exact ⟨c, List.mem_cons_self, hc⟩
        · cases hs
    · obtain ⟨c, hc, hsame⟩ := ih hr' hl
      exact ⟨c, (isSuffix_of_mem_starts hs).subset hc, hsame⟩

end Format

namespace Timestamp

/-- **A text without a full stop has not the form of the logs.** -/
theorem read_logFormat_of_no_dot {text : String}
    (h : ∀ c ∈ text.toList, Text.sameLetter '.' c = false) :
    ∃ u, read logFormat text = .error u := by
  have hnone : Format.layOut logItems (Text.strip text.toList) = none := by
    cases hsome : Format.layOut logItems (Text.strip text.toList) with
    | none => rfl
    | some r =>
      have hdot : Format.Item.literal '.' ∈ logItems := by decide
      obtain ⟨c, hc, hsame⟩ := Format.exists_sameLetter_of_layOut hsome hdot
      have hmem : c ∈ text.toList := by
        rw [Text.strip] at hc
        exact (List.dropWhile_sublist _).mem ((Text.dropTrailing_sublist _ _).mem hc)
      rw [h c hmem] at hsame
      cases hsame
  rw [read, readMoment, format_logFormat]
  simp only [ofText, hnone]
  exact ⟨_, rfl⟩

/-! ## Numbers of a fixed width -/

/-- **Digits that spell a number**, as many as said. -/
structure Spells (cs : List Char) (width n : Nat) : Prop where
  isDigit : ∀ c ∈ cs, c.isDigit = true
  length : cs.length = width
  decimal : Text.decimal cs = n

/-- Zeros in front do not count. -/
theorem decimal_replicate_append (k : Nat) (cs : List Char) :
    Text.decimal (List.replicate k '0' ++ cs) = Text.decimal cs := by
  induction k with
  | zero => rfl
  | succ k ih =>
    rw [List.replicate_succ, List.cons_append, ← ih]
    rfl

theorem isDigit_of_mem_padded {width n : Nat} {c : Char} (h : c ∈ (padded width n).toList) :
    c.isDigit = true := by
  rw [padded, String.toList_ofList] at h
  rcases List.mem_append.mp h with h | h
  · rw [List.eq_of_mem_replicate h]
    rfl
  · exact Text.isDigit_of_mem_digits h

/-- A padded number is spelled by as many digits as wanted. -/
theorem spells_padded {width n : Nat} (hwidth : 0 < width) (hn : n < 10 ^ width) :
    Spells (padded width n).toList width n := by
  have hlength : (Nat.toDigits 10 n).length ≤ width :=
    (Nat.length_toDigits_le_iff (by decide) hwidth).mpr hn
  refine ⟨fun c hc => isDigit_of_mem_padded hc, ?_, ?_⟩
  · rw [padded, String.toList_ofList, List.length_leftpad]
    omega
  · rw [padded, String.toList_ofList, List.leftpad, decimal_replicate_append,
      Text.decimal_toDigits]

section

variable (t : Timestamp)

/-- The padded year spells the year. -/
theorem spells_year : Spells (padded 4 t.year).toList 4 t.year :=
  spells_padded (by decide) (Nat.lt_succ_of_le t.date_valid.1.2)

/-- Any other padded part spells the part. -/
theorem spells_two {n : Nat} (h : n ∈ [t.month, t.day, t.hour, t.minute, t.second]) :
    Spells (padded 2 n).toList 2 n := by
  refine spells_padded (by decide) ?_
  obtain ⟨-, hmonth, hday⟩ := t.date_valid
  have hlength := monthLength_le t.year t.month
  have htime := t.time_valid
  simp only [List.mem_cons, List.not_mem_nil, or_false] at h
  omega

end

end Timestamp

end AccessLog
