import AccessLog.Proofs.Timestamp.Padded
import Mathlib.Data.List.Forall2

/-!
# The texts that the format of the logs reads

Which texts name an instant can be said without saying how reading looks for one. The
day, the month and the year stand with full stops between them, then some blanks, then
the hour, the minute and the second with colons between them; the year has four digits
and every other number has one or two (`Timestamp.Numbers.SpelledBy`). And the numbers
are those of a second of the calendar (`Timestamp.Numbers.Valid`). Of the texts that hold
ASCII characters only, these are read, blanks at their ends aside, and no others are
(`Timestamp.read_logFormat_iff`).

That a text which is read has this form does not depend on the order in which the forms
of a part are tried: however they are chosen, the items of the format cover the text
(`Format.covers_of_layOut`). That a text of this form is read does depend on it. The forms
of a part are in such an order that the first one that fits takes all digits of a number
that the part can be (`Timestamp.Brief.takenWhole`).
-/

namespace AccessLog

namespace Text

/-- The text holds ASCII characters only. -/
def Ascii (cs : List Char) : Prop := ∀ c ∈ cs, c.toNat < 128

-- Deciding goes through the characters of the text, not through all characters.
instance (cs : List Char) : Decidable (Ascii cs) :=
  decidable_of_iff (cs.all (·.toNat < 128)) (by simp [Ascii])

/-- What holds of the first 128 characters holds of every ASCII character. -/
theorem of_ascii {P : Char → Prop} (h : ∀ n < 128, P (Char.ofNat n)) {c : Char}
    (hc : c.toNat < 128) : P c := by
  have hn := h c.toNat hc
  rwa [Char.ofNat_toNat] at hn

/-- The decimal digits in ASCII are the ASCII digits. -/
theorem isDigit_of_digit? {c : Char} (hc : c.toNat < 128) (h : (digit? c).isSome) :
    c.isDigit = true := by
  have hzeros : ∀ z ∈ digitZeros, z = 0x30 ∨ 128 ≤ z := by decide
  rw [digit?, Option.isSome_map, List.find?_isSome] at h
  obtain ⟨z, hz, hrange⟩ := h
  rw [Bool.and_eq_true, decide_eq_true_eq, decide_eq_true_eq] at hrange
  have hz := hzeros z hz
  have h0 : '0'.toNat = 0x30 := rfl
  have h9 : '9'.toNat = 0x39 := rfl
  exact Char.isDigit_iff_toNat.mpr (by omega)

/-- Of the ASCII characters the capital letters have another form. -/
theorem caseKey_of_ascii {c : Char} (hc : c.toNat < 128) : caseKey c = c.toLower.toNat :=
  of_ascii (P := fun c => caseKey c = c.toLower.toNat) (by decide +kernel) hc

/-- **An ASCII character that is no letter has no other form in ASCII.** -/
theorem eq_of_sameLetter {l c : Char} (hl : l.toNat < 128) (hletter : l.isAlpha = false)
    (hc : c.toNat < 128) (h : sameLetter l c = true) : c = l := by
  have halpha : ∀ {d : Char}, d.toNat < 128 → d.toLower.isAlpha = d.isAlpha :=
    of_ascii (P := fun d => d.toLower.isAlpha = d.isAlpha) (by decide +kernel)
  have hlower : ∀ {d : Char}, d.toNat < 128 → d.isAlpha = false → d.toLower = d :=
    of_ascii (P := fun d => d.isAlpha = false → d.toLower = d) (by decide +kernel)
  rw [sameLetter, beq_iff_eq, caseKey_of_ascii hl, caseKey_of_ascii hc, Char.toNat_inj] at h
  have hother : c.isAlpha = false := by rw [← halpha hc, ← h, halpha hl, hletter]
  rw [← hlower hc hother, ← h, hlower hl hletter]

/-- A blank is no digit. -/
theorem digit?_of_isBlank {c : Char} (h : isBlank c = true) : digit? c = none := by
  have hapart : ∀ r ∈ blanks.ranges, ∀ z ∈ digitZeros, r.2 < z ∨ z + 9 < r.1 := by decide
  obtain ⟨r, hr, hrange⟩ := List.any_eq_true.mp h
  rw [Bool.and_eq_true, decide_eq_true_eq, decide_eq_true_eq] at hrange
  rw [digit?, Option.map_eq_none_iff, List.find?_eq_none]
  intro z hz hdigit
  rw [Bool.and_eq_true, decide_eq_true_eq, decide_eq_true_eq] at hdigit
  have hz := hapart r hr z hz
  omega

theorem strip_sublist (cs : List Char) : (strip cs).Sublist cs :=
  (dropTrailing_sublist _ _).trans (List.dropWhile_sublist _)

/-- A stripped text does not begin with a blank. -/
theorem isBlank_head?_strip (cs : List Char) : ∀ c ∈ (strip cs).head?, isBlank c = false := by
  intro c hc
  -- what is left begins as the text does behind its first blanks
  have hprefix : strip cs <+: cs.dropWhile isBlank := List.rdropWhile_prefix _ _
  have hhead := List.head?_dropWhile_not isBlank cs
  obtain ⟨rest, hrest⟩ := hprefix
  obtain ⟨tail, htail⟩ := List.head?_eq_some_iff.mp hc
  rw [← hrest, htail] at hhead
  simpa using hhead

end Text

/-! ## Texts covered by a format -/

namespace Format

/-- **The items of a format cover the start of a text**: what is found for the parts,
the text, and the rest of it. How the forms are chosen is left open. -/
inductive Covers : List Item → Found → List Char → List Char → Prop
  | nil (cs : List Char) : Covers [] [] cs cs
  | part {d : Directive} {form : List Slot} {word : List Char} {items : List Item}
      {found : Found} {cs rest : List Char} (hform : form ∈ d.forms)
      (hword : List.Forall₂ (fun s c => s.admits c = true) form word)
      (h : Covers items found cs rest) :
      Covers (.part d :: items) ((d, word) :: found) (word ++ cs) rest
  | literal {l c : Char} {items : List Item} {found : Found} {cs rest : List Char}
      (hc : Text.sameLetter l c = true) (h : Covers items found cs rest) :
      Covers (.literal l :: items) found (c :: cs) rest
  | gap {blanks : List Char} {items : List Item} {found : Found} {cs rest : List Char}
      (hne : blanks ≠ []) (hblank : Text.allBlank blanks = true)
      (h : Covers items found cs rest) :
      Covers (.gap :: items) found (blanks ++ cs) rest

theorem admits_of_fit {slots : List Slot} {cs : List Char} {r : List Char × List Char}
    (h : fit slots cs = some r) : List.Forall₂ (fun s c => s.admits c = true) slots r.1 := by
  induction slots generalizing cs r with
  | nil =>
    cases h
    exact List.Forall₂.nil
  | cons s slots ih =>
    cases cs with
    | nil => cases h
    | cons c cs =>
      rw [fit] at h
      split at h
      · rename_i hc
        obtain ⟨r', hr', rfl⟩ := Option.map_eq_some_iff.mp h
        exact List.Forall₂.cons hc (ih hr')
      · cases h

/-- A gap takes some of the blanks that come next, at least one. -/
theorem exists_blanks_of_mem_starts {cs : List Char} {s : Found × List Char}
    (h : s ∈ Item.gap.starts cs) :
    s.1 = [] ∧ ∃ blanks, blanks ≠ [] ∧ Text.allBlank blanks = true ∧ cs = blanks ++ s.2 := by
  obtain ⟨k, hk, rfl⟩ := List.mem_map.mp h
  have hk := List.mem_range.mp hk
  refine ⟨rfl, cs.take ((cs.takeWhile Text.isBlank).length - k), ?_, ?_,
    (List.take_append_drop _ cs).symm⟩
  · have hle := (List.takeWhile_prefix Text.isBlank (l := cs)).length_le
    rw [← List.length_pos_iff, List.length_take]
    omega
  · -- what is taken of the text is taken of the blanks that it begins with
    have htake := List.prefix_iff_eq_take.mp (List.takeWhile_prefix Text.isBlank (l := cs))
    have hmin : min ((cs.takeWhile Text.isBlank).length - k) (cs.takeWhile Text.isBlank).length
        = (cs.takeWhile Text.isBlank).length - k := by omega
    rw [← hmin, ← List.take_take, ← htake, Text.allBlank, List.all_eq_true]
    exact fun c hc => List.mem_takeWhile_imp (List.mem_of_mem_take hc)

/-- **A text that is laid out along a format is covered by it.** -/
theorem covers_of_layOut {items : List Item} {cs : List Char} {r : Found × List Char}
    (h : layOut items cs = some r) : Covers items r.1 cs r.2 := by
  induction items generalizing cs r with
  | nil =>
    cases h
    exact Covers.nil cs
  | cons i items ih =>
    obtain ⟨s, hs, r', hr', rfl⟩ := exists_start_of_layOut h
    have hcovers := ih hr'
    cases i with
    | part d =>
      obtain ⟨form, hform, w, hw, rfl⟩ := mem_starts_part.mp hs
      rw [(eq_append_of_fit hw).1]
      exact Covers.part hform (admits_of_fit hw) hcovers
    | literal l =>
      cases cs with
      | nil => cases hs
      | cons c cs =>
        rw [Item.starts] at hs
        split at hs
        · rename_i hc
          rw [List.mem_singleton.mp hs] at hcovers ⊢
          exact Covers.literal hc hcovers
        · cases hs
    | gap =>
      obtain ⟨hfound, blanks, hne, hblank, hcs⟩ := exists_blanks_of_mem_starts hs
      rw [hfound, hcs]
      exact Covers.gap hne hblank hcovers

end Format

/-! ## Numbers in a text -/

namespace Timestamp

open Format

/-- **A numeral of one or two digits.** -/
def Brief (cs : List Char) (n : Nat) : Prop := Spells cs 1 n ∨ Spells cs 2 n

/-- The numbers that stand in a text of the logs. -/
structure Numbers where
  /-- The day. -/
  day : Nat
  /-- The month. -/
  month : Nat
  /-- The year. -/
  year : Nat
  /-- The hour. -/
  hour : Nat
  /-- The minute. -/
  minute : Nat
  /-- The second. -/
  second : Nat
deriving DecidableEq, Repr

/-- The numbers of an instant. -/
def numbers (t : Timestamp) : Numbers := ⟨t.day, t.month, t.year, t.hour, t.minute, t.second⟩

namespace Numbers

/-- **The numbers are those of a second of the calendar.** -/
structure Valid (n : Numbers) : Prop where
  year : 1 ≤ n.year
  month : 1 ≤ n.month ∧ n.month ≤ 12
  day : 1 ≤ n.day ∧ n.day ≤ monthLength n.year n.month
  hour : n.hour ≤ 23
  minute : n.minute ≤ 59
  second : n.second ≤ 59

/-- **The numbers stand in a text** in the form of the logs, padded or not. -/
inductive SpelledBy (n : Numbers) : List Char → Prop
  | intro {day month year blanks hour minute second : List Char}
      (hday : Brief day n.day) (hmonth : Brief month n.month) (hyear : Spells year 4 n.year)
      (hne : blanks ≠ []) (hblank : Text.allBlank blanks = true)
      (hhour : Brief hour n.hour) (hminute : Brief minute n.minute)
      (hsecond : Brief second n.second) :
      n.SpelledBy (day ++ '.' :: (month ++ '.' :: (year ++ (blanks ++
        (hour ++ ':' :: (minute ++ ':' :: second))))))

theorem SpelledBy.year_le {n : Numbers} {cs : List Char} (h : n.SpelledBy cs) :
    n.year ≤ 9999 := by
  cases h with
  | intro _ _ hyear =>
    have hlt := Text.ofDigitChars_lt hyear.isDigit
    rw [← Text.decimal_eq_ofDigitChars hyear.isDigit, hyear.decimal, hyear.length] at hlt
    omega

end Numbers

/-- What is found for the parts of the format of the logs. -/
def foundWords (day month year hour minute second : List Char) : Found :=
  [(.day, day), (.month, month), (.year, year), (.hour, hour), (.minute, minute),
    (.second, second)]

/-- The numbers that some words spell. -/
def Numbers.ofWords (day month year hour minute second : List Char) : Numbers :=
  ⟨Text.decimal day, Text.decimal month, Text.decimal year, Text.decimal hour,
    Text.decimal minute, Text.decimal second⟩

/-! ## What is read has the form -/

/-- What slots for digits admit of ASCII is a numeral of as many digits. -/
theorem spells_of_admits {form : List Slot} (hform : ∀ s ∈ form, OnlyDigits s = true)
    {word : List Char} (hascii : Text.Ascii word)
    (h : List.Forall₂ (fun s c => s.admits c = true) form word) :
    Spells word form.length (Text.decimal word) := by
  refine ⟨?_, (List.Forall₂.length_eq h).symm, rfl⟩
  induction h with
  | nil => exact fun c hc => absurd hc List.not_mem_nil
  | @cons s c form word hc _ ih =>
    obtain ⟨hs, hform⟩ := List.forall_mem_cons.mp hform
    obtain ⟨hc', hascii⟩ := List.forall_mem_cons.mp hascii
    have hdigit : c.isDigit = true := by
      refine Text.isDigit_of_digit? hc' (Option.isSome_iff_ne_none.mpr fun hnone => ?_)
      rw [admits_eq_false hs hnone] at hc
      cases hc
    exact List.forall_mem_cons.mpr ⟨hdigit, ih hform hascii⟩

/-- A form of one or two digits. -/
def BriefForm (form : List Slot) : Prop :=
  (form.length = 1 ∨ form.length = 2) ∧ ∀ s ∈ form, OnlyDigits s = true

instance (form : List Slot) : Decidable (BriefForm form) :=
  inferInstanceAs
    (Decidable ((form.length = 1 ∨ form.length = 2) ∧ ∀ s ∈ form, OnlyDigits s = true))

theorem BriefForm.brief {form : List Slot} (h : BriefForm form) {word : List Char}
    (hascii : Text.Ascii word)
    (hword : List.Forall₂ (fun s c => s.admits c = true) form word) :
    Brief word (Text.decimal word) := by
  have hspells := spells_of_admits h.2 hascii hword
  rcases h.1 with hone | htwo
  · exact Or.inl (hone ▸ hspells)
  · exact Or.inr (htwo ▸ hspells)

/-- The forms of these parts are of one or two digits. -/
theorem briefForm_of_mem : ∀ d ∈ [Directive.month, .hour, .minute, .second],
    ∀ form ∈ d.forms, BriefForm form := by
  decide

/-- The forms of a day are of one or two digits, or of a space and a digit. -/
theorem briefForm_of_mem_day : ∀ form ∈ Directive.forms .day,
    BriefForm form ∨ form = [Slot.just ' ', .between '1' '9'] := by
  decide

/-- A word for the day that begins with no blank is of one or two digits. -/
theorem brief_day {form : List Slot} (hform : form ∈ Directive.forms .day) {word : List Char}
    (hascii : Text.Ascii word)
    (hword : List.Forall₂ (fun s c => s.admits c = true) form word)
    (hfirst : ∀ c ∈ word.head?, Text.isBlank c = false) : Brief word (Text.decimal word) := by
  rcases briefForm_of_mem_day form hform with hbrief | rfl
  · exact hbrief.brief hascii hword
  · obtain ⟨c, word, hc, -, rfl⟩ := List.forall₂_cons_left_iff.mp hword
    have hspace : c = ' ' := by
      rw [Slot.just, Slot.admits, Bool.and_eq_true, decide_eq_true_eq, decide_eq_true_eq] at hc
      exact Char.le_antisymm hc.2 hc.1
    have hblank := hfirst c rfl
    rw [hspace] at hblank
    exact absurd hblank (by decide)

/-- **A text that is covered by the format of the logs has its form.** -/
theorem spelledBy_of_covers {cs : List Char} {found : Found} (hascii : Text.Ascii cs)
    (hfirst : ∀ c ∈ cs.head?, Text.isBlank c = false) (h : Covers logItems found cs []) :
    ∃ day month year hour minute second : List Char,
      found = foundWords day month year hour minute second ∧
        (Numbers.ofWords day month year hour minute second).SpelledBy cs := by
  unfold logItems at h
  obtain _ | ⟨hdayForm, hday, h⟩ := h
  obtain _ | _ | ⟨hdot, h⟩ := h
  obtain _ | ⟨hmonthForm, hmonth, h⟩ := h
  obtain _ | _ | ⟨hdot', h⟩ := h
  obtain _ | ⟨hyearForm, hyear, h⟩ := h
  obtain _ | _ | _ | ⟨hne, hblank, h⟩ := h
  obtain _ | ⟨hhourForm, hhour, h⟩ := h
  obtain _ | _ | ⟨hcolon, h⟩ := h
  obtain _ | ⟨hminuteForm, hminute, h⟩ := h
  obtain _ | _ | ⟨hcolon', h⟩ := h
  obtain _ | ⟨hsecondForm, hsecond, h⟩ := h
  cases h
  simp only [Text.Ascii, List.forall_mem_append, List.forall_mem_cons] at hascii
  obtain ⟨aday, adot, amonth, adot', ayear, -, ahour, acolon, aminute, acolon', asecond, -⟩ :=
    hascii
  obtain rfl := Text.eq_of_sameLetter (by decide) (by decide) adot hdot
  obtain rfl := Text.eq_of_sameLetter (by decide) (by decide) adot' hdot'
  obtain rfl := Text.eq_of_sameLetter (by decide) (by decide) acolon hcolon
  obtain rfl := Text.eq_of_sameLetter (by decide) (by decide) acolon' hcolon'
  refine ⟨_, _, _, _, _, _, rfl, ?_⟩
  rw [List.append_nil]
  constructor
  case hday =>
    refine brief_day hdayForm aday hday fun c hc => hfirst c ?_
    rw [List.head?_append, Option.mem_def.mp hc]
    rfl
  case hmonth => exact (briefForm_of_mem _ (by decide) _ hmonthForm).brief amonth hmonth
  case hyear =>
    obtain rfl := List.mem_singleton.mp hyearForm
    exact spells_of_admits (by decide) ayear hyear
  case hne => exact hne
  case hblank => exact hblank
  case hhour => exact (briefForm_of_mem _ (by decide) _ hhourForm).brief ahour hhour
  case hminute => exact (briefForm_of_mem _ (by decide) _ hminuteForm).brief aminute hminute
  case hsecond => exact (briefForm_of_mem _ (by decide) _ hsecondForm).brief asecond hsecond

/-! ## What has the form is read -/

/-- The first form of a part that fits a word takes all of it. -/
def TakenWhole (d : Directive) (word : List Char) : Prop :=
  ((Item.part d).starts word).head? = some ([(d, word)], [])

instance (d : Directive) (word : List Char) : Decidable (TakenWhole d word) :=
  inferInstanceAs (Decidable (((Item.part d).starts word).head? = some ([(d, word)], [])))

namespace Brief

variable {word : List Char} {n : Nat}

theorem isDigit (h : Brief word n) : ∀ c ∈ word, c.isDigit = true :=
  h.elim Spells.isDigit Spells.isDigit

theorem decimal (h : Brief word n) : Text.decimal word = n :=
  h.elim Spells.decimal Spells.decimal

theorem ne_nil (h : Brief word n) : word ≠ [] := by
  rintro rfl
  rcases h with h | h <;> cases h.length

/-- No blank comes next where such a numeral does. -/
theorem isBlank_head? (h : Brief word n) (rest : List Char) :
    ∀ c ∈ (word ++ rest).head?, Text.isBlank c = false := by
  intro c hc
  rw [List.head?_append_of_ne_nil _ h.ne_nil] at hc
  exact Text.isBlank_of_isDigit (h.isDigit c (List.mem_of_mem_head? hc))

/-- What holds of all texts of one digit and of two holds of every such numeral. -/
theorem of_digits {P : List Char → Prop} (hone : ∀ i < 10, P [Char.ofNat (0x30 + i)])
    (htwo : ∀ i < 10, ∀ j < 10, P [Char.ofNat (0x30 + i), Char.ofNat (0x30 + j)])
    (h : Brief word n) : P word := by
  have hdigit := h.isDigit
  rcases h with h | h
  · obtain ⟨c, rfl⟩ := List.length_eq_one_iff.mp h.length
    exact Text.of_isDigit (P := fun c => P [c]) hone (hdigit c (by simp))
  · obtain ⟨c, d, rfl⟩ := List.length_eq_two.mp h.length
    refine Text.of_isDigit (P := fun c => P [c, d]) (fun i hi => ?_) (hdigit c (by simp))
    exact Text.of_isDigit (P := fun d => P [_, d]) (htwo i hi) (hdigit d (by simp))

/-- **The first form that fits a number takes all of its digits**, padded or not. -/
theorem takenWhole {d : Directive} (hd : d ≠ .year) (h : Brief word n) (hn : Readable d n) :
    TakenWhole d word := by
  rw [← h.decimal] at hn
  revert hn
  refine h.of_digits (P := fun w => Readable d (Text.decimal w) → TakenWhole d w) ?_ ?_
  all_goals
    cases d with
    | day | month | hour | minute | second =>
      simp only [Readable]
      decide +kernel
    | year => exact absurd rfl hd
    | _ => intros; contradiction

end Brief

/-- A year of four digits is taken whole. -/
theorem takenWhole_year {word : List Char} {n : Nat} (h : Spells word 4 n) :
    TakenWhole .year word := by
  have hfit := fit_digits h.isDigit
  rw [h.length] at hfit
  have hforms : Directive.forms .year = [List.replicate 4 .digit] := rfl
  rw [TakenWhole, Item.starts, hforms, List.filterMap_cons, hfit]
  rfl

/-- No digit comes next where a blank does. -/
theorem noDigitNext_blanks {blanks : List Char} (hne : blanks ≠ [])
    (hblank : Text.allBlank blanks = true) (rest : List Char) : NoDigitNext (blanks ++ rest) := by
  obtain ⟨b, bs, rfl⟩ := List.exists_cons_of_ne_nil hne
  exact noDigitNext_cons (Text.digit?_of_isBlank (List.all_eq_true.mp hblank b (by simp))) _

/-- **A text of the form is laid out along its words**, if its numbers are those of a
second of the calendar. -/
theorem layOut_of_spelledBy {cs : List Char} {n : Numbers} (h : n.SpelledBy cs)
    (hn : n.Valid) :
    ∃ day month year hour minute second : List Char,
      n = .ofWords day month year hour minute second ∧
        layOut logItems cs = some (foundWords day month year hour minute second, []) := by
  cases h with
  | intro hday hmonth hyear hne hblank hhour hminute hsecond =>
  rename_i day month year blanks hour minute second
  refine ⟨day, month, year, hour, minute, second, ?_, ?_⟩
  · rw [Numbers.ofWords, hday.decimal, hmonth.decimal, hyear.decimal, hhour.decimal,
      hminute.decimal, hsecond.decimal]
  · have hday31 : n.day ≤ 31 := hn.day.2.trans (monthLength_le n.year n.month)
    have hend : NoDigitNext [] := fun c hc => absurd hc (Option.not_mem_none c)
    have hdot := noDigitNext_cons (c := '.') (by decide)
    have hcolon := noDigitNext_cons (c := ':') (by decide)
    have hgap := noDigitNext_blanks hne hblank
      (hour ++ ':' :: (minute ++ ':' :: (second ++ [])))
    have hnext := hhour.isBlank_head? (':' :: (minute ++ ':' :: (second ++ [])))
    have h₆ := layOut_word (d := .second) (by decide) hsecond.ne_nil
      (hsecond.takenWhole (by decide) hn.second) hend
      (show layOut [] [] = some ([], []) from rfl)
    have h₅ := layOut_word (d := .minute) (by decide) hminute.ne_nil
      (hminute.takenWhole (by decide) hn.minute) (hcolon _)
      ((layOut_literal ':' _ _).trans h₆)
    have h₄ := layOut_word (d := .hour) (by decide) hhour.ne_nil
      (hhour.takenWhole (by decide) hn.hour) (hcolon _) ((layOut_literal ':' _ _).trans h₅)
    have h₃ := layOut_word (d := .year) (by decide) (fun hnil => by cases hnil ▸ hyear.length)
      (takenWhole_year hyear) hgap (layOut_gap hne hblank hnext h₄)
    have h₂ := layOut_word (d := .month) (by decide) hmonth.ne_nil
      (hmonth.takenWhole (by decide) hn.month) (hdot _) ((layOut_literal '.' _ _).trans h₃)
    have h₁ := layOut_word (d := .day) (by decide) hday.ne_nil
      (hday.takenWhole (by decide) ⟨hn.day.1, hday31⟩) (hdot _)
      ((layOut_literal '.' _ _).trans h₂)
    rw [List.append_nil] at h₁
    exact h₁

/-! ## Reading -/

/-- What is made of the words of a text. -/
theorem ofText_of_layOut {cs day month year hour minute second : List Char}
    (h : layOut logItems cs = some (foundWords day month year hour minute second, [])) :
    ofText logFormat logItems cs
      = ((ofParts (Text.decimal year) (Text.decimal month) (Text.decimal day)
          (Text.decimal hour) (Text.decimal minute) (Text.decimal second) 0).mapError .range).map
            (⟨·, none⟩) := by
  rw [ofText, h]
  exact Parts.toMoment_clock _ _ _ _ _ _ _

/-- **Parts form an instant** exactly if it has them. -/
theorem ofParts_eq_ok_iff {year month day hour minute second micro : Nat} {t : Timestamp} :
    ofParts year month day hour minute second micro = .ok t ↔
      t.year = year ∧ t.month = month ∧ t.day = day ∧ t.hour = hour ∧ t.minute = minute ∧
        t.second = second ∧ t.micro = micro := by
  constructor
  · intro h
    unfold ofParts at h
    split_ifs at h
    cases h
    exact ⟨rfl, rfl, rfl, rfl, rfl, rfl, rfl⟩
  · rintro ⟨rfl, rfl, rfl, rfl, rfl, rfl, rfl⟩
    exact ofParts_parts t

theorem read_eq_ok_iff {text : String} {t : Timestamp} :
    read logFormat text = .ok t ↔
      ∃ m, ofText logFormat logItems (Text.strip text.toList) = .ok m ∧ m.clock = t := by
  rw [read, readMoment, format_logFormat]
  cases h : ofText logFormat logItems (Text.strip text.toList) with
  | ok m => simp [h, Except.mapError, Except.map]
  | error f => simp [h, Except.mapError, Except.map]

theorem valid_numbers (t : Timestamp) : t.numbers.Valid :=
  ⟨t.date_valid.1.1, t.date_valid.2.1, t.date_valid.2.2, t.time_valid.1, t.time_valid.2.1,
    t.time_valid.2.2.1⟩

/-- **What a text of ASCII characters is read as**: the instant whose numbers stand in
it, with no microseconds. -/
theorem read_logFormat_eq_ok_iff {text : String} (hascii : Text.Ascii text.toList)
    {t : Timestamp} :
    read logFormat text = .ok t ↔
      t.numbers.SpelledBy (Text.strip text.toList) ∧ t.micro = 0 := by
  have hstrip : Text.Ascii (Text.strip text.toList) := fun c hc =>
    hascii c ((Text.strip_sublist _).mem hc)
  rw [read_eq_ok_iff]
  constructor
  · rintro ⟨m, h, rfl⟩
    cases hlay : layOut logItems (Text.strip text.toList) with
    | none => rw [ofText, hlay] at h; cases h
    | some r =>
      obtain ⟨found, rest⟩ := r
      cases rest with
      | cons c rest => rw [ofText, hlay] at h; cases h
      | nil =>
        obtain ⟨day, month, year, hour, minute, second, rfl, hspelled⟩ :=
          spelledBy_of_covers hstrip (Text.isBlank_head?_strip _) (covers_of_layOut hlay)
        rw [ofText_of_layOut hlay] at h
        cases hparts : ofParts (Text.decimal year) (Text.decimal month) (Text.decimal day)
            (Text.decimal hour) (Text.decimal minute) (Text.decimal second) 0 with
        | error f => rw [hparts] at h; cases h
        | ok s =>
          rw [hparts] at h
          cases h
          obtain ⟨hy, hmo, hd, hh, hmi, hs, hmicro⟩ := ofParts_eq_ok_iff.mp hparts
          refine ⟨?_, hmicro⟩
          rw [numbers, hy, hmo, hd, hh, hmi, hs]
          exact hspelled
  · rintro ⟨hspelled, hmicro⟩
    obtain ⟨day, month, year, hour, minute, second, hwords, hlay⟩ :=
      layOut_of_spelledBy hspelled (valid_numbers t)
    simp only [numbers, Numbers.ofWords, Numbers.mk.injEq] at hwords
    obtain ⟨hd, hmo, hy, hh, hmi, hs⟩ := hwords
    rw [ofText_of_layOut hlay, ofParts_eq_ok_iff.mpr ⟨hy, hmo, hd, hh, hmi, hs, hmicro⟩]
    exact ⟨_, rfl, rfl⟩

/-- **A text of ASCII characters names an instant** exactly if the numbers of one stand
in it. -/
theorem exists_read_logFormat_iff {text : String} (hascii : Text.Ascii text.toList) :
    (∃ t, read logFormat text = .ok t) ↔
      ∃ n : Numbers, n.SpelledBy (Text.strip text.toList) ∧ n.Valid := by
  constructor
  · rintro ⟨t, ht⟩
    exact ⟨t.numbers, ((read_logFormat_eq_ok_iff hascii).mp ht).1, valid_numbers t⟩
  · rintro ⟨n, hspelled, hn⟩
    let t : Timestamp := ⟨n.year, n.month, n.day, n.hour, n.minute, n.second, 0,
      ⟨⟨hn.year, hspelled.year_le⟩, hn.month, hn.day⟩,
      ⟨hn.hour, hn.minute, hn.second, Nat.zero_le _⟩⟩
    exact ⟨t, (read_logFormat_eq_ok_iff hascii).mpr ⟨hspelled, rfl⟩⟩

/-- A text that is not read is given back with the fault. -/
theorem text_of_read_error {format text : String} {u : Unreadable}
    (h : read format text = .error u) : u.text = text := by
  rw [read_eq_error_iff, readMoment] at h
  split at h
  · cases h
    rfl
  · rename_i items _
    cases ht : ofText format items (Text.strip text.toList) with
    | ok t => rw [ht] at h; cases h
    | error f => rw [ht] at h; cases h; rfl

/-- **The format of the logs reads exactly the texts of its form.** A text of ASCII
characters, blanks at its ends aside, is read as the instant whose numbers stand in it,
without microseconds. It is read if and only if it has the form and its numbers are
those of a second of the calendar, and every other text is a fault. -/
theorem read_logFormat_iff {text : String} (hascii : Text.Ascii text.toList) :
    (∀ t, read logFormat text = .ok t ↔
      t.numbers.SpelledBy (Text.strip text.toList) ∧ t.micro = 0) ∧
    ((∃ t, read logFormat text = .ok t) ↔
      ∃ n : Numbers, n.SpelledBy (Text.strip text.toList) ∧ n.Valid) ∧
    ((∃ f, read logFormat text = .error ⟨text, f⟩) ↔
      ¬ ∃ n : Numbers, n.SpelledBy (Text.strip text.toList) ∧ n.Valid) := by
  have hexists := exists_read_logFormat_iff hascii
  refine ⟨fun t => read_logFormat_eq_ok_iff hascii, hexists, ?_⟩
  rw [← hexists]
  cases hread : read logFormat text with
  | ok t =>
    refine iff_of_false ?_ (not_not_intro ⟨t, rfl⟩)
    rintro ⟨f, ⟨⟩⟩
  | error u =>
    obtain rfl := text_of_read_error hread
    refine iff_of_true ⟨u.fault, rfl⟩ ?_
    rintro ⟨t, ⟨⟩⟩

/-- A leap day among blanks, with some numbers padded, and a day that its year does not
have. -/
theorem read_logFormat_iff_leap_day :
    let text := "\t29.02.2024 \n 9:05:7\x0b"
    let other := "29.2.2023 9:5:7"
    Text.Ascii text.toList ∧ Text.Ascii other.toList ∧
      read logFormat text = .ok (.mk 2024 2 29 9 5 7 0) ∧
      ¬ ∃ n : Numbers, n.SpelledBy (Text.strip other.toList) ∧ n.Valid := by
  intro text other
  have htext : Text.Ascii text.toList := by decide
  have hother : Text.Ascii other.toList := by decide
  have hform : Text.strip text.toList
      = "29".toList ++ '.' :: ("02".toList ++ '.' :: ("2024".toList ++ (" \n ".toList ++
        ("9".toList ++ ':' :: ("05".toList ++ ':' :: "7".toList))))) := by decide
  refine ⟨htext, hother, ((read_logFormat_iff htext).1 _).mpr ⟨?_, rfl⟩,
    (read_logFormat_iff hother).2.2.mp ⟨.range .day, by decide⟩⟩
  have hspells : ∀ {cs : List Char}, cs.all Char.isDigit = true →
      Spells cs cs.length (Text.decimal cs) := fun h => ⟨List.all_eq_true.mp h, rfl, rfl⟩
  rw [hform]
  exact .intro (.inr (hspells rfl)) (.inr (hspells rfl)) (hspells rfl) (by decide) (by decide)
    (.inl (hspells rfl)) (.inr (hspells rfl)) (.inl (hspells rfl))

end Timestamp

end AccessLog
