import AccessLog.Proofs.Text
import AccessLog.Timestamp.Reading
import Mathlib.Tactic.IntervalCases

/-!
# The format of the logs and its written form

The logs write an instant without any padding, and read one back with the
padding optional. The two are inverse where they meet: an instant with a year
of four digits and without microseconds is read back from its written form
(`Timestamp.read_logForm`).

Reading tries the forms of each part in order of preference and backtracks, so
the argument is about what comes first. A number written without padding and
not followed by a digit is taken whole by the first form that fits it
(`Format.head?_starts_digits`), and the first way of starting every item is
then the way in which the whole text is laid out (`Format.layOut_cons`), with
no need to look at the others.

The format itself is never at fault: a text that it does not read is a
mismatch, is too long or names no instant (`Timestamp.repetition?_logFormat`).
-/

namespace AccessLog

/-! ## Laying out the first way -/

namespace Format

/-- **The first way of starting an item is the way in which a text is laid
out**, as soon as the rest can be laid out behind it. -/
theorem layOut_cons {i : Item} {items : List Item} {cs : List Char}
    {s r : Found × List Char} (hs : (i.starts cs).head? = some s)
    (hr : layOut items s.2 = some r) :
    layOut (i :: items) cs = some (s.1 ++ r.1, r.2) := by
  obtain ⟨ss, hss⟩ := List.head?_eq_some_iff.mp hs
  rw [layOut, hss, List.findSome?_cons, hr]
  rfl

theorem layOut_literal (c : Char) (items : List Item) (cs : List Char) :
    layOut (.literal c :: items) (c :: cs) = layOut items cs := by
  have hstarts : (Item.literal c).starts (c :: cs) = [([], cs)] := by
    simp [Item.starts, Text.sameLetter]
  rw [layOut, hstarts, List.findSome?_cons, List.findSome?_nil]
  cases layOut items cs <;> rfl

/-- The first way to start a gap takes all blanks that come next. -/
theorem layOut_gap {blanks : List Char} (hne : blanks ≠ [])
    (hblank : Text.allBlank blanks = true) {items : List Item} {cs : List Char}
    (hnext : ∀ c ∈ cs.head?, Text.isBlank c = false) {r : Found × List Char}
    (hr : layOut items cs = some r) : layOut (.gap :: items) (blanks ++ cs) = some r := by
  have hall := List.all_eq_true.mp hblank
  have hrest : cs.takeWhile Text.isBlank = [] := by
    cases cs with
    | nil => rfl
    | cons c cs => exact List.takeWhile_cons_of_neg (by simp [hnext c rfl])
  have htake : (blanks ++ cs).takeWhile Text.isBlank = blanks := by
    rw [List.takeWhile_append_of_pos hall, hrest, List.append_nil]
  refine layOut_cons (s := ([], cs)) ?_ hr
  rw [Item.starts, htake, List.head?_map, List.head?_range,
    if_neg (List.length_pos_iff.mpr hne).ne']
  simp

/-! ## Numbers without padding

What stands behind a number does not matter to it, as long as no digit comes
next: a form that is longer than the number fails at the end of the text as it
fails at a character that is no digit. -/

/-- Nothing but decimal digits fits the slot. -/
def OnlyDigits : Slot → Bool
  | .digit => true
  | .between first last => '0' ≤ first && last ≤ '9'
  | .letter _ => false

theorem admits_eq_false {s : Slot} (hs : OnlyDigits s = true) {c : Char}
    (hc : Text.digit? c = none) : s.admits c = false := by
  cases s with
  | digit => rw [Slot.admits, hc]; rfl
  | letter l => exact absurd hs Bool.false_ne_true
  | between first last =>
    rw [OnlyDigits, Bool.and_eq_true, decide_eq_true_eq, decide_eq_true_eq] at hs
    rw [Slot.admits, Bool.eq_false_iff]
    intro h
    rw [Bool.and_eq_true, decide_eq_true_eq, decide_eq_true_eq] at h
    -- what lies between two digits is a digit
    have hdigit : c.isDigit = true :=
      Char.isDigit_iff_toNat.mpr ⟨Char.le_trans hs.1 h.1, Char.le_trans h.2 hs.2⟩
    rw [Text.digit?_of_isDigit hdigit] at hc
    exact absurd hc (Option.some_ne_none _)

/-- No decimal digit, of whatever script, comes next. -/
def NoDigitNext (rest : List Char) : Prop := ∀ c ∈ rest.head?, Text.digit? c = none

/-- Slots for digits only do not look at what comes behind the digits. -/
theorem fit_append_of_onlyDigits {slots : List Slot}
    (hs : ∀ s ∈ slots, OnlyDigits s = true) (cs : List Char) {rest : List Char}
    (hrest : NoDigitNext rest) :
    fit slots (cs ++ rest) = (fit slots cs).map (fun r => (r.1, r.2 ++ rest)) := by
  induction slots generalizing cs with
  | nil => rfl
  | cons s slots ih =>
    have hslots := ih (fun t ht => hs t (List.mem_cons_of_mem s ht))
    cases cs with
    | nil =>
      cases rest with
      | nil => rfl
      | cons c rest =>
        have hc := admits_eq_false (hs s List.mem_cons_self) (hrest c rfl)
        simp [fit, hc]
    | cons c cs =>
      rw [List.cons_append, fit, fit, hslots]
      cases s.admits c <;> cases fit slots cs <;> rfl

/-- The first slot of a form may be for something else, if it has a character
to look at. -/
theorem fit_append {slots : List Slot} (hs : ∀ s ∈ slots.tail, OnlyDigits s = true)
    (c : Char) (cs : List Char) {rest : List Char} (hrest : NoDigitNext rest) :
    fit slots (c :: cs ++ rest)
      = (fit slots (c :: cs)).map (fun r => (r.1, r.2 ++ rest)) := by
  cases slots with
  | nil => rfl
  | cons s slots =>
    have htail : ∀ t ∈ slots, OnlyDigits t = true := hs
    have hslots := fit_append_of_onlyDigits htail cs hrest
    rw [List.cons_append, fit, fit, hslots]
    cases s.admits c <;> cases fit slots cs <;> rfl

/-- The forms of a part are for digits, their first slots aside. -/
def Numeric (d : Directive) : Prop := ∀ f ∈ d.forms, ∀ s ∈ f.tail, OnlyDigits s = true

instance (d : Directive) : Decidable (Numeric d) :=
  inferInstanceAs (Decidable (∀ f ∈ d.forms, ∀ s ∈ f.tail, OnlyDigits s = true))

/-- **A number is read without regard to what comes behind it.** -/
theorem starts_append {d : Directive} (hd : Numeric d) (c : Char) (cs : List Char)
    {rest : List Char} (hrest : NoDigitNext rest) :
    (Item.part d).starts (c :: cs ++ rest)
      = ((Item.part d).starts (c :: cs)).map (fun s => (s.1, s.2 ++ rest)) := by
  unfold Item.starts
  rw [List.map_filterMap]
  refine List.filterMap_congr (fun f hf => ?_)
  rw [fit_append (hd f hf) c cs hrest]
  cases fit f (c :: cs) <;> rfl

/-- As many digits of any script as there are digits in a text fit it. -/
theorem fit_digits {ds : List Char} (h : ∀ c ∈ ds, c.isDigit = true) :
    fit (List.replicate ds.length .digit) ds = some (ds, []) := by
  induction ds with
  | nil => rfl
  | cons c ds ih =>
    have hc : Slot.admits .digit c = true := by
      rw [Slot.admits, Text.digit?_of_isDigit (h c List.mem_cons_self)]
      rfl
    have hds := ih (fun d hd => h d (List.mem_cons_of_mem c hd))
    rw [List.length_cons, List.replicate_succ, fit, if_pos hc, hds]
    rfl

theorem length_toDigits_year {n : Nat} (h : 1000 ≤ n ∧ n ≤ 9999) :
    (Nat.toDigits 10 n).length = 4 := by
  have h4 := Nat.length_toDigits_le_iff (b := 10) (n := n) (k := 4) (by decide) (by decide)
  have h3 := Nat.length_toDigits_le_iff (b := 10) (n := n) (k := 3) (by decide) (by decide)
  omega

/-- The numbers that a part of an instant can be and that are read back from
their digits. A year has to have four of them. -/
def Readable : Directive → Nat → Prop
  | .day, n => 1 ≤ n ∧ n ≤ 31
  | .month, n => 1 ≤ n ∧ n ≤ 12
  | .year, n => 1000 ≤ n ∧ n ≤ 9999
  | .hour, n => n ≤ 23
  | .minute, n | .second, n => n ≤ 59
  | _, _ => False

theorem Readable.numeric {d : Directive} {n : Nat} (h : Readable d n) : Numeric d := by
  cases d <;> first | decide | exact h.elim

/-- The first form of a part that fits the digits of a number takes all of
them. -/
theorem head?_starts_digits {d : Directive} {n : Nat} (h : Readable d n) :
    ((Item.part d).starts (Nat.toDigits 10 n)).head?
      = some ([(d, Nat.toDigits 10 n)], []) := by
  cases d with
  -- a year has a single form, of four digits of any script
  | year =>
    have hdigits : ∀ c ∈ Nat.toDigits 10 n, c.isDigit = true :=
      fun _ hc => Text.isDigit_of_mem_digits hc
    have hfit := fit_digits hdigits
    rw [length_toDigits_year h] at hfit
    have hforms : Directive.forms .year = [List.replicate 4 .digit] := rfl
    rw [Item.starts, hforms, List.filterMap_cons, hfit]
    rfl
  -- every other part is one of a few numbers, and its forms are tried on each
  | day =>
    obtain ⟨h1, h31⟩ := h
    interval_cases n <;> rfl
  | month =>
    obtain ⟨h1, h12⟩ := h
    interval_cases n <;> rfl
  | hour | minute | second =>
    have hn : n ≤ 59 := by simp only [Readable] at h; omega
    simp only [Readable] at h
    interval_cases n <;> rfl
  | _ => exact h.elim

/-- **A word is taken whole** where the first form of its part that fits takes all
of it, if no further digit comes next. -/
theorem layOut_word {d : Directive} (hd : Numeric d) {word : List Char} (hne : word ≠ [])
    (hhead : ((Item.part d).starts word).head? = some ([(d, word)], []))
    {items : List Item} {rest : List Char} (hrest : NoDigitNext rest) {r : Found × List Char}
    (hr : layOut items rest = some r) :
    layOut (.part d :: items) (word ++ rest) = some ((d, word) :: r.1, r.2) := by
  obtain ⟨c, cs, rfl⟩ := List.exists_cons_of_ne_nil hne
  refine layOut_cons (s := ([(d, c :: cs)], rest)) ?_ hr
  rw [starts_append hd c cs hrest, List.head?_map, hhead]
  rfl

/-- **A number without padding is taken whole**, if no further digit comes
next. -/
theorem layOut_number {d : Directive} {n : Nat} (h : Readable d n) {items : List Item}
    {rest : List Char} (hrest : NoDigitNext rest) {r : Found × List Char}
    (hr : layOut items rest = some r) :
    layOut (.part d :: items) (Nat.toDigits 10 n ++ rest)
      = some ((d, Nat.toDigits 10 n) :: r.1, r.2) :=
  layOut_word h.numeric Nat.toDigits_ne_nil (head?_starts_digits h) hrest hr

end Format

/-! ## The written form -/

namespace Timestamp

/-- The items of the format of the logs. -/
def logItems : List Format.Item :=
  [.part .day, .literal '.', .part .month, .literal '.', .part .year, .gap,
    .part .hour, .literal ':', .part .minute, .literal ':', .part .second]

theorem format_logFormat : Format.read logFormat = .ok logItems := rfl

/-- The digits of a number, as the logs write it. -/
abbrev digits (n : Nat) : List Char := Nat.toDigits 10 n

/-- What is found for the parts of the written form. -/
def foundIn (t : Timestamp) : Format.Found :=
  [(.day, digits t.day), (.month, digits t.month), (.year, digits t.year),
    (.hour, digits t.hour), (.minute, digits t.minute), (.second, digits t.second)]

/-- The written form, character by character. -/
theorem toList_logForm (t : Timestamp) :
    t.logForm.toList = digits t.day ++ '.' :: (digits t.month ++ '.' :: (digits t.year ++
      ' ' :: (digits t.hour ++ ':' :: (digits t.minute ++ ':' :: (digits t.second ++ []))))) := by
  simp [logForm, digits]
  rfl

/-- The written form holds digits, full stops, colons and a space. -/
theorem mem_logForm {t : Timestamp} {c : Char} (h : c ∈ t.logForm.toList) :
    c.isDigit = true ∨ c = '.' ∨ c = ' ' ∨ c = ':' := by
  have hd := fun n => Text.isDigit_of_mem_digits (n := n) (c := c)
  rw [toList_logForm] at h
  simp only [List.mem_append, List.mem_cons, List.not_mem_nil, or_false] at h
  grind

theorem noDigitNext_cons {c : Char} (h : Text.digit? c = none) (cs : List Char) :
    Format.NoDigitNext (c :: cs) := by
  intro d hd
  rw [List.head?_cons, Option.mem_def, Option.some.injEq] at hd
  exact hd ▸ h

theorem monthLength_le (y m : Nat) : monthLength y m ≤ 31 := by
  unfold monthLength
  split <;> split <;> omega

/-- No blank comes next where a number does. -/
theorem isBlank_head?_digits (n : Nat) (rest : List Char) :
    ∀ c ∈ (digits n ++ rest).head?, Text.isBlank c = false := by
  intro c hc
  rw [List.head?_append_of_ne_nil _ Nat.toDigits_ne_nil] at hc
  exact Text.isBlank_of_isDigit (Text.isDigit_of_mem_digits (List.mem_of_mem_head? hc))

/-- **The written form is laid out along its parts.** -/
theorem layOut_logForm {t : Timestamp} (hy : 1000 ≤ t.year) :
    Format.layOut logItems t.logForm.toList = some (foundIn t, []) := by
  obtain ⟨⟨⟨-, hyear⟩, hmonth, hday⟩, hhour, hminute, hsecond, -⟩ :=
    And.intro t.date_valid t.time_valid
  have hday31 : t.day ≤ 31 := hday.2.trans (monthLength_le t.year t.month)
  have hend : Format.NoDigitNext [] := fun c hc => absurd hc (Option.not_mem_none c)
  have hdot := noDigitNext_cons (c := '.') (by decide)
  have hspace := noDigitNext_cons (c := ' ') (by decide)
  have hcolon := noDigitNext_cons (c := ':') (by decide)
  -- from the last part to the first, each in front of what is laid out already
  have h₆ := Format.layOut_number (d := .second) hsecond hend
    (show Format.layOut [] [] = some ([], []) from rfl)
  have h₅ := Format.layOut_number (d := .minute) hminute (hcolon _)
    ((Format.layOut_literal ':' _ _).trans h₆)
  have h₄ := Format.layOut_number (d := .hour) hhour (hcolon _)
    ((Format.layOut_literal ':' _ _).trans h₅)
  have hgap := Format.layOut_gap (List.cons_ne_nil ' ' []) (by decide)
    (isBlank_head?_digits _ _) h₄
  have h₃ := Format.layOut_number (d := .year) ⟨hy, hyear⟩ (hspace _) hgap
  have h₂ := Format.layOut_number (d := .month) hmonth (hdot _)
    ((Format.layOut_literal '.' _ _).trans h₃)
  have h₁ := Format.layOut_number (d := .day) ⟨hday.1, hday31⟩ (hdot _)
    ((Format.layOut_literal '.' _ _).trans h₂)
  rw [toList_logForm]
  exact h₁

theorem strip_logForm (t : Timestamp) : Text.strip t.logForm.toList = t.logForm.toList := by
  refine Text.strip_eq_self ?_ ?_
  · rw [toList_logForm]
    exact isBlank_head?_digits _ _
  · intro c hc
    have hlast : t.logForm.toList.getLast? = (digits t.second).getLast? := by
      rw [toList_logForm, List.append_nil]
      simp only [List.getLast?_append, List.getLast?_cons]
      cases hd : (digits t.second).getLast? with
      | none => exact absurd (List.getLast?_eq_none_iff.mp hd) Nat.toDigits_ne_nil
      | some d => simp
    rw [hlast] at hc
    exact Text.isBlank_of_isDigit (Text.isDigit_of_mem_digits (List.mem_of_getLast? hc))

/-- The parts of an instant form the instant. -/
theorem ofParts_parts (t : Timestamp) :
    ofParts t.year t.month t.day t.hour t.minute t.second t.micro = .ok t := by
  obtain ⟨hyear, hmonth, hday⟩ := t.date_valid
  obtain ⟨hhour, hminute, hsecond, hmicro⟩ := t.time_valid
  simp [ofParts, hyear, hmonth, hday, hhour, hminute, hsecond, hmicro]

/-- What is found in the written form gives the parts back, with no
microseconds. -/
theorem foldlM_enter_foundIn (t : Timestamp) (afternoon : Bool) :
    (foundIn t).foldlM (Parts.enter afternoon) {}
      = .ok { year := some t.year, month := t.month, day := t.day,
              hour := t.hour, minute := t.minute, second := t.second } := by
  simp [foundIn, Parts.enter, pure, Except.pure, bind, Except.bind]

/-- Numbers for the date and the time of day, and no others, give what a clock shows. -/
theorem Parts.toMoment_clock (year month day hour minute second micro : Nat) :
    toMoment { year := some year, month := month, day := day, hour := hour, minute := minute,
               second := second, micro := micro }
      = ((ofParts year month day hour minute second micro).mapError .range).map (⟨·, none⟩) := by
  show ((ofParts year month day hour minute second micro).mapError _).bind _ = _
  cases ofParts year month day hour minute second micro <;> rfl

/-- An instant is read where a moment is. -/
theorem read_eq_ok_iff_exists {format text : String} {t : Timestamp} :
    read format text = .ok t ↔ ∃ m, readMoment format text = .ok m ∧ m.clock = t := by
  rw [read]
  cases readMoment format text <;> simp [Except.map]

theorem read_eq_error_iff {format text : String} {u : Unreadable} :
    read format text = .error u ↔ readMoment format text = .error u := by
  rw [read]
  cases readMoment format text <;> simp [Except.map]

/-- **The written form is read back.** An instant with a year of four digits
and without microseconds is what its written form names. A year of fewer
digits is written without zeros and is not read back. -/
theorem readMoment_logForm {t : Timestamp} (hy : 1000 ≤ t.year) (hm : t.micro = 0) :
    readMoment logFormat t.logForm = .ok ⟨t, none⟩ := by
  have hofText : ofText logFormat logItems t.logForm.toList = .ok ⟨t, none⟩ := by
    rw [ofText, layOut_logForm hy]
    simp only [foldlM_enter_foundIn, Parts.toMoment_clock]
    rw [← hm, ofParts_parts]
    rfl
  rw [readMoment, format_logFormat]
  simp only [strip_logForm, hofText]
  rfl

theorem read_logForm {t : Timestamp} (hy : 1000 ≤ t.year) (hm : t.micro = 0) :
    read logFormat t.logForm = .ok t :=
  read_eq_ok_iff_exists.mpr ⟨_, readMoment_logForm hy hm, rfl⟩

/-! ## Unreadable texts

Reading a text can fail in many ways. None of them is a fault of the format,
once the format has been taken apart. -/

/-- What every step of a fold keeps of its errors, the fold keeps. -/
theorem foldlM_error {α β ε : Type} {P : ε → Prop} {step : β → α → Except ε β}
    (hstep : ∀ b a e, step b a = .error e → P e) (l : List α) (b : β) {e : ε}
    (h : l.foldlM step b = .error e) : P e := by
  induction l generalizing b with
  | nil => cases h
  | cons a l ih =>
    rw [List.foldlM_cons] at h
    cases hb : step b a with
    | error e' =>
      rw [hb] at h
      cases h
      exact hstep b a e hb
    | ok b' =>
      rw [hb] at h
      exact ih b' h

/-- A fault that lies in the text. -/
def Fault.InText : Fault → Prop
  | .badFormat _ _ => False
  | _ => True

theorem position_inText {names : List String} {word : List Char} {f : Fault}
    (h : position names word = .error f) : f.InText := by
  rw [position] at h
  split at h <;> cases h
  trivial

theorem offsetMicros_inText {word : List Char} {f : Fault} (h : offsetMicros word = .error f) :
    f.InText := by
  unfold offsetMicros at h
  split at h
  · dsimp only at h
    split_ifs at h <;> cases h <;> trivial
  · cases h

theorem enter_inText {afternoon : Bool} {p : Parts} {found : Directive × List Char}
    {f : Fault} (h : p.enter afternoon found = .error f) : f.InText := by
  have hname : ∀ {α : Type} {g : Nat → α} {names : List String},
      (position names found.2).map g = .error f → f.InText := by
    intro α g names hg
    cases hp : position names found.2 with
    | ok n => rw [hp] at hg; cases hg
    | error f' => rw [hp] at hg; cases hg; exact position_inText hp
  obtain ⟨d, word⟩ := found
  cases d with
  -- a number is taken as it is; a name has to be found, and an offset to be written evenly
  | monthName | shortMonthName | weekdayName | shortWeekdayName => exact hname h
  | offset =>
    rw [Parts.enter] at h
    cases hmicros : offsetMicros word with
    | ok micros => rw [hmicros] at h; cases h
    | error f' =>
      rw [hmicros] at h
      cases h
      exact offsetMicros_inText hmicros
  | _ => cases h

/-- A range fault is a fault of the text. -/
theorem bind_range_inText {α β : Type} {x : Except RangeFault α} {g : α → Except Fault β}
    {f : Fault} (hg : ∀ a, g a = .error f → f.InText)
    (h : (x.mapError Fault.range).bind g = .error f) : f.InText := by
  cases x with
  | error e => cases h; trivial
  | ok a => exact hg a h

theorem date_inText {p : Parts} {f : Fault} (h : p.date = .error f) : f.InText := by
  rw [Parts.date] at h
  split at h
  · rename_i hf
    cases h
    unfold Parts.isoFault? at hf
    split_ifs at hf <;> cases hf <;> trivial
  · cases hday : p.numberedDay? with
    | error e => rw [hday] at h; cases h; trivial
    | ok n => rw [hday] at h; cases h

theorem offsetOn_inText {p : Parts} {date : Nat × Nat × Nat} {f : Fault}
    (h : p.offsetOn date = .error f) : f.InText := by
  rw [Parts.offsetOn] at h
  split at h
  · cases h
  · rename_i micros _
    refine bind_range_inText (fun _ hfar => ?_) h
    cases hoffset : Offset.ofMicros micros with
    | ok o => rw [hoffset] at hfar; cases hfar
    | error e => rw [hoffset] at hfar; cases hfar; trivial

/-- Numbers that form no moment are not the fault of the format. -/
theorem toMoment_inText {p : Parts} {f : Fault} (h : p.toMoment = .error f) : f.InText := by
  rw [Parts.toMoment] at h
  cases hdate : p.date with
  | error f' =>
    rw [hdate] at h
    cases h
    exact date_inText hdate
  | ok date =>
    rw [hdate] at h
    change (p.offsetOn date).bind _ = _ at h
    cases hoffset : p.offsetOn date with
    | error f' =>
      rw [hoffset] at h
      cases h
      exact offsetOn_inText hoffset
    | ok offset =>
      rw [hoffset] at h
      exact bind_range_inText (fun _ hnone => by cases hnone) h

/-- **The format is not at fault** where a text is laid out along its items. -/
theorem ofText_inText {format : String} {items : List Format.Item} {cs : List Char}
    {f : Fault} (h : ofText format items cs = .error f) : f.InText := by
  rw [ofText] at h
  split at h
  · cases h; trivial
  · cases h; trivial
  · split at h
    · rename_i hfold
      cases h
      exact foldlM_error (fun _ _ _ he => enter_inText he) _ _ hfold
    · exact toMoment_inText h

/-- **The format of the logs asks for no part twice**, so whatever makes a text
unreadable, it is not that. -/
theorem repetition?_logFormat {text : String} {u : Unreadable}
    (h : read logFormat text = .error u) : u.repetition? = none := by
  rw [read_eq_error_iff, readMoment, format_logFormat] at h
  cases ht : ofText logFormat logItems (Text.strip text.toList) with
  | ok t => simp only [ht] at h; cases h
  | error f =>
    simp only [ht] at h
    cases h
    have hf := ofText_inText ht
    cases f with
    | badFormat format e => exact hf.elim
    | _ => rfl

end Timestamp

end AccessLog
