import AccessLog.Proofs.Timestamp.LogFormat

/-!
# Short years are not read back

A year in a log has four digits, with zeros before it where it needs them, but
the written form of an instant has no zeros. So the written form of an instant
before the year 1000 is no text of the format, although the instant itself can be
read from one (`Timestamp.read_logForm_of_lt`). Nothing else stands between an
instant that was read and its written form: what is read by a format that asks
for no fraction of a second has no microseconds (`Timestamp.micro_of_read`).

Reading backtracks, so that a text is laid out in no way has to be seen for all
forms of the parts before the year. A form that takes less than the whole number
leaves a digit where a full stop is wanted.
-/

namespace AccessLog

namespace Format

/-! ## What is found -/

/-- What fits the slots and the rest make up the text. -/
theorem eq_append_of_fit {slots : List Slot} {cs : List Char} {r : List Char × List Char}
    (h : fit slots cs = some r) : cs = r.1 ++ r.2 ∧ r.1.length = slots.length := by
  induction slots generalizing cs r with
  | nil =>
    cases h
    exact ⟨rfl, rfl⟩
  | cons s slots ih =>
    cases cs with
    | nil => cases h
    | cons c cs =>
      rw [fit] at h
      split at h
      · obtain ⟨r', hr', rfl⟩ := Option.map_eq_some_iff.mp h
        obtain ⟨happend, hlength⟩ := ih hr'
        exact ⟨congrArg (c :: ·) happend, congrArg Nat.succ hlength⟩
      · cases h

theorem mem_starts_part {d : Directive} {cs : List Char} {s : Found × List Char} :
    s ∈ (Item.part d).starts cs
      ↔ ∃ f ∈ d.forms, ∃ r, fit f cs = some r ∧ ([(d, r.1)], r.2) = s := by
  simp only [Item.starts, List.mem_filterMap, Option.map_eq_some_iff]

/-- Only parts of the format are found. -/
theorem eq_part_of_mem_starts {i : Item} {cs : List Char} {s : Found × List Char}
    (h : s ∈ i.starts cs) {f : Directive × List Char} (hf : f ∈ s.1) : i = .part f.1 := by
  cases i with
  | part d =>
    obtain ⟨_, -, r, -, rfl⟩ := mem_starts_part.mp h
    rw [List.mem_singleton.mp hf]
  | literal l =>
    cases cs with
    | nil => cases h
    | cons c cs =>
      rw [Item.starts] at h
      split at h
      · rw [List.mem_singleton.mp h] at hf
        cases hf
      · cases h
  | gap =>
    obtain ⟨k, -, rfl⟩ := List.mem_map.mp h
    cases hf

/-- A text that is laid out begins in a way that the first item can, and the rest of it is laid
out behind. -/
theorem exists_start_of_layOut {i : Item} {items : List Item} {cs : List Char}
    {r : Found × List Char} (h : layOut (i :: items) cs = some r) :
    ∃ s ∈ i.starts cs, ∃ r', layOut items s.2 = some r' ∧ (s.1 ++ r'.1, r'.2) = r := by
  rw [layOut] at h
  obtain ⟨s, hs, hrest⟩ := List.exists_of_findSome?_eq_some h
  exact ⟨s, hs, Option.map_eq_some_iff.mp hrest⟩

theorem part_mem_of_layOut {items : List Item} {cs : List Char} {r : Found × List Char}
    (h : layOut items cs = some r) {f : Directive × List Char} (hf : f ∈ r.1) :
    .part f.1 ∈ items := by
  induction items generalizing cs r with
  | nil =>
    cases h
    cases hf
  | cons i items ih =>
    obtain ⟨s, hs, r', hr', rfl⟩ := exists_start_of_layOut h
    rcases List.mem_append.mp hf with hf | hf
    · exact eq_part_of_mem_starts hs hf ▸ List.mem_cons_self
    · exact List.mem_cons_of_mem i (ih hr' hf)

/-! ## Texts that are laid out in no way -/

theorem layOut_eq_none_iff {i : Item} {items : List Item} {cs : List Char} :
    layOut (i :: items) cs = none ↔ ∀ s ∈ i.starts cs, layOut items s.2 = none := by
  rw [layOut, List.findSome?_eq_none_iff]
  simp only [Option.map_eq_none_iff]

/-- **A number in front of what cannot be laid out** cannot be laid out either, if
no digit comes next in the text and none is wanted next by the format. -/
theorem layOut_number_eq_none {d : Directive} (hd : Numeric d) (n : Nat) {l : Char}
    (hl : ∀ c : Char, c.isDigit = true → Text.sameLetter l c = false) {items : List Item}
    {rest : List Char} (hrest : NoDigitNext rest)
    (h : layOut (.literal l :: items) rest = none) :
    layOut (.part d :: .literal l :: items) (Nat.toDigits 10 n ++ rest) = none := by
  have hdigits : ∀ c ∈ Nat.toDigits 10 n, c.isDigit = true := fun _ => Text.isDigit_of_mem_digits
  obtain ⟨c, cs, hcs⟩ := List.exists_cons_of_ne_nil (Nat.toDigits_ne_nil (n := n) (b := 10))
  rw [hcs] at hdigits ⊢
  rw [layOut_eq_none_iff, starts_append hd c cs hrest]
  intro s hs
  obtain ⟨s', hs', rfl⟩ := List.mem_map.mp hs
  obtain ⟨f, -, r, hr, rfl⟩ := mem_starts_part.mp hs'
  obtain ⟨happend, -⟩ := eq_append_of_fit hr
  dsimp only
  cases hleft : r.2 with
  | nil => exact h
  | cons x xs =>
    -- a digit is left over, and the format wants something else
    have hx : x.isDigit = true := by
      refine hdigits x ?_
      rw [happend, hleft]
      simp
    rw [List.cons_append, layOut_eq_none_iff, Item.starts, if_neg (by simp [hl x hx])]
    exact fun _ hmem => absurd hmem List.not_mem_nil

/-- A year of fewer than four digits is no year. -/
theorem layOut_year_eq_none {n : Nat} (hn : n < 1000) {items : List Item} {rest : List Char}
    (hrest : NoDigitNext rest) :
    layOut (.part .year :: items) (Nat.toDigits 10 n ++ rest) = none := by
  have hlength : (Nat.toDigits 10 n).length ≤ 3 :=
    (Nat.length_toDigits_le_iff (by decide) (by decide)).mpr hn
  obtain ⟨c, cs, hcs⟩ := List.exists_cons_of_ne_nil (Nat.toDigits_ne_nil (n := n) (b := 10))
  rw [hcs] at hlength ⊢
  rw [layOut_eq_none_iff, starts_append (by decide) c cs hrest]
  intro s hs
  obtain ⟨s', hs', -⟩ := List.mem_map.mp hs
  obtain ⟨f, hf, r, hr, -⟩ := mem_starts_part.mp hs'
  obtain ⟨happend, hfour⟩ := eq_append_of_fit hr
  rw [List.mem_singleton.mp hf] at hfour
  have hle := congrArg List.length happend
  rw [List.length_append, hfour] at hle
  simp only [List.length_cons, List.length_nil] at hle hlength
  omega

end Format

namespace Timestamp

/-! ## Short years -/

theorem dot_ne_digit (c : Char) (h : c.isDigit = true) : Text.sameLetter '.' c = false :=
  Text.of_isDigit (P := fun c => Text.sameLetter '.' c = false) (by decide) h

/-- **The written form of an instant before the year 1000 is not laid out.** -/
theorem layOut_logForm_of_lt {t : Timestamp} (hy : t.year < 1000) :
    Format.layOut logItems t.logForm.toList = none := by
  have hdot := noDigitNext_cons (c := '.') (by decide)
  have hspace := noDigitNext_cons (c := ' ') (by decide)
  rw [toList_logForm]
  -- the year cannot be laid out, nor the month before it, nor the day before that
  refine Format.layOut_number_eq_none (d := .day) (by decide) t.day dot_ne_digit (hdot _) ?_
  rw [Format.layOut_literal]
  refine Format.layOut_number_eq_none (d := .month) (by decide) t.month dot_ne_digit (hdot _) ?_
  rw [Format.layOut_literal]
  exact Format.layOut_year_eq_none hy (hspace _)

/-- **Short years are not read back.** -/
theorem read_logForm_of_lt {t : Timestamp} (hy : t.year < 1000) :
    ∃ u, read logFormat t.logForm = .error u := by
  rw [read, readMoment, format_logFormat]
  simp only [strip_logForm, ofText, layOut_logForm_of_lt hy]
  exact ⟨_, rfl⟩

/-! ## Microseconds -/

theorem micro_of_ofParts {year month day hour minute second micro : Nat} {t : Timestamp}
    (h : ofParts year month day hour minute second micro = .ok t) : t.micro = micro := by
  unfold ofParts at h
  split_ifs at h
  cases h
  rfl

/-- Numbers that form a moment form what its clock shows, and the offset is that on its date. -/
theorem exists_of_toMoment {p : Parts} {m : Moment} (h : p.toMoment = .ok m) :
    ∃ date year, p.offsetOn date = .ok m.offset ∧
      ofParts year date.2.1 date.2.2 p.hour p.minute p.second p.micro = .ok m.clock := by
  rw [Parts.toMoment] at h
  cases hdate : p.date with
  | error f => rw [hdate] at h; cases h
  | ok date =>
    rw [hdate] at h
    change (p.offsetOn date).bind _ = _ at h
    cases hoffset : p.offsetOn date with
    | error f => rw [hoffset] at h; cases h
    | ok offset =>
      rw [hoffset] at h
      change ((ofParts _ _ _ _ _ _ _).mapError _).bind _ = _ at h
      cases hclock : ofParts (if p.onLeapDay = true then 1900 else date.1) date.2.1 date.2.2 p.hour
          p.minute p.second p.micro with
      | error f => rw [hclock] at h; cases h
      | ok clock =>
        rw [hclock] at h
        cases h
        exact ⟨date, _, hoffset, hclock⟩

theorem micro_of_toMoment {p : Parts} {m : Moment} (h : p.toMoment = .ok m) :
    m.clock.micro = p.micro := by
  obtain ⟨date, year, -, hclock⟩ := exists_of_toMoment h
  exact micro_of_ofParts hclock

/-- Only a fraction of a second enters the microseconds. -/
theorem micro_of_enter {afternoon : Bool} {p q : Parts} {found : Directive × List Char}
    (h : p.enter afternoon found = .ok q) (hne : found.1 ≠ .fraction) : q.micro = p.micro := by
  have hname : ∀ {g : Nat → Parts} {names : List String}, (∀ n, (g n).micro = p.micro) →
      (position names found.2).map g = .ok q → q.micro = p.micro := by
    intro g names hg hq
    cases hp : position names found.2 with
    | error f => rw [hp] at hq; cases hq
    | ok n =>
      rw [hp] at hq
      cases hq
      exact hg n
  obtain ⟨d, word⟩ := found
  cases d with
  | fraction => exact absurd rfl hne
  | monthName | shortMonthName => exact hname (g := fun m => { p with month := m }) (fun _ => rfl) h
  | weekdayName | shortWeekdayName =>
    exact hname (g := fun d => { p with weekday := some (d - 1) }) (fun _ => rfl) h
  | offset =>
    rw [Parts.enter] at h
    cases hmicros : offsetMicros word with
    | error f => rw [hmicros] at h; cases h
    | ok micros => rw [hmicros] at h; cases h; rfl
  | _ => cases h; rfl

theorem micro_of_foldlM {afternoon : Bool} {found : Format.Found}
    (hfound : ∀ f ∈ found, f.1 ≠ .fraction) {p q : Parts}
    (h : found.foldlM (Parts.enter afternoon) p = .ok q) : q.micro = p.micro := by
  induction found generalizing p with
  | nil =>
    cases h
    rfl
  | cons f found ih =>
    rw [List.foldlM_cons] at h
    cases hp : p.enter afternoon f with
    | error e => rw [hp] at h; cases h
    | ok p' =>
      rw [hp] at h
      rw [ih (fun g hg => hfound g (List.mem_cons_of_mem f hg)) h,
        micro_of_enter hp (hfound f List.mem_cons_self)]

/-- **Without a fraction of a second there are no microseconds.** -/
theorem micro_of_read {format text : String} {items : List Format.Item}
    (hformat : Format.read format = .ok items) (hitems : .part .fraction ∉ items) {t : Timestamp}
    (h : read format text = .ok t) : t.micro = 0 := by
  obtain ⟨m, hm, rfl⟩ := read_eq_ok_iff_exists.mp h
  rw [readMoment, hformat] at hm
  simp only [ofText] at hm
  split at hm
  · cases hm
  · cases hm
  · rename_i found hlaid
    have hfound : ∀ f ∈ found, f.1 ≠ .fraction := fun f hf heq =>
      hitems (heq ▸ Format.part_mem_of_layOut hlaid hf)
    cases hparts : found.foldlM (Parts.enter (isAfternoon found)) {} with
    | error f => rw [hparts] at hm; cases hm
    | ok p =>
      simp only [hparts] at hm
      cases hmoment : p.toMoment with
      | error f => rw [hmoment] at hm; cases hm
      | ok m' =>
        rw [hmoment] at hm
        cases hm
        rw [micro_of_toMoment hmoment, micro_of_foldlM hfound hparts]

end Timestamp

end AccessLog
