import AccessLog.Proofs.Timestamp.Order
import AccessLog.Proofs.Timestamp.ShortYear

/-!
# Moments are ordered by universal time

The distance of an instant from the start of the calendar grows with the instant
(`Timestamp.ticks_lt_iff`). So moments whose clocks have no known offset are ordered as
what their clocks show, and whether or not there are offsets, of two moments that
compare one comes before the other or they are the same, and only one of these
(`Moment.exists_order`).

Whether a moment that is read has an offset does not depend on the text: it has one
exactly if the format asks for it (`Timestamp.isSome_offset_iff`).
-/

namespace AccessLog

/-! ## The calendar -/

/-- A year is over where the next one begins. -/
theorem daysBeforeYear_succ {year : Nat} (h : 1 ≤ year) :
    daysBeforeYear (year + 1) = daysBeforeYear year + yearLength year := by
  obtain ⟨n, rfl⟩ := Nat.exists_eq_add_of_le' h
  have hfour : (n + 1) / 4 = n / 4 + if 4 ∣ n + 1 then 1 else 0 := Nat.succ_div
  have hhundred : (n + 1) / 100 = n / 100 + if 100 ∣ n + 1 then 1 else 0 := Nat.succ_div
  have hfourHundred : (n + 1) / 400 = n / 400 + if 400 ∣ n + 1 then 1 else 0 := Nat.succ_div
  have hleap : isLeapYear (n + 1) = true ↔
      (n + 1) % 4 = 0 ∧ ((n + 1) % 100 ≠ 0 ∨ (n + 1) % 400 = 0) := by simp [isLeapYear]
  simp only [daysBeforeYear, yearLength, hleap, Nat.add_sub_cancel]
  split_ifs at * <;> omega

theorem daysBeforeYear_add_le {year later : Nat} (h : 1 ≤ year) (hlt : year < later) :
    daysBeforeYear year + yearLength year ≤ daysBeforeYear later := by
  induction later, hlt using Nat.le_induction with
  | base => rw [daysBeforeYear_succ h]
  | succ later hle ih =>
    have hyear : 1 ≤ later := h.trans (Nat.le_of_succ_le hle)
    rw [daysBeforeYear_succ hyear]
    omega

theorem daysBeforeMonth_succ {month : Nat} (h : 1 ≤ month) (year : Nat) :
    daysBeforeMonth year (month + 1) = daysBeforeMonth year month + monthLength year month := by
  obtain ⟨month, rfl⟩ := Nat.exists_eq_add_of_le' h
  rfl

theorem daysBeforeMonth_add_le {month later : Nat} (h : 1 ≤ month) (hlt : month < later)
    (year : Nat) : daysBeforeMonth year month + monthLength year month
      ≤ daysBeforeMonth year later := by
  induction later, hlt using Nat.le_induction with
  | base => rw [daysBeforeMonth_succ h]
  | succ later hle ih =>
    have hmonth : 1 ≤ later := h.trans (Nat.le_of_succ_le hle)
    rw [daysBeforeMonth_succ hmonth]
    omega

/-- The months fill the year. -/
theorem daysBeforeMonth_thirteen (year : Nat) : daysBeforeMonth year 13 = yearLength year := by
  simp only [daysBeforeMonth, monthLength, yearLength]
  cases isLeapYear year <;> rfl

/-- A date lies within its year. -/
theorem daysBeforeMonth_add_le_yearLength {year month day : Nat} (hmonth : 1 ≤ month ∧ month ≤ 12)
    (hday : day ≤ monthLength year month) :
    daysBeforeMonth year month + day ≤ yearLength year := by
  have hle := daysBeforeMonth_add_le hmonth.1 (Nat.lt_succ_of_le hmonth.2) year
  rw [daysBeforeMonth_thirteen] at hle
  omega

namespace Timestamp

/-! ## Distances -/

theorem dayNumber_lt_of_year_lt {s t : Timestamp} (h : s.year < t.year) :
    dayNumber s.year s.month s.day < dayNumber t.year t.month t.day := by
  obtain ⟨hyear, hmonth, hday⟩ := s.date_valid
  have hyears := daysBeforeYear_add_le hyear.1 h
  have hwithin := daysBeforeMonth_add_le_yearLength hmonth hday.2
  have hpositive := t.date_valid.2.2.1
  simp only [dayNumber]
  omega

theorem dayNumber_lt_of_month_lt {s t : Timestamp} (hyear : s.year = t.year)
    (h : s.month < t.month) :
    dayNumber s.year s.month s.day < dayNumber t.year t.month t.day := by
  have hmonths := daysBeforeMonth_add_le s.date_valid.2.1.1 h s.year
  have hday := s.date_valid.2.2.2
  have hpositive := t.date_valid.2.2.1
  simp only [dayNumber, ← hyear]
  omega

theorem one_le_dayNumber (t : Timestamp) : 1 ≤ dayNumber t.year t.month t.day :=
  t.date_valid.2.2.1.trans (Nat.le_add_left _ _)

/-- A later day is farther, whatever the time of day. -/
theorem ticks_lt_of_dayNumber_lt {s t : Timestamp}
    (h : dayNumber s.year s.month s.day < dayNumber t.year t.month t.day) :
    s.ticks < t.ticks := by
  have hday := s.one_le_dayNumber
  have htime := s.time_valid
  simp only [ticks]
  omega

theorem ticks_lt_of_lt {s t : Timestamp} (h : s < t) : s.ticks < t.ticks := by
  rw [lt_iff] at h
  simp only [parts, List.cons_lt_cons_iff, List.not_lt_nil, and_false, or_false] at h
  rcases h with hyear | ⟨hyear, hmonth | ⟨hmonth, hday | ⟨hday, hclock⟩⟩⟩
  · exact ticks_lt_of_dayNumber_lt (dayNumber_lt_of_year_lt hyear)
  · exact ticks_lt_of_dayNumber_lt (dayNumber_lt_of_month_lt hyear hmonth)
  · refine ticks_lt_of_dayNumber_lt ?_
    simp only [dayNumber, hyear, hmonth]
    omega
  · have htime := s.time_valid
    simp only [ticks, hyear, hmonth, hday]
    omega

/-- **Distances are ordered as the instants.** -/
theorem ticks_lt_iff {s t : Timestamp} : s.ticks < t.ticks ↔ s < t := by
  refine ⟨fun h => ?_, ticks_lt_of_lt⟩
  rcases lt_or_eq_or_gt s t with hlt | rfl | hgt
  · exact hlt
  · exact absurd h (Nat.lt_irrefl _)
  · exact absurd h (Nat.lt_asymm (ticks_lt_of_lt hgt))

end Timestamp

/-! ## Moments -/

namespace Moment

variable {s t : Moment}

theorem Comparable.symm (h : s.Comparable t) : t.Comparable s := Eq.symm h

theorem before_of_comparable (h : s.Comparable t) :
    s.before t = .ok (decide (s.universal < t.universal)) := if_pos h

theorem before_of_not_comparable (h : ¬ s.Comparable t) : s.before t = .error {} := if_neg h

/-- By their clocks alone moments are ordered as what these show. -/
theorem before_clock (s t : Timestamp) : before ⟨s, none⟩ ⟨t, none⟩ = .ok (decide (s < t)) := by
  rw [before_of_comparable (s := ⟨s, none⟩) (t := ⟨t, none⟩) rfl]
  simp only [universal, Option.map_none, Option.getD_none, sub_zero, Nat.cast_lt,
    Timestamp.ticks_lt_iff]

end Moment

/-! ## Offsets that are read -/

namespace Format

/-- Every part of the items is found in a text that is laid out. -/
theorem exists_found_of_part_mem {items : List Item} {cs : List Char} {r : Found × List Char}
    (h : layOut items cs = some r) {d : Directive} (hd : .part d ∈ items) : ∃ f ∈ r.1, f.1 = d := by
  induction items generalizing cs r with
  | nil => cases hd
  | cons i items ih =>
    obtain ⟨s, hs, r', hr', rfl⟩ := exists_start_of_layOut h
    rcases List.mem_cons.mp hd with rfl | hd
    · obtain ⟨form, -, w, -, rfl⟩ := mem_starts_part.mp hs
      exact ⟨(d, w.1), List.mem_cons_self, rfl⟩
    · obtain ⟨f, hf, rfl⟩ := ih hr' hd
      exact ⟨f, List.mem_append_right _ hf, rfl⟩

end Format

namespace Timestamp

/-- Only the text of an offset enters the offset. -/
theorem isSome_offset_of_enter {afternoon : Bool} {p q : Parts} {found : Directive × List Char}
    (h : p.enter afternoon found = .ok q) :
    q.offset.isSome = (p.offset.isSome || found.1 == .offset) := by
  have hname : ∀ {g : Nat → Parts} {names : List String}, (∀ n, (g n).offset = p.offset) →
      (position names found.2).map g = .ok q → q.offset = p.offset := by
    intro g names hg hq
    cases hp : position names found.2 with
    | error f => rw [hp] at hq; cases hq
    | ok n =>
      rw [hp] at hq
      cases hq
      exact hg n
  obtain ⟨d, word⟩ := found
  cases d with
  | offset =>
    rw [Parts.enter] at h
    cases hmicros : offsetMicros word with
    | error f => rw [hmicros] at h; cases h
    | ok micros =>
      rw [hmicros] at h
      cases h
      exact (Bool.or_true _).symm
  | monthName | shortMonthName =>
    rw [hname (g := fun m => { p with month := m }) (fun _ => rfl) h]
    exact (Bool.or_false _).symm
  | weekdayName | shortWeekdayName =>
    rw [hname (g := fun d => { p with weekday := some (d - 1) }) (fun _ => rfl) h]
    exact (Bool.or_false _).symm
  | _ => cases h; exact (Bool.or_false _).symm

theorem isSome_offset_of_foldlM {afternoon : Bool} {found : Format.Found} {p q : Parts}
    (h : found.foldlM (Parts.enter afternoon) p = .ok q) :
    q.offset.isSome = (p.offset.isSome || found.any (·.1 == .offset)) := by
  induction found generalizing p with
  | nil =>
    cases h
    exact (Bool.or_false _).symm
  | cons f found ih =>
    rw [List.foldlM_cons] at h
    cases hp : p.enter afternoon f with
    | error e => rw [hp] at h; cases h
    | ok p' =>
      rw [hp] at h
      rw [ih h, isSome_offset_of_enter hp, List.any_cons, Bool.or_assoc]

theorem isSome_offset_of_toMoment {p : Parts} {m : Moment} (h : p.toMoment = .ok m) :
    m.offset.isSome = p.offset.isSome := by
  obtain ⟨date, _, hoffset, -⟩ := exists_of_toMoment h
  rw [Parts.offsetOn] at hoffset
  split at hoffset
  · rename_i hnone
    rw [← Except.ok.inj hoffset, hnone]
    rfl
  · rename_i micros hsome
    cases hdate : ofParts date.1 date.2.1 date.2.2 0 0 0 0 with
    | error f => rw [hdate] at hoffset; cases hoffset
    | ok _ =>
      rw [hdate] at hoffset
      cases hmicros : Offset.ofMicros micros with
      | error f => rw [hmicros] at hoffset; cases hoffset
      | ok o =>
        rw [hmicros] at hoffset
        rw [← Except.ok.inj hoffset, hsome]
        rfl

/-- **A format gives every moment an offset or none.** -/
theorem isSome_offset_iff {format text : String} {items : List Format.Item}
    (hformat : Format.read format = .ok items) {m : Moment}
    (h : readMoment format text = .ok m) : m.offset.isSome ↔ .part .offset ∈ items := by
  rw [readMoment, hformat] at h
  simp only [ofText] at h
  split at h
  · cases h
  · cases h
  · rename_i found hlaid
    cases hparts : found.foldlM (Parts.enter (isAfternoon found)) {} with
    | error f => rw [hparts] at h; cases h
    | ok p =>
      simp only [hparts] at h
      cases hmoment : p.toMoment with
      | error f => rw [hmoment] at h; cases h
      | ok m' =>
        rw [hmoment] at h
        cases h
        rw [isSome_offset_of_toMoment hmoment, isSome_offset_of_foldlM hparts]
        show (false || found.any (·.1 == .offset)) = true ↔ _
        rw [Bool.false_or, List.any_eq_true]
        constructor
        · rintro ⟨f, hf, hoffset⟩
          exact beq_iff_eq.mp hoffset ▸ Format.part_mem_of_layOut hlaid hf
        · intro hmem
          obtain ⟨f, hf, hoffset⟩ := Format.exists_found_of_part_mem hlaid hmem
          exact ⟨f, hf, beq_iff_eq.mpr hoffset⟩

end Timestamp

end AccessLog
