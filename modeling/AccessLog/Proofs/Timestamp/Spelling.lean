import AccessLog.Proofs.Timestamp.Padded
import AccessLog.Timestamp.Moment

/-!
# Spellings of a date

An instant can be typed in the form of the logs, with the year first and hyphens
between the numbers, or with the day first and slashes between them (`Spelling`).
What a text of the first kind says is fixed by the format of the logs. The others are
left to a reader that takes, of the two numbers beside a year, the first for the day
wherever that is possible (`DayFirst`). With the year in front this exchanges the day
and the month of every date whose day can be a month (`Timestamp.dayFirst`), and with
the day in front it leaves every date as it is.
-/

namespace AccessLog

namespace Timestamp

/-! ## The calendar -/

theorem twentyEight_le_monthLength (y m : Nat) : 28 ≤ monthLength y m := by
  unfold monthLength
  split <;> split <;> omega

/-- **The instant with the day and the month exchanged**, where the day can be a
month. -/
def dayFirst (t : Timestamp) : Timestamp :=
  if h : t.day ≤ 12 then
    { t with
      month := t.day
      day := t.month
      date_valid := by
        obtain ⟨hyear, hmonth, hday⟩ := t.date_valid
        have hlength := twentyEight_le_monthLength t.year t.day
        omega }
  else t

/-- The year and the time of day are not exchanged. -/
theorem rest_dayFirst (t : Timestamp) :
    t.dayFirst.year = t.year ∧ t.dayFirst.hour = t.hour ∧ t.dayFirst.minute = t.minute ∧
      t.dayFirst.second = t.second ∧ t.dayFirst.micro = t.micro := by
  rw [dayFirst]
  split <;> exact ⟨rfl, rfl, rfl, rfl, rfl⟩

/-- Nothing changes where the day can be no month, or is the number of the month. -/
theorem dayFirst_eq_iff (t : Timestamp) : t.dayFirst = t ↔ 12 < t.day ∨ t.day = t.month := by
  rw [dayFirst]
  split
  · rename_i h
    rw [Timestamp.ext_iff]
    simp only [true_and, and_true]
    omega
  · rename_i h
    simp only [true_iff]
    omega

/-- The beginning of the day. -/
def midnight (t : Timestamp) : Timestamp :=
  { t with hour := 0, minute := 0, second := 0, micro := 0, time_valid := by decide }

/-! ## Forms of a date -/

/-- The time of day with colons. -/
def clockForm (t : Timestamp) : String :=
  padded 2 t.hour ++ ":" ++ padded 2 t.minute ++ ":" ++ padded 2 t.second

/-- A year and two numbers with hyphens between them. -/
def yearFirstForm (year a b : Nat) : String :=
  padded 4 year ++ "-" ++ padded 2 a ++ "-" ++ padded 2 b

/-- Two numbers and a year with slashes between them. -/
def yearLastForm (a b year : Nat) : String :=
  padded 2 a ++ "/" ++ padded 2 b ++ "/" ++ padded 4 year

/-- **The day and the month that two numbers beside a year mean**: the first is the day if
the second can be a month. -/
def dayAndMonth (a b : Nat) : Nat × Nat := if b ≤ 12 then (a, b) else (b, a)

/-- **A reader of dates that takes the day first**: what is assumed of it for a year of four
digits, beside which stand two numbers that mean the day and the month of a date, perhaps
with a time of day. -/
structure DayFirst (dateOf : String → Except String Moment) : Prop where
  yearFirst {t : Timestamp} {a b : Nat} (hy : 1000 ≤ t.year) (hm : t.micro = 0)
    (hdate : dayAndMonth a b = (t.day, t.month)) :
    dateOf (yearFirstForm t.year a b ++ " " ++ t.clockForm) = .ok ⟨t, none⟩
  yearFirstDay {t : Timestamp} {a b : Nat} (hy : 1000 ≤ t.year)
    (hdate : dayAndMonth a b = (t.day, t.month)) :
    dateOf (yearFirstForm t.year a b) = .ok ⟨t.midnight, none⟩
  yearLastDay {t : Timestamp} {a b : Nat} (hy : 1000 ≤ t.year)
    (hdate : dayAndMonth a b = (t.day, t.month)) :
    dateOf (yearLastForm a b t.year) = .ok ⟨t.midnight, none⟩

/-- With the year first, the numbers of a date mean the exchanged date. -/
theorem dayAndMonth_month_day (t : Timestamp) :
    dayAndMonth t.month t.day = (t.dayFirst.day, t.dayFirst.month) := by
  rw [dayAndMonth, dayFirst]
  split <;> rfl

/-- With the day first, they mean the date. -/
theorem dayAndMonth_day_month (t : Timestamp) : dayAndMonth t.day t.month = (t.day, t.month) :=
  if_pos t.date_valid.2.1.2

/-! ## Spellings -/

/-- **The ways to type a date.** -/
inductive Spelling where
  /-- In the form of the logs. -/
  | log
  /-- With the year first, and the time of day. -/
  | hyphens
  /-- With the year first, without a time of day. -/
  | hyphensDay
  /-- With the day first, without a time of day. -/
  | slashesDay
deriving DecidableEq, Repr

namespace Spelling

/-- The text of an instant. -/
def text (t : Timestamp) : Spelling → String
  | log => t.logForm
  | hyphens => yearFirstForm t.year t.month t.day ++ " " ++ t.clockForm
  | hyphensDay => yearFirstForm t.year t.month t.day
  | slashesDay => yearLastForm t.day t.month t.year

/-- The instant that is meant: without a time of day the beginning of the day. -/
def meant (t : Timestamp) : Spelling → Timestamp
  | log | hyphens => t
  | hyphensDay | slashesDay => t.midnight

/-- The instant that is read. -/
def reading (t : Timestamp) : Spelling → Timestamp
  | log => t
  | hyphens => t.dayFirst
  | hyphensDay => t.midnight.dayFirst
  | slashesDay => t.midnight

/-- **Whether a spelling is read as it is meant**: not with the year first, unless the
day can be no month or is the number of the month. -/
def Faithful (t : Timestamp) : Spelling → Prop
  | log | slashesDay => True
  | hyphens | hyphensDay => 12 < t.day ∨ t.day = t.month

theorem reading_eq_meant_iff (s : Spelling) (t : Timestamp) :
    s.reading t = s.meant t ↔ s.Faithful t := by
  cases s with
  | log | slashesDay => exact iff_of_true rfl trivial
  | hyphens => exact dayFirst_eq_iff t
  | hyphensDay => exact dayFirst_eq_iff t.midnight

/-- The forms that the logs do not use are read with the day first. -/
theorem dateOf_text {dateOf : String → Except String Moment} (h : DayFirst dateOf) {t : Timestamp}
    (hy : 1000 ≤ t.year) (hm : t.micro = 0) {s : Spelling} (hs : s ≠ log) :
    dateOf (s.text t) = .ok ⟨s.reading t, none⟩ := by
  obtain ⟨hyear, hhour, hminute, hsecond, hmicro⟩ := t.rest_dayFirst
  cases s with
  | log => exact absurd rfl hs
  | hyphens =>
    have hclock : t.dayFirst.clockForm = t.clockForm := by
      rw [clockForm, clockForm, hhour, hminute, hsecond]
    have hread := h.yearFirst (hyear ▸ hy) (hmicro.trans hm) t.dayAndMonth_month_day
    rw [hyear, hclock] at hread
    exact hread
  | hyphensDay =>
    have hyear' : t.midnight.dayFirst.year = t.year := t.midnight.rest_dayFirst.1
    have hread := h.yearFirstDay (hyear' ▸ hy) t.midnight.dayAndMonth_month_day
    have hmidnight : t.midnight.dayFirst.midnight = t.midnight.dayFirst := by
      rw [dayFirst]
      split <;> rfl
    rw [hmidnight, hyear'] at hread
    exact hread
  | slashesDay => exact h.yearLastDay hy t.dayAndMonth_day_month

end Spelling

/-! ## Typed texts -/

/-- The marks of a typed date: those between the numbers of a date or a time of day, and
the space. -/
def Mark (c : Char) : Prop := c = '-' ∨ c = '/' ∨ c = ':' ∨ c = ' '

/-- A text of digits and marks. -/
def Typed (text : String) : Prop := ∀ c ∈ text.toList, c.isDigit = true ∨ Mark c

theorem typed_padded (width n : Nat) : Typed (padded width n) :=
  fun _ hc => .inl (isDigit_of_mem_padded hc)

theorem Typed.append {s₁ s₂ : String} (h₁ : Typed s₁) (h₂ : Typed s₂) : Typed (s₁ ++ s₂) := by
  intro c hc
  rw [String.toList_append, List.mem_append] at hc
  exact hc.elim (h₁ c) (h₂ c)

theorem typed_mark {c : Char} (h : Mark c) : Typed (String.ofList [c]) := by
  intro d hd
  rw [String.toList_ofList, List.mem_singleton] at hd
  exact .inr (hd ▸ h)

theorem typed_yearFirstForm (year a b : Nat) : Typed (yearFirstForm year a b) :=
  have hmark : Typed "-" := typed_mark (.inl rfl)
  ((((typed_padded _ _).append hmark).append (typed_padded _ _)).append hmark).append
    (typed_padded _ _)

theorem typed_clockForm (t : Timestamp) : Typed t.clockForm :=
  have hmark : Typed ":" := typed_mark (.inr (.inr (.inl rfl)))
  ((((typed_padded _ _).append hmark).append (typed_padded _ _)).append hmark).append
    (typed_padded _ _)

theorem typed_yearLastForm (a b year : Nat) : Typed (yearLastForm a b year) :=
  have hmark : Typed "/" := typed_mark (.inr (.inl rfl))
  ((((typed_padded _ _).append hmark).append (typed_padded _ _)).append hmark).append
    (typed_padded _ _)

/-- A spelling other than that of the logs is made of digits and marks. -/
theorem Spelling.typed_text (t : Timestamp) {s : Spelling} (hs : s ≠ .log) : Typed (s.text t) := by
  cases s with
  | log => exact absurd rfl hs
  | hyphens =>
    have hspace : Typed " " := typed_mark (.inr (.inr (.inr rfl)))
    exact ((typed_yearFirstForm _ _ _).append hspace).append t.typed_clockForm
  | hyphensDay => exact typed_yearFirstForm _ _ _
  | slashesDay => exact typed_yearLastForm _ _ _

/-- A text of digits and marks has not the form of the logs. -/
theorem read_logFormat_of_typed {text : String} (h : Typed text) :
    ∃ u, read logFormat text = .error u := by
  refine read_logFormat_of_no_dot fun c hc => ?_
  rcases h c hc with h | rfl | rfl | rfl | rfl
  · exact dot_ne_digit c h
  all_goals decide

end Timestamp

end AccessLog
