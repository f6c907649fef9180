/-!
# Instants of the calendar

A timestamp is a day of the proleptic Gregorian calendar in the years 1 to 9999 together with a time
of day down to the microsecond; it knows no time zone. That the parts form an instant is part of the
type, so whatever carries a timestamp carries a real one. `ofParts` is the way in, and it names the
first part that is out of its range.

Timestamps are ordered by their parts from the year down, and their distances from the start of the
calendar have the same order. They have two written forms: the one that the logs use, without any
padding, and the padded form whose texts sort as the instants do.
-/

namespace AccessLog

/-! ## The calendar -/

/-- A year divisible by four is a leap year, a century only if it is divisible by 400. -/
def isLeapYear (year : Nat) : Bool := year % 4 == 0 && (year % 100 != 0 || year % 400 == 0)

/-- The number of days of a month. -/
def monthLength (year month : Nat) : Nat :=
  if month = 2 then if isLeapYear year then 29 else 28
  else if month = 4 ∨ month = 6 ∨ month = 9 ∨ month = 11 then 30
  else 31

/-- The number of days of a year. -/
def yearLength (year : Nat) : Nat := if isLeapYear year then 366 else 365

/-- The month and the day of month of the `n`-th day that follows the start of the first of the
given months. -/
def monthAndDay (year : Nat) : List Nat → Nat → Nat × Nat
  | [], n => (12, n)
  | month :: months, n =>
    if n ≤ monthLength year month then (month, n)
    else monthAndDay year months (n - monthLength year month)

/-- The year, the month and the day of month of the `n`-th day of a year; a day beyond the end of
the year belongs to the next. -/
def dateOfDay (year n : Nat) : Nat × Nat × Nat :=
  let months := [1, 2, 3, 4, 5, 6, 7, 8, 9, 10, 11, 12]
  if n ≤ yearLength year then (year, monthAndDay year months n)
  else (year + 1, monthAndDay (year + 1) months (n - yearLength year))

/-- The number of days before a year, counted from the start of the year 1. -/
def daysBeforeYear (year : Nat) : Nat :=
  (year - 1) * 365 + (year - 1) / 4 - (year - 1) / 100 + (year - 1) / 400

/-- The number of days of a year before a month. -/
def daysBeforeMonth (year : Nat) : Nat → Nat
  | 0 | 1 => 0
  | month + 1 => daysBeforeMonth year month + monthLength year month

/-- The number of a date among all days; the first of January of the year 1 is the first. -/
def dayNumber (year month day : Nat) : Nat :=
  daysBeforeYear year + daysBeforeMonth year month + day

/-- The weekday of the first of January, Monday being 0. -/
def firstWeekday (year : Nat) : Nat := daysBeforeYear year % 7

/-! ## Timestamps -/

/-- An instant of the calendar. -/
@[ext] structure Timestamp where
  /-- The year, from 1 to 9999. -/
  year : Nat
  /-- The month, from 1 to 12. -/
  month : Nat
  /-- The day of the month, from 1. -/
  day : Nat
  /-- The hour, from 0 to 23. -/
  hour : Nat
  /-- The minute, from 0 to 59. -/
  minute : Nat
  /-- The second, from 0 to 59. -/
  second : Nat
  /-- The microsecond, from 0 to 999999. -/
  micro : Nat
  /-- The date exists. -/
  date_valid : (1 ≤ year ∧ year ≤ 9999) ∧ (1 ≤ month ∧ month ≤ 12) ∧
    1 ≤ day ∧ day ≤ monthLength year month := by decide
  /-- The time of day exists. -/
  time_valid : hour ≤ 23 ∧ minute ≤ 59 ∧ second ≤ 59 ∧ micro ≤ 999999 := by decide
deriving DecidableEq, Repr

namespace Timestamp

/-- The first part of a would-be instant that is out of its range. -/
inductive RangeFault where
  /-- The year is not in 1 to 9999. -/
  | year (year : Nat)
  /-- The month is not in 1 to 12. -/
  | month
  /-- The month has no such day. -/
  | day
  /-- The hour is not in 0 to 23. -/
  | hour
  /-- The minute is not in 0 to 59. -/
  | minute
  /-- The second is not in 0 to 59. -/
  | second
  /-- The microsecond is not in 0 to 999999. -/
  | micro
deriving DecidableEq, Repr

/-- The wording of a range fault. -/
def RangeFault.message : RangeFault → String
  | .year n => s!"year {n} is out of range"
  | .month => "month must be in 1..12"
  | .day => "day is out of range for month"
  | .hour => "hour must be in 0..23"
  | .minute => "minute must be in 0..59"
  | .second => "second must be in 0..59"
  | .micro => "microsecond must be in 0..999999"

/-- The instant with the given parts, or the first part that is out of its range. The parts of the
date are looked at before those of the time of day. -/
def ofParts (year month day hour minute second micro : Nat) : Except RangeFault Timestamp :=
  if hy : 1 ≤ year ∧ year ≤ 9999 then
    if hm : 1 ≤ month ∧ month ≤ 12 then
      if hd : 1 ≤ day ∧ day ≤ monthLength year month then
        if hh : hour ≤ 23 then
          if hn : minute ≤ 59 then
            if hs : second ≤ 59 then
              if hu : micro ≤ 999999 then
                .ok ⟨year, month, day, hour, minute, second, micro, ⟨hy, hm, hd⟩, ⟨hh, hn, hs, hu⟩⟩
              else .error .micro
            else .error .second
          else .error .minute
        else .error .hour
      else .error .day
    else .error .month
  else .error (.year year)

/-! ## Order -/

/-- The parts from the year down. -/
def parts (t : Timestamp) : List Nat :=
  [t.year, t.month, t.day, t.hour, t.minute, t.second, t.micro]

/-- The earlier of two instants is the one with the smaller part where they first differ. -/
instance : LT Timestamp where
  lt s t := s.parts < t.parts

instance (s t : Timestamp) : Decidable (s < t) :=
  inferInstanceAs (Decidable (s.parts < t.parts))

/-- The microseconds before the instant, counted from the start of the year 1. -/
def ticks (t : Timestamp) : Nat :=
  ((((dayNumber t.year t.month t.day - 1) * 24 + t.hour) * 60 + t.minute) * 60 + t.second) * 1000000
    + t.micro

/-! ## Written forms -/

/-- A number with at least `width` digits, filled up with zeros from the left. -/
def padded (width n : Nat) : String :=
  String.ofList ((Nat.toDigits 10 n).leftpad width '0')

/-- The form that the logs use: day, month, year, hour, minute and second, none of them padded. -/
def logForm (t : Timestamp) : String :=
  s!"{t.day}.{t.month}.{t.year} {t.hour}:{t.minute}:{t.second}"

/-- The padded form from the year down. Microseconds are written only if there are any. -/
def sortForm (t : Timestamp) : String :=
  padded 4 t.year ++ "-" ++ padded 2 t.month ++ "-" ++ padded 2 t.day ++ "T" ++
    padded 2 t.hour ++ ":" ++ padded 2 t.minute ++ ":" ++ padded 2 t.second ++
    if t.micro = 0 then "" else "." ++ padded 6 t.micro

end Timestamp

end AccessLog
