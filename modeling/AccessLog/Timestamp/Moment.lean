import AccessLog.Timestamp.Basic

/-!
# Moments

A moment is what a clock shows, together with the offset of the clock from universal time if that is
known. Two moments compare if both have an offset or neither has: with offsets their distances in
universal time are compared, without them what the clocks show. To order a moment with an offset and
one without is an error, and they are never the same.
-/

namespace AccessLog

/-! ## Offsets -/

/-- The microseconds of a day. -/
def dayMicros : Int := 86400000000

/-- How far a clock is ahead of universal time, in microseconds: less than a day in either
direction. -/
structure Offset where
  /-- The microseconds. -/
  micros : Int
  /-- The offset is less than a day. -/
  within_day : -dayMicros < micros ∧ micros < dayMicros := by decide
deriving DecidableEq, Repr

namespace Offset

/-- A would-be offset of a day or more. -/
structure TooFar where
  /-- The microseconds. -/
  micros : Int
deriving DecidableEq, Repr

/-- A duration as a number of days, of seconds of a day and of microseconds of a second, those that
are zero left out. -/
def durationText (micros : Int) : String :=
  let parts := [("days", micros / dayMicros), ("seconds", micros % dayMicros / 1000000),
    ("microseconds", micros % 1000000)]
  let shown := (parts.filter fun p => p.2 ≠ 0).map fun p => s!"{p.1}={p.2}"
  "datetime.timedelta(" ++ (if shown.isEmpty then "0" else ", ".intercalate shown) ++ ")"

/-- The wording for an offset of a day or more. -/
def TooFar.message (f : TooFar) : String :=
  "offset must be a timedelta strictly between -timedelta(hours=24) and " ++
    s!"timedelta(hours=24), not {durationText f.micros}."

/-- The offset of the given microseconds. -/
def ofMicros (micros : Int) : Except TooFar Offset :=
  if h : -dayMicros < micros ∧ micros < dayMicros then .ok ⟨micros, h⟩ else .error ⟨micros⟩

end Offset

/-! ## Moments -/

/-- What a clock shows, and the offset of the clock if it is known. -/
structure Moment where
  /-- What the clock shows. -/
  clock : Timestamp
  /-- The offset. -/
  offset : Option Offset := none
deriving DecidableEq, Repr

namespace Moment

/-- The microseconds before the moment in universal time, or by its clock if the offset is not
known. -/
def universal (m : Moment) : Int := m.clock.ticks - (m.offset.map Offset.micros).getD 0

/-- Two moments compare if both have an offset or neither has. -/
def Comparable (s t : Moment) : Prop := s.offset.isSome = t.offset.isSome

instance (s t : Moment) : Decidable (s.Comparable t) :=
  inferInstanceAs (Decidable (s.offset.isSome = t.offset.isSome))

/-- A moment with an offset and one without were to be ordered. -/
structure Mixed where
deriving DecidableEq, Repr

/-- The wording for moments that do not compare. -/
def Mixed.message (_ : Mixed) : String :=
  "can't compare offset-naive and offset-aware datetimes"

/-- Whether the first moment comes before the second. -/
def before (s t : Moment) : Except Mixed Bool :=
  if s.Comparable t then .ok (decide (s.universal < t.universal)) else .error {}

/-- Whether two moments are the same. -/
def same (s t : Moment) : Bool := decide (s.Comparable t ∧ s.universal = t.universal)

end Moment

end AccessLog
