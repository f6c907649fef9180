import AccessLog.Selection
import AccessLog.Timestamp.Moment

/-!
# Chronicles

The instants of a log are what clocks show, and with some date formats the offset of the clock is
known too. A chronicle keeps the records with these offsets. Its records are selected by a period,
whose bounds are moments, and by criteria: predicates, or the moment of the record.

A record is compared with the bounds of the period before the criteria are looked at, with the bound
behind which the period begins before the other one. A comparison of a moment that has an offset
with one that has none ends the selection. Where no clock has an offset a chronicle is as good as
its dataset.
-/

namespace AccessLog

/-- A record, and the offset of the clock that its instant was read from, if it is known. -/
structure Stamped where
  /-- The record. -/
  record : Record
  /-- The offset. -/
  offset : Option Offset := none
deriving DecidableEq, Repr

/-- The moment of a record. -/
def Stamped.moment? (r : Stamped) : Option Moment := r.record.timestamp.map (⟨·, r.offset⟩)

/-! ## Periods -/

/-- A time window whose bounds are moments. -/
structure Period where
  /-- The moment that the period begins behind. -/
  after : Option Moment := none
  /-- The moment that the period ends before. -/
  before : Option Moment := none
deriving DecidableEq, Repr

namespace Period

/-- A period without bounds. -/
def Unbounded (w : Period) : Prop := w.after = none ∧ w.before = none

instance (w : Period) : Decidable w.Unbounded :=
  inferInstanceAs (Decidable (w.after = none ∧ w.before = none))

/-- Whether a moment lies strictly between the bounds of a period; a missing moment lies in the
unbounded period only. -/
def contains (w : Period) : Option Moment → Except Moment.Mixed Bool
  | none => .ok (decide w.Unbounded)
  | some m => do
    let isBehind ← w.after.elim (.ok true) fun a => a.before m
    if isBehind then w.before.elim (.ok true) fun b => m.before b else return false

/-- The period of a window, whose bounds have no offset. -/
def ofWindow (w : Window) : Period := ⟨w.after.map (⟨·, none⟩), w.before.map (⟨·, none⟩)⟩

end Period

/-! ## Criteria -/

/-- What a record is selected by besides a period. -/
inductive Criterion where
  /-- A predicate. -/
  | holds (p : Predicate)
  /-- The moment of the record. -/
  | isAt (m : Moment)
deriving DecidableEq, Repr

/-- Whether a record meets a criterion. The instant in a predicate has no offset. -/
def Criterion.met (r : Stamped) : Criterion → Bool
  | .holds p => p.holds r.record && (p.field != .date || r.offset.isNone)
  | .isAt m => r.moment?.any (·.same m)

/-! ## Chronicles -/

/-- Records with the offsets of their clocks, in the order in which they were read. -/
structure Chronicle where
  /-- The records. -/
  entries : List Stamped := []
deriving DecidableEq, Repr

/-- The records in a period that meet every criterion. -/
def selectFrom (w : Period) (cs : List Criterion) :
    List Stamped → Except Moment.Mixed (List Stamped)
  | [] => .ok []
  | r :: rs => do
    let isInside ← w.contains r.moment?
    let selected ← selectFrom w cs rs
    return if isInside && cs.all (·.met r) then r :: selected else selected

namespace Chronicle

/-- The records without the offsets. -/
def dataset (c : Chronicle) : Dataset := ⟨c.entries.map Stamped.record⟩

/-- The records in a period that meet every criterion. -/
def select (c : Chronicle) (w : Period) (cs : List Criterion) :
    Except Moment.Mixed (List Stamped) :=
  selectFrom w cs c.entries

/-- The number of selected records. -/
def count (c : Chronicle) (w : Period) (cs : List Criterion) : Except Moment.Mixed Nat :=
  (c.select w cs).map List.length

/-- What the selected records hold in a field, where the criteria are predicates. -/
def values (c : Chronicle) (f : Field) (w : Period) (ps : List Predicate) :
    Except Moment.Mixed (List Scalar) :=
  (c.select w (ps.map .holds)).map fun rs => Dataset.project (rs.map Stamped.record) f

end Chronicle

end AccessLog
