import AccessLog.Record

/-!
# Selecting records

A selection keeps the records of a dataset that lie in a time window and satisfy every predicate of
a list, in their order. The bounds of a window are exclusive and either may be missing. A record
without an instant lies in the unbounded window only, since nothing is known that would put it
behind one bound or before the other.

A predicate compares a field with a value. The date is compared as an instant; every other field by
the rendered forms of both sides, so that an event can be named by itself or by its name.
-/

namespace AccessLog

/-! ## Windows -/

/-- A time window with exclusive bounds; a missing bound bounds nothing. -/
structure Window where
  /-- The instant that the window begins behind. -/
  after : Option Timestamp := none
  /-- The instant that the window ends before. -/
  before : Option Timestamp := none
deriving DecidableEq, Repr

namespace Window

/-- A window without bounds. -/
def Unbounded (w : Window) : Prop := w.after = none ∧ w.before = none

instance (w : Window) : Decidable w.Unbounded :=
  inferInstanceAs (Decidable (w.after = none ∧ w.before = none))

/-- An instant lies in a window strictly between its bounds; a missing instant lies in the unbounded
window only. -/
def Contains (w : Window) : Option Timestamp → Prop
  | none => w.Unbounded
  | some t => (∀ a ∈ w.after, a < t) ∧ ∀ b ∈ w.before, t < b

instance (w : Window) : (t : Option Timestamp) → Decidable (w.Contains t)
  | none => inferInstanceAs (Decidable w.Unbounded)
  | some t => inferInstanceAs (Decidable ((∀ a ∈ w.after, a < t) ∧ ∀ b ∈ w.before, t < b))

end Window

/-! ## Predicates -/

/-- The demand that a field hold a value. -/
structure Predicate where
  /-- The field. -/
  field : Field
  /-- The value; a missing value is held by no record. -/
  value : Option Scalar
deriving DecidableEq, Repr

/-- Whether a record satisfies a predicate. -/
def Predicate.holds (p : Predicate) (r : Record) : Bool :=
  match r.get p.field, p.value with
  | some actual, some wanted =>
    if p.field = .date then actual == wanted else actual.render == wanted.render
  | _, _ => false

/-! ## Datasets -/

/-- The records of a log, in the order in which they were read. -/
structure Dataset where
  /-- The records. -/
  records : List Record := []
deriving DecidableEq, Repr

namespace Dataset

/-- The records in a window that satisfy every predicate. -/
def select (d : Dataset) (w : Window) (ps : List Predicate) : List Record :=
  d.records.filter fun r => decide (w.Contains r.timestamp) && ps.all (·.holds r)

/-- What the records hold in a field, those that hold nothing there left out. -/
def project (rs : List Record) (f : Field) : List Scalar := rs.filterMap (·.get f)

/-- What the selected records hold in a field. -/
def values (d : Dataset) (f : Field) (w : Window) (ps : List Predicate) : List Scalar :=
  project (d.select w ps) f

/-- There is no record at the given position. -/
structure OutOfRange where
  /-- The position. -/
  position : Int
deriving DecidableEq, Repr

/-- Whether the position is a signed number of 64 bits. -/
def OutOfRange.Fits (e : OutOfRange) : Prop :=
  -0x8000000000000000 ≤ e.position ∧ e.position < 0x8000000000000000

instance (e : OutOfRange) : Decidable e.Fits :=
  inferInstanceAs
    (Decidable (-0x8000000000000000 ≤ e.position ∧ e.position < 0x8000000000000000))

/-- The wording for a position without a record. -/
def OutOfRange.message (e : OutOfRange) : String :=
  if e.Fits then "tuple index out of range" else "cannot fit 'int' into an index-sized integer"

/-- The record at a position; a negative position counts from the end. -/
def get (d : Dataset) (position : Int) : Except OutOfRange Record :=
  let i := if position < 0 then d.records.length + position else position
  match if i < 0 then none else d.records[i.toNat]? with
  | some r => .ok r
  | none => .error ⟨position⟩

/-- A short description of a dataset. -/
def describe (d : Dataset) : String := s!"Dataset(records={d.records.length})"

end Dataset

end AccessLog
