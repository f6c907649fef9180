import AccessLog.Selection

/-!
# Reducing values to an answer

The values that a selection yields are reduced to an answer in one of five ways: the distinct
values, their number, the number of all values, the number of occurrences of each, or the least
one. The first four work on any values. The least is found by comparing every later value with the
least so far, and only texts, numbers and instants compare, each with their own kind.
-/

namespace AccessLog

/-! ## Distinct values and their counts -/

/-- Adds a value that the list does not hold yet to its end. -/
def insertNew (seen : List Scalar) (v : Scalar) : List Scalar :=
  if v ∈ seen then seen else seen ++ [v]

/-- The distinct values, in the order in which they come up. -/
def distinct (vs : List Scalar) : List Scalar := vs.foldl insertNew []

/-- How often each of some values occurs. -/
abbrev Tally := List (Scalar × Nat)

/-- Counts one more occurrence of a value. -/
def Tally.bump : Tally → Scalar → Tally
  | [], v => [(v, 1)]
  | (u, n) :: rest, v => if u = v then (u, n + 1) :: rest else (u, n) :: Tally.bump rest v

/-- How often each value occurs, in the order in which the values come up. -/
def tally (vs : List Scalar) : Tally := vs.foldl Tally.bump []

/-! ## The least value -/

/-- Two values that have no order. -/
structure Incomparable where
  /-- The value that was to be compared. -/
  value : Scalar
  /-- The least value until then. -/
  least : Scalar
deriving DecidableEq, Repr

/-- The wording for two values that have no order. -/
def Incomparable.message (i : Incomparable) : String :=
  s!"'<' not supported between instances of '{i.value.kind}' and '{i.least.kind}'"

/-- Whether the first value comes before the second. -/
def Scalar.before (u v : Scalar) : Except Incomparable Bool :=
  match u, v with
  | .text s, .text t => .ok (decide (s < t))
  | .number m, .number n => .ok (decide (m < n))
  | .instant s, .instant t => .ok (decide (s < t))
  | _, _ => .error ⟨u, v⟩

/-- The least value, the first of equal ones; none if there are no values. -/
def earliest : List Scalar → Except Incomparable (Option Scalar)
  | [] => .ok none
  | v :: vs => some <$> vs.foldlM (fun least u => do
      return if ← u.before least then u else least) v

/-! ## Answers -/

/-- What reduced values are. -/
inductive Answer where
  /-- The distinct values. -/
  | set (vs : List Scalar)
  /-- A number of values. -/
  | count (n : Nat)
  /-- One value, or none. -/
  | single (v : Option Scalar)
  /-- The values and how often each occurs. -/
  | counts (t : Tally)
deriving DecidableEq, Repr

/-- The ways to reduce values. -/
inductive Reducer where
  /-- To the distinct values. -/
  | unique
  /-- To the number of distinct values. -/
  | countDistinct
  /-- To the number of values. -/
  | count
  /-- To the least value. -/
  | earliest
  /-- To the number of occurrences of each value. -/
  | tally
deriving DecidableEq, Repr

/-- Reduces values. -/
def Reducer.apply (vs : List Scalar) : Reducer → Except Incomparable Answer
  | .unique => .ok (.set (distinct vs))
  | .countDistinct => .ok (.count (distinct vs).length)
  | .count => .ok (.count vs.length)
  | .earliest => .single <$> AccessLog.earliest vs
  | .tally => .ok (.counts (AccessLog.tally vs))

/-- What the selected records hold in a field, reduced. -/
def Dataset.aggregate (d : Dataset) (f : Field) (r : Reducer) (w : Window) (ps : List Predicate) :
    Except Incomparable Answer :=
  r.apply (d.values f w ps)

end AccessLog
