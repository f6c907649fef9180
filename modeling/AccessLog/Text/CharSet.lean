/-!
# Character sets by ranges of code points

A property of characters is data: a list of closed ranges of code points, ascending and apart.
`CharSet` holds such a list, and membership asks whether one of the ranges covers the character.
The tables of this library are values of this type, each in the module named for its property.
They follow version 14 of the Unicode character database where the module names no other.
-/

namespace AccessLog.Text

/-- A set of characters, given by closed ranges of code points, ascending and apart. -/
structure CharSet where
  /-- The ranges, each by its first and its last code point. -/
  ranges : List (Nat × Nat)

namespace CharSet

/-- Whether one of the ranges covers the character. -/
def contains (s : CharSet) (c : Char) : Bool :=
  s.ranges.any fun r => r.1 ≤ c.toNat && c.toNat ≤ r.2

instance : Membership Char CharSet where
  mem s c := s.contains c = true

instance (c : Char) (s : CharSet) : Decidable (c ∈ s) :=
  inferInstanceAs (Decidable (s.contains c = true))

theorem mem_iff {c : Char} {s : CharSet} :
    c ∈ s ↔ ∃ r ∈ s.ranges, r.1 ≤ c.toNat ∧ c.toNat ≤ r.2 := by
  show s.contains c = true ↔ _
  simp [contains]

end CharSet

end AccessLog.Text
