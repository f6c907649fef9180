/-!
# Signed decimal numerals

A numeral is an optional sign followed by ASCII digits, at least one. Leading zeros are allowed and
count as digits, so one number has many numerals; the digits are kept with the value because a
numeral with too many of them is refused, whatever its value.
-/

namespace AccessLog.Text

/-- A sign and the digits behind it. -/
structure Numeral where
  /-- Whether the sign is a minus. -/
  negative : Bool
  /-- The ASCII digits, most significant first. -/
  digits : List Char
deriving DecidableEq, Repr

namespace Numeral

/-- Reads digits behind a sign that has been read already. -/
def ofDigits? (negative : Bool) (cs : List Char) : Option Numeral :=
  if cs ≠ [] ∧ cs.all Char.isDigit = true then some ⟨negative, cs⟩ else none

/-- Reads a numeral that makes up the whole text. -/
def read? : List Char → Option Numeral
  | '+' :: cs => ofDigits? false cs
  | '-' :: cs => ofDigits? true cs
  | cs => ofDigits? false cs

/-- The number that a numeral stands for. -/
def value (n : Numeral) : Int :=
  if n.negative then -(Nat.ofDigitChars 10 n.digits 0 : Int) else Nat.ofDigitChars 10 n.digits 0

/-- The most digits that a numeral may have. -/
def maxDigits : Nat := 4300

end Numeral

end AccessLog.Text
