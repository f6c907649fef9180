import AccessLog.Text.CharSet

/-!
# Blank characters

White space in the wide sense: the characters with the Unicode property White_Space together with
the four information separators U+001C to U+001F. Timestamps are stripped of it at both ends, a run
of it in a date format stands for any run of it in the text, and a line that holds nothing else is
skipped.
-/

namespace AccessLog.Text

/-- White space and the four information separators. -/
def blanks : CharSet :=
  ⟨[(0x09, 0x0D), (0x1C, 0x20), (0x85, 0x85), (0xA0, 0xA0), (0x1680, 0x1680), (0x2000, 0x200A),
    (0x2028, 0x2029), (0x202F, 0x202F), (0x205F, 0x205F), (0x3000, 0x3000)]⟩

/-- Whether the character is white space or an information separator. -/
def isBlank (c : Char) : Bool := blanks.contains c

/-- The text without the longest end of it whose characters all satisfy `p`. -/
def dropTrailing {α : Type} (p : α → Bool) (l : List α) : List α :=
  (l.reverse.dropWhile p).reverse

/-- The text without the blanks at its two ends. -/
def strip (cs : List Char) : List Char := dropTrailing isBlank (cs.dropWhile isBlank)

/-- A blank text holds blanks only; the empty text is blank. -/
def allBlank (cs : List Char) : Bool := cs.all isBlank

@[simp] theorem dropTrailing_nil {α : Type} (p : α → Bool) : dropTrailing p [] = [] := rfl

theorem dropTrailing_concat {α : Type} (p : α → Bool) (l : List α) (a : α) :
    dropTrailing p (l ++ [a]) = if p a then dropTrailing p l else l ++ [a] := by
  by_cases h : p a <;> simp [dropTrailing, h]

end AccessLog.Text
