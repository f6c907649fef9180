/-!
# Text cut at a separator

A text is cut at every occurrence of a separator, the occurrences found from the left and not
overlapping. `pieces` gives what stands between them, so that joining the pieces with the separator
gives the text back, and `eraseAll` gives the text without the occurrences.
-/

namespace AccessLog.Text

/-- The pieces of a text between the occurrences of `sep`. The number counts the characters of an
occurrence that are still to be passed over; a piece begins where it is zero. -/
def piecesFrom (sep : List Char) : Nat → List Char → List (List Char)
  | _, [] => [[]]
  | k + 1, _ :: cs => piecesFrom sep k cs
  | 0, c :: cs =>
    if sep.isPrefixOf (c :: cs) then [] :: piecesFrom sep (sep.length - 1) cs
    else match piecesFrom sep 0 cs with
      | [] => [[c]]
      | p :: ps => (c :: p) :: ps

/-- The pieces of a text between the occurrences of a separator that is not empty. -/
def pieces (sep cs : List Char) : List (List Char) := piecesFrom sep 0 cs

/-- The text without the occurrences of `sep`. -/
def eraseAll (sep cs : List Char) : List Char := (pieces sep cs).flatten

/-- Whether the text holds `part` as a run of neighbouring characters. -/
def occursIn (part : List Char) : List Char → Bool
  | [] => part.isEmpty
  | c :: cs => part.isPrefixOf (c :: cs) || occursIn part cs

/-- Passing over the rest of an occurrence is dropping as many characters. -/
theorem piecesFrom_eq_drop (sep : List Char) (k : Nat) (cs : List Char) :
    piecesFrom sep k cs = piecesFrom sep 0 (cs.drop k) := by
  induction cs generalizing k with
  | nil => cases k <;> simp [piecesFrom]
  | cons c cs ih => cases k with
    | zero => rfl
    | succ k => simpa [piecesFrom] using ih k

theorem occursIn_iff {part cs : List Char} :
    occursIn part cs = true ↔ ∃ before after, cs = before ++ (part ++ after) := by
  induction cs with
  | nil => simp [occursIn]
  | cons c cs ih =>
    simp only [occursIn, Bool.or_eq_true, List.isPrefixOf_iff_prefix, ih]
    constructor
    · rintro (⟨after, h⟩ | ⟨before, after, h⟩)
      · exact ⟨[], after, by simp [h]⟩
      · exact ⟨c :: before, after, by simp [h]⟩
    · rintro ⟨before, after, h⟩
      cases before with
      | nil => exact .inl ⟨after, by simpa using h.symm⟩
      | cons b before =>
        simp only [List.cons_append, List.cons.injEq] at h
        exact .inr ⟨before, after, h.2⟩

end AccessLog.Text
