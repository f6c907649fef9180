import AccessLog.Proofs.Text
import Mathlib.Data.List.Infix

/-!
# Joining what was cut

Cutting a text at a separator and joining with it undo one another. The pieces of a text, joined,
give the text back, whatever the separator (`intercalate_pieces`). Texts that are joined are the
pieces of the result if they do not hold the separator and this is a single character
(`pieces_intercalate`); a longer one can overlap itself where two texts meet. Separators at the
end of a text add empty pieces (`pieces_append_replicate`).
-/

namespace AccessLog.Text

/-! ## Pieces, joined -/

theorem piecesFrom_ne_nil (sep : List Char) (k : Nat) (cs : List Char) :
    piecesFrom sep k cs ≠ [] := by
  induction cs generalizing k with
  | nil => simp [piecesFrom]
  | cons c cs ih =>
    cases k with
    | succ k => exact ih k
    | zero =>
      rw [piecesFrom]
      split
      · exact List.cons_ne_nil _ _
      · split <;> exact List.cons_ne_nil _ _

/-- A character in front of the first piece stands in front of what is joined. -/
theorem intercalate_cons_head (sep : List Char) (c : Char) (p : List Char)
    (ps : List (List Char)) :
    sep.intercalate ((c :: p) :: ps) = c :: sep.intercalate (p :: ps) := by
  cases ps with
  | nil => simp
  | cons q qs => rw [List.intercalate_cons_cons, List.intercalate_cons_cons]; rfl

/-- **Joining the pieces of a text gives the text back.** -/
theorem intercalate_piecesFrom {sep : List Char} (hsep : sep ≠ []) (k : Nat) (cs : List Char) :
    sep.intercalate (piecesFrom sep k cs) = cs.drop k := by
  induction cs generalizing k with
  | nil => simp [piecesFrom]
  | cons c cs ih =>
    cases k with
    | succ k => exact ih k
    | zero =>
      rw [piecesFrom]
      split
      · -- the separator stands in front, and what is behind it is joined
        rename_i hprefix
        rw [List.intercalate_cons_of_ne_nil (piecesFrom_ne_nil sep _ cs), ih, List.nil_append,
          ← eq_append_drop_of_isPrefixOf hsep hprefix, List.drop_zero]
      · have hcs := ih 0
        cases hp : piecesFrom sep 0 cs with
        | nil => exact absurd hp (piecesFrom_ne_nil sep 0 cs)
        | cons p ps =>
          rw [hp] at hcs
          rw [intercalate_cons_head, hcs, List.drop_zero, List.drop_zero]

theorem intercalate_pieces {sep : List Char} (hsep : sep ≠ []) (cs : List Char) :
    sep.intercalate (pieces sep cs) = cs :=
  intercalate_piecesFrom hsep 0 cs

/-- No piece holds a separator of one character. -/
theorem not_mem_of_mem_pieces {c : Char} {cs p : List Char} (h : p ∈ pieces [c] cs) : c ∉ p :=
  fun hc => not_infix_of_mem_piecesFrom (List.cons_ne_nil c []) h
    ((List.singleton_infix_iff c p).mpr hc)

/-! ## Joined texts, cut -/

/-- **Texts joined by a separator that they do not hold are its pieces.** -/
theorem pieces_intercalate {c : Char} {fs : List (List Char)} (hne : fs ≠ [])
    (h : ∀ f ∈ fs, c ∉ f) : pieces [c] ([c].intercalate fs) = fs := by
  induction fs with
  | nil => exact absurd rfl hne
  | cons f fs ih =>
    obtain ⟨hf, hfs⟩ := List.forall_mem_cons.mp h
    cases fs with
    | nil => rw [List.intercalate_singleton, pieces_of_not_mem hf]
    | cons g fs =>
      rw [List.intercalate_cons_cons, List.append_assoc, List.singleton_append,
        pieces_append_cons hf, ih (List.cons_ne_nil g fs) hfs]

/-- A separator at the end joins an empty text. -/
theorem intercalate_concat_nil (c : Char) {fs : List (List Char)} (hne : fs ≠ []) :
    [c].intercalate (fs ++ [[]]) = [c].intercalate fs ++ [c] := by
  induction fs with
  | nil => exact absurd rfl hne
  | cons f fs ih =>
    cases fs with
    | nil => simp [List.intercalate_cons_cons]
    | cons g fs =>
      have hrest := ih (List.cons_ne_nil g fs)
      rw [List.cons_append] at hrest ⊢
      rw [List.cons_append, List.intercalate_cons_cons, hrest, List.intercalate_cons_cons,
        List.append_assoc, List.append_assoc, List.append_assoc]

theorem intercalate_append_replicate (c : Char) {fs : List (List Char)} (hne : fs ≠ []) (k : Nat) :
    [c].intercalate (fs ++ List.replicate k []) = [c].intercalate fs ++ List.replicate k c := by
  induction k with
  | zero => simp
  | succ k ih =>
    rw [List.replicate_succ', List.replicate_succ', ← List.append_assoc,
      intercalate_concat_nil c (by simp [hne]), ih, List.append_assoc]

/-- The last text ends what is joined. -/
theorem suffix_intercalate_concat (sep : List Char) (fs : List (List Char)) (f : List Char) :
    f <:+ sep.intercalate (fs ++ [f]) := by
  induction fs with
  | nil => simp
  | cons g fs ih =>
    rw [List.cons_append, List.intercalate_cons_of_ne_nil (by simp)]
    exact ih.trans (List.suffix_append _ _)

/-- Leaving out some of the texts that are joined leaves out what they give. -/
theorem intercalate_sublist (sep : List Char) {fs gs : List (List Char)} (h : fs.Sublist gs) :
    (sep.intercalate fs).Sublist (sep.intercalate gs) := by
  induction h with
  | slnil => exact List.Sublist.refl _
  | @cons fs gs g h ih =>
    cases gs with
    | nil => rw [List.sublist_nil.mp h]; exact List.nil_sublist _
    | cons g' gs =>
      rw [List.intercalate_cons_cons]
      exact ih.trans (List.sublist_append_right _ _)
  | @cons_cons fs gs g h ih =>
    cases gs with
    | nil => rw [List.sublist_nil.mp h]
    | cons g' gs =>
      rw [List.intercalate_cons_cons]
      cases fs with
      | nil =>
        rw [List.intercalate_singleton, List.append_assoc]
        exact List.sublist_append_left _ _
      | cons f fs =>
        rw [List.intercalate_cons_cons]
        exact List.Sublist.append (List.Sublist.refl _) ih

/-- **Separators at the end of a text add empty pieces.** -/
theorem pieces_append_replicate (c : Char) (cs : List Char) (k : Nat) :
    pieces [c] (cs ++ List.replicate k c) = pieces [c] cs ++ List.replicate k [] := by
  have hne : pieces [c] cs ≠ [] := piecesFrom_ne_nil [c] 0 cs
  have hjoined : cs ++ List.replicate k c
      = [c].intercalate (pieces [c] cs ++ List.replicate k []) := by
    rw [intercalate_append_replicate c hne, intercalate_pieces (List.cons_ne_nil c [])]
  rw [hjoined, pieces_intercalate (by simp [hne])]
  intro p hp
  rcases List.mem_append.mp hp with hp | hp
  · exact not_mem_of_mem_pieces hp
  · rw [List.eq_of_mem_replicate hp]
    exact List.not_mem_nil

end AccessLog.Text
