import AccessLog.Timestamp.Basic
import Mathlib.Data.List.Lex
import Mathlib.Order.Defs.LinearOrder

/-!
# Instants are ordered

Timestamps are compared by their parts, and the parts tell them apart. So of two
instants either one comes before the other or they are one
(`Timestamp.lt_or_eq_or_gt`), and never two of the three
(`Timestamp.lt_irrefl`, `Timestamp.lt_asymm`).
-/

namespace AccessLog.Timestamp

variable {s t : Timestamp}

theorem lt_iff : s < t ↔ s.parts < t.parts := Iff.rfl

/-- The parts tell instants apart. -/
theorem parts_injective : Function.Injective parts := by
  intro s t h
  simp only [parts, List.cons.injEq, and_true] at h
  obtain ⟨hyear, hmonth, hday, hhour, hminute, hsecond, hmicro⟩ := h
  exact Timestamp.ext hyear hmonth hday hhour hminute hsecond hmicro

theorem lt_irrefl (t : Timestamp) : ¬ t < t := List.lt_irrefl t.parts

theorem ne_of_lt (h : s < t) : s ≠ t := fun heq => lt_irrefl t (heq ▸ h)

theorem lt_asymm (h : s < t) : ¬ t < s := List.lt_asymm (lt_iff.mp h)

theorem lt_trans {r s t : Timestamp} (hrs : r < s) (hst : s < t) : r < t :=
  List.lt_trans (lt_iff.mp hrs) (lt_iff.mp hst)

theorem lt_or_eq_or_gt (s t : Timestamp) : s < t ∨ s = t ∨ t < s := by
  rcases lt_trichotomy s.parts t.parts with h | h | h
  · exact Or.inl h
  · exact Or.inr (Or.inl (parts_injective h))
  · exact Or.inr (Or.inr h)

end AccessLog.Timestamp
