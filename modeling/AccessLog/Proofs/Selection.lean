import AccessLog.Reduction

/-!
# What a selection holds

A record is selected if it lies in the window and satisfies every predicate,
and a value is among the values of a field if a selected record holds it there
(`Dataset.mem_values`). Whether a predicate holds is a comparison of values: the
instants themselves for the date, the rendered forms for any other field.

The distinct values of a list are its values, each of them once
(`mem_distinct`, `nodup_distinct`).
-/

namespace AccessLog

/-! ## Distinct values -/

theorem mem_insertNew {seen : List Scalar} {u v : Scalar} :
    u ∈ insertNew seen v ↔ u ∈ seen ∨ u = v := by
  rw [insertNew]
  split
  · rename_i hv
    exact ⟨Or.inl, fun h => h.elim id (fun heq => heq ▸ hv)⟩
  · rw [List.mem_append, List.mem_singleton]

theorem nodup_insertNew {seen : List Scalar} (h : seen.Nodup) (v : Scalar) :
    (insertNew seen v).Nodup := by
  rw [insertNew]
  split
  · exact h
  · rename_i hv
    have hone : [v].Nodup := List.nodup_cons.mpr ⟨List.not_mem_nil, List.nodup_nil⟩
    refine List.nodup_append.mpr ⟨h, hone, fun a ha b hb heq => ?_⟩
    rw [List.mem_singleton] at hb
    exact hv (hb ▸ heq ▸ ha)

theorem mem_foldl_insertNew {u : Scalar} (vs seen : List Scalar) :
    u ∈ vs.foldl insertNew seen ↔ u ∈ seen ∨ u ∈ vs := by
  induction vs generalizing seen with
  | nil => simp
  | cons v vs ih => rw [List.foldl_cons, ih, mem_insertNew, List.mem_cons, or_assoc]

theorem nodup_foldl_insertNew (vs : List Scalar) {seen : List Scalar} (h : seen.Nodup) :
    (vs.foldl insertNew seen).Nodup := by
  induction vs generalizing seen with
  | nil => exact h
  | cons v vs ih => exact ih (nodup_insertNew h v)

/-- **The distinct values are the values.** -/
@[simp] theorem mem_distinct {u : Scalar} {vs : List Scalar} : u ∈ distinct vs ↔ u ∈ vs := by
  rw [distinct, mem_foldl_insertNew]
  simp

/-- **No distinct value comes twice.** -/
theorem nodup_distinct (vs : List Scalar) : (distinct vs).Nodup :=
  nodup_foldl_insertNew vs List.nodup_nil

/-! ## Predicates -/

namespace Predicate

/-- A date is demanded as an instant. -/
theorem holds_date {value : Option Scalar} {r : Record} :
    (⟨.date, value⟩ : Predicate).holds r = true
      ↔ ∃ t, r.timestamp = some t ∧ value = some (.instant t) := by
  rw [holds, Record.get]
  cases r.timestamp with
  | none => simp
  | some t =>
    cases value with
    | none => simp
    | some v =>
      show (Scalar.instant t == v) = true ↔ _
      rw [beq_iff_eq]
      constructor
      · rintro rfl
        exact ⟨t, rfl, rfl⟩
      · rintro ⟨t', ht, hv⟩
        cases ht
        cases hv
        rfl

/-- A value of any other field is demanded by its rendered form. -/
theorem holds_of_ne_date {f : Field} (hf : f ≠ .date) {wanted : Scalar} {r : Record} :
    (⟨f, some wanted⟩ : Predicate).holds r = true
      ↔ ∃ v, r.get f = some v ∧ v.render = wanted.render := by
  rw [holds]
  cases r.get f with
  | none => simp
  | some v => simp [hf]

/-- **A value may be replaced by another of the same rendered form.** -/
theorem holds_congr {f : Field} (hf : f ≠ .date) {u v : Scalar} (h : u.render = v.render)
    (r : Record) :
    (⟨f, some u⟩ : Predicate).holds r = (⟨f, some v⟩ : Predicate).holds r := by
  rw [Bool.eq_iff_iff, holds_of_ne_date hf, holds_of_ne_date hf, h]

end Predicate

/-! ## Selections -/

namespace Dataset

theorem mem_select {d : Dataset} {w : Window} {ps : List Predicate} {r : Record} :
    r ∈ d.select w ps
      ↔ r ∈ d.records ∧ w.Contains r.timestamp ∧ ∀ p ∈ ps, p.holds r = true := by
  rw [select, List.mem_filter, Bool.and_eq_true, decide_eq_true_eq, List.all_eq_true]

/-- **The values of a field** are what the selected records hold there. -/
theorem mem_values {d : Dataset} {f : Field} {w : Window} {ps : List Predicate} {v : Scalar} :
    v ∈ d.values f w ps
      ↔ ∃ r ∈ d.records, r.get f = some v ∧ w.Contains r.timestamp ∧
          ∀ p ∈ ps, p.holds r = true := by
  rw [values, project, List.mem_filterMap]
  constructor
  · rintro ⟨r, hr, hv⟩
    obtain ⟨hmem, hsel⟩ := mem_select.mp hr
    exact ⟨r, hmem, hv, hsel⟩
  · rintro ⟨r, hmem, hv, hsel⟩
    exact ⟨r, mem_select.mpr ⟨hmem, hsel⟩, hv⟩

/-- Each record has a value in a field or has none. -/
theorem length_project_add_countP (rs : List Record) (f : Field) :
    (project rs f).length + rs.countP (fun r => (r.get f).isNone) = rs.length := by
  rw [project, List.length_filterMap_eq_countP,
    List.length_eq_countP_add_countP (fun r : Record => (r.get f).isSome)]
  simp only [Bool.not_eq_true, Option.isSome_eq_false_iff, Bool.decide_eq_true]

/-- Predicates that hold of the same records select the same values. -/
theorem values_congr (d : Dataset) (f : Field) (w : Window) {p q : Predicate}
    (h : ∀ r, p.holds r = q.holds r) : d.values f w [p] = d.values f w [q] := by
  unfold values select
  simp only [List.all_cons, h]

end Dataset

end AccessLog
