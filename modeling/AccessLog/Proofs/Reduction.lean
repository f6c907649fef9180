import AccessLog.Archive
import AccessLog.Proofs.Predicate
import AccessLog.Proofs.Tally
import AccessLog.Proofs.Timestamp.Order
import Mathlib.Data.Finset.Card
import Mathlib.Data.Finset.Image

/-!
# Five ways to reduce the same values

The distinct values of a field, their number, the number of all values, the count of
each and the least one are found each in its own way. They agree on the values of every
selection (`Dataset.ReductionsAgree`, `reductions_agree`): the counts are for the
distinct values, they add up to the number of values, and the least instant is one of the
distinct values, before all others.

So the questions for a number give the size of the set that the question for the values
gives.
-/

namespace AccessLog

/-! ## The least instant -/

/-- Values that a date can have are instants. -/
theorem exists_instants {vs : List Scalar} (h : ∀ v ∈ vs, Field.date.Stores v) :
    ∃ ts : List Timestamp, vs = ts.map .instant := by
  induction vs with
  | nil => exact ⟨[], rfl⟩
  | cons v vs ih =>
    obtain ⟨ts, rfl⟩ := ih fun w hw => h w (List.mem_cons_of_mem v hw)
    cases h v List.mem_cons_self with
    | date t => exact ⟨t :: ts, rfl⟩

/-- Of the first two instants the earlier one stays. -/
theorem earliest_cons_cons (t u : Timestamp) (vs : List Scalar) :
    earliest (.instant t :: .instant u :: vs)
      = earliest (.instant (if u < t then u else t) :: vs) := by
  rw [earliest, earliest, List.foldlM_cons, Scalar.before]
  by_cases h : u < t
  · rw [decide_eq_true h, if_pos h]
    rfl
  · rw [decide_eq_false h, if_neg h]
    rfl

/-- **Instants have a least one**, and no other comes before it. -/
theorem exists_earliest_instants (t : Timestamp) (ts : List Timestamp) :
    ∃ l ∈ t :: ts, earliest ((t :: ts).map .instant) = .ok (some (.instant l)) ∧
      ∀ u ∈ t :: ts, ¬ u < l := by
  induction ts generalizing t with
  | nil =>
    refine ⟨t, List.mem_cons_self, rfl, fun u hu => ?_⟩
    rw [List.mem_singleton.mp hu]
    exact Timestamp.lt_irrefl t
  | cons u ts ih =>
    obtain ⟨l, hl, hearliest, hleast⟩ := ih (if u < t then u else t)
    have hhead := hleast _ List.mem_cons_self
    have htail : ∀ v ∈ ts, ¬ v < l := fun v hv => hleast v (List.mem_cons_of_mem _ hv)
    rw [List.map_cons, List.map_cons, earliest_cons_cons, ← List.map_cons]
    by_cases h : u < t
    · rw [if_pos h] at hl hearliest hhead ⊢
      refine ⟨l, List.mem_cons_of_mem t hl, hearliest, ?_⟩
      simp only [List.forall_mem_cons]
      exact ⟨fun ht => hhead (Timestamp.lt_trans h ht), hhead, htail⟩
    · rw [if_neg h] at hl hearliest hhead ⊢
      refine ⟨l, ?_, hearliest, ?_⟩
      · rcases List.mem_cons.mp hl with rfl | hl
        · exact List.mem_cons_self
        · exact List.mem_cons_of_mem t (List.mem_cons_of_mem u hl)
      · simp only [List.forall_mem_cons]
        refine ⟨hhead, fun hu => ?_, htail⟩
        rcases Timestamp.lt_or_eq_or_gt t u with htu | rfl | hut
        · exact hhead (Timestamp.lt_trans htu hu)
        · exact hhead hu
        · exact h hut

/-- **The least of some dates** is one of them that none comes before, unless there is no
date. -/
theorem earliest_eq {vs : List Scalar} (h : ∀ v ∈ vs, Field.date.Stores v) :
    vs = [] ∧ earliest vs = .ok none ∨
    ∃ t, earliest vs = .ok (some (.instant t)) ∧ .instant t ∈ vs ∧
      ∀ v ∈ vs, ∃ u, v = .instant u ∧ ¬ u < t := by
  obtain ⟨ts, rfl⟩ := exists_instants h
  cases ts with
  | nil => exact Or.inl ⟨rfl, rfl⟩
  | cons t ts =>
    obtain ⟨l, hl, hearliest, hleast⟩ := exists_earliest_instants t ts
    refine Or.inr ⟨l, hearliest, List.mem_map_of_mem hl, fun v hv => ?_⟩
    obtain ⟨u, hu, rfl⟩ := List.mem_map.mp hv
    exact ⟨u, rfl, hleast u hu⟩

/-! ## The distinct values as a set -/

/-- There are as many distinct values as the set of the values has members. -/
theorem length_distinct (vs : List Scalar) : (distinct vs).length = vs.toFinset.card := by
  rw [← List.toFinset_card_of_nodup (nodup_distinct vs)]
  exact congrArg Finset.card (Finset.ext fun v => by simp)

namespace Dataset

/-- The values of a field are of its kind. -/
theorem stores_of_mem_values {d : Dataset} {f : Field} {w : Window} {ps : List Predicate}
    {v : Scalar} (h : v ∈ d.values f w ps) : f.Stores v := by
  obtain ⟨r, -, hv, -⟩ := mem_values.mp h
  exact Record.stores_of_get hv

/-! ## The reductions -/

/-- **The reductions of a field agree**, `vs` being its distinct values in a selection and
`counts` how often each of them occurs. -/
structure ReductionsAgree (d : Dataset) (f : Field) (w : Window) (ps : List Predicate)
    (vs : List Scalar) (counts : Tally) : Prop where
  unique : d.aggregate f .unique w ps = .ok (.set vs)
  tally : d.aggregate f .tally w ps = .ok (.counts counts)
  nodup : vs.Nodup
  keys : counts.map Prod.fst = vs
  /-- A value is counted once for each selected record that holds it. -/
  entries : ∀ v n, (v, n) ∈ counts
    ↔ n = (d.select w ps).countP (fun r => r.get f = some v) ∧ 0 < n
  count : d.aggregate f .count w ps = .ok (.count counts.total)
  countDistinct : d.aggregate f .countDistinct w ps = .ok (.count counts.length)
  records : (d.select w ps).length
    = counts.total + (d.select w ps).countP (fun r => (r.get f).isNone)
  /-- No record lacks an address or a user. -/
  always : f = .ip ∨ f = .user → (d.select w ps).countP (fun r => (r.get f).isNone) = 0
  /-- The least of the distinct instants, unless there is none. -/
  earliest : f = .date →
    vs = [] ∧ d.aggregate f .earliest w ps = .ok (.single none) ∨
    ∃ t, d.aggregate f .earliest w ps = .ok (.single (some (.instant t))) ∧ .instant t ∈ vs ∧
      ∀ v ∈ vs, ∃ u, v = .instant u ∧ ¬ u < t

/-- The distinct values and the tally of a selection are what its reductions agree on. -/
theorem reductionsAgree_values (d : Dataset) (f : Field) (w : Window) (ps : List Predicate) :
    d.ReductionsAgree f w ps (distinct (d.values f w ps)) (AccessLog.tally (d.values f w ps)) where
  unique := rfl
  tally := rfl
  nodup := nodup_distinct _
  keys := keys_tally _
  entries v n := by
    rw [mem_tally, values, project, List.count_filterMap]
    simp only [beq_eq_decide]
  count := by
    rw [total_tally]
    rfl
  countDistinct := by
    rw [← List.length_map (f := Prod.fst), keys_tally]
    rfl
  records := by
    rw [total_tally]
    exact (length_project_add_countP _ f).symm
  always := by
    rintro (rfl | rfl) <;> exact List.countP_eq_zero.mpr fun r _ h => by cases h
  earliest := by
    rintro rfl
    rcases earliest_eq fun v hv => stores_of_mem_values hv with
      ⟨hnil, hnone⟩ | ⟨t, ht, hmem, hleast⟩
    · refine Or.inl ⟨by rw [hnil]; rfl, ?_⟩
      rw [aggregate, Reducer.apply, hnone]
      rfl
    · refine Or.inr ⟨t, ?_, mem_distinct.mpr hmem, fun v hv => hleast v (mem_distinct.mp hv)⟩
      rw [aggregate, Reducer.apply, ht]
      rfl

end Dataset

/-! ## The questions for a number -/

namespace Archive

variable (a : Archive) (f : Field) (w : Window) (ps : List Predicate)

/-- What is collected is a set, and what is counted is its size. -/
theorem countDistinct_eq_card : a.countDistinct f w ps = (a.collect f w ps).toFinset.card :=
  (List.toFinset_card_of_nodup (nodup_distinct _)).symm

/-- The users are counted among the selected records. -/
theorem userCount_eq_card :
    a.userCount w = ((a.dataset.select w []).map Record.user).toFinset.card := by
  have hvalues : a.dataset.values .user w []
      = ((a.dataset.select w []).map Record.user).map Scalar.text := by
    rw [List.map_map, ← List.filterMap_eq_map]
    rfl
  have himage (users : List String) :
      (users.map Scalar.text).toFinset = users.toFinset.image Scalar.text :=
    Finset.ext fun v => by simp
  have htext : Function.Injective Scalar.text := fun _ _ => Scalar.text.inj
  show (distinct (a.dataset.values .user w [])).length = _
  rw [length_distinct, hvalues, himage, Finset.card_image_of_injective _ htext]

end Archive

/-- **The reductions agree.** In every selection the reductions of a field describe the same
values. So each question for a number of different values gives the size of the set that the
question for these values gives; the users of a window, which no question gives, are those of
the records in it. -/
theorem reductions_agree :
    (∀ (d : Dataset) (f : Field) (w : Window) (ps : List Predicate),
      ∃ vs counts, d.ReductionsAgree f w ps vs counts) ∧
    ∀ (a : Archive) (w : Window),
      a.ipCount w = (a.ips w).toFinset.card ∧
      a.userCount w = ((a.dataset.select w []).map Record.user).toFinset.card ∧
      a.userCount {} = a.allUsers.toFinset.card ∧
      (∀ user, a.userEventCount user w = (a.eventsOfUser user w).toFinset.card) ∧
      a.eventCount w = (a.events w).toFinset.card :=
  ⟨fun d f w ps => ⟨_, _, d.reductionsAgree_values f w ps⟩, fun a w =>
    ⟨a.countDistinct_eq_card .ip w [], a.userCount_eq_card w, a.countDistinct_eq_card .user {} [],
      fun user => a.countDistinct_eq_card .event w [Archive.byUser user],
      a.countDistinct_eq_card .event w []⟩⟩

end AccessLog
