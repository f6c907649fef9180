import AccessLog.Archive
import AccessLog.Proofs.Selection
import AccessLog.Proofs.Text

/-!
# A predicate demands a value

A predicate compares rendered forms, and two different scalars can be rendered
alike: the text of a number is not the number. Within one field this does not
happen, because a field stores scalars of one kind only (`Field.Stores`), and two
of a kind that are rendered alike are the same (`Field.Stores.eq_of_render`). So a
predicate on a value that its field can store holds of exactly the records with
this value (`Predicate.holds_iff_get_eq`), and so does one on its rendered form
(`Predicate.holds_exactly`). To demand a value is to pick it out among the values
of the field (`Dataset.values_concat`).

The rendered form of an instant leaves out its microseconds, so that instants
rendered alike can differ. The date is therefore compared as an instant, and no
text is one.
-/

namespace AccessLog

/-! ## What a field stores -/

/-- **The kind of scalar that a field stores.** -/
inductive Field.Stores : Field → Scalar → Prop
  | ip (s : String) : Stores .ip (.text s)
  | user (s : String) : Stores .user (.text s)
  | date (t : Timestamp) : Stores .date (.instant t)
  | event (e : Event) : Stores .event (.event e)
  | status (s : Status) : Stores .status (.status s)
  | task (n : Int) : Stores .task (.number n)

/-- What a record holds in a field is of the kind of the field. -/
theorem Record.stores_of_get {r : Record} {f : Field} {v : Scalar} (h : r.get f = some v) :
    f.Stores v := by
  cases f with
  | ip => cases h; exact .ip _
  | user => cases h; exact .user _
  | date => obtain ⟨t, -, rfl⟩ := Option.map_eq_some_iff.mp h; exact .date t
  | event => obtain ⟨e, -, rfl⟩ := Option.map_eq_some_iff.mp h; exact .event e
  | status => obtain ⟨s, -, rfl⟩ := Option.map_eq_some_iff.mp h; exact .status s
  | task => obtain ⟨n, -, rfl⟩ := Option.map_eq_some_iff.mp h; exact .task n

theorem Event.eq_of_name : ∀ {d e : Event}, d.name = e.name → d = e := by
  intro d e h
  cases d <;> cases e <;> first | rfl | exact absurd h (by decide)

theorem Status.eq_of_name : ∀ {s t : Status}, s.name = t.name → s = t := by
  intro s t h
  cases s <;> cases t <;> first | rfl | exact absurd h (by decide)

/-- Numbers with the same decimal form are the same. -/
theorem Text.eq_of_toString {m n : Int} (h : toString m = toString n) : m = n := by
  obtain ⟨k, hk, rfl⟩ := Numeral.exists_read?_toString m
  obtain ⟨l, hl, rfl⟩ := Numeral.exists_read?_toString n
  rw [h, hl] at hk
  rw [Option.some.inj hk]

/-- **Scalars of one kind that are rendered alike are the same**, instants aside:
their rendered form leaves out the microseconds. -/
theorem Field.Stores.eq_of_render {f : Field} {u v : Scalar} (hu : f.Stores u) (hv : f.Stores v)
    (hf : f ≠ .date) (h : u.render = v.render) : u = v := by
  cases hu with
  | ip s => cases hv; exact congrArg Scalar.text h
  | user s => cases hv; exact congrArg Scalar.text h
  | date t => exact absurd rfl hf
  | event e => cases hv; exact congrArg Scalar.event (Event.eq_of_name h)
  | status s => cases hv; exact congrArg Scalar.status (Status.eq_of_name h)
  | task n => cases hv; exact congrArg Scalar.number (Text.eq_of_toString h)

/-! ## Predicates -/

/-- **A predicate holds of the records with its value**, if the field can store
it. -/
theorem Predicate.holds_iff_get_eq {f : Field} {v : Scalar} (hv : f.Stores v) {r : Record} :
    (⟨f, some v⟩ : Predicate).holds r = true ↔ r.get f = some v := by
  by_cases hf : f = .date
  · subst hf
    rw [holds_date, Record.get, Option.map_eq_some_iff]
    exact exists_congr fun t => and_congr_right fun _ => by rw [Option.some.injEq, eq_comm]
  · rw [holds_of_ne_date hf]
    constructor
    · rintro ⟨u, hu, hrender⟩
      rw [hu, (Record.stores_of_get hu).eq_of_render hv hf hrender]
    · exact fun h => ⟨v, h, rfl⟩

/-- **A value can be demanded by its rendered form**, in any field but the date. -/
theorem Predicate.holds_text_render {f : Field} (hf : f ≠ .date) (v : Scalar) (r : Record) :
    (⟨f, some (.text v.render)⟩ : Predicate).holds r = (⟨f, some v⟩ : Predicate).holds r := by
  have hrender : (Scalar.text v.render).render = v.render := rfl
  exact holds_congr hf hrender r

/-- No text is a date, not even the rendered form of one. -/
theorem Predicate.holds_date_text (s : String) (r : Record) :
    (⟨.date, some (.text s)⟩ : Predicate).holds r = false := by
  rw [Bool.eq_false_iff, Ne, holds_date]
  rintro ⟨t, -, hvalue⟩
  cases hvalue

/-- **A predicate demands the value itself.** In any field but the date, a record satisfies a
predicate on a value that the field can store, or on the rendered form of this value, exactly if
it has the value there. It satisfies a predicate on a date exactly if it has this very instant,
microseconds included, and no predicate on the date whose value is a text. -/
theorem Predicate.holds_exactly (r : Record) :
    (∀ (f : Field) (v : Scalar), f ≠ .date → f.Stores v →
      ((⟨f, some v⟩ : Predicate).holds r = true ↔ r.get f = some v) ∧
      ((⟨f, some (.text v.render)⟩ : Predicate).holds r = true ↔ r.get f = some v)) ∧
    (∀ t, (⟨.date, some (.instant t)⟩ : Predicate).holds r = true ↔ r.timestamp = some t) ∧
    ∀ s, (⟨.date, some (.text s)⟩ : Predicate).holds r = false := by
  refine ⟨fun f v hf hv => ?_, fun t => ?_, fun s => holds_date_text s r⟩
  · rw [holds_text_render hf]
    exact ⟨holds_iff_get_eq hv, holds_iff_get_eq hv⟩
  · rw [holds_iff_get_eq (.date t), Record.get, Option.map_eq_some_iff]
    simp

/-- A task below zero, a status that is missing, and an instant with microseconds. -/
theorem Predicate.holds_exactly_odd_record :
    let t : Timestamp := .mk 2020 1 1 9 5 0 7
    let r : Record := ⟨"", "ann", some t, some .solveTask, some (-18), none⟩
    Field.task ≠ .date ∧ Field.task.Stores (.number (-18)) ∧
      (⟨.task, some (.number (-18))⟩ : Predicate).holds r = true ∧
      (⟨.task, some (.text "-18")⟩ : Predicate).holds r = true ∧
      (⟨.status, some (.text "OK")⟩ : Predicate).holds r = false ∧
      (⟨.date, some (.instant t)⟩ : Predicate).holds r = true ∧
      (⟨.date, some (.instant (.mk 2020 1 1 9 5 0 0))⟩ : Predicate).holds r = false ∧
      (⟨.date, some (.text t.logForm)⟩ : Predicate).holds r = false := by
  intro t r
  obtain ⟨hvalues, hdates, htexts⟩ := holds_exactly r
  have htask : Field.task.Stores (.number (-18)) := .task (-18)
  obtain ⟨hvalue, htext⟩ := hvalues .task (.number (-18)) (by decide) htask
  obtain ⟨-, hstatus⟩ := hvalues .status (.status .ok) (by decide) (.status .ok)
  refine ⟨by decide, htask, hvalue.mpr rfl, htext.mpr rfl, Bool.eq_false_iff.mpr fun h => ?_,
    (hdates t).mpr rfl, Bool.eq_false_iff.mpr fun h => ?_, htexts t.logForm⟩
  · cases hstatus.mp h
  · exact absurd ((hdates _).mp h) (by decide)

/-- A user, an address or an event is demanded as a value that its field can store. -/
theorem Archive.byUser_holds_iff {user : String} {r : Record} :
    (byUser (some (.text user))).holds r = true ↔ r.user = user := by
  rw [byUser, Predicate.holds_iff_get_eq (.user user)]
  simp [Record.get]

theorem Archive.byIp_holds_iff {ip : String} {r : Record} :
    (byIp (some (.text ip))).holds r = true ↔ r.ip = ip := by
  rw [byIp, Predicate.holds_iff_get_eq (.ip ip)]
  simp [Record.get]

theorem Archive.onEvent_holds_iff {e : Event} {r : Record} :
    (onEvent e).holds r = true ↔ r.event = some e := by
  rw [onEvent, byEvent, Predicate.holds_iff_get_eq (.event e)]
  simp [Record.get]

namespace Dataset

variable (d : Dataset) (w : Window) (ps : List Predicate)

/-- One more predicate selects among what is selected. -/
theorem select_concat (p : Predicate) :
    d.select w (ps ++ [p]) = (d.select w ps).filter p.holds := by
  unfold select
  rw [List.filter_filter]
  refine List.filter_congr fun r _ => ?_
  rw [List.all_append, List.all_cons, List.all_nil, Bool.and_true, ← Bool.and_assoc, Bool.and_comm]

/-- **To demand a value of a field is to pick it out** among the values there. -/
theorem values_concat {f : Field} {v : Scalar} (hv : f.Stores v) :
    d.values f w (ps ++ [⟨f, some v⟩]) = (d.values f w ps).filter (· == v) := by
  rw [values, values, select_concat, project, project, List.filterMap_filter,
    List.filter_filterMap]
  refine List.filterMap_congr fun r _ => ?_
  have hholds : (⟨f, some v⟩ : Predicate).holds r = true ↔ _ := Predicate.holds_iff_get_eq hv
  cases hr : r.get f with
  | none => simp
  | some u =>
    rw [hr, Option.some.injEq] at hholds
    simp only [hholds, Option.filter_some, beq_iff_eq]

/-- How many values are there with one demanded. -/
theorem length_values_concat {f : Field} {v : Scalar} (hv : f.Stores v) :
    (d.values f w (ps ++ [⟨f, some v⟩])).length = (d.values f w ps).count v := by
  rw [values_concat d w ps hv, List.count_eq_length_filter]

/-- Where every selected record holds something in a field, there are as many
values as records. -/
theorem length_values {f : Field} (h : ∀ r ∈ d.select w ps, (r.get f).isSome) :
    (d.values f w ps).length = (d.select w ps).length := by
  rw [values, project, List.length_filterMap_eq_countP, List.countP_eq_length]
  exact h

end Dataset

end AccessLog
