import AccessLog.Console.Toolkit
import AccessLog.Proofs.Command.Running
import AccessLog.Proofs.Reduction
import AccessLog.Proofs.Timestamp.Forms
import AccessLog.Proofs.WellFormed
import Mathlib.Data.List.Perm.Basic
import Mathlib.Data.Prod.Lex

/-!
# What is printed of an answer

An answer is printed value by value, each in its rendered form on a line of its own.
Nothing is lost or doubled by that and no value takes up two lines: values of one field
that a log gives are told apart by their rendered forms, and these hold no line ending
(`Record.WellFormed.render_no_ending`). They are printed in order (`Printout`). Instants
are put in order by one form and printed in another, and the order of the first is that
of the instants (`Timestamp.sortForm_lt_iff`).
-/

namespace AccessLog

/-! ## Rendered forms -/

/-- Values of a field whose records are without microseconds are told apart by their
rendered forms. -/
theorem Field.Stores.render_inj {f : Field} {u v : Scalar} (hu : f.Stores u) (hv : f.Stores v)
    (hmicro : ∀ t, (u = .instant t ∨ v = .instant t) → t.micro = 0) (h : u.render = v.render) :
    u = v := by
  by_cases hf : f = .date
  · subst hf
    cases hu with
    | date s =>
      cases hv with
      | date t =>
        have hs := hmicro s (Or.inl rfl)
        have ht := hmicro t (Or.inr rfl)
        exact congrArg Scalar.instant (Timestamp.eq_of_logForm h (hs.trans ht.symm))
  · exact hu.eq_of_render hv hf h

/-- **What a log gives is rendered without a line ending.** -/
theorem Record.WellFormed.render_no_ending {s : Settings} {r : Record} (h : r.WellFormed s)
    {f : Field} {v : Scalar} (hv : r.get f = some v) :
    '\r' ∉ v.render.toList ∧ '\n' ∉ v.render.toList := by
  cases f with
  | ip => cases hv; exact ⟨h.ip.no_return, h.ip.no_feed⟩
  | user => cases hv; exact ⟨h.user.no_return, h.user.no_feed⟩
  | date =>
    obtain ⟨t, -, rfl⟩ := Option.map_eq_some_iff.mp hv
    exact ⟨fun hmem => absurd (Timestamp.mem_logForm hmem) (by decide),
      fun hmem => absurd (Timestamp.mem_logForm hmem) (by decide)⟩
  | event =>
    obtain ⟨e, -, rfl⟩ := Option.map_eq_some_iff.mp hv
    cases e <;> decide
  | status =>
    obtain ⟨s, -, rfl⟩ := Option.map_eq_some_iff.mp hv
    cases s <;> decide
  | task =>
    obtain ⟨n, -, rfl⟩ := Option.map_eq_some_iff.mp hv
    obtain ⟨k, hk, -⟩ := Text.Numeral.exists_read?_toString n
    exact ⟨fun hmem => absurd (Text.Numeral.isDigit_or_sign_of_read? hk hmem) (by decide),
      fun hmem => absurd (Text.Numeral.isDigit_or_sign_of_read? hk hmem) (by decide)⟩

namespace Command

/-! ## The order of printing -/

/-- The order of printing is the order of the keys. -/
theorem printedBefore_iff {u v : Scalar} :
    printedBefore u v = true ↔ toLex (sortKey u) ≤ toLex (sortKey v) := by
  rw [Prod.Lex.toLex_le_toLex, printedBefore]
  simp

theorem pairwise_mergeSort_printedBefore (vs : List Scalar) :
    (vs.mergeSort printedBefore).Pairwise fun u v => printedBefore u v = true := by
  refine List.pairwise_mergeSort (fun u v w huv hvw => ?_) (fun u v => ?_) vs
  · rw [printedBefore_iff] at huv hvw ⊢
    exact huv.trans hvw
  · rw [Bool.or_eq_true, printedBefore_iff, printedBefore_iff]
    exact le_total _ _

/-- Instants are printed in their order. -/
theorem printedBefore_instant_iff {s t : Timestamp} :
    printedBefore (.instant s) (.instant t) = true ↔ ¬ t < s := by
  rw [printedBefore_iff, Prod.Lex.toLex_le_toLex, ← Timestamp.sortForm_lt_iff, not_lt]
  show 0 < 0 ∨ 0 = 0 ∧ s.sortForm ≤ t.sortForm ↔ s.sortForm ≤ t.sortForm
  simp only [lt_self_iff_false, false_or, true_and]

/-- Other values of a field are printed in the order of their rendered forms. -/
theorem printedBefore_iff_render_le {f : Field} (hf : f ≠ .date) {u v : Scalar}
    (hu : f.Stores u) (hv : f.Stores v) : printedBefore u v = true ↔ u.render ≤ v.render := by
  have hkey : ∀ {w : Scalar}, f.Stores w → sortKey w = (1, w.render) := fun hw => by
    cases hw with
    | date t => exact absurd rfl hf
    | _ => rfl
  rw [printedBefore_iff, Prod.Lex.toLex_le_toLex, hkey hu, hkey hv]
  simp

/-- **Different instants are sorted chronologically**, by their microseconds too. -/
theorem exists_sorted_instants {ts : List Timestamp} (h : ts.Nodup) :
    ∃ us : List Timestamp, us.Perm ts ∧ us.Pairwise (· < ·) ∧
      (ts.map Scalar.instant).mergeSort printedBefore = us.map .instant := by
  let before := fun s t : Timestamp => printedBefore (.instant s) (.instant t)
  have hperm := List.mergeSort_perm ts before
  have hsorted : (ts.map Scalar.instant).mergeSort printedBefore
      = (ts.mergeSort before).map .instant :=
    (List.map_mergeSort (f := Scalar.instant) fun _ _ _ _ => rfl).symm
  refine ⟨ts.mergeSort before, hperm, ?_, hsorted⟩
  have hpairwise := pairwise_mergeSort_printedBefore (ts.map .instant)
  rw [hsorted, List.pairwise_map] at hpairwise
  refine (hpairwise.and (hperm.nodup_iff.mpr h)).imp fun {s t} hst => ?_
  rcases Timestamp.lt_or_eq_or_gt s t with hlt | heq | hgt
  · exact hlt
  · exact absurd heq hst.2
  · exact absurd hgt (printedBefore_instant_iff.mp hst.1)

/-- **Different values of another field are sorted by their texts.** -/
theorem pairwise_render_mergeSort {f : Field} (hf : f ≠ .date) {vs : List Scalar} (h : vs.Nodup)
    (hstores : ∀ v ∈ vs, f.Stores v) :
    ((vs.mergeSort printedBefore).map Scalar.render).Pairwise (· < ·) := by
  have hperm := List.mergeSort_perm vs printedBefore
  have hpairwise := (pairwise_mergeSort_printedBefore vs).and (hperm.nodup_iff.mpr h)
  refine List.pairwise_map.mpr (hpairwise.imp_of_mem fun {u v} hu hv huv => ?_)
  have hu := hstores u (hperm.mem_iff.mp hu)
  have hv := hstores v (hperm.mem_iff.mp hv)
  refine lt_of_le_of_ne ((printedBefore_iff_render_le hf hu hv).mp huv.1) fun heq => ?_
  exact huv.2 (hu.eq_of_render hv hf heq)

/-! ## Printouts -/

/-- **A printout of the values of a field**: `us` are the values one by one in the order in
which they are printed. -/
structure Printout (f : Field) (vs us : List Scalar) : Prop where
  perm : us.Perm vs
  texts_nodup : (us.map Scalar.render).Nodup
  no_ending : ∀ u ∈ us, '\r' ∉ u.render.toList ∧ '\n' ∉ u.render.toList
  chronological : f = .date → ∃ ts : List Timestamp, us = ts.map .instant ∧ ts.Pairwise (· < ·)
  alphabetical : f ≠ .date → (us.map Scalar.render).Pairwise (· < ·)

/-- **The distinct values that records of a log hold in a field are printed one by one.** -/
theorem printout_mergeSort {s : Settings} (hs : s.dateFormat = Timestamp.logFormat) {f : Field}
    {vs : List Scalar} (hnodup : vs.Nodup)
    (hvs : ∀ v ∈ vs, ∃ r : Record, r.WellFormed s ∧ r.get f = some v) :
    Printout f vs (vs.mergeSort printedBefore) := by
  have hperm := List.mergeSort_perm vs printedBefore
  have hstores : ∀ v ∈ vs, f.Stores v := fun v hv => by
    obtain ⟨r, -, hget⟩ := hvs v hv
    exact Record.stores_of_get hget
  have hmicro : ∀ t, .instant t ∈ vs → t.micro = 0 := fun t ht => by
    obtain ⟨r, hr, hget⟩ := hvs _ ht
    cases hstores _ ht
    obtain ⟨t', ht', heq⟩ := Option.map_eq_some_iff.mp hget
    cases heq
    exact hr.no_micro hs t ht'
  have htexts : ((vs.mergeSort printedBefore).map Scalar.render).Nodup := by
    refine List.Nodup.map_on (fun u hu v hv h => ?_) (hperm.nodup_iff.mpr hnodup)
    have hu := hperm.mem_iff.mp hu
    have hv := hperm.mem_iff.mp hv
    refine (hstores u hu).render_inj (hstores v hv) (fun t ht => hmicro t ?_) h
    rcases ht with rfl | rfl <;> assumption
  constructor
  case perm => exact hperm
  case texts_nodup => exact htexts
  case no_ending =>
    intro u hu
    obtain ⟨r, hr, hget⟩ := hvs u (hperm.mem_iff.mp hu)
    exact hr.render_no_ending hget
  case chronological =>
    rintro rfl
    obtain ⟨ts, rfl⟩ := exists_instants hstores
    obtain ⟨us, -, hpairwise, hus⟩ := exists_sorted_instants (hnodup.of_map _)
    exact ⟨us, hus, hpairwise⟩
  case alphabetical =>
    intro hf
    exact pairwise_render_mergeSort hf hnodup hstores

/-! ## Answers -/

/-- An answer holds what some record holds in the target. -/
theorem exists_record_of_mem_execute {d : Dataset} {strict : Bool} {text : String}
    {vs : List Scalar} {ws : List DateWarning} (h : d.execute strict text = .ok (vs, ws)) :
    ∃ q, Query.read strict text = .ok q ∧ vs.Nodup ∧
      ∀ v ∈ vs, ∃ r ∈ d.records, r.get q.target = some v := by
  rw [Dataset.execute] at h
  cases hq : Query.read strict text with
  | error m => rw [hq] at h; cases h
  | ok q =>
    rw [hq] at h
    cases h
    refine ⟨q, rfl, nodup_distinct _, fun v hv => ?_⟩
    obtain ⟨r, hr, hget, -⟩ := Dataset.mem_values.mp (mem_distinct.mp hv)
    exact ⟨r, hr, hget⟩

/-- **What is printed of an answer.** Instants, however many and with whatever
microseconds, are put in chronological order. Let a query text be accepted and its answer
not be empty, where the directory is read. Then the answer is printed value by value, each
value on a line, and nothing else: each value once, in distinct texts without line endings,
instants in chronological order and other values in the order of their texts. -/
theorem run_execute_printout :
    (∀ ts : List Timestamp, ts.Nodup → ∃ us : List Timestamp, us.Perm ts ∧ us.Pairwise (· < ·) ∧
      (ts.map Scalar.instant).mergeSort printedBefore = us.map .instant) ∧
    ∀ {kit : Toolkit} {look : String → Place} {args : List String} {src : Source} {query : String}
      {strict : Bool} {p : Progress} {vs : List Scalar} {ws : List DateWarning},
      kit.call kit.readDate look args = .command src (.execute query strict) →
      Loads kit.codecs look src p → p.dataset.execute strict query = .ok (vs, ws) → vs ≠ [] →
      ∃ q us, Query.read strict query = .ok q ∧ Printout q.target vs us ∧
        runJob kit.codecs look src (.execute query strict) =
          { prints := us.map fun u => .line u.render,
            log := shown src.verbose p.journal ++ ws.map (.badDate query) } ∧
        kit.run look args =
          { output := String.join (us.map fun u => kit.echo u.render),
            log := shown src.verbose p.journal ++ ws.map (.badDate query) } := by
  refine ⟨fun ts hts => exists_sorted_instants hts, ?_⟩
  intro kit look args src query strict p vs ws hcall hp hexecute hne
  obtain ⟨q, hq, hnodup, hvs⟩ := exists_record_of_mem_execute hexecute
  have hwell : ∀ v ∈ vs, ∃ r : Record,
      r.WellFormed (src.settings kit.codecs) ∧ r.get q.target = some v := by
    intro v hv
    obtain ⟨r, hr, hget⟩ := hvs v hv
    obtain ⟨line, cs, hline, hrecord⟩ := Ingestion.exists_line_of_mem_records hp.read hr
    exact ⟨r, Line.wellFormed_of_record? hline hrecord, hget⟩
  have hjob : runJob kit.codecs look src (.execute query strict) =
      { prints := (vs.mergeSort printedBefore).map fun u => .line u.render,
        log := shown src.verbose p.journal ++ ws.map (.badDate query) } := by
    have hempty : vs.isEmpty = false := List.isEmpty_eq_false_iff.mpr hne
    have hperform : perform p (.execute query strict) =
        { prints := (printed vs).map .line, log := ws.map (.badDate query) } := by
      rw [perform, execute, hexecute]
      simp only [hempty, Bool.false_eq_true, if_false]
    rw [runJob_of_loads hp, hperform, printed, List.map_map]
    rfl
  refine ⟨q, _, hq, printout_mergeSort (src.dateFormat_settings kit.codecs) hnodup hwell, hjob, ?_⟩
  rw [Toolkit.run_of_call hcall, Job.map, hjob, Toolkit.write]
  have hlines := kit.print_lines { log := shown src.verbose p.journal ++ ws.map (.badDate query) }
    (printed vs)
  rw [printed, List.map_map, List.map_map] at hlines
  refine hlines.trans ?_
  rw [Outcome.addOutput, String.empty_append]
  rfl

/-- The dates of two records. The earlier one is printed first, although its text comes
behind the other. -/
theorem run_execute_printout_dates :
    let bytes := fun text : String => text.toList.map (fun c => c.toNat.toUInt8)
    let f : SourceFile := ⟨"a.log", bytes ("10.0.0.1\tann\t10.1.2020 0:0:0\tLOGIN\tOK\n" ++
      "10.0.0.1\tbob\t9.1.2020 0:0:0\tLOGIN\tOK\n"), none⟩
    let look := fun path : String => if path = "logs" then .folder [.file f] else .missing
    let kit := Console.toolkit 2026
    let first : Timestamp := .mk 2020 1 9 0 0 0 0
    let second : Timestamp := .mk 2020 1 10 0 0 0 0
    ∃ p, Ingestion.read {} "logs" (look "logs") = .ok p ∧
      Printout .date [.instant second, .instant first] [.instant first, .instant second] ∧
      kit.run look ["execute", "--log-dir", "logs", "get date"]
        = { output := String.join [kit.echo "9.1.2020 0:0:0", kit.echo "10.1.2020 0:0:0"],
            log := shown false p.journal } := by
  intro bytes f look kit first second
  have hlook : look "logs" = .folder [.file f] := rfl
  obtain ⟨p, hp, hload, hrecords⟩ := exists_loads (by decide) hlook (by decide) rfl (by decide)
  have hcall : kit.call kit.readDate look ["execute", "--log-dir", "logs", "get date"]
      = .command ⟨"logs", none, none, false⟩ (.execute "get date" false) := by decide
  have hquery : Query.read false "get date" = .ok ⟨.date, none, {}, []⟩ := by decide
  have hexecute : p.dataset.execute false "get date"
      = .ok ([.instant second, .instant first], []) := by
    have hlog : p.dataset.records =
        [⟨"10.0.0.1", "ann", some (.mk 2020 1 10 0 0 0 0), some .login, none, some .ok⟩,
          ⟨"10.0.0.1", "bob", some (.mk 2020 1 9 0 0 0 0), some .login, none, some .ok⟩] := by
      rw [hrecords]
      decide
    rw [Dataset.execute, hquery, Except.map, Dataset.run, Dataset.values, Dataset.select, hlog]
    decide
  obtain ⟨q, us, hq, hprintout, -, hrun⟩ :=
    run_execute_printout.2 hcall hload hexecute (List.cons_ne_nil _ _)
  cases hquery.symm.trans hq
  obtain rfl : us = [.instant first, .instant second] := by
    obtain ⟨ts, rfl, hts⟩ := hprintout.chronological rfl
    have hperm : ts.Perm [first, second] :=
      ((List.map_perm_map_iff fun _ _ => Scalar.instant.inj).mp hprintout.perm).trans
        (List.Perm.swap first second [])
    have hsorted : [first, second].Pairwise (· < ·) := by decide
    rw [List.Perm.eq_of_pairwise
      (fun _ _ _ _ h h' => absurd h' (Timestamp.lt_asymm h)) hts hsorted hperm]
    rfl
  have hfirst : (Scalar.instant first).render = "9.1.2020 0:0:0" := by decide
  have hsecond : (Scalar.instant second).render = "10.1.2020 0:0:0" := by decide
  rw [List.map_nil, List.append_nil, List.map_cons, List.map_cons, List.map_nil, hfirst,
    hsecond] at hrun
  exact ⟨p, hp, hprintout, hrun⟩

end Command

end AccessLog
