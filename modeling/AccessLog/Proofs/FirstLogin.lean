import AccessLog.Proofs.Command.Printing

/-!
# The logins of a user, one after the other

The first login of a user is known, and the first one behind it, and so on: asked again and
again, each time in the window behind the last answer (`Archive.answerAt`), an archive names
all logins of the user in the window in their order, each instant once, and then none any more
(`Archive.firstLogin_pages`).

Three things carry this. The least of some instants comes first when they are sorted
(`earliest_of_sorted`). A window excludes its bound, and no instant of a window is lost in
front of the new bound, so behind an answer lie the dates that are greater
(`Dataset.instant_mem_values_behind`). Records without an instant lie in the unbounded window
only, so the first question may select some, but they have no date to give.
-/

namespace AccessLog

/-! ## The least of sorted instants -/

/-- The first of some instants in their order is the least. -/
theorem head?_eq_some_iff_least {ts : List Timestamp} (h : ts.Pairwise (· < ·)) {t : Timestamp} :
    ts.head? = some t ↔ t ∈ ts ∧ ∀ s ∈ ts, ¬ s < t := by
  cases ts with
  | nil => simp
  | cons u ts =>
    rw [List.head?_cons, Option.some.injEq]
    constructor
    · rintro rfl
      refine ⟨List.mem_cons_self, List.forall_mem_cons.mpr ⟨Timestamp.lt_irrefl u, ?_⟩⟩
      exact fun s hs => Timestamp.lt_asymm (List.rel_of_pairwise_cons h hs)
    · rintro ⟨hmem, hleast⟩
      rcases List.mem_cons.mp hmem with rfl | hmem
      · rfl
      · exact absurd (List.rel_of_pairwise_cons h hmem) (hleast u List.mem_cons_self)

/-- **The least of some instants is the first of them in their order.** -/
theorem earliest_of_sorted {us : List Timestamp} (hus : us.Pairwise (· < ·)) {vs : List Scalar}
    (h : ∀ v, v ∈ vs ↔ v ∈ us.map Scalar.instant) :
    earliest vs = .ok (us.head?.map .instant) := by
  have hdates : ∀ v ∈ vs, Field.date.Stores v := fun v hv => by
    obtain ⟨t, -, rfl⟩ := List.mem_map.mp ((h v).mp hv)
    exact .date t
  have hmem : ∀ t, .instant t ∈ vs ↔ t ∈ us := fun t => by simpa using h (.instant t)
  rcases earliest_eq hdates with ⟨hnil, hnone⟩ | ⟨l, hearliest, hl, hleast⟩
  · have hempty : us = [] := List.eq_nil_iff_forall_not_mem.mpr fun t ht =>
      List.not_mem_nil (hnil ▸ (hmem t).mpr ht)
    rw [hnone, hempty]
    rfl
  · have hhead := (head?_eq_some_iff_least hus).mpr ⟨(hmem l).mp hl, fun u hu => by
      obtain ⟨u', heq, hu'⟩ := hleast _ ((hmem u).mpr hu)
      cases heq
      exact hu'⟩
    rw [hearliest, hhead]
    rfl

/-! ## The dates of a selection -/

theorem Dataset.instant_mem_values {d : Dataset} {w : Window} {ps : List Predicate}
    {t : Timestamp} :
    .instant t ∈ d.values .date w ps
      ↔ w.Contains (some t) ∧
        ∃ r ∈ d.records, r.timestamp = some t ∧ ∀ p ∈ ps, p.holds r = true := by
  rw [mem_values]
  constructor
  · rintro ⟨r, hr, hget, hw, hps⟩
    obtain ⟨t', ht, heq⟩ := Option.map_eq_some_iff.mp hget
    cases heq
    exact ⟨ht ▸ hw, r, hr, ht, hps⟩
  · rintro ⟨hw, r, hr, ht, hps⟩
    exact ⟨r, hr, Option.map_eq_some_iff.mpr ⟨t, ht, rfl⟩, ht ▸ hw, hps⟩

namespace Window

/-- The window behind an instant. -/
def behind (w : Window) (t : Timestamp) : Window := { w with after := some t }

/-- **Behind an instant of a window lies what is greater.** -/
theorem contains_behind {w : Window} {t s : Timestamp} (ht : w.Contains (some t)) :
    (w.behind t).Contains (some s) ↔ t < s ∧ w.Contains (some s) := by
  constructor
  · rintro ⟨hafter, hbefore⟩
    have hts : t < s := hafter t rfl
    exact ⟨hts, fun a ha => Timestamp.lt_trans (ht.1 a ha) hts, hbefore⟩
  · rintro ⟨hts, hw⟩
    refine ⟨fun a ha => ?_, hw.2⟩
    cases ha
    exact hts

end Window

/-- **The dates behind a date** are the greater ones. -/
theorem Dataset.instant_mem_values_behind {d : Dataset} {w : Window} {ps : List Predicate}
    {t s : Timestamp} (ht : .instant t ∈ d.values .date w ps) :
    .instant s ∈ d.values .date (w.behind t) ps ↔ t < s ∧ .instant s ∈ d.values .date w ps := by
  rw [instant_mem_values, Window.contains_behind (instant_mem_values.mp ht).1,
    instant_mem_values, and_assoc]

/-! ## Asking again and again -/

namespace Archive

/-- The answer to a question for an instant that has been asked so many times before, each time
in the window behind the last answer. After an answer that there is none, there is none. -/
def answerAt (ask : Window → Except Incomparable (Option Scalar)) (w : Window) :
    Nat → Except Incomparable (Option Scalar)
  | 0 => ask w
  | i + 1 => do
    match ← answerAt ask w i with
    | some (.instant t) => ask (w.behind t)
    | answer => return answer

section

variable {ask : Window → Except Incomparable (Option Scalar)} {w : Window}

theorem answerAt_of_none (h : ask w = .ok none) (i : Nat) : answerAt ask w i = .ok none := by
  induction i with
  | zero => exact h
  | succ i ih =>
    rw [answerAt, ih]
    rfl

/-- **The answers behind the first one** are those to the question behind it. -/
theorem answerAt_succ {t : Timestamp} (h : ask w = .ok (some (.instant t))) (i : Nat) :
    answerAt ask w (i + 1) = answerAt ask (w.behind t) i := by
  induction i with
  | zero =>
    rw [answerAt, answerAt, answerAt, h]
    rfl
  | succ i ih =>
    rw [answerAt, ih]
    rfl

end

variable {a : Archive} {ps : List Predicate}

/-- **Asked for the first date again and again, an archive names the dates in their order.** -/
theorem answerAt_first {ts : List Timestamp} (hts : ts.Pairwise (· < ·)) {w : Window}
    (h : ∀ v, v ∈ a.dataset.values .date w ps ↔ v ∈ ts.map Scalar.instant) (i : Nat) :
    answerAt (a.first · ps) w i = .ok (ts[i]?.map .instant) := by
  induction ts generalizing w i with
  | nil => rw [answerAt_of_none (earliest_of_sorted hts h), List.getElem?_nil, Option.map_none]
  | cons t ts ih =>
    obtain ⟨hbelow, hsorted⟩ := List.pairwise_cons.mp hts
    have hfirst : a.first w ps = .ok (some (.instant t)) := earliest_of_sorted hts h
    cases i with
    | zero => exact hfirst
    | succ i =>
      rw [answerAt_succ hfirst, List.getElem?_cons_succ]
      refine ih hsorted (fun v => ?_) i
      -- behind the first date lie all the others
      have ht := (h (.instant t)).mpr List.mem_cons_self
      constructor
      · intro hv
        obtain ⟨s⟩ := Dataset.stores_of_mem_values hv
        obtain ⟨hlt, hs⟩ := (Dataset.instant_mem_values_behind ht).mp hv
        rcases List.mem_cons.mp ((h _).mp hs) with heq | hs
        · cases heq
          exact absurd hlt (Timestamp.lt_irrefl t)
        · exact hs
      · intro hv
        obtain ⟨s, hs, rfl⟩ := List.mem_map.mp hv
        exact (Dataset.instant_mem_values_behind ht).mpr
          ⟨hbelow s hs, (h _).mpr (List.mem_cons_of_mem _ hv)⟩

/-- The dates of a selection can be put in their order. -/
theorem exists_sorted_dates (a : Archive) (w : Window) (ps : List Predicate) :
    ∃ ts : List Timestamp, ts.Pairwise (· < ·) ∧
      (ts.map Scalar.instant).Perm (a.collect .date w ps) := by
  obtain ⟨us, hus⟩ : ∃ us : List Timestamp, a.collect .date w ps = us.map .instant :=
    exists_instants fun v hv => Dataset.stores_of_mem_values (mem_distinct.mp hv)
  have hnodup : (us.map Scalar.instant).Nodup := hus ▸ nodup_distinct _
  obtain ⟨ts, hperm, hsorted, -⟩ := Command.exists_sorted_instants (hnodup.of_map _)
  exact ⟨ts, hsorted, hus ▸ hperm.map _⟩

/-- **The logins of a user are named one after the other**, if the first login is asked for
again and again, each time behind the last answer: in their order, each instant once, and then
none any more. In particular the first answer is the least of the instants, and it is none
exactly if there are none. -/
theorem firstLogin_pages (a : Archive) (user : Option Scalar) (w : Window) :
    (∃ ts : List Timestamp, ts.Pairwise (· < ·) ∧
      (ts.map Scalar.instant).Perm (a.datesOfUserAndEvent user (some (.event .login)) w) ∧
      ∀ i, answerAt (a.firstLogin user) w i = .ok (ts[i]?.map .instant)) ∧
    (∀ t, a.firstLogin user w = .ok (some (.instant t))
      ↔ .instant t ∈ a.datesOfUserAndEvent user (some (.event .login)) w ∧
        ∀ s, .instant s ∈ a.datesOfUserAndEvent user (some (.event .login)) w → ¬ s < t) ∧
    (a.firstLogin user w = .ok none
      ↔ a.datesOfUserAndEvent user (some (.event .login)) w = []) := by
  obtain ⟨ts, hsorted, hperm⟩ : ∃ ts : List Timestamp, ts.Pairwise (· < ·) ∧
      (ts.map Scalar.instant).Perm (a.datesOfUserAndEvent user (some (.event .login)) w) :=
    a.exists_sorted_dates w _
  have hvalues : ∀ v, v ∈ a.dataset.values .date w [byUser user, onEvent .login]
      ↔ v ∈ ts.map Scalar.instant := fun v => (hperm.mem_iff.trans mem_distinct).symm
  have hfirst : a.firstLogin user w = .ok (ts.head?.map .instant) :=
    earliest_of_sorted hsorted hvalues
  refine ⟨⟨ts, hsorted, hperm, answerAt_first hsorted hvalues⟩, fun t => ?_, ?_⟩
  · simp only [← hperm.mem_iff, hfirst]
    rw [Except.ok.injEq, Option.map_eq_some_iff]
    simpa using head?_eq_some_iff_least hsorted
  · rw [hfirst, Except.ok.injEq, Option.map_eq_none_iff, List.head?_eq_none_iff]
    constructor
    · rintro rfl
      exact hperm.nil_eq.symm
    · intro hnil
      rw [hnil, List.perm_nil, List.map_eq_nil_iff] at hperm
      exact hperm

/-- A login without an instant is passed over, and of two at one instant one is named. -/
example :
    let login := fun t => (⟨"", "ann", t, some .login, none, some .ok⟩ : Record)
    let a : Archive := ⟨⟨[login (some (.mk 2020 1 2 0 0 0 0)), login none,
      login (some (.mk 2020 1 1 9 0 0 0)), login (some (.mk 2020 1 2 0 0 0 0))]⟩, {}⟩
    [0, 1, 2, 3].map (answerAt (a.firstLogin (some (.text "ann"))) {})
      = [.ok (some (.instant (.mk 2020 1 1 9 0 0 0))),
          .ok (some (.instant (.mk 2020 1 2 0 0 0 0))), .ok none, .ok none] := by
  decide

end Archive

end AccessLog
