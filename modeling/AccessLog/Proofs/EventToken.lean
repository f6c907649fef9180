import AccessLog.Proofs.Line

/-!
# The only thing that ends a reading

Under regular settings a line ends the reading of a log in one case only: its
event token names a task event, and beside the name stands a numeral with more
digits than a numeral may have (`Line.judge_error`). Every other line gets a
verdict (`Line.exists_judge_iff`).

A token is looked at for one task event after the other, while the limit on it
speaks of all of them. The two agree because the names of the task events have
letters of their own: where a token holds the names of two of them, erasing one
leaves a letter of the other, and that is no part of a numeral
(`EventToken.eq_of_numeral_beside`).
-/

namespace AccessLog

/-! ## Tokens -/

namespace EventToken

theorem eq_of_mem_taskEvents : ∀ {e : Event}, e ∈ taskEvents → e = .solveTask ∨ e = .doneTask := by
  decide

/-- The name of a task event has a letter that the name of another has not. -/
theorem exists_own_letter : ∀ e ∈ taskEvents, ∀ e' ∈ taskEvents, e ≠ e' →
    ∃ c ∈ e'.name.toList, c ∉ e.name.toList ∧ c ≠ ' ' ∧
      ¬ (c.isDigit = true ∨ c = '+' ∨ c = '-') := by
  intro e he e' he' hne
  rcases eq_of_mem_taskEvents he with rfl | rfl <;> rcases eq_of_mem_taskEvents he' with rfl | rfl
  · exact absurd rfl hne
  · exact ⟨'D', by decide, by decide, by decide, by decide⟩
  · exact ⟨'V', by decide, by decide, by decide, by decide⟩
  · exact absurd rfl hne

/-- **Beside one task event stands no other**, where a numeral stands there. -/
theorem eq_of_numeral_beside {e e' : Event} (he : e ∈ taskEvents) (he' : e' ∈ taskEvents)
    {token : List Char} (hin : Text.occursIn e'.name.toList token = true)
    {n : Text.Numeral} (hn : Text.Numeral.read? (beside e token) = some n) : e = e' := by
  by_contra hne
  obtain ⟨c, hc, hnot, hspace, hletter⟩ := exists_own_letter e he e' he' hne
  have hname : e.name.toList ≠ [] := by cases e <;> decide
  obtain ⟨before, after, rfl⟩ := Text.occursIn_iff.mp hin
  have hmem : c ∈ before ++ (e'.name.toList ++ after) :=
    List.mem_append_right _ (List.mem_append_left _ hc)
  have hbeside : c ∈ beside e (before ++ (e'.name.toList ++ after)) :=
    List.mem_filter.mpr ⟨Text.mem_flatten_piecesFrom (k := 0) hname hnot hmem,
      decide_eq_true hspace⟩
  exact hletter (Text.Numeral.isDigit_or_sign_of_read? hn hbeside)

/-- A token with a numeral beside a task event is read for that event. -/
theorem read_eq_readTask {e : Event} (he : e ∈ taskEvents) {token : String}
    (hin : Text.occursIn e.name.toList token.toList = true)
    {n : Text.Numeral} (hn : Text.Numeral.read? (beside e token.toList) = some n) :
    read token = readTask e token := by
  rw [read, readAmong]
  split
  · rename_i e' hfind
    have hin' := List.find?_some hfind
    rw [eq_of_numeral_beside he (List.mem_of_find?_eq_some hfind) hin' hn]
  · rename_i hfind
    exact absurd hin (List.find?_eq_none.mp hfind e he)

/-- A numeral is refused for its length only if it is too long. -/
theorem maxDigits_lt_of_read {token : String} {d : Nat} (h : read token = .error (.longNumeral d)) :
    Text.Numeral.maxDigits < d := by
  rw [read, readAmong] at h
  split at h
  · rw [readTask] at h
    split at h
    · cases h
    · split at h
      · cases h
      · cases h
        omega
  · cases h

/-- **A token tells a task exactly with a task event.** -/
theorem isSome_task_of_read {token : String} {a : Activity} (h : read token = .ok a) :
    a.task.isSome ↔ ∃ e, a.event = some e ∧ e.hasTask = true := by
  rw [read, readAmong] at h
  split at h
  · -- the event is looked for among those that concern a task
    rename_i e hfind
    have htask := (List.mem_filter.mp (List.mem_of_find?_eq_some hfind)).2
    rw [readTask] at h
    split at h
    · cases h
    · split at h
      · cases h
        exact ⟨fun _ => ⟨e, rfl, htask⟩, fun _ => rfl⟩
      · cases h
  · cases h
    rw [readPlain]
    constructor
    · intro hsome
      cases hsome
    · rintro ⟨e, he, htask⟩
      obtain ⟨-, hplain⟩ := Option.filter_eq_some_iff.mp he
      rw [htask] at hplain
      cases hplain

/-- Beyond the limit a task event stands beside a numeral that is too long. -/
theorem not_withinLimit_iff {token : List Char} :
    ¬ WithinLimit token ↔ ∃ e ∈ taskEvents, Text.occursIn e.name.toList token = true ∧
      ∃ n, Text.Numeral.read? (beside e token) = some n ∧
        Text.Numeral.maxDigits < n.digits.length := by
  simp [WithinLimit]

/-- **A token is refused for the length of its numeral exactly beyond the limit.** -/
theorem exists_longNumeral_iff {token : String} :
    (∃ d, read token = .error (.longNumeral d)) ↔ ¬ WithinLimit token.toList := by
  constructor
  · rintro ⟨d, hd⟩ hlimit
    cases read_error hlimit hd
  · intro hlimit
    obtain ⟨e, he, hin, n, hn, hlong⟩ := not_withinLimit_iff.mp hlimit
    refine ⟨n.digits.length, ?_⟩
    rw [read_eq_readTask he hin hn, readTask, hn]
    exact if_neg (Nat.not_le_of_gt hlong)

/-- Beside the name of an event stands what follows it, spaces aside. -/
theorem beside_name_digits (e : Event) {ds : List Char} (hds : ∀ d ∈ ds, d.isDigit = true) :
    beside e (e.name.toList ++ ' ' :: ds) = ds := by
  obtain ⟨c, sep, hname, hspace, hdigit⟩ :
      ∃ c sep, e.name.toList = c :: sep ∧ c ≠ ' ' ∧ c.isDigit = false := by
    cases e <;> exact ⟨_, _, rfl, by decide⟩
  have hnot : ∀ d : Char, d.isDigit = false → d ∉ ds := by
    intro d hd hmem
    rw [hds d hmem] at hd
    cases hd
  have herased : Text.eraseAll (c :: sep) ((c :: sep) ++ ' ' :: ds) = ' ' :: ds := by
    rw [Text.eraseAll_append, Text.eraseAll_of_not_mem]
    exact fun hmem => (List.mem_cons.mp hmem).elim hspace (hnot c hdigit)
  rw [beside, hname, herased, List.filter_cons_of_neg (by simp), List.filter_eq_self]
  exact fun d hd => decide_eq_true fun heq => hnot ' ' (by decide) (heq ▸ hd)

/-- **The name of a task event, a space and a number** are read as they stand, if
the number is not too long. -/
theorem read_name_digits {e : Event} (he : e ∈ taskEvents) {ds : List Char} (hne : ds ≠ [])
    (hds : ∀ d ∈ ds, d.isDigit = true) :
    read (.ofList (e.name.toList ++ ' ' :: ds))
      = if ds.length ≤ Text.Numeral.maxDigits then
          .ok ⟨some e, some (Text.Numeral.mk false ds).value⟩
        else .error (.longNumeral ds.length) := by
  have hbeside : beside e (String.ofList (e.name.toList ++ ' ' :: ds)).toList = ds := by
    rw [String.toList_ofList, beside_name_digits e hds]
  have hin : Text.occursIn e.name.toList (String.ofList (e.name.toList ++ ' ' :: ds)).toList
      = true := by
    rw [String.toList_ofList]
    exact Text.occursIn_iff.mpr ⟨[], _, rfl⟩
  have hnumeral : Text.Numeral.read?
      (beside e (String.ofList (e.name.toList ++ ' ' :: ds)).toList) = some ⟨false, ds⟩ := by
    rw [hbeside, Text.Numeral.read?_of_digits hne hds]
  rw [read_eq_readTask he hin hnumeral, readTask, hnumeral]

end EventToken

/-! ## Lines -/

namespace Line

variable {s : Settings} {line : List Char}

/-- A line with a task beyond the limit is not blank. -/
theorem not_allBlank_of_fields {ip user date token status : List Char}
    (hfs : fields s.delimiter.toList line = [ip, user, date, token, status])
    (hlimit : ¬ EventToken.WithinLimit token) : Text.allBlank line = false := by
  obtain ⟨e, he, hin, -⟩ := EventToken.not_withinLimit_iff.mp hlimit
  obtain ⟨before, after, rfl⟩ := Text.occursIn_iff.mp hin
  have hletter : 'T' ∈ e.name.toList := by
    rcases EventToken.eq_of_mem_taskEvents he with rfl | rfl <;> decide
  have hmem : 'T' ∈ line := by
    have htoken : before ++ (e.name.toList ++ after) ∈ fields s.delimiter.toList line := by
      rw [hfs]
      simp
    exact ((sublist_of_mem_fields htoken).trans (Text.dropTrailing_sublist _ _)).mem
      (List.mem_append_right _ (List.mem_append_left _ hletter))
  rw [Text.allBlank, List.all_eq_false]
  exact ⟨'T', hmem, by decide⟩

/-- **Only a task beyond the limit ends a reading.** -/
theorem judge_error (hs : s.Regular) {f : Fault} (h : judge s line = .error f) :
    ∃ d, f = .longNumeral d ∧ Text.Numeral.maxDigits < d := by
  rw [judge] at h
  split at h
  · cases h
  · cases hp : parse s line with
    | ok p => rw [hp] at h; cases h
    | error r =>
      cases r with
      | rejected r => rw [hp] at h; cases h
      | fault g =>
        rw [hp] at h
        cases h
        obtain ⟨ip, user, date, token, status, hfs⟩ := exists_fields_of_fault hs hp
        rw [parse_of_fields hs hfs] at hp
        obtain ⟨e, he, hr⟩ := ofFields_error hs hp
        cases e with
        | badTask token => cases hr
        | longNumeral d =>
          cases hr
          exact ⟨d, rfl, EventToken.maxDigits_lt_of_read he⟩

/-- A task beyond the limit ends the reading. -/
theorem judge_of_longNumeral (hs : s.Regular) {ip user date token status : List Char}
    (hfs : fields s.delimiter.toList line = [ip, user, date, token, status]) {d : Nat}
    (hd : EventToken.read (.ofList token) = .error (.longNumeral d)) :
    judge s line = .error (.longNumeral d) := by
  have hlimit := EventToken.exists_longNumeral_iff.mp ⟨d, hd⟩
  rw [String.toList_ofList] at hlimit
  obtain ⟨i, hi⟩ := exists_momentOf hs (.ofList date)
  rw [judge, not_allBlank_of_fields hfs hlimit, parse_of_fields hs hfs, ofFields, hi, hd]
  rfl

/-- **A line gets a verdict exactly within the limit.** -/
theorem exists_judge_iff (hs : s.Regular) : (∃ v, judge s line = .ok v) ↔ WithinLimit s line := by
  refine ⟨?_, exists_judge hs⟩
  rintro ⟨v, hv⟩ ip user date token status hfs
  by_contra hlimit
  rw [← String.toList_ofList (l := token)] at hlimit
  obtain ⟨d, hd⟩ := EventToken.exists_longNumeral_iff.mpr hlimit
  rw [judge_of_longNumeral hs hfs hd] at hv
  cases hv

end Line

end AccessLog
