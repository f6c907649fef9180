import AccessLog.Proofs.EventToken

/-!
# How a task event is recognised

A token is searched for the names of the task events, one after the other. The order of the
search does not matter (`EventToken.readAmong_of_perm`): where a token holds the names of two
of them, erasing one leaves letters of the other, so it is at fault whichever is found first
(`EventToken.readAmong_eq_readTask`).

Behind the name of a task event any numeral is read as the number that it spells, wherever
spaces are put before it, in it and behind it (`EventToken.read_name_spaced`). A numeral has
neither a space nor a letter, so the name is erased once and the spaces leave the numeral.
-/

namespace AccessLog

namespace Text

theorem occursIn_iff_infix {part cs : List Char} : occursIn part cs = true ↔ part <:+: cs := by
  rw [occursIn_iff]
  exact exists_congr fun before => exists_congr fun after => by
    rw [List.append_assoc, eq_comm]

end Text

namespace EventToken

/-! ## The order of the search -/

/-- **A token with the names of two task events is at fault** for either of them. -/
theorem readTask_of_two {e e' : Event} (he : e ∈ taskEvents) (he' : e' ∈ taskEvents)
    (hne : e ≠ e') {token : String} (hin : Text.occursIn e'.name.toList token.toList = true) :
    readTask e token = .error (.badTask token) := by
  rw [readTask]
  cases hn : Text.Numeral.read? (beside e token.toList) with
  | none => rfl
  | some n => exact absurd (eq_of_numeral_beside he he' hin hn) hne

variable {kinds : List Event}

/-- **A token is read for any task event in it**, whichever is found first. -/
theorem readAmong_eq_readTask (hkinds : ∀ e ∈ kinds, e ∈ taskEvents) {e : Event} (he : e ∈ kinds)
    {token : String} (hin : Text.occursIn e.name.toList token.toList = true) :
    readAmong kinds token = readTask e token := by
  rw [readAmong]
  split
  · rename_i first hfind
    have hfirst := hkinds first (List.mem_of_find?_eq_some hfind)
    have hinFirst := List.find?_some hfind
    by_cases heq : first = e
    · rw [heq]
    · rw [readTask_of_two hfirst (hkinds e he) heq hin,
        readTask_of_two (hkinds e he) hfirst (Ne.symm heq) hinFirst]
  · rename_i hfind
    exact absurd hin (List.find?_eq_none.mp hfind e he)

/-- A token without the name of a task event is taken as a whole. -/
theorem readAmong_eq_readPlain {token : String}
    (h : ∀ e ∈ kinds, ¬ Text.occursIn e.name.toList token.toList = true) :
    readAmong kinds token = .ok (readPlain token) := by
  rw [readAmong, List.find?_eq_none.mpr h]

/-- **The order of the search does not matter.** -/
theorem readAmong_of_perm (h : kinds.Perm taskEvents) (token : String) :
    readAmong kinds token = read token := by
  have hkinds : ∀ e ∈ kinds, e ∈ taskEvents := fun e => h.mem_iff.mp
  by_cases hin : ∃ e ∈ kinds, Text.occursIn e.name.toList token.toList = true
  · obtain ⟨e, he, hin⟩ := hin
    rw [readAmong_eq_readTask hkinds he hin, read,
      readAmong_eq_readTask (fun _ => id) (hkinds e he) hin]
  · push Not at hin
    rw [readAmong_eq_readPlain hin, read,
      readAmong_eq_readPlain fun e he => hin e (h.mem_iff.mpr he)]

/-! ## The number of the task -/

/-- **Spaces do not matter to a numeral** behind the name of an event. -/
theorem beside_name_spaced (e : Event) {numeral spaced : List Char}
    (hletter : ∀ c ∈ numeral, c.isDigit = true ∨ c = '+' ∨ c = '-')
    (hspaced : spaced.filter (· ≠ ' ') = numeral) :
    beside e (e.name.toList ++ spaced) = numeral := by
  obtain ⟨c, name, hname, hspace, hother⟩ : ∃ c name, e.name.toList = c :: name ∧ c ≠ ' ' ∧
      ¬ (c.isDigit = true ∨ c = '+' ∨ c = '-') := by
    cases e <;> exact ⟨_, _, rfl, by decide, by decide⟩
  have hnot : c ∉ spaced := fun hmem =>
    hother (hletter c (hspaced ▸ List.mem_filter.mpr ⟨hmem, decide_eq_true hspace⟩))
  rw [beside, hname, Text.eraseAll_append, Text.eraseAll_of_not_mem hnot]
  exact hspaced

/-- **A numeral behind the name of a task event is read as its number**, wherever spaces
are put. -/
theorem read_name_spaced {e : Event} (he : e ∈ taskEvents) {n : Int}
    {digits numeral spaced : List Char} (hn : Text.Numeral.Spells n digits numeral)
    (hne : digits ≠ []) (hdigits : ∀ d ∈ digits, d.isDigit = true)
    (hlimit : digits.length ≤ Text.Numeral.maxDigits)
    (hspaced : spaced.filter (· ≠ ' ') = numeral) :
    read (.ofList (e.name.toList ++ spaced)) = .ok ⟨some e, some n⟩ := by
  obtain ⟨k, hread, hk, hvalue⟩ := hn.exists_read? hne hdigits
  have hbeside : Text.Numeral.read?
      (beside e (String.ofList (e.name.toList ++ spaced)).toList) = some k := by
    rw [String.toList_ofList, beside_name_spaced e
      (fun c hc => Text.Numeral.isDigit_or_sign_of_read? hread hc) hspaced, hread]
  have hin : Text.occursIn e.name.toList (String.ofList (e.name.toList ++ spaced)).toList
      = true := by
    rw [String.toList_ofList]
    exact Text.occursIn_iff.mpr ⟨[], spaced, rfl⟩
  rw [read, readAmong_eq_readTask (fun _ => id) he hin, readTask, hbeside, ← hvalue]
  exact if_pos (hk ▸ hlimit)

/-- **How task events are recognised.** The task events may be looked for in any order. A
token with the names of two of them is at fault, and one with none of the names never is.
And behind the name of a task event every numeral of a number, with any spaces put before
it, in it and behind it, is read as that number, if it has no more digits than a numeral
may have. -/
theorem read_recognition (token : String) :
    (∀ kinds : List Event, kinds.Perm taskEvents → readAmong kinds token = read token) ∧
    (∀ e ∈ taskEvents, ∀ e' ∈ taskEvents, e ≠ e' → e.name.toList <:+: token.toList →
      e'.name.toList <:+: token.toList → read token = .error (.badTask token)) ∧
    ((∀ e ∈ taskEvents, ¬ e.name.toList <:+: token.toList) → ∃ a, read token = .ok a) ∧
    ∀ e ∈ taskEvents, ∀ (n : Int) (digits numeral spaced : List Char),
      digits ≠ [] → (∀ d ∈ digits, d.isDigit = true) →
      digits.length ≤ Text.Numeral.maxDigits → Text.Numeral.Spells n digits numeral →
      spaced.filter (· ≠ ' ') = numeral → token.toList = e.name.toList ++ spaced →
        read token = .ok ⟨some e, some n⟩ := by
  refine ⟨fun kinds h => readAmong_of_perm h token, ?_, fun h => ⟨readPlain token, ?_⟩, ?_⟩
  · intro e he e' he' hne hin hin'
    rw [read, readAmong_eq_readTask (fun _ => id) he (Text.occursIn_iff_infix.mpr hin)]
    exact readTask_of_two he he' hne (Text.occursIn_iff_infix.mpr hin')
  · exact readAmong_eq_readPlain fun e he hin => h e he (Text.occursIn_iff_infix.mp hin)
  · intro e he n digits numeral spaced hne hdigits hlimit hn hspaced htoken
    rw [← String.ofList_toList (s := token), htoken]
    exact read_name_spaced he hn hne hdigits hlimit hspaced

/-- Tokens with the number in front, with both names, with the name broken up, and with
spaces within the number. -/
theorem read_recognition_spellings :
    readAmong [.doneTask, .solveTask] "7SOLVE_TASK" = read "7SOLVE_TASK" ∧
      read "SOLVE_TASKDONE_TASK 7" = .error (.badTask "SOLVE_TASKDONE_TASK 7") ∧
      (∃ a, read "SOLVE TASK 7" = .ok a) ∧
      read "DONE_TASK - 0 07 " = .ok ⟨some .doneTask, some (-7)⟩ := by
  have hbroken : ∀ e ∈ taskEvents, Text.occursIn e.name.toList "SOLVE TASK 7".toList = false := by
    decide
  have hminus : Text.Numeral.Spells (-7) "007".toList "-007".toList := .minus (by decide)
  exact ⟨(read_recognition "7SOLVE_TASK").1 _ (by decide),
    (read_recognition "SOLVE_TASKDONE_TASK 7").2.1 .solveTask (by decide) .doneTask (by decide)
      (by decide) ⟨[], "DONE_TASK 7".toList, by decide⟩
      ⟨"SOLVE_TASK".toList, " 7".toList, by decide⟩,
    (read_recognition "SOLVE TASK 7").2.2.1 fun e he hin =>
      Bool.eq_false_iff.mp (hbroken e he) (Text.occursIn_iff_infix.mpr hin),
    (read_recognition "DONE_TASK - 0 07 ").2.2.2 .doneTask (by decide) (-7) "007".toList
      "-007".toList " - 0 07 ".toList (by decide) (List.all_eq_true.mp rfl) (by decide) hminus
      (by decide) (by decide)⟩

end EventToken

end AccessLog
