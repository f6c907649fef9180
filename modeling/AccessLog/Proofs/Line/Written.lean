import AccessLog.Proofs.EventToken.Recognition
import AccessLog.Proofs.Ingestion.Diagnosis
import AccessLog.Proofs.Line.Fields
import AccessLog.Proofs.Timestamp.ShortYear

/-!
# A record is written as a line

A record with nothing missing can be written as a line of a log: its fields with tabs between
them, the instant in the form of the logs, the event by its name and the task in decimal behind
it (`Record.line?`). Reading the line gives the record back, whatever spellings the line had
that the record was read from (`Line.parse_line?`).

The fields come back since none of them holds a tab and the last one is not empty, so that tabs
at the end of the line add empty fields only, which do not count (`Line.fields_intercalate`).
The parts come back one by one: the instant by `Timestamp.read_logForm`, the event and the task
by `EventToken.read_token`. A task is written with as many digits as it needs, and it was read
from a numeral that had no fewer.
-/

namespace AccessLog

/-! ## Fields -/

namespace Line

/-- **Fields joined by a delimiter are the fields of the line**, whatever delimiters and line
endings follow, if they do not hold the delimiter and the last one ends with a character that
belongs to no line ending. -/
theorem fields_intercalate {c : Char} {fs : List (List Char)} {f : List Char} {x : Char}
    (hfs : ∀ g ∈ fs ++ [f ++ [x]], c ∉ g) (hx : isEnding x = false)
    (k : Nat) {ending : List Char} (hending : ∀ e ∈ ending, e = '\r' ∨ e = '\n') :
    fields [c] ([c].intercalate (fs ++ [f ++ [x]]) ++ List.replicate k c ++ ending)
      = fs ++ [f ++ [x]] := by
  have hcontent : HasContent ([c].intercalate (fs ++ [f ++ [x]]))
      ([c].intercalate (fs ++ [f ++ [x]])) := by
    obtain ⟨before, hbefore⟩ := Text.suffix_intercalate_concat [c] fs (f ++ [x])
    refine hasContent_iff.mpr (Text.dropTrailing_eq_self fun e he => ?_)
    rw [← hbefore, ← List.append_assoc, List.getLast?_concat] at he
    exact Option.some.inj he ▸ hx
  have hcut : CutAt [c] ([c].intercalate (fs ++ [f ++ [x]])) (fs ++ [f ++ [x]]) := by
    refine ⟨fun g hg hinfix => hfs g hg ((List.singleton_infix_iff c g).mp hinfix), by simp, 0, ?_⟩
    rwa [List.replicate_zero, List.append_nil]
  rw [fields_append_replicate hcontent c k hending, hcut.fields_eq]

end Line

/-! ## Tokens -/

namespace Text.Numeral

/-- **The decimal form of a number has no more digits than a numeral of it.** -/
theorem length_toDigits_le {cs : List Char} {k : Numeral} (h : read? cs = some k) {m : Nat}
    (hm : 0 < m) (hk : k.digits.length ≤ m) : (Nat.toDigits 10 k.value.natAbs).length ≤ m := by
  have hvalue : k.value.natAbs = Nat.ofDigitChars 10 k.digits 0 := by
    rw [value]
    split <;> simp
  have hlt := Text.ofDigitChars_lt (spells_of_read? h).2
  rw [Nat.length_toDigits_le_iff (by decide) hm, hvalue]
  exact hlt.trans_le (Nat.pow_le_pow_right (by decide) hk)

end Text.Numeral

namespace EventToken

/-- A task that was read is written within the limit. -/
theorem length_toDigits_of_read {token : String} {a : Activity} (h : read token = .ok a) {n : Int}
    (hn : a.task = some n) : (Nat.toDigits 10 n.natAbs).length ≤ Text.Numeral.maxDigits := by
  rw [read, readAmong] at h
  split at h
  · rw [readTask] at h
    split at h
    · cases h
    · rename_i k hk
      split at h
      · rename_i hlimit
        cases h
        cases hn
        exact Text.Numeral.length_toDigits_le hk (by decide) hlimit
      · cases h
  · cases h
    cases hn

end EventToken

/-- The token of an event and its task: the name of the event, and the task in decimal behind
a space if the event concerns one. -/
def Activity.token? (a : Activity) : Option String := do
  let e ← a.event
  if e.hasTask then
    let n ← a.task
    return e.name ++ " " ++ toString n
  else return e.name

namespace EventToken

/-- A task event is read from its name and the task in decimal behind a space. -/
theorem read_name_toString {e : Event} (he : e ∈ taskEvents) {n : Int}
    (hlimit : (Nat.toDigits 10 n.natAbs).length ≤ Text.Numeral.maxDigits) :
    read (e.name ++ " " ++ toString n) = .ok ⟨some e, some n⟩ := by
  have hspaced : (' ' :: (toString n).toList).filter (· ≠ ' ') = (toString n).toList := by
    rw [List.filter_cons_of_neg (by decide), List.filter_eq_self]
    intro c hc
    obtain ⟨k, hk, -⟩ := Text.Numeral.exists_read?_toString n
    rcases Text.Numeral.isDigit_or_sign_of_read? hk hc with hdigit | rfl | rfl
    · exact decide_eq_true fun hspace => absurd (hspace ▸ hdigit) (by decide)
    · decide
    · decide
  have htext : e.name ++ " " ++ toString n
      = .ofList (e.name.toList ++ ' ' :: (toString n).toList) :=
    String.toList_injective (by simp)
  rw [htext]
  exact read_name_spaced he (Text.Numeral.spells_toString n) Nat.toDigits_ne_nil
    (fun _ hd => Text.isDigit_of_mem_digits hd) hlimit hspaced

/-- Any other event is read from its name alone. -/
theorem read_name {e : Event} (he : e.hasTask = false) : read e.name = .ok ⟨some e, none⟩ := by
  cases e <;> first | decide | cases he

/-- **What a token tells is read back from the token that is written for it.** -/
theorem read_token {token : String} {a : Activity} (h : read token = .ok a) {e : Event}
    (he : a.event = some e) : ∃ text, a.token? = some text ∧ read text = .ok a := by
  obtain ⟨event, task⟩ := a
  obtain rfl : event = some e := he
  have hiff := isSome_task_of_read h
  cases hkind : e.hasTask with
  | true =>
    obtain ⟨n, rfl⟩ := Option.isSome_iff_exists.mp (hiff.mpr ⟨e, rfl, hkind⟩)
    have he : e ∈ taskEvents := List.mem_filter.mpr ⟨e.mem_all, hkind⟩
    exact ⟨e.name ++ " " ++ toString n, by simp [Activity.token?, hkind],
      read_name_toString he (length_toDigits_of_read h rfl)⟩
  | false =>
    have htask : task = none := by
      refine Option.not_isSome_iff_eq_none.mp fun hsome => ?_
      obtain ⟨d, hd, hdTask⟩ := hiff.mp hsome
      cases hd
      rw [hkind] at hdTask
      cases hdTask
    subst htask
    exact ⟨e.name, by simp [Activity.token?, hkind], read_name hkind⟩

end EventToken

theorem Timestamp.tab_not_mem_logForm (t : Timestamp) : '\t' ∉ t.logForm.toList := fun hmem =>
  absurd (mem_logForm hmem) (by decide)

theorem Activity.tab_not_mem_token {a : Activity} {text : String} (h : a.token? = some text) :
    '\t' ∉ text.toList := by
  have hname : ∀ e : Event, '\t' ∉ e.name.toList := fun e => by cases e <;> decide
  obtain ⟨event, task⟩ := a
  rw [token?] at h
  obtain ⟨e, rfl, h⟩ := Option.bind_eq_some_iff.mp h
  split at h
  · obtain ⟨n, rfl, h⟩ := Option.bind_eq_some_iff.mp h
    obtain ⟨k, hk, -⟩ := Text.Numeral.exists_read?_toString n
    cases h
    intro hmem
    rw [String.toList_append, String.toList_append, List.mem_append, List.mem_append] at hmem
    rcases hmem with (hmem | hmem) | hmem
    · exact hname e hmem
    · exact absurd hmem (by decide)
    · exact absurd (Text.Numeral.isDigit_or_sign_of_read? hk hmem) (by decide)
  · cases h
    exact hname e

/-! ## Lines -/

/-- The line of a record: its fields with tabs between them. There is none if the record lacks
the instant, the event or the status. -/
def Record.line? (r : Record) : Option (List Char) := do
  let t ← r.timestamp
  let token ← (Activity.mk r.event r.task).token?
  let outcome ← r.status
  return ['\t'].intercalate [r.ip.toList, r.user.toList, t.logForm.toList, token.toList,
    outcome.name.toList]

/-- A record with nothing missing has an instant, an event and a status. -/
theorem Record.exists_of_missing_eq_nil {r : Record} (h : r.missing = []) :
    ∃ t e outcome, r.timestamp = some t ∧ r.event = some e ∧ r.status = some outcome := by
  have hget : ∀ f ∈ [Field.date, .event, .status], ∃ v, r.get f = some v := fun f hf => by
    have hsome := List.filter_eq_nil_iff.mp h f hf
    exact Option.ne_none_iff_exists'.mp fun hnone => hsome (Option.isNone_iff_eq_none.mpr hnone)
  obtain ⟨v, hdate⟩ := hget .date (by simp)
  obtain ⟨t, ht, -⟩ := Option.map_eq_some_iff.mp hdate
  obtain ⟨v, hevent⟩ := hget .event (by simp)
  obtain ⟨e, he, -⟩ := Option.map_eq_some_iff.mp hevent
  obtain ⟨v, hstatus⟩ := hget .status (by simp)
  obtain ⟨outcome, hs, -⟩ := Option.map_eq_some_iff.mp hstatus
  exact ⟨t, e, outcome, ht, he, hs⟩

theorem Status.ofName?_name (outcome : Status) : ofName? outcome.name = some outcome := by
  cases outcome <;> decide

namespace Line

/-- **Fields that can be read make a record without warnings.** -/
theorem ofFields_of_read {s : Settings} {ip user date token status : String} {t : Timestamp}
    {e : Event} {task : Option Int} {outcome : Status}
    (hdate : Timestamp.readMoment s.dateFormat date = .ok ⟨t, none⟩)
    (htoken : EventToken.read token = .ok ⟨some e, task⟩)
    (hstatus : Status.ofName? status = some outcome) :
    ofFields s ip user date token status
      = .ok ⟨⟨ip, user, some t, some e, task, some outcome⟩, [], none⟩ := by
  rw [ofFields, momentOf, hdate, htoken, hstatus]
  rfl

/-- A name of a status ends a line. It holds no tab, and neither is its last letter a line
ending. -/
theorem exists_last_of_status (outcome : Status) :
    ∃ word x, outcome.name.toList = word ++ [x] ∧ isEnding x = false ∧
      '\t' ∉ outcome.name.toList := by
  cases outcome <;>
    exact ⟨_, _, (List.dropLast_append_getLast (by decide)).symm, by decide, by decide⟩

/-- **A line of four texts without tabs and the name of a status is read field by field**, with
any tabs and then any line ending behind it. -/
theorem parse_intercalate {ip user date token : String} (outcome : Status)
    (hip : '\t' ∉ ip.toList) (huser : '\t' ∉ user.toList) (hdate : '\t' ∉ date.toList)
    (htoken : '\t' ∉ token.toList) (k : Nat) {ending : List Char}
    (hending : ∀ c ∈ ending, c = '\r' ∨ c = '\n') :
    parse {} (['\t'].intercalate [ip.toList, user.toList, date.toList, token.toList,
      outcome.name.toList] ++ List.replicate k '\t' ++ ending)
      = ofFields {} ip user date token outcome.name := by
  obtain ⟨word, x, hname, hx, hstatus⟩ := exists_last_of_status outcome
  have hclean : ∀ f ∈ [ip.toList, user.toList, date.toList, token.toList] ++ [word ++ [x]],
      '\t' ∉ f := by
    rw [← hname]
    simp [hip, huser, hdate, htoken, hstatus]
  have hfields := fields_intercalate hclean hx k hending
  rw [← hname] at hfields
  have hparse := parse_of_fields Settings.regular_default hfields
  simp only [String.ofList_toList] at hparse
  exact hparse

/-- **The line of a record is read as that record**, with any tabs and then any line ending
behind it, if the record was itself read from a line, nothing is missing in it, and the year
has four digits. -/
theorem parse_line? {line : List Char} {p : Parsed} (h : parse {} line = .ok p)
    (hwarnings : p.warnings = [])
    (hyear : ∀ t, p.record.timestamp = some t → 1000 ≤ t.year) :
    ∃ text, p.record.line? = some text ∧
      ∀ (k : Nat) (ending : List Char), (∀ c ∈ ending, c = '\r' ∨ c = '\n') →
        parse {} (text ++ List.replicate k '\t' ++ ending) = .ok ⟨p.record, [], none⟩ := by
  obtain ⟨ip, user, date, token, status, hfields, hp⟩ := exists_ofFields_of_parse h
  obtain ⟨hip, huser, hdate⟩ := ofFields_ok hp
  have hmissing : p.record.missing = [] := by
    rw [← field_warnings_of_ofFields hp, hwarnings, List.map_nil]
  obtain ⟨t, e, outcome, ht, he, hs⟩ := Record.exists_of_missing_eq_nil hmissing
  -- the instant and the token are written in their own way, and read the same
  have hmicro := Timestamp.micro_of_read Timestamp.format_logFormat (by decide) (hdate t ht)
  have hmoment : Timestamp.readMoment ({} : Settings).dateFormat t.logForm = .ok ⟨t, none⟩ :=
    Timestamp.readMoment_logForm (hyear t ht) hmicro
  obtain ⟨written, htoken, hread⟩ := EventToken.read_token (activity_of_ofFields hp) he
  rw [he] at hread
  have hline : p.record.line? = some (['\t'].intercalate [p.record.ip.toList,
      p.record.user.toList, t.logForm.toList, written.toList, outcome.name.toList]) := by
    rw [Record.line?, ht, htoken, hs]
    rfl
  -- the address and the user are fields of the line that was read
  have hclean : ∀ f ∈ [ip, user, date, token, status].map String.toList, '\t' ∉ f := by
    intro f hf
    rw [← hfields] at hf
    exact not_mem_of_mem_fields hf
  have hipClean : '\t' ∉ p.record.ip.toList := by
    rw [hip]
    exact hclean _ (by simp)
  have huserClean : '\t' ∉ p.record.user.toList := by
    rw [huser]
    exact hclean _ (by simp)
  refine ⟨_, hline, fun k ending hending => ?_⟩
  rw [parse_intercalate outcome hipClean huserClean t.tab_not_mem_logForm
    (Activity.tab_not_mem_token htoken) k hending,
    ofFields_of_read hmoment hread (Status.ofName?_name outcome), ← ht, ← he, ← hs]

/-- A line without an address, with blanks around the instant, the task in front and tabs at
the end. -/
theorem parse_line?_odd_spelling :
    let r : Record :=
      ⟨"", "ann b", some (.mk 2020 1 1 9 5 0 0), some .solveTask, some 18, some .ok⟩
    parse {} "\tann b\t 01.1.2020  9:5:0 \t+0 18 SOLVE_TASK\tOK\t\t\r\n".toList
      = .ok ⟨r, [], none⟩ ∧
      r.line? = some "\tann b\t1.1.2020 9:5:0\tSOLVE_TASK 18\tOK".toList ∧
      parse {} ("\tann b\t1.1.2020 9:5:0\tSOLVE_TASK 18\tOK".toList ++ List.replicate 2 '\t'
        ++ ['\r', '\n']) = .ok ⟨r, [], none⟩ := by
  intro r
  have hparse : parse {} "\tann b\t 01.1.2020  9:5:0 \t+0 18 SOLVE_TASK\tOK\t\t\r\n".toList
      = .ok ⟨r, [], none⟩ := by decide
  have hyear : ∀ t, r.timestamp = some t → 1000 ≤ t.year := by
    intro t ht
    cases ht
    decide
  obtain ⟨text, htext, hread⟩ := parse_line? hparse rfl hyear
  have hline : r.line? = some "\tann b\t1.1.2020 9:5:0\tSOLVE_TASK 18\tOK".toList := by decide
  obtain rfl := Option.some.inj (htext.symm.trans hline)
  exact ⟨hparse, htext, hread 2 ['\r', '\n'] (by simp)⟩

end Line

end AccessLog
