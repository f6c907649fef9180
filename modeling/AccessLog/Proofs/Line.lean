import AccessLog.Proofs.Text.Lines
import AccessLog.Proofs.Timestamp.LogFormat
import AccessLog.Line

/-!
# What a line contributes to a log

A line that is not blank and is read gives a record, and one that is not blank
and is rejected gives a rejection. `Line.record?` and `Line.rejection?` say so
of the line alone, without the verdict that the reading of a log enters, and
every verdict agrees with them (`Line.Agrees`, `Line.agrees_of_judge`).

A line can also end the reading. Under settings that are regular – a delimiter
that is not empty, five fields, the date format of the logs – only one thing
does: the number of a task with more digits than a numeral may have. So every
line whose task is within that limit gets a verdict (`Line.exists_judge`).
-/

namespace AccessLog

/-! ## Limits -/

/-- The task in an event token has no more digits than a numeral may have, if
there is a task in it. -/
def EventToken.WithinLimit (token : List Char) : Prop :=
  ∀ e ∈ taskEvents, Text.occursIn e.name.toList token = true →
    ∀ n, Text.Numeral.read? (beside e token) = some n →
      n.digits.length ≤ Text.Numeral.maxDigits

/-- **Within the limit a token is at fault only for its task**, never for the
length of a numeral. -/
theorem EventToken.read_error {token : String} (hlimit : WithinLimit token.toList)
    {f : Fault} (h : read token = .error f) : f = .badTask token := by
  rw [read, readAmong] at h
  split at h
  · -- a token that concerns a task, so a number is looked for beside the event
    rename_i e he
    have hin := List.find?_some he
    rw [readTask] at h
    split at h
    · cases h
      rfl
    · rename_i n hn
      have hn := hlimit e (List.mem_of_find?_eq_some he) hin n hn
      rw [if_pos hn] at h
      cases h
  · cases h

/-- Settings under which a log can be read to its end: the delimiter is not
empty, a line has as many fields as a record needs, and dates have the format
of the logs. -/
structure Settings.Regular (s : Settings) : Prop where
  /-- The delimiter is not empty. -/
  delimiter_ne : s.delimiter ≠ ""
  /-- A line has five fields. -/
  fieldCount_eq : s.fieldCount = 5
  /-- Dates have the format of the logs. -/
  dateFormat_eq : s.dateFormat = Timestamp.logFormat

theorem Settings.regular_default : Settings.Regular {} := ⟨by decide, rfl, rfl⟩

/-- A token of no more characters than a numeral may have digits is within the
limit. -/
theorem EventToken.withinLimit_of_length_le {token : List Char}
    (h : token.length ≤ Text.Numeral.maxDigits) : WithinLimit token := by
  intro e _ _ n hn
  have hbeside : (beside e token).length ≤ token.length :=
    (List.length_filter_le _ _).trans (Text.length_flatten_piecesFrom e.name.toList 0 token)
  exact (Text.Numeral.length_digits_le hn).trans (hbeside.trans h)

namespace Line

/-- The task of a line, if it has five fields and names one, has no more digits
than a numeral may have. -/
def WithinLimit (s : Settings) (line : List Char) : Prop :=
  ∀ ip user date token status,
    fields s.delimiter.toList line = [ip, user, date, token, status] →
      EventToken.WithinLimit token

/-- A field is a part of its line without the ending. -/
theorem sublist_of_mem_fields {delimiter line f : List Char} (h : f ∈ fields delimiter line) :
    f.Sublist (Text.dropTrailing isEnding line) := by
  have hpiece := (Text.dropTrailing_sublist List.isEmpty _).mem h
  exact (List.sublist_flatten_of_mem hpiece).trans (Text.flatten_piecesFrom_sublist _ _ _)

/-- A field is no longer than its line. -/
theorem length_le_of_mem_fields {delimiter line f : List Char} (h : f ∈ fields delimiter line) :
    f.length ≤ line.length :=
  ((sublist_of_mem_fields h).trans (Text.dropTrailing_sublist isEnding line)).length_le

/-- **The fields of a line of a text hold no character of an ending.** -/
theorem not_isEnding_of_mem_field {cs line delimiter f : List Char} (hline : line ∈ Text.lines cs)
    (hf : f ∈ fields delimiter line) {c : Char} (hc : c ∈ f) : isEnding c = false := by
  obtain ⟨content, hcontent, hends⟩ := Text.content_of_mem_lines hline
  have hmem := (sublist_of_mem_fields hf).mem hc
  have hdrop : (Text.dropTrailing isEnding line).Sublist content := by
    rcases hends with rfl | rfl
    · exact Text.dropTrailing_sublist isEnding line
    · rw [Text.dropTrailing_concat, if_pos (by decide)]
      exact Text.dropTrailing_sublist isEnding content
  exact hcontent c (hdrop.mem hmem)

/-- **A line of no more characters than a numeral may have digits is within the
limit.** -/
theorem withinLimit_of_length_le {s : Settings} {line : List Char}
    (h : line.length ≤ Text.Numeral.maxDigits) : WithinLimit s line := by
  intro ip user date token status hfields
  have htoken : token ∈ fields s.delimiter.toList line := by
    rw [hfields]
    simp
  exact EventToken.withinLimit_of_length_le ((length_le_of_mem_fields htoken).trans h)

/-- A delimiter that is not empty cuts every line. -/
theorem split_eq_fields {s : Settings} (hs : s.delimiter ≠ "") (line : List Char) :
    split s line = .ok ((fields s.delimiter.toList line).map String.ofList) := by
  rw [split, if_neg]
  simpa using hs

/-- With the date format of the logs, every date gives a moment or leaves none. -/
theorem exists_momentOf {s : Settings} (hs : s.Regular) (date : String) :
    ∃ i, momentOf s date = .ok i := by
  rw [momentOf, hs.dateFormat_eq]
  cases hread : Timestamp.readMoment Timestamp.logFormat date with
  | ok m => exact ⟨.ok m, rfl⟩
  | error u =>
    have hu := Timestamp.repetition?_logFormat (Timestamp.read_eq_error_iff.mpr hread)
    exact ⟨.error u, by simp only [hu]⟩

/-- With the date format of the logs, five fields are refused for their event
token only. -/
theorem ofFields_error {s : Settings} (hs : s.Regular) {ip user date token status : String}
    {r : Refusal} (h : ofFields s ip user date token status = .error r) :
    ∃ f, EventToken.read token = .error f ∧ r = Refusal.ofToken f := by
  obtain ⟨i, hi⟩ := exists_momentOf hs date
  rw [ofFields, hi] at h
  cases htoken : EventToken.read token with
  | ok activity => rw [htoken] at h; cases h
  | error f =>
    rw [htoken] at h
    cases h
    exact ⟨f, rfl, rfl⟩

/-- Under regular settings a line with five fields is read by them. -/
theorem parse_of_fields {s : Settings} (hs : s.Regular)
    {line ip user date token status : List Char}
    (h : fields s.delimiter.toList line = [ip, user, date, token, status]) :
    parse s line = ofFields s (.ofList ip) (.ofList user) (.ofList date) (.ofList token)
      (.ofList status) := by
  rw [parse, split_eq_fields hs.delimiter_ne, h]
  simp [hs.fieldCount_eq, Except.mapError, bind, Except.bind]

/-- Under regular settings only a line with five fields can end a reading. -/
theorem exists_fields_of_fault {s : Settings} (hs : s.Regular) {line : List Char} {f : Fault}
    (h : parse s line = .error (.fault f)) :
    ∃ ip user date token status,
      fields s.delimiter.toList line = [ip, user, date, token, status] := by
  rw [parse, split_eq_fields hs.delimiter_ne] at h
  generalize fields s.delimiter.toList line = fs at h ⊢
  have hcount := hs.fieldCount_eq
  by_cases hlen : fs.length = 5
  · match fs, hlen with
    | [ip, user, date, token, status], _ => exact ⟨ip, user, date, token, status, rfl⟩
  · -- any other number of fields is a reason to reject the line
    have hne : (fs.length : Int) ≠ s.fieldCount := by omega
    simp [hne, Except.mapError, bind, Except.bind, throw, throwThe, MonadExceptOf.throw] at h

/-- **No fault within the limit.** Under regular settings a line whose task has
no more digits than a numeral may have is read or rejected. -/
theorem parse_ne_fault {s : Settings} (hs : s.Regular) {line : List Char}
    (hlimit : WithinLimit s line) (f : Fault) : parse s line ≠ .error (.fault f) := by
  intro h
  obtain ⟨ip, user, date, token, status, hfs⟩ := exists_fields_of_fault hs h
  rw [parse_of_fields hs hfs] at h
  obtain ⟨e, he, hr⟩ := ofFields_error hs h
  have htoken : EventToken.WithinLimit (String.ofList token).toList := by
    rw [String.toList_ofList]
    exact hlimit ip user date token status hfs
  rw [EventToken.read_error htoken he] at hr
  cases hr

/-- **Every line within the limit gets a verdict.** -/
theorem exists_judge {s : Settings} (hs : s.Regular) {line : List Char}
    (hlimit : WithinLimit s line) : ∃ v, judge s line = .ok v := by
  rw [judge]
  split
  · exact ⟨.blank, rfl⟩
  · cases hp : parse s line with
    | ok p => exact ⟨.kept p, rfl⟩
    | error r =>
      cases r with
      | rejected r => exact ⟨.rejected r, rfl⟩
      | fault f => exact absurd hp (parse_ne_fault hs hlimit f)

/-! ## Records -/

/-- The address and the user of a record stand in the line, and the moment is
read from a date in it or missing. -/
theorem moment_of_ofFields {s : Settings} {ip user date token status : String} {p : Parsed}
    (h : ofFields s ip user date token status = .ok p) :
    p.record.ip = ip ∧ p.record.user = user ∧
      (p.record.timestamp = none ∧ p.offset = none ∨
        ∃ m, Timestamp.readMoment s.dateFormat date = .ok m ∧
          p.record.timestamp = some m.clock ∧ p.offset = m.offset) := by
  rw [ofFields] at h
  cases hi : momentOf s date with
  | error f => rw [hi] at h; cases h
  | ok i =>
    rw [hi] at h
    cases htoken : EventToken.read token with
    | error f => rw [htoken] at h; cases h
    | ok activity =>
      rw [htoken] at h
      cases h
      refine ⟨rfl, rfl, ?_⟩
      unfold momentOf at hi
      cases hread : Timestamp.readMoment s.dateFormat date with
      | ok m =>
        rw [hread] at hi
        cases hi
        exact .inr ⟨m, rfl, rfl, rfl⟩
      | error u =>
        simp only [hread] at hi
        split at hi
        · cases hi
        · cases hi
          exact .inl ⟨rfl, rfl⟩

/-- The instant of a record is read from a date in the line. -/
theorem ofFields_ok {s : Settings} {ip user date token status : String} {p : Parsed}
    (h : ofFields s ip user date token status = .ok p) :
    p.record.ip = ip ∧ p.record.user = user ∧
      ∀ t, p.record.timestamp = some t → Timestamp.read s.dateFormat date = .ok t := by
  obtain ⟨hip, huser, ⟨hnone, -⟩ | ⟨m, hm, hclock, -⟩⟩ := moment_of_ofFields h
  · exact ⟨hip, huser, fun t ht => by cases hnone.symm.trans ht⟩
  · refine ⟨hip, huser, fun t ht => Timestamp.read_eq_ok_iff_exists.mpr ⟨m, hm, ?_⟩⟩
    exact Option.some.inj (hclock.symm.trans ht)

/-- The event and the task of a record are what the token tells. -/
theorem activity_of_ofFields {s : Settings} {ip user date token status : String} {p : Parsed}
    (h : ofFields s ip user date token status = .ok p) :
    EventToken.read token = .ok ⟨p.record.event, p.record.task⟩ := by
  rw [ofFields] at h
  cases hi : momentOf s date with
  | error f => rw [hi] at h; cases h
  | ok i =>
    rw [hi] at h
    cases htoken : EventToken.read token with
    | error f => rw [htoken] at h; cases h
    | ok activity =>
      rw [htoken] at h
      cases h
      rfl

/-- **A line that is read has the fields of a record**, and is read by them. -/
theorem exists_ofFields_of_parse {s : Settings} {line : List Char} {p : Parsed}
    (h : parse s line = .ok p) :
    ∃ ip user date token status : String,
      fields s.delimiter.toList line = [ip, user, date, token, status].map String.toList ∧
        ofFields s ip user date token status = .ok p := by
  have hsplit : split s line = .ok ((fields s.delimiter.toList line).map String.ofList) := by
    rw [split]
    split
    · rename_i hempty
      rw [parse, split, if_pos hempty] at h
      cases h
    · rfl
  rw [parse, hsplit] at h
  simp only [Except.mapError, bind, Except.bind] at h
  split at h
  · cases h
  · split at h
    · rename_i ip user date token status hfs
      refine ⟨ip, user, date, token, status, ?_, h⟩
      rw [← hfs, List.map_map]
      simp [Function.comp_def]
    · split at h <;> cases h

/-- **What a record is read from**: its address and its user are fields of the
line, and its instant is read by the date format. -/
theorem record_of_parse {s : Settings} {line : List Char} {p : Parsed}
    (h : parse s line = .ok p) :
    (∃ ip ∈ fields s.delimiter.toList line, p.record.ip = .ofList ip) ∧
    (∃ user ∈ fields s.delimiter.toList line, p.record.user = .ofList user) ∧
    ∀ t, p.record.timestamp = some t → ∃ date, Timestamp.read s.dateFormat date = .ok t := by
  obtain ⟨ip, user, date, token, status, hfields, hp⟩ := exists_ofFields_of_parse h
  obtain ⟨hip, huser, hdate⟩ := ofFields_ok hp
  rw [hfields]
  refine ⟨⟨ip.toList, by simp, ?_⟩, ⟨user.toList, by simp, ?_⟩, fun t ht => ⟨date, hdate t ht⟩⟩
  · rw [hip, String.ofList_toList]
  · rw [huser, String.ofList_toList]

/-! ## Contributions -/

/-- Nothing is left of the line when it is stripped. -/
def IsBlank (line : List Char) : Prop := Text.strip line = []

instance (line : List Char) : Decidable (IsBlank line) :=
  inferInstanceAs (Decidable (Text.strip line = []))

/-- The record of a line. A blank line has none. -/
def record? (s : Settings) (line : List Char) : Option Record :=
  if IsBlank line then none else (parse s line).toOption.map Parsed.record

/-- Why a line is rejected. A blank line is not. -/
def rejection? (s : Settings) (line : List Char) : Option Rejection :=
  if IsBlank line then none
  else match parse s line with
    | .error (.rejected r) => some r
    | _ => none

/-- The record of a line comes of reading it. -/
theorem exists_parse_of_record? {s : Settings} {line : List Char} {r : Record}
    (h : record? s line = some r) : ∃ p, parse s line = .ok p ∧ p.record = r := by
  unfold record? at h
  split at h
  · cases h
  · cases hp : parse s line with
    | error refusal => rw [hp] at h; cases h
    | ok p =>
      rw [hp] at h
      exact ⟨p, rfl, Option.some.inj h⟩

/-- The record that a verdict keeps. -/
def Verdict.record? : Verdict → Option Record
  | .kept p => some p.record
  | _ => none

/-- The rejection that a verdict is. -/
def Verdict.rejection? : Verdict → Option Rejection
  | .rejected r => some r
  | _ => none

/-- **A verdict agrees with its line**: it says of the line what the line
contributes. -/
structure Agrees (s : Settings) (line : List Char) (v : Verdict) : Prop where
  blank_iff : IsBlank line ↔ v = .blank
  record_eq : record? s line = v.record?
  rejection_eq : rejection? s line = v.rejection?

/-- **What a verdict comes of**: a blank line, or reading any other. -/
theorem judge_cases {s : Settings} {line : List Char} {v : Verdict}
    (h : judge s line = .ok v) :
    (IsBlank line ∧ v = .blank) ∨
    (¬ IsBlank line ∧ ∃ r, parse s line = .error (.rejected r) ∧ v = .rejected r) ∨
    (¬ IsBlank line ∧ ∃ p, parse s line = .ok p ∧ v = .kept p) := by
  rw [judge] at h
  by_cases hb : IsBlank line
  · rw [if_pos (Text.strip_eq_nil_iff.mp hb)] at h
    cases h
    exact Or.inl ⟨hb, rfl⟩
  · rw [if_neg (fun ha => hb (Text.strip_eq_nil_iff.mpr ha))] at h
    cases hp : parse s line with
    | ok p =>
      rw [hp] at h
      cases h
      exact Or.inr (Or.inr ⟨hb, p, rfl, rfl⟩)
    | error r =>
      cases r with
      | fault f => rw [hp] at h; cases h
      | rejected r =>
        rw [hp] at h
        cases h
        exact Or.inr (Or.inl ⟨hb, r, rfl, rfl⟩)

/-- **Every verdict agrees with its line.** -/
theorem agrees_of_judge {s : Settings} {line : List Char} {v : Verdict}
    (h : judge s line = .ok v) : Agrees s line v := by
  rcases judge_cases h with ⟨hb, rfl⟩ | ⟨hb, r, hr, rfl⟩ | ⟨hb, p, hp, rfl⟩
  · exact ⟨⟨fun _ => rfl, fun _ => hb⟩, if_pos hb, if_pos hb⟩
  · refine ⟨⟨fun hb' => absurd hb' hb, fun hv => by cases hv⟩, ?_, ?_⟩
    · rw [record?, if_neg hb, hr]
      rfl
    · rw [rejection?, if_neg hb, hr]
      rfl
  · refine ⟨⟨fun hb' => absurd hb' hb, fun hv => by cases hv⟩, ?_, ?_⟩
    · rw [record?, if_neg hb, hp]
      rfl
    · rw [rejection?, if_neg hb, hp]
      rfl

/-- A line that is judged and not blank gives a record or is rejected, not both. -/
theorem Agrees.isSome_record?_eq {s : Settings} {line : List Char} {v : Verdict}
    (h : Agrees s line v) (hb : ¬ IsBlank line) :
    (record? s line).isSome = !(rejection? s line).isSome := by
  rw [h.record_eq, h.rejection_eq]
  cases v with
  | blank => exact absurd (h.blank_iff.mpr rfl) hb
  | rejected r => rfl
  | kept p => rfl

end Line

end AccessLog
