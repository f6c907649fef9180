import AccessLog.Console.Toolkit
import AccessLog.Proofs.Timestamp.Spelling

/-!
# A reader of typed dates takes the day first

A typed date is cut into tokens, and the numbers of a date beside a year of four digits
are arranged so that the first is the day wherever that is possible
(`arrange_yearFirst`, `arrange_yearLast`). So the toolkit reads dates with the day first
(`dayFirst_dateOf`), whatever the present year.
-/

namespace AccessLog.Timestamp.Spells

/-! ## Numbers -/

variable {cs : List Char} {width n : Nat}

theorem not_stop (h : Spells cs width n) : ∀ c ∈ cs, c ≠ '.' ∧ c ≠ ',' := by
  intro c hc
  have hdigit := h.isDigit c hc
  constructor <;> (rintro rfl; exact absurd hdigit (by decide))

theorem whole? (h : Spells cs width n) (hwidth : 0 < width)
    (hmax : width ≤ Text.Numeral.maxDigits) : Console.whole? cs = some n := by
  have hne : cs ≠ [] := List.length_pos_iff.mp (h.length ▸ hwidth)
  have hall : cs.all Console.Token.isDigit = true := by
    rw [List.all_eq_true]
    intro c hc
    rw [Console.Token.isDigit, Text.digit?_of_isDigit (h.isDigit c hc)]
    rfl
  have hlength : cs.length ≤ Text.Numeral.maxDigits := h.length ▸ hmax
  rw [Console.whole?, hall, h.decimal]
  simp [hne, hlength]

theorem beforeStop (h : Spells cs width n) : Console.beforeStop cs = cs :=
  List.takeWhile_eq_self_iff.mpr fun c hc => bne_iff_ne.mpr (h.not_stop c hc).1

theorem afterStop (h : Spells cs width n) : Console.afterStop cs = [] := by
  have hdrop : cs.dropWhile (· != '.') = [] :=
    List.dropWhile_eq_nil_iff.mpr fun c hc => bne_iff_ne.mpr (h.not_stop c hc).1
  rw [Console.afterStop, hdrop]
  rfl

end AccessLog.Timestamp.Spells

namespace AccessLog.Console

open Timestamp (Spells Mark DayFirst dayAndMonth yearFirstForm yearLastForm)

/-! ## Tokens -/

namespace Token

theorem isDigit_of_ascii {c : Char} (h : c.isDigit = true) : isDigit c = true := by
  rw [isDigit, Text.digit?_of_isDigit h]
  rfl

/-- No character of a number comes next. -/
def NumberEnds (rest : List Char) : Prop := ∀ c ∈ rest.head?, isDigit c = false ∧ isStop c = false

/-- Digits go on with the number that they follow. -/
theorem tokensFrom_digits_append (ds : List Char) {es : List Char}
    (h : ∀ c ∈ es, c.isDigit = true) (rest : List Char) :
    tokensFrom (.digits ds) (es ++ rest) = tokensFrom (.digits (ds ++ es)) rest := by
  induction es generalizing ds with
  | nil => rw [List.nil_append, List.append_nil]
  | cons c es ih =>
    have hextend : Run.extend? (.digits ds) c = some (.digits (ds ++ [c])) := by
      rw [Run.extend?, isDigit_of_ascii (h c List.mem_cons_self)]
      rfl
    rw [List.cons_append, tokensFrom, hextend]
    show tokensFrom (.digits (ds ++ [c])) (es ++ rest) = _
    rw [ih _ fun d hd => h d (List.mem_cons_of_mem c hd), List.append_assoc]
    rfl

/-- Digits by themselves are a number. -/
theorem ofRun_digits {ds : List Char} (h : ∀ c ∈ ds, c ≠ '.' ∧ c ≠ ',') :
    ofRun ds = [.number ds] := by
  have hdot : ds.count '.' = 0 := List.count_eq_zero.mpr fun hmem => (h _ hmem).1 rfl
  have hcomma : ds.contains ',' = false := by
    rw [List.contains_eq_mem]
    exact decide_eq_false fun hmem => (h _ hmem).2 rfl
  have hlast : ds.getLast?.any isStop = false := by
    cases hd : ds.getLast? with
    | none => rfl
    | some d =>
      obtain ⟨hne, hne'⟩ := h d (List.mem_of_getLast? hd)
      simp [isStop, hne, hne']
  rw [ofRun, hdot, hlast, hcomma]
  rfl

/-- **Digits that nothing goes on with are a number.** -/
theorem tokensFrom_number {ds : List Char} {width n : Nat} (h : Spells ds width n)
    (hwidth : 0 < width) {rest : List Char} (hrest : NumberEnds rest) :
    tokensFrom .none (ds ++ rest) = .number ds :: tokensFrom .none rest := by
  obtain ⟨d, ds, rfl⟩ : ∃ d ds', ds = d :: ds' :=
    List.exists_cons_of_length_pos (h.length ▸ hwidth)
  have hstart : Run.start d = ([], .digits [d]) := by
    have hd := h.isDigit d List.mem_cons_self
    have halpha : d.isAlpha = false :=
      Text.of_isDigit (P := fun c => c.isAlpha = false) (by decide) hd
    rw [Run.start, halpha, isDigit_of_ascii hd]
    rfl
  have hall : tokensFrom .none (d :: ds ++ rest) = tokensFrom (.digits (d :: ds)) rest := by
    rw [List.cons_append, tokensFrom]
    show [] ++ (Run.start d).1 ++ tokensFrom (Run.start d).2 (ds ++ rest) = _
    rw [hstart]
    exact tokensFrom_digits_append [d] (fun c hc => h.isDigit c (List.mem_cons_of_mem d hc)) rest
  rw [hall]
  cases rest with
  | nil => exact ofRun_digits h.not_stop
  | cons c rest =>
    obtain ⟨hdigit, hstop⟩ := hrest c rfl
    have hextend : Run.extend? (.digits (d :: ds)) c = none := by
      rw [isStop, Bool.or_eq_false_iff] at hstop
      simp [Run.extend?, hdigit, hstop]
    rw [tokensFrom, hextend, tokensFrom]
    show ofRun (d :: ds) ++ _ ++ _ = _
    rw [ofRun_digits h.not_stop]
    rfl

theorem numberEnds_mark {c : Char} (h : Mark c) (rest : List Char) : NumberEnds (c :: rest) := by
  intro d hd
  cases hd
  rcases h with rfl | rfl | rfl | rfl <;> decide

/-- A mark is a token by itself. -/
theorem tokensFrom_mark {c : Char} (h : Mark c) (rest : List Char) :
    tokensFrom .none (c :: rest) = .mark c :: tokensFrom .none rest := by
  have hstart : Run.start c = ([.mark c], .none) := by
    rcases h with rfl | rfl | rfl | rfl <;> decide
  rw [Token.tokensFrom]
  show [] ++ (Run.start c).1 ++ Token.tokensFrom (Run.start c).2 rest = _
  rw [hstart]
  rfl

/-- **Three numbers with marks between them** are five tokens. -/
theorem tokensFrom_three {a b c : List Char} {i j k l m n : Nat} (ha : Spells a i l)
    (hb : Spells b j m) (hc : Spells c k n) (hi : 0 < i) (hj : 0 < j) (hk : 0 < k) {joint : Char}
    (hjoint : Mark joint) {rest : List Char} (hrest : NumberEnds rest) :
    tokensFrom .none (a ++ joint :: (b ++ joint :: (c ++ rest)))
      = .number a :: .mark joint :: .number b :: .mark joint :: .number c
          :: tokensFrom .none rest := by
  rw [tokensFrom_number ha hi (numberEnds_mark hjoint _), tokensFrom_mark hjoint,
    tokensFrom_number hb hj (numberEnds_mark hjoint _), tokensFrom_mark hjoint,
    tokensFrom_number hc hk hrest]

/-- Three numbers at the end of a text likewise. -/
theorem ofText_three {a b c : List Char} {i j k l m n : Nat} (ha : Spells a i l)
    (hb : Spells b j m) (hc : Spells c k n) (hi : 0 < i) (hj : 0 < j) (hk : 0 < k) {joint : Char}
    (hjoint : Mark joint) :
    ofText (a ++ joint :: (b ++ joint :: c))
      = [.number a, .mark joint, .number b, .mark joint, .number c] := by
  have hend : NumberEnds [] := fun c hc => absurd hc (Option.not_mem_none c)
  have htokens := tokensFrom_three ha hb hc hi hj hk hjoint hend
  rw [List.append_nil] at htokens
  exact htokens

end Token

/-! ## Drafts -/

namespace Draft

/-- Two digits are a number of the date. -/
theorem addDigits_two {cs : List Char} {n : Nat} (h : Spells cs 2 n) (d : Draft) :
    d.addDigits cs = some { d with date := d.date ++ [n] } := by
  rw [addDigits, h.whole? (by decide) (by decide), h.length]
  rfl

/-- Four digits are the year, if it is not known yet. -/
theorem addDigits_four {cs : List Char} {n : Nat} (h : Spells cs 4 n) {d : Draft}
    (hd : d.yearIndex = none) :
    d.addDigits cs = some { d with date := d.date ++ [n], yearIndex := some d.date.length } := by
  rw [addDigits, h.whole? (by decide) (by decide), h.length]
  show d.add n true = _
  rw [add, hd]
  rfl

/-- A number of two or four digits with a mark behind it begins a date. -/
theorem takeNumber_joint {cs : List Char} {width n : Nat} (h : Spells cs width n)
    (hwidth : width = 2 ∨ width = 4) {joint : Char} (hjoint : joint = '-' ∨ joint = '/')
    (rest : List Token) :
    takeNumber {} cs (.mark joint :: rest)
      = (addJoined {} cs joint rest).map fun r => (r.1, r.2 + 1) := by
  have hbare : isBareHour {} cs (.mark joint :: rest) = false := rfl
  have htriple : isTriple cs = false := by
    rw [isTriple, h.beforeStop, h.length]
    rcases hwidth with rfl | rfl <;> rfl
  have hwhole : wholeLengths.contains cs.length = false := by
    rw [h.length]
    rcases hwidth with rfl | rfl <;> rfl
  rw [takeNumber, hbare, htriple, hwhole]
  rcases hjoint with rfl | rfl <;> rfl

section

variable {a b c : List Char} {l m n : Nat} {joint : Char} (hjoint : joint = '-' ∨ joint = '/')
  (rest : List Token)

include hjoint

/-- **A date with the year first** is taken number by number. -/
theorem takeFrom_yearFirst (ha : Spells a 4 l) (hb : Spells b 2 m) (hc : Spells c 2 n) :
    takeFrom 0 {} (.number a :: .mark joint :: .number b :: .mark joint :: .number c :: rest)
      = takeFrom 0 { date := [l, m, n], yearIndex := some 0 } rest := by
  have hjoined : addJoined {} a joint (.number b :: .mark joint :: .number c :: rest)
      = some ({ date := [l, m, n], yearIndex := some 0 }, 3) := by
    rw [addJoined, addDigits_four ha rfl]
    show ((addDigits _ b).bind _) = _
    rw [addDigits_two hb]
    show (if joint = joint then _ else _) = _
    rw [if_pos rfl]
    show ((addDigits _ c).bind _) = _
    rw [addDigits_two hc]
    rfl
  rw [takeFrom, takeNumber_joint ha (.inr rfl) hjoint, hjoined]
  rfl

/-- **A date with the year last** likewise. -/
theorem takeFrom_yearLast (ha : Spells a 2 l) (hb : Spells b 2 m) (hc : Spells c 4 n) :
    takeFrom 0 {} (.number a :: .mark joint :: .number b :: .mark joint :: .number c :: rest)
      = takeFrom 0 { date := [l, m, n], yearIndex := some 2 } rest := by
  have hjoined : addJoined {} a joint (.number b :: .mark joint :: .number c :: rest)
      = some ({ date := [l, m, n], yearIndex := some 2 }, 3) := by
    rw [addJoined, addDigits_two ha]
    show ((addDigits _ b).bind _) = _
    rw [addDigits_two hb]
    show (if joint = joint then _ else _) = _
    rw [if_pos rfl]
    show ((addDigits _ c).bind _) = _
    rw [addDigits_four hc rfl]
    rfl
  rw [takeFrom, takeNumber_joint ha (.inl rfl) hjoint, hjoined]
  rfl

end

/-- **A time of day** behind a date. -/
theorem takeFrom_clock {a b c : List Char} {l m n : Nat} (ha : Spells a 2 l) (hb : Spells b 2 m)
    (hc : Spells c 2 n) (d : Draft) :
    takeFrom 0 d [.mark ' ', .number a, .mark ':', .number b, .mark ':', .number c]
      = some { d with hour := some l, minute := some m, second := some n, micro := some 0 } := by
  have hbare : isBareHour d a [.mark ':', .number b, .mark ':', .number c] = false := by
    rw [isBareHour, List.head?_cons]
    simp
  have htriple : isTriple a = false := by
    rw [isTriple, ha.beforeStop, ha.length]
    rfl
  have hwhole : wholeLengths.contains a.length = false := by
    rw [ha.length]
    rfl
  have hseconds : seconds? c = some (n, 0) := by
    have hstop : c.contains '.' = false := by
      rw [List.contains_eq_mem]
      exact decide_eq_false fun hmem => (hc.not_stop _ hmem).1 rfl
    rw [seconds?, hc.beforeStop, hc.whole? (by decide) (by decide), hstop]
    rfl
  have htimes : setTimes d a [.number b, .mark ':', .number c] =
      some ({ d with hour := some l, minute := some m, second := some n, micro := some 0 }, 3) := by
    rw [setTimes, ha.beforeStop, hb.beforeStop, ha.decimal, hb.decimal, hseconds]
    rfl
  have hnumber : takeNumber d a [.mark ':', .number b, .mark ':', .number c] =
      some ({ d with hour := some l, minute := some m, second := some n, micro := some 0 }, 4) := by
    rw [takeNumber, hbare, htriple, hwhole]
    show (setTimes d a _).map _ = _
    rw [htimes]
    rfl
  show takeFrom 0 d (.number a :: _) = _
  rw [takeFrom, hnumber]
  rfl

/-- With the year known the numbers of a date are only arranged. -/
theorem date?_eq (thisYear : Nat) {d : Draft} {a b c i : Nat} (hdate : d.date = [a, b, c])
    (hindex : d.yearIndex = some i) :
    d.date? thisYear = some (arrange (some i == some 0) a b c) := by
  rw [date?, hdate, hindex]
  simp only [Option.isNone_some, Bool.false_and, Bool.false_eq_true, if_false]

/-- **With the year first** the first of two numbers is the day if the second can be a
month. -/
theorem arrange_yearFirst {year month day a b : Nat} (h : dayAndMonth a b = (day, month)) :
    arrange true year a b = (year, month, day) := by
  rw [arrange, if_pos (Bool.true_or _)]
  rw [dayAndMonth] at h
  split at h <;> cases h
  · rw [if_pos ‹_›]
  · rw [if_neg ‹_›]

/-- **With the year last** likewise, for a date. -/
theorem arrange_yearLast {t : Timestamp} {a b : Nat} (h : dayAndMonth a b = (t.day, t.month)) :
    arrange false a b t.year = (t.year, t.month, t.day) := by
  obtain ⟨-, hmonth, hday⟩ := t.date_valid
  have hlength := Timestamp.monthLength_le t.year t.month
  rw [dayAndMonth] at h
  rw [arrange]
  split at h <;> rw [Prod.mk.injEq] at h <;> obtain ⟨rfl, rfl⟩ := h
  · rw [if_neg (by simp; omega), if_pos (by simp; omega)]
  · rw [if_neg (by simp; omega), if_neg (by simp; omega)]

end Draft

/-- A draft whose parts are those of an instant means the instant. -/
theorem ofDraft_eq (thisYear : Nat) {d : Draft} {t : Timestamp}
    (hdate : d.date? thisYear = some (t.year, t.month, t.day))
    (hhour : d.hour.getD 0 = t.hour) (hminute : d.minute.getD 0 = t.minute)
    (hsecond : d.second.getD 0 = t.second) (hmicro : d.micro.getD 0 = t.micro) :
    ofDraft thisYear d = .ok t := by
  have hsmall : t.parts.any (tooGreatFrom ≤ ·) = false := by
    obtain ⟨hyear, hmonth, hday⟩ := t.date_valid
    have hlength := Timestamp.monthLength_le t.year t.month
    have htime := t.time_valid
    refine List.any_eq_false.mpr fun n hn => ?_
    simp only [Timestamp.parts, List.mem_cons, List.not_mem_nil, or_false] at hn
    rw [decide_eq_true_eq, tooGreatFrom]
    omega
  rw [ofDraft, hdate]
  show (if ([t.year, t.month, t.day] ++
      [d.hour.getD 0, d.minute.getD 0, d.second.getD 0, d.micro.getD 0]).any
        (tooGreatFrom ≤ ·) = true then _ else (Timestamp.ofParts _ _ _ _ _ _ _).mapError _) = _
  rw [hhour, hminute, hsecond, hmicro, Timestamp.ofParts_parts]
  show (if t.parts.any (tooGreatFrom ≤ ·) = true then _ else _) = _
  rw [hsmall]
  rfl

/-! ## Readings -/

/-- A text whose tokens begin and end with numbers is read as their draft says. -/
theorem readTyped_eq {thisYear : Nat} {text : String} {cs : List Char} {ts : List Token}
    (htokens : Token.ofText text.toList = .number cs :: ts)
    (hlast : ∃ ds, (Token.number cs :: ts).getLast? = some (.number ds)) {d : Draft}
    (hd : Draft.takeFrom 0 {} (.number cs :: ts) = some d) {t : Timestamp}
    (ht : ofDraft thisYear d = .ok t) : readTyped thisYear text = .ok ⟨t, none⟩ := by
  have hzone : takeZone (.number cs :: ts) = (.number cs :: ts, false) := by
    obtain ⟨ds, hds⟩ := hlast
    rw [takeZone, hds]
  have hfiller : (Token.number cs :: ts).all Token.isFiller = false := rfl
  have hdraft : Draft.ofTokens (.number cs :: ts) = some d := hd
  rw [readTyped, htokens]
  simp only [hfiller, hzone, hdraft, ht]
  rfl

section

variable {t : Timestamp} {a b : Nat} (hdate : dayAndMonth a b = (t.day, t.month))

include hdate

/-- The two numbers have two digits. -/
theorem spells_of_dayAndMonth :
    Spells (Timestamp.padded 2 a).toList 2 a ∧ Spells (Timestamp.padded 2 b).toList 2 b := by
  obtain ⟨-, hmonth, hday⟩ := t.date_valid
  have hlength := Timestamp.monthLength_le t.year t.month
  have hsmall : a < 100 ∧ b < 100 := by
    rw [dayAndMonth] at hdate
    split at hdate <;> rw [Prod.mk.injEq] at hdate <;> omega
  exact ⟨Timestamp.spells_padded (by decide) hsmall.1, Timestamp.spells_padded (by decide) hsmall.2⟩

/-- The tokens of a date with the year first, in front of what is no number. -/
theorem tokensFrom_yearFirstForm {rest : List Char} (hrest : Token.NumberEnds rest) :
    Token.tokensFrom .none ((yearFirstForm t.year a b).toList ++ rest)
      = .number (Timestamp.padded 4 t.year).toList :: .mark '-' ::
          .number (Timestamp.padded 2 a).toList :: .mark '-' ::
            .number (Timestamp.padded 2 b).toList :: Token.tokensFrom .none rest := by
  obtain ⟨ha, hb⟩ := spells_of_dayAndMonth hdate
  rw [← Token.tokensFrom_three t.spells_year ha hb (by decide) (by decide) (by decide)
    (.inl rfl) hrest, yearFirstForm]
  simp

/-- A draft of a date with the year first means the date. -/
theorem ofDraft_yearFirst (thisYear : Nat) {d : Draft} (hd : d.date = [t.year, a, b])
    (hindex : d.yearIndex = some 0) (hhour : d.hour.getD 0 = t.hour)
    (hminute : d.minute.getD 0 = t.minute) (hsecond : d.second.getD 0 = t.second)
    (hmicro : d.micro.getD 0 = t.micro) : ofDraft thisYear d = .ok t := by
  refine ofDraft_eq thisYear ?_ hhour hminute hsecond hmicro
  rw [Draft.date?_eq thisYear hd hindex]
  exact congrArg some (Draft.arrange_yearFirst hdate)

theorem readTyped_yearFirstForm (thisYear : Nat) :
    readTyped thisYear (yearFirstForm t.year a b) = .ok ⟨t.midnight, none⟩ := by
  obtain ⟨ha, hb⟩ := spells_of_dayAndMonth hdate
  have hend : Token.NumberEnds [] := fun c hc => absurd hc (Option.not_mem_none c)
  have htokens := tokensFrom_yearFirstForm hdate hend
  rw [List.append_nil] at htokens
  refine readTyped_eq htokens ⟨_, rfl⟩
    (Draft.takeFrom_yearFirst (.inl rfl) [] t.spells_year ha hb) ?_
  exact ofDraft_yearFirst (t := t.midnight) hdate thisYear rfl rfl rfl rfl rfl rfl

theorem readTyped_yearFirstForm_clockForm (thisYear : Nat) (hm : t.micro = 0) :
    readTyped thisYear (yearFirstForm t.year a b ++ " " ++ t.clockForm) = .ok ⟨t, none⟩ := by
  obtain ⟨ha, hb⟩ := spells_of_dayAndMonth hdate
  have hhour : Spells _ 2 t.hour := t.spells_two (by simp)
  have hminute : Spells _ 2 t.minute := t.spells_two (by simp)
  have hsecond : Spells _ 2 t.second := t.spells_two (by simp)
  have hspace : Mark ' ' := .inr (.inr (.inr rfl))
  have hclock : Token.tokensFrom .none t.clockForm.toList
      = [.number (Timestamp.padded 2 t.hour).toList, .mark ':',
          .number (Timestamp.padded 2 t.minute).toList, .mark ':',
          .number (Timestamp.padded 2 t.second).toList] := by
    show Token.ofText t.clockForm.toList = _
    rw [← Token.ofText_three hhour hminute hsecond (by decide) (by decide) (by decide)
      (.inr (.inr (.inl rfl))), Timestamp.clockForm]
    simp
  have htext : (yearFirstForm t.year a b ++ " " ++ t.clockForm).toList
      = (yearFirstForm t.year a b).toList ++ ' ' :: t.clockForm.toList := by
    rw [String.toList_append, String.toList_append, List.append_assoc]
    rfl
  have htokens := tokensFrom_yearFirstForm hdate (Token.numberEnds_mark hspace t.clockForm.toList)
  rw [← htext, Token.tokensFrom_mark hspace, hclock] at htokens
  have hdraft := (Draft.takeFrom_yearFirst (.inl rfl) _ t.spells_year ha hb).trans
    (Draft.takeFrom_clock hhour hminute hsecond _)
  refine readTyped_eq htokens ⟨_, rfl⟩ hdraft ?_
  exact ofDraft_yearFirst hdate thisYear rfl rfl rfl rfl rfl hm.symm

theorem readTyped_yearLastForm (thisYear : Nat) :
    readTyped thisYear (yearLastForm a b t.year) = .ok ⟨t.midnight, none⟩ := by
  obtain ⟨ha, hb⟩ := spells_of_dayAndMonth hdate
  have htokens : Token.ofText (yearLastForm a b t.year).toList
      = [.number (Timestamp.padded 2 a).toList, .mark '/',
          .number (Timestamp.padded 2 b).toList, .mark '/',
          .number (Timestamp.padded 4 t.year).toList] := by
    rw [← Token.ofText_three ha hb t.spells_year (by decide) (by decide) (by decide)
      (.inr (.inl rfl)), yearLastForm]
    simp
  refine readTyped_eq htokens ⟨_, rfl⟩
    (Draft.takeFrom_yearLast (.inr rfl) [] ha hb t.spells_year)
    (ofDraft_eq thisYear ?_ rfl rfl rfl rfl)
  rw [Draft.date?_eq thisYear rfl rfl]
  exact congrArg some (Draft.arrange_yearLast hdate)

end

theorem dateOf_toolkit {thisYear : Nat} {text : String} {m : Moment}
    (h : readTyped thisYear text = .ok m) : (toolkit thisYear).dateOf text = .ok m := by
  simp only [toolkit, h]
  rfl

/-- **The toolkit reads dates with the day first**, in every year. -/
theorem dayFirst_dateOf (thisYear : Nat) : DayFirst (toolkit thisYear).dateOf where
  yearFirst _ hm hdate := dateOf_toolkit (readTyped_yearFirstForm_clockForm hdate thisYear hm)
  yearFirstDay _ hdate := dateOf_toolkit (readTyped_yearFirstForm hdate thisYear)
  yearLastDay _ hdate := dateOf_toolkit (readTyped_yearLastForm hdate thisYear)

end AccessLog.Console
