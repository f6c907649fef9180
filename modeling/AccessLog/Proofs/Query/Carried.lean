import AccessLog.Proofs.Query.Denotation
import AccessLog.Text.Separated

/-!
# Which values a query text can carry

A value and two dates are written into a query text between quotes, and nothing
in them is escaped. The text can always be read, but not always as it was meant:
a value may end early, at a quote of its own, and what follows be taken for a
window clause. This module says exactly when that happens
(`Query.read_carries_iff`).

A text without a window clause is misread only if a whole window clause stands in
the value, quotes included. In a text with one, the value is cut short as soon as
the words that open the clause stand in it, for the real clause then supplies the
rest; and likewise the first date. These words begin and end with a quote and hold
no other. So they cannot begin in a value and end behind the quote that closes it,
unless that quote is their last character (`Reading.exists_append_of_quoted`), and
looking at the value with its closing quote is enough.
-/

namespace AccessLog

namespace Reading

/-! ## Words that end with a quote -/

/-- The only quote in some words is their last character. -/
def QuoteLast (words : List Char) : Prop := ∃ cs, '"' ∉ cs ∧ words = cs ++ ['"']

theorem quoteLast_betweenWord : QuoteLast betweenWord :=
  ⟨" and date between ".toList, by decide, by decide⟩

theorem quoteLast_andWord : QuoteLast andWord := ⟨" and ".toList, by decide, by decide⟩

/-- **Words stay in front of a closing quote.** Let a part be closed by a quote with
some words behind it, and let the same text have the quote and the words at an
earlier place. If the words have a quote at their end only, they stand in the part
and its closing quote. -/
theorem exists_append_of_quoted {words v v' tail tail' : List Char} (hwords : QuoteLast words)
    (h : v ++ '"' :: (words ++ tail) = v' ++ '"' :: (words ++ tail'))
    (hlt : v'.length < v.length) :
    ∃ rest, v ++ ['"'] = v' ++ '"' :: (words ++ rest) := by
  obtain ⟨cs, hcs, rfl⟩ := hwords
  simp only [List.append_assoc, List.singleton_append] at h ⊢
  -- the shorter part is the beginning of the longer, which goes on with the quote
  obtain ⟨more, rfl, hmore⟩ | ⟨more, rfl, -⟩ := List.append_eq_append_iff.mp h.symm
  · cases more with
    | nil => simp at hlt
    | cons c more =>
      obtain ⟨rfl, hbehind⟩ := List.cons.inj hmore
      -- without a quote among them, the words do not reach over the closing quote
      obtain ⟨mid, rfl, hmid⟩ | ⟨mid, rfl, hmid⟩ := List.append_eq_append_iff.mp hbehind
      · cases mid with
        | nil => exact ⟨[], by simp⟩
        | cons c mid =>
          obtain ⟨rfl, -⟩ := List.cons.inj hmid
          exact ⟨mid ++ ['"'], by simp⟩
      · cases mid with
        | nil => exact ⟨[], by simp⟩
        | cons c mid =>
          obtain ⟨rfl, -⟩ := List.cons.inj hmid
          exact absurd (List.mem_append_right more List.mem_cons_self) hcs
  · rw [List.length_append] at hlt
    omega

/-! ## Parts that are cut short -/

/-- Behind a quote in a part, or behind the quote that closes it, stand some
words. -/
def Opens (words v : List Char) : Prop := ∃ a c, v ++ ['"'] = a ++ '"' :: (words ++ c)

/-- A whole window clause stands in a value, behind a quote that ends the value
before it. -/
def HoldsClause (v : List Char) : Prop :=
  ∃ a b c, v = a ++ '"' :: (betweenWord ++ (b ++ '"' :: (andWord ++ c)))

/-- **A part is the shortest with some words behind it** unless the words stand in
it already. What may follow the words has to be closed under putting more text in
front. -/
theorem length_le_iff_not_opens {words v : List Char} (hwords : QuoteLast words)
    (tail : List Char) (Behind : List Char → Prop) (hbehind : ∀ cs, Behind (cs ++ tail)) :
    (∀ v' tail', Behind tail' → v ++ '"' :: (words ++ tail) = v' ++ '"' :: (words ++ tail') →
      v.length ≤ v'.length) ↔ ¬ Opens words v := by
  constructor
  · -- the words in the part leave it shorter, with all the rest behind them
    rintro hle ⟨a, c, hopens⟩
    have hcut : v ++ '"' :: (words ++ tail) = a ++ '"' :: (words ++ (c ++ words ++ tail)) := by
      rw [← List.singleton_append, ← List.append_assoc v, hopens]
      simp
    have hlength := congrArg List.length hopens
    have hle := hle a _ (hbehind (c ++ words)) hcut
    obtain ⟨cs, -, rfl⟩ := hwords
    simp only [List.length_append, List.length_cons, List.length_nil] at hlength
    omega
  · intro hopens v' tail' _ htext
    refine Nat.le_of_not_lt fun hlt => ?_
    obtain ⟨rest, hrest⟩ := exists_append_of_quoted hwords htext hlt
    exact hopens ⟨v', rest, hrest⟩

/-! ## Readings with a value -/

/-- A window clause that may be missing is in order exactly if its text holds no
line feed. -/
theorem clean_iff_not_mem {window : Option WindowClause} :
    (∀ w ∈ window, w.Clean) ↔ '\n' ∉ clauseText WindowClause.text window := by
  have hbetween : '\n' ∉ betweenWord := by decide
  have hand : '\n' ∉ andWord := by decide
  cases window with
  | none => simp [clauseText]
  | some w => simp [clauseText, WindowClause.text, WindowClause.Clean, hbetween, hand]

variable {target f : Field} {v : List Char}

/-- A reading with a value writes its text if this holds no line feed from the
value on. -/
theorem writes_for (htarget : target ∈ Field.queryable) (hf : f ∈ Field.queryable)
    {window : Option WindowClause}
    (hclean : '\n' ∉ v ++ '"' :: clauseText WindowClause.text window) :
    Writes ⟨target, some ⟨f, v⟩, window⟩ (text ⟨target, some ⟨f, v⟩, window⟩) := by
  simp only [List.mem_append, List.mem_cons, not_or] at hclean
  refine ⟨rfl, htarget, fun clause hclause => ?_, clean_iff_not_mem.mpr hclean.2.2⟩
  cases hclause
  exact ⟨hf, hclean.1⟩

/-- **When a reading with a value is the shortest** of its text: its value cannot
end earlier, and with the same value its first date cannot. -/
theorem shortest_for_iff (htarget : target ∈ Field.queryable) (hf : f ∈ Field.queryable)
    {window : Option WindowClause}
    (hclean : '\n' ∉ v ++ '"' :: clauseText WindowClause.text window) :
    Shortest ⟨target, some ⟨f, v⟩, window⟩ (text ⟨target, some ⟨f, v⟩, window⟩) ↔
      (∀ v' window', v ++ '"' :: clauseText WindowClause.text window
          = v' ++ '"' :: clauseText WindowClause.text window' → v.length ≤ v'.length) ∧
      ∀ window', clauseText WindowClause.text window = clauseText WindowClause.text window' →
        tailLength window ≤ tailLength window' := by
  have hwrites := writes_for htarget hf hclean
  -- whatever has the same text from the value on is another reading of the whole text
  have hother : ∀ v' window', v ++ '"' :: clauseText WindowClause.text window
      = v' ++ '"' :: clauseText WindowClause.text window' →
        Writes ⟨target, some ⟨f, v'⟩, window'⟩ (text ⟨target, some ⟨f, v⟩, window⟩) := by
    intro v' window' heq
    have htext : text ⟨target, some ⟨f, v⟩, window⟩ = text ⟨target, some ⟨f, v'⟩, window'⟩ := by
      simp only [text, clauseText, ValueClause.text, List.append_assoc, List.singleton_append]
      rw [← clauseText.eq_def, ← clauseText.eq_def, heq]
    rw [htext]
    exact writes_for htarget hf (heq ▸ hclean)
  constructor
  · intro h
    refine ⟨fun v' window' heq => h.value_le _ (hother v' window' heq), fun window' heq => ?_⟩
    exact h.date_le _ (hother v window' (by rw [heq])) rfl
  · rintro ⟨hvalue, hdate⟩
    refine ⟨hwrites, fun r' hr' => ?_, fun r' hr' hlength => ?_⟩
    · obtain ⟨-, ⟨hnone, -⟩ | ⟨f', v₁, v', hv₁, hv', hvalues⟩⟩ := hwrites.same_or_values hr'
      · cases hnone
      · cases hv₁
        rw [valueLength, valueLength, hv']
        exact hvalue v' r'.window hvalues
    · exact hdate r'.window (hwrites.windowText_eq hr' hlength.symm)

/-- **A text without a window clause is read as it was written** unless a whole
window clause stands in the value. -/
theorem shortest_for_iff_not_holdsClause (htarget : target ∈ Field.queryable)
    (hf : f ∈ Field.queryable) (hv : '\n' ∉ v) :
    Shortest ⟨target, some ⟨f, v⟩, none⟩ (text ⟨target, some ⟨f, v⟩, none⟩) ↔ ¬ HoldsClause v := by
  rw [shortest_for_iff htarget hf (by simpa [clauseText] using hv)]
  constructor
  · -- the clause in the value ends where the text does
    rintro ⟨hvalue, -⟩ ⟨a, b, c, rfl⟩
    have hle := hvalue a (some ⟨b, c⟩) (by simp [clauseText, WindowClause.text])
    simp only [List.length_append, List.length_cons] at hle
    omega
  · intro hholds
    refine ⟨fun v' window' heq => ?_, fun _ _ => Nat.zero_le _⟩
    cases window' with
    | none => exact Nat.le_of_eq (congrArg List.length (List.append_cancel_right heq))
    | some w =>
      have htext : v ++ ['"'] = (v' ++ '"' :: (betweenWord ++ (w.after ++
          '"' :: (andWord ++ w.before)))) ++ ['"'] := by
        simpa [clauseText, WindowClause.text] using heq
      exact absurd ⟨v', w.after, w.before, List.append_cancel_right htext⟩ hholds

/-- **A text with a window clause is read as it was written** unless the words
that open the clause stand in the value, or the words between the dates in the
first date, each taken with its closing quote. The second date does not matter. -/
theorem shortest_for_iff_not_opens (htarget : target ∈ Field.queryable)
    (hf : f ∈ Field.queryable) (hv : '\n' ∉ v) {w : WindowClause} (hw : w.Clean) :
    Shortest ⟨target, some ⟨f, v⟩, some w⟩ (text ⟨target, some ⟨f, v⟩, some w⟩)
      ↔ ¬ Opens betweenWord v ∧ ¬ Opens andWord w.after := by
  have hclean : '\n' ∉ clauseText WindowClause.text (some w) :=
    clean_iff_not_mem.mp fun _ hw' => by cases hw'; exact hw
  rw [shortest_for_iff htarget hf (by simpa using ⟨hv, hclean⟩)]
  obtain ⟨after, before⟩ := w
  refine and_congr ?_ ?_
  · -- what follows the opening words is the rest of a clause
    rw [← length_le_iff_not_opens quoteLast_betweenWord
      (after ++ '"' :: (andWord ++ (before ++ ['"'])))
      (fun tail => ∃ w : WindowClause, w.text = betweenWord ++ tail)
      fun cs => ⟨⟨cs ++ after, before⟩, by simp [WindowClause.text]⟩]
    constructor
    · rintro hvalue v' tail' ⟨w', hw'⟩ heq
      exact hvalue v' (some w') (by rw [clauseText, clauseText, hw']; exact heq)
    · intro hvalue v' window' heq
      cases window' with
      | none =>
        have hlength := congrArg List.length heq
        simp [clauseText] at hlength
        omega
      | some w' => exact hvalue v' _ ⟨w', rfl⟩ heq
  · -- what follows the words between the dates is a date and its closing quote
    rw [← length_le_iff_not_opens quoteLast_andWord (before ++ ['"'])
      (fun tail => ∃ date : List Char, tail = date ++ ['"']) fun cs => ⟨cs ++ before, by simp⟩]
    constructor
    · rintro hdate after' - ⟨before', rfl⟩ heq
      refine hdate (some ⟨after', before'⟩) ?_
      rw [clauseText, clauseText, WindowClause.text, WindowClause.text, heq]
    · intro hdate window' heq
      cases window' with
      | none => exact absurd heq (windowText_ne_nil _)
      | some w' => exact hdate w'.after _ ⟨w'.before, rfl⟩ (List.append_cancel_left heq)

/-! ## Written with strings -/

theorem toList_quote_between : "\" and date between \"".toList = '"' :: betweenWord := rfl

theorem toList_quote_and : "\" and \"".toList = '"' :: andWord := rfl

theorem opens_iff {words : String} {cs : List Char} (hwords : words.toList = '"' :: cs)
    {value : String} : Opens cs value.toList ↔ ∃ a c, value ++ "\"" = a ++ words ++ c := by
  have hquote : "\"".toList = ['"'] := rfl
  constructor
  · rintro ⟨a, c, h⟩
    refine ⟨.ofList a, .ofList c, String.toList_injective ?_⟩
    simp only [String.toList_append, String.toList_ofList, hquote, hwords, h, List.append_assoc,
      List.cons_append]
  · rintro ⟨a, c, h⟩
    refine ⟨a.toList, c.toList, ?_⟩
    simpa only [String.toList_append, hquote, hwords, List.append_assoc, List.cons_append]
      using congrArg String.toList h

theorem holdsClause_iff {value : String} :
    HoldsClause value.toList ↔
      ∃ a b c, value = a ++ "\" and date between \"" ++ b ++ "\" and \"" ++ c := by
  constructor
  · rintro ⟨a, b, c, h⟩
    refine ⟨.ofList a, .ofList b, .ofList c, String.toList_injective ?_⟩
    simp only [String.toList_append, String.toList_ofList, toList_quote_between, toList_quote_and,
      h, List.append_assoc, List.cons_append]
  · rintro ⟨a, b, c, h⟩
    refine ⟨a.toList, b.toList, c.toList, ?_⟩
    simpa only [String.toList_append, toList_quote_between, toList_quote_and, List.append_assoc,
      List.cons_append] using congrArg String.toList h

end Reading

namespace Query

/-- The query text that asks for a field of the records that hold a value in
another. -/
def textFor (target f : Field) (value : String) : String :=
  "get " ++ target.key ++ " for " ++ f.key ++ " = \"" ++ value ++ "\""

/-- The words that bound a query text to a window. -/
def windowText (after before : String) : String :=
  " and date between \"" ++ after ++ "\" and \"" ++ before ++ "\""

theorem toList_textFor (target f : Field) (value : String) :
    (textFor target f value).toList = Reading.text ⟨target, some ⟨f, value.toList⟩, none⟩ := by
  simp [textFor, Reading.text, clauseText, ValueClause.text, Reading.getWord, Reading.forWord,
    Reading.equalsWord]

theorem toList_windowText (after before : String) :
    (windowText after before).toList = WindowClause.text ⟨after.toList, before.toList⟩ := by
  have hbetween : " and date between \"".toList = Reading.betweenWord := rfl
  have hquote : "\"".toList = ['"'] := rfl
  unfold windowText
  simp only [String.toList_append, hbetween, Reading.toList_quote_and, hquote]
  unfold WindowClause.text
  simp only [List.append_assoc, List.cons_append]

theorem toList_textFor_windowText (target f : Field) (value after before : String) :
    (textFor target f value ++ windowText after before).toList =
      Reading.text
        ⟨target, some ⟨f, value.toList⟩, some ⟨after.toList, before.toList⟩⟩ := by
  rw [String.toList_append, toList_textFor, toList_windowText]
  simp only [Reading.text, clauseText, List.append_assoc, List.append_nil]

/-- A text that a reading writes is read, and by this reading exactly if it is the
shortest. -/
theorem exists_read_of_writes {text : String} {r : Reading} (h : r.Writes text.toList) :
    ∃ r', Reading.ofText? text.toList = some r' ∧ read false text = .ok (ofReading r') ∧
      (r' = r ↔ r.Shortest text.toList) := by
  obtain ⟨r', hr', -⟩ := Reading.ofText?_le h
  have hshortest := Reading.ofText?_eq_some_iff.mp hr'
  exact ⟨r', hr', read_of_shortest hshortest false,
    fun heq => heq ▸ hshortest, fun hr => hshortest.unique hr⟩

/-- **Which values a query text can carry.** A text that asks for the records with
a value in a field can always be read. Without a window, it is read with this value
and without a window exactly if the value cannot be cut into three at the words
that open a window clause and the words between its dates. With a window, it is
read with this value and these dates exactly if neither the value and its closing
quote hold the opening words, nor the first date and its closing quote the words
between the dates. -/
theorem read_carries_iff {target f : Field} (htarget : target ∈ Field.queryable)
    (hf : f ∈ Field.queryable) {value after before : String} (hvalue : '\n' ∉ value.toList)
    (hafter : '\n' ∉ after.toList) (hbefore : '\n' ∉ before.toList) :
    (∃ r : Reading, Reading.ofText? (textFor target f value).toList = some r ∧
      read false (textFor target f value) = .ok (ofReading r) ∧
      (r = ⟨target, some ⟨f, value.toList⟩, none⟩ ↔
        ¬ ∃ a b c, value = a ++ "\" and date between \"" ++ b ++ "\" and \"" ++ c)) ∧
    ∃ r : Reading,
      Reading.ofText? (textFor target f value ++ windowText after before).toList = some r ∧
      read false (textFor target f value ++ windowText after before) = .ok (ofReading r) ∧
      (r = ⟨target, some ⟨f, value.toList⟩, some ⟨after.toList, before.toList⟩⟩ ↔
        (¬ ∃ a c, value ++ "\"" = a ++ "\" and date between \"" ++ c) ∧
          ¬ ∃ a c, after ++ "\"" = a ++ "\" and \"" ++ c) := by
  have hw : WindowClause.Clean ⟨after.toList, before.toList⟩ := ⟨hafter, hbefore⟩
  have hclean : ∀ {window : Option WindowClause}, (∀ w ∈ window, w.Clean) →
      '\n' ∉ value.toList ++ '"' :: clauseText WindowClause.text window := fun hwindow => by
    simpa using ⟨hvalue, Reading.clean_iff_not_mem.mp hwindow⟩
  rw [← Reading.holdsClause_iff, ← Reading.opens_iff Reading.toList_quote_between,
    ← Reading.opens_iff Reading.toList_quote_and,
    ← Reading.shortest_for_iff_not_holdsClause htarget hf hvalue,
    ← Reading.shortest_for_iff_not_opens htarget hf hvalue hw, ← toList_textFor,
    ← toList_textFor_windowText]
  refine ⟨exists_read_of_writes ?_, exists_read_of_writes ?_⟩
  · rw [toList_textFor]
    exact Reading.writes_for htarget hf (hclean fun w hw => absurd hw (Option.not_mem_none w))
  · rw [toList_textFor_windowText]
    exact Reading.writes_for htarget hf (hclean fun _ hw' => by cases hw'; exact hw)

/-- Quotes and pieces of clauses in all three parts, and the text is read as it was
written all the same. -/
theorem read_carries_iff_pieces :
    let value := "a\" and \"b"
    let after := "c\" and date between \"d"
    let before := "e\" and \"f"
    read false (textFor .ip .user value)
        = .ok (ofReading ⟨.ip, some ⟨.user, value.toList⟩, none⟩) ∧
      read false (textFor .ip .user value ++ windowText after before)
        = .ok (ofReading
            ⟨.ip, some ⟨.user, value.toList⟩, some ⟨after.toList, before.toList⟩⟩) := by
  intro value after before
  have hnot : ∀ text words : String, Text.occursIn words.toList text.toList = false →
      ¬ ∃ a c, text = a ++ words ++ c := by
    rintro text words hin ⟨a, c, rfl⟩
    rw [Text.occursIn_iff.mpr ⟨a.toList, c.toList, by simp⟩] at hin
    cases hin
  obtain ⟨⟨r, -, hr, hcarried⟩, r', -, hr', hcarried'⟩ :=
    @read_carries_iff .ip .user (by decide) (by decide) value after before (by decide)
      (by decide) (by decide)
  constructor
  · rw [hr, hcarried.mpr]
    rintro ⟨a, b, c, h⟩
    refine hnot value "\" and date between \"" (by decide) ⟨a, b ++ "\" and \"" ++ c, ?_⟩
    rw [h]
    simp only [String.append_assoc]
  · rw [hr', hcarried'.mpr]
    exact ⟨hnot _ _ (by decide), hnot _ _ (by decide)⟩

end Query

end AccessLog
