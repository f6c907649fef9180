import AccessLog.Query.Reading

/-!
# Every text has at most one shortest reading, and it is the one that is taken

A query text can be written in the form of a query in several ways, since its
quoted parts may hold quotes and whole clauses. A reading *writes* a text if
that is one of the ways (`Reading.Writes`). All readings of a text ask for the
same field and restrict the same field, and they differ only in where the
quoted parts end.

The reading that is taken has the shortest value, and among those the shortest
first date (`Reading.Shortest`). Searching from the left finds it: a quoted part
is tried at every quote in turn, so the first try that can be completed is the
shortest (`Reading.shortest?_sound`, `Reading.shortest?_le`), and what can be
completed at a quote depends on nothing before it. From the quoted parts the
argument goes outwards, clause by clause, always in these two halves: what is
read is a reading, and where there is a reading, one no longer than it is read.
-/

namespace AccessLog

/-! ## What a text can be written as -/

/-- The dates of a window clause hold no line feed. -/
def WindowClause.Clean (w : WindowClause) : Prop := '\n' ∉ w.after ∧ '\n' ∉ w.before

/-- The field of a value clause can be named, and its value holds no line
feed. -/
def ValueClause.Clean (v : ValueClause) : Prop := v.field ∈ Field.queryable ∧ '\n' ∉ v.value

namespace Reading

/-- **A reading writes a text**: it is a query, with fields that can be named and
with quoted parts that hold no line feed, and written out it is the text. -/
structure Writes (r : Reading) (cs : List Char) : Prop where
  /-- Written out, the reading is the text. -/
  text_eq : r.text = cs
  /-- The field that is asked for can be named. -/
  target_mem : r.target ∈ Field.queryable
  /-- The value clause is in order. -/
  value_clean : ∀ v ∈ r.value, v.Clean
  /-- The window clause is in order. -/
  window_clean : ∀ w ∈ r.window, w.Clean

/-- The length of the value, zero if there is none. -/
def valueLength (r : Reading) : Nat := r.value.elim 0 (·.value.length)

/-- The length of the first date, zero if there is none. -/
def dateLength (r : Reading) : Nat := r.window.elim 0 (·.after.length)

/-- **The shortest reading of a text**: no other has a shorter value, and none
with a value of that length has a shorter first date. -/
structure Shortest (r : Reading) (cs : List Char) : Prop where
  /-- It is a reading of the text. -/
  writes : r.Writes cs
  /-- No reading has a shorter value. -/
  value_le : ∀ r', Writes r' cs → r.valueLength ≤ r'.valueLength
  /-- Among the readings with a value of that length none has a shorter first
  date. -/
  date_le : ∀ r', Writes r' cs → r'.valueLength = r.valueLength →
    r.dateLength ≤ r'.dateLength

/-! ## Words and fields -/

theorem behind?_eq_some_iff {word cs rest : List Char} :
    behind? word cs = some rest ↔ cs = word ++ rest := by
  rw [behind?]
  constructor
  · intro h
    split at h
    · rename_i hprefix
      cases h
      exact (List.prefix_iff_eq_append.mp (List.isPrefixOf_iff_prefix.mp hprefix)).symm
    · cases h
  · rintro rfl
    rw [if_pos (List.isPrefixOf_iff_prefix.mpr (List.prefix_append word rest)),
      List.drop_left]

/-- No key is the beginning of another, so a field that is named at the start of
a text is named there alone. -/
theorem key_append_inj {f g : Field} (hf : f ∈ Field.queryable) (hg : g ∈ Field.queryable)
    {a b : List Char} (h : f.key.toList ++ a = g.key.toList ++ b) : f = g ∧ a = b := by
  have htask : Field.task ∉ Field.queryable := by decide
  have hfg : f = g := by
    cases f <;> cases g <;>
      first | rfl | exact absurd hf htask | exact absurd hg htask | simp [Field.key] at h
  subst hfg
  exact ⟨rfl, List.append_cancel_left h⟩

theorem field?_eq_some_iff {cs rest : List Char} {f : Field} :
    field? cs = some (f, rest) ↔ f ∈ Field.queryable ∧ cs = f.key.toList ++ rest := by
  have hsound : ∀ {g : Field} {tail : List Char},
      (behind? g.key.toList cs).map (g, ·) = some (f, tail) →
        g = f ∧ cs = f.key.toList ++ tail := by
    intro g tail hg
    obtain ⟨tail', htail, heq⟩ := Option.map_eq_some_iff.mp hg
    cases heq
    exact ⟨rfl, behind?_eq_some_iff.mp htail⟩
  rw [field?]
  constructor
  · intro h
    obtain ⟨g, hg, hfound⟩ := List.exists_of_findSome?_eq_some h
    obtain ⟨rfl, hcs⟩ := hsound hfound
    exact ⟨hg, hcs⟩
  · -- some field is found, and it is the one that is named
    rintro ⟨hf, hcs⟩
    have hsome : (Field.queryable.findSome?
        (fun g => (behind? g.key.toList cs).map (g, ·))).isSome := by
      rw [List.findSome?_isSome_iff]
      refine ⟨f, hf, ?_⟩
      rw [behind?_eq_some_iff.mpr hcs]
      rfl
    obtain ⟨⟨g, tail⟩, hfound⟩ := Option.isSome_iff_exists.mp hsome
    obtain ⟨g', hg', hfound'⟩ := List.exists_of_findSome?_eq_some hfound
    obtain ⟨tail', htail, heq⟩ := Option.map_eq_some_iff.mp hfound'
    cases heq
    obtain ⟨rfl, rfl⟩ := key_append_inj hg' hf ((behind?_eq_some_iff.mp htail).symm.trans hcs)
    exact hfound

/-! ## Quoted parts -/

section Quoted

variable {α : Type} {rest : List Char → Option α}

/-- What is found is quoted: it holds no line feed, a quote stands behind it and
the rest is read there. -/
theorem shortest?_sound {cs v : List Char} {a : α} (h : shortest? rest cs = some (v, a)) :
    '\n' ∉ v ∧ ∃ tail, cs = v ++ '"' :: tail ∧ rest tail = some a := by
  induction cs generalizing v a with
  | nil => cases h
  | cons c cs ih =>
    rw [shortest?] at h
    split at h
    · rename_i b hb
      cases h
      split at hb
      · rename_i hquote
        exact ⟨List.not_mem_nil, cs, by rw [hquote]; rfl, hb⟩
      · cases hb
    · -- the character belongs to the part, so it is no line feed
      split at h
      · cases h
      · rename_i hfeed
        obtain ⟨⟨v', a'⟩, hfound, heq⟩ := Option.map_eq_some_iff.mp h
        cases heq
        obtain ⟨hclean, tail, rfl, htail⟩ := ih hfound
        refine ⟨fun hmem => ?_, tail, rfl, htail⟩
        rcases List.mem_cons.mp hmem with heq | hmem
        · exact hfeed heq.symm
        · exact hclean hmem

/-- **Wherever a part can be quoted, one no longer than it is found.** -/
theorem shortest?_le {cs v tail : List Char} {a : α} (hclean : '\n' ∉ v)
    (hcs : cs = v ++ '"' :: tail) (htail : rest tail = some a) :
    ∃ v' a', shortest? rest cs = some (v', a') ∧ v'.length ≤ v.length := by
  induction v generalizing cs with
  | nil =>
    subst hcs
    refine ⟨[], a, ?_, Nat.le_refl 0⟩
    rw [List.nil_append, shortest?, if_pos rfl, htail]
  | cons c v ih =>
    subst hcs
    rw [List.cons_append, shortest?]
    -- a quote that is met before is taken if the rest can be read behind it
    cases hb : if c = '"' then rest (v ++ '"' :: tail) else none with
    | some b => exact ⟨[], b, rfl, Nat.zero_le _⟩
    | none =>
      have hfeed : c ≠ '\n' := fun heq => hclean (heq ▸ List.mem_cons_self)
      obtain ⟨v', a', hfound, hle⟩ := ih (fun hmem => hclean (List.mem_cons_of_mem c hmem)) rfl
      refine ⟨c :: v', a', ?_, Nat.succ_le_succ hle⟩
      simp only [if_neg hfeed, hfound]
      rfl

end Quoted

/-! ## Clauses

Each clause is read in the two halves: what is read is a clause of the text, and
where the text is that of a clause, one no longer than it is read. -/

/-- Reads the second date of a window clause, from behind the quote that ends
the first. -/
def secondDate? (cs : List Char) : Option (List Char × Unit) :=
  (behind? andWord cs).bind (shortest? atEnd?)

theorem windowClause?_eq (cs : List Char) :
    windowClause? cs = (behind? betweenWord cs).bind (fun cs =>
      (shortest? secondDate? cs).map (fun found => ⟨found.1, found.2.1⟩)) := by
  rw [windowClause?]
  cases behind? betweenWord cs with
  | none => rfl
  | some cs' =>
    show (shortest? secondDate? cs').bind _ = (shortest? secondDate? cs').map _
    cases shortest? secondDate? cs' <;> rfl

theorem secondDate?_sound {cs : List Char} {found : List Char × Unit}
    (h : secondDate? cs = some found) :
    '\n' ∉ found.1 ∧ cs = andWord ++ (found.1 ++ ['"']) := by
  obtain ⟨cs', hword, hfound⟩ := Option.bind_eq_some_iff.mp h
  obtain ⟨hclean, tail, rfl, htail⟩ := shortest?_sound hfound
  rw [behind?_eq_some_iff.mp hword]
  cases tail with
  | nil => exact ⟨hclean, rfl⟩
  | cons c tail => cases htail

theorem exists_secondDate? {before : List Char} (h : '\n' ∉ before) :
    ∃ found, secondDate? (andWord ++ (before ++ ['"'])) = some found := by
  obtain ⟨v, u, hfound, -⟩ := shortest?_le h rfl (show atEnd? [] = some () from rfl)
  exact ⟨(v, u), Option.bind_eq_some_iff.mpr ⟨_, behind?_eq_some_iff.mpr rfl, hfound⟩⟩

theorem windowClause?_sound {cs : List Char} {w : WindowClause}
    (h : windowClause? cs = some w) : cs = w.text ∧ w.Clean := by
  rw [windowClause?_eq] at h
  obtain ⟨cs', hword, h⟩ := Option.bind_eq_some_iff.mp h
  obtain ⟨⟨after, second⟩, hfound, rfl⟩ := Option.map_eq_some_iff.mp h
  obtain ⟨hafter, tail, rfl, hsecond⟩ := shortest?_sound hfound
  obtain ⟨hbefore, rfl⟩ := secondDate?_sound hsecond
  rw [behind?_eq_some_iff.mp hword]
  exact ⟨rfl, hafter, hbefore⟩

theorem windowClause?_le {w : WindowClause} (hw : w.Clean) :
    ∃ w', windowClause? w.text = some w' ∧ w'.after.length ≤ w.after.length := by
  obtain ⟨second, hsecond⟩ := exists_secondDate? hw.2
  obtain ⟨after, second', hfound, hle⟩ := shortest?_le hw.1 rfl hsecond
  refine ⟨⟨after, second'.1⟩, ?_, hle⟩
  rw [windowClause?_eq, behind?_eq_some_iff.mpr (show w.text = betweenWord ++ _ from rfl)]
  simp only [Option.bind_some, hfound, Option.map_some]

/-- The length of the first date of a window clause that may be missing. -/
def tailLength (w : Option WindowClause) : Nat := w.elim 0 (·.after.length)

theorem windowText_ne_nil (w : WindowClause) : w.text ≠ [] := List.cons_ne_nil _ _

theorem tail?_sound {cs : List Char} {w : Option WindowClause} (h : tail? cs = some w) :
    cs = clauseText WindowClause.text w ∧ ∀ clause ∈ w, clause.Clean := by
  cases cs with
  | nil =>
    cases h
    exact ⟨rfl, fun _ hmem => absurd hmem (Option.not_mem_none _)⟩
  | cons c cs =>
    obtain ⟨clause, hclause, rfl⟩ := Option.map_eq_some_iff.mp h
    obtain ⟨htext, hclean⟩ := windowClause?_sound hclause
    refine ⟨htext, fun clause' hmem => ?_⟩
    cases hmem
    exact hclean

theorem tail?_le {w : Option WindowClause} (hw : ∀ clause ∈ w, clause.Clean) :
    ∃ w', tail? (clauseText WindowClause.text w) = some w' ∧ tailLength w' ≤ tailLength w := by
  cases w with
  | none => exact ⟨none, rfl, Nat.le_refl 0⟩
  | some clause =>
    obtain ⟨clause', hfound, hle⟩ := windowClause?_le (hw clause rfl)
    refine ⟨some clause', ?_, hle⟩
    rw [clauseText]
    cases htext : clause.text with
    | nil => exact absurd htext (windowText_ne_nil clause)
    | cons c cs =>
      rw [htext] at hfound
      show (windowClause? (c :: cs)).map some = some (some clause')
      rw [hfound]
      rfl

theorem valueClause?_eq (cs : List Char) :
    valueClause? cs = (behind? forWord cs).bind (fun cs =>
      (field? cs).bind (fun f =>
        (behind? equalsWord f.2).bind (fun cs =>
          (shortest? tail? cs).map (fun found => (⟨f.1, found.1⟩, found.2))))) := by
  rw [valueClause?]
  cases behind? forWord cs with
  | none => rfl
  | some cs' =>
    show (field? cs').bind _ = (field? cs').bind _
    cases field? cs' with
    | none => rfl
    | some f =>
      show (behind? equalsWord f.2).bind _ = (behind? equalsWord f.2).bind _
      cases behind? equalsWord f.2 with
      | none => rfl
      | some cs'' =>
        show (shortest? tail? cs'').bind _ = (shortest? tail? cs'').map _
        cases shortest? tail? cs'' <;> rfl

theorem valueClause?_sound {cs : List Char} {v : ValueClause} {w : Option WindowClause}
    (h : valueClause? cs = some (v, w)) :
    cs = v.text ++ clauseText WindowClause.text w ∧ v.Clean ∧ ∀ clause ∈ w, clause.Clean := by
  rw [valueClause?_eq] at h
  obtain ⟨cs₁, hword, h⟩ := Option.bind_eq_some_iff.mp h
  obtain ⟨⟨f, cs₂⟩, hfield, h⟩ := Option.bind_eq_some_iff.mp h
  obtain ⟨cs₃, hequals, h⟩ := Option.bind_eq_some_iff.mp h
  obtain ⟨⟨value, w'⟩, hfound, heq⟩ := Option.map_eq_some_iff.mp h
  cases heq
  obtain ⟨hvalue, tail, rfl, htail⟩ := shortest?_sound hfound
  obtain ⟨rfl, hwindow⟩ := tail?_sound htail
  obtain ⟨hf, rfl⟩ := field?_eq_some_iff.mp hfield
  rw [behind?_eq_some_iff.mp hword, show cs₂ = _ from behind?_eq_some_iff.mp hequals]
  refine ⟨?_, ⟨hf, hvalue⟩, hwindow⟩
  simp [ValueClause.text]

theorem valueClause?_le {v : ValueClause} {w : Option WindowClause} (hv : v.Clean)
    (hw : ∀ clause ∈ w, clause.Clean) :
    ∃ v' w', valueClause? (v.text ++ clauseText WindowClause.text w) = some (v', w') ∧
      v'.value.length ≤ v.value.length ∧
      (v.value.length = v'.value.length → tailLength w' ≤ tailLength w) := by
  obtain ⟨w₁, htail, hlength⟩ := tail?_le hw
  obtain ⟨value, w', hfound, hle⟩ := shortest?_le hv.2 rfl htail
  refine ⟨⟨v.field, value⟩, w', ?_, hle, fun heq => ?_⟩
  · have htext : v.text ++ clauseText WindowClause.text w
        = forWord ++ (v.field.key.toList ++
            (equalsWord ++ (v.value ++ '"' :: clauseText WindowClause.text w))) := by
      simp [ValueClause.text]
    rw [valueClause?_eq, behind?_eq_some_iff.mpr htext, Option.bind_some,
      field?_eq_some_iff.mpr ⟨hv.1, rfl⟩, Option.bind_some]
    simp only [behind?_eq_some_iff.mpr rfl, Option.bind_some, hfound, Option.map_some]
  · -- the two values end at the same quote, so the same rest is read
    obtain ⟨-, tail, hcs, htail'⟩ := shortest?_sound hfound
    obtain ⟨-, hrest⟩ := List.append_inj hcs heq
    rw [← (List.cons.inj hrest).2, htail] at htail'
    exact Option.some.inj htail' ▸ hlength

/-! ## The reading that is taken -/

/-- Reads the clauses behind the field that is asked for. -/
def clauses? (target : Field) (cs : List Char) : Option Reading :=
  match valueClause? cs with
  | some found => some ⟨target, some found.1, found.2⟩
  | none => (tail? cs).map (fun window => ⟨target, none, window⟩)

theorem ofText?_eq (cs : List Char) :
    ofText? cs = (behind? getWord cs).bind (fun cs =>
      (field? cs).bind (fun t => clauses? t.1 t.2)) := by
  rw [ofText?]
  cases behind? getWord cs with
  | none => rfl
  | some cs' =>
    show (field? cs').bind _ = (field? cs').bind _
    cases field? cs' with
    | none => rfl
    | some t =>
      obtain ⟨target, cs''⟩ := t
      rw [Option.bind_some, Option.bind_some, clauses?]
      cases hvalue : valueClause? cs'' with
      | some found => simp only [hvalue]; rfl
      | none => cases htail : tail? cs'' <;> simp only [hvalue, htail] <;> rfl

theorem clauses?_sound {target : Field} (htarget : target ∈ Field.queryable)
    {cs : List Char} {r : Reading} (h : clauses? target cs = some r) :
    r.Writes (getWord ++ (target.key.toList ++ cs)) := by
  rw [clauses?] at h
  cases hvalue : valueClause? cs with
  | some found =>
    rw [hvalue] at h
    cases h
    obtain ⟨rfl, hclean, hwindow⟩ := valueClause?_sound hvalue
    refine ⟨rfl, htarget, fun v hv => ?_, hwindow⟩
    cases hv
    exact hclean
  | none =>
    rw [hvalue] at h
    obtain ⟨window, htail, rfl⟩ := Option.map_eq_some_iff.mp h
    obtain ⟨rfl, hwindow⟩ := tail?_sound htail
    exact ⟨rfl, htarget, fun v hv => absurd hv (Option.not_mem_none v), hwindow⟩

/-- **What is taken is a reading.** -/
theorem ofText?_sound {cs : List Char} {r : Reading} (h : ofText? cs = some r) :
    r.Writes cs := by
  rw [ofText?_eq] at h
  obtain ⟨cs₁, hword, h⟩ := Option.bind_eq_some_iff.mp h
  obtain ⟨⟨target, cs₂⟩, hfield, hclauses⟩ := Option.bind_eq_some_iff.mp h
  obtain ⟨htarget, rfl⟩ := field?_eq_some_iff.mp hfield
  rw [behind?_eq_some_iff.mp hword]
  exact clauses?_sound htarget hclauses

/-- A window clause does not begin as a value clause does. -/
theorem valueClause?_tail (w : Option WindowClause) :
    valueClause? (clauseText WindowClause.text w) = none := by
  rw [valueClause?_eq]
  cases w <;> rfl

/-- **Where there is a reading, one no longer than it is taken.** -/
theorem ofText?_le {cs : List Char} {r : Reading} (h : r.Writes cs) :
    ∃ r', ofText? cs = some r' ∧ r'.valueLength ≤ r.valueLength ∧
      (r.valueLength = r'.valueLength → r'.dateLength ≤ r.dateLength) := by
  obtain ⟨target, value, window⟩ := r
  obtain ⟨rfl, htarget, hvalue, hwindow⟩ := h
  have hread : ofText? (text ⟨target, value, window⟩)
      = clauses? target (clauseText ValueClause.text value ++
          clauseText WindowClause.text window) := by
    rw [ofText?_eq, behind?_eq_some_iff.mpr (show text _ = getWord ++ _ from rfl),
      Option.bind_some, field?_eq_some_iff.mpr ⟨htarget, rfl⟩, Option.bind_some]
  rw [hread, clauses?]
  cases value with
  | none =>
    obtain ⟨window', htail, hle⟩ := tail?_le hwindow
    refine ⟨⟨target, none, window'⟩, ?_, Nat.le_refl 0, fun _ => hle⟩
    rw [clauseText, List.nil_append, valueClause?_tail, htail]
    rfl
  | some v =>
    obtain ⟨v', window', hfound, hle, hlength⟩ := valueClause?_le (hvalue v rfl) hwindow
    refine ⟨⟨target, some v', window'⟩, ?_, hle, hlength⟩
    rw [show clauseText ValueClause.text (some v) = v.text from rfl, hfound]

/-! ## There is only one -/

/-- The window clauses of one text with first dates of the same length are one. -/
theorem window_eq {w w' : Option WindowClause}
    (h : clauseText WindowClause.text w = clauseText WindowClause.text w')
    (hlength : tailLength w = tailLength w') : w = w' := by
  cases w with
  | none =>
    cases w' with
    | none => rfl
    | some clause => exact absurd h.symm (windowText_ne_nil clause)
  | some clause =>
    cases w' with
    | none => exact absurd h (windowText_ne_nil clause)
    | some clause' =>
      have htext := List.append_cancel_left (show betweenWord ++ _ = betweenWord ++ _ from h)
      obtain ⟨hafter, hrest⟩ := List.append_inj htext hlength
      have hsecond := List.append_cancel_left (List.cons.inj hrest).2
      have hbefore := List.append_cancel_right hsecond
      obtain ⟨after, before⟩ := clause
      cases hafter
      cases hbefore
      rfl

/-- A text that begins as a value clause does is not that of a window clause. -/
theorem valueText_ne_window {v : ValueClause} (hv : v.Clean) {w w' : Option WindowClause}
    (hw : ∀ clause ∈ w, clause.Clean) :
    v.text ++ clauseText WindowClause.text w ≠ clauseText WindowClause.text w' := by
  intro h
  obtain ⟨v', window, hfound, -⟩ := valueClause?_le hv hw
  rw [h, valueClause?_tail] at hfound
  exact absurd hfound.symm (Option.some_ne_none _)

/-- **How the readings of a text differ.** They ask for the same field. Either
they have no value clause and write the same text as a window clause, or they
have a value clause on the same field and write the same text from the value
on. -/
theorem Writes.same_or_values {cs : List Char} {r r' : Reading} (h : r.Writes cs)
    (h' : r'.Writes cs) :
    r.target = r'.target ∧
      ((r.value = none ∧ r'.value = none ∧
          clauseText WindowClause.text r.window = clauseText WindowClause.text r'.window) ∨
        ∃ f v v', r.value = some ⟨f, v⟩ ∧ r'.value = some ⟨f, v'⟩ ∧
          v ++ '"' :: clauseText WindowClause.text r.window
            = v' ++ '"' :: clauseText WindowClause.text r'.window) := by
  obtain ⟨target, value, window⟩ := r
  obtain ⟨target', value', window'⟩ := r'
  have htext := List.append_cancel_left
    (show getWord ++ _ = getWord ++ _ from h.text_eq.trans h'.text_eq.symm)
  obtain ⟨rfl, hclauses⟩ := key_append_inj h.target_mem h'.target_mem htext
  refine ⟨rfl, ?_⟩
  cases value with
  | none =>
    cases value' with
    | none => exact Or.inl ⟨rfl, rfl, hclauses⟩
    | some v' =>
      exact absurd hclauses.symm (valueText_ne_window (h'.value_clean v' rfl) h'.window_clean)
  | some v =>
    cases value' with
    | none => exact absurd hclauses (valueText_ne_window (h.value_clean v rfl) h.window_clean)
    | some v' =>
      obtain ⟨field, value⟩ := v
      obtain ⟨field', value'⟩ := v'
      have hbehind : field.key.toList ++ (equalsWord ++ (value ++
            '"' :: clauseText WindowClause.text window))
          = field'.key.toList ++ (equalsWord ++ (value' ++
            '"' :: clauseText WindowClause.text window')) := by
        simpa [clauseText, ValueClause.text] using hclauses
      obtain ⟨rfl, hvalues⟩ := key_append_inj (h.value_clean _ rfl).1 (h'.value_clean _ rfl).1
        hbehind
      exact Or.inr ⟨field, value, value', rfl, rfl, List.append_cancel_left hvalues⟩

/-- Readings of a text with values of the same length write the same text as a
window clause. -/
theorem Writes.windowText_eq {cs : List Char} {r r' : Reading} (h : r.Writes cs)
    (h' : r'.Writes cs) (hvalue : r.valueLength = r'.valueLength) :
    clauseText WindowClause.text r.window = clauseText WindowClause.text r'.window := by
  obtain ⟨-, ⟨-, -, hwindow⟩ | ⟨f, v, v', hv, hv', hvalues⟩⟩ := h.same_or_values h'
  · exact hwindow
  · rw [valueLength, valueLength, hv, hv'] at hvalue
    exact (List.cons.inj (List.append_inj hvalues hvalue).2).2

/-- **Two readings of a text with quoted parts of the same lengths are one.** -/
theorem Writes.eq_of_length {cs : List Char} {r r' : Reading} (h : r.Writes cs)
    (h' : r'.Writes cs) (hvalue : r.valueLength = r'.valueLength)
    (hdate : r.dateLength = r'.dateLength) : r = r' := by
  have hwindow : r.window = r'.window := window_eq (h.windowText_eq h' hvalue) hdate
  obtain ⟨htarget, hvalues⟩ := h.same_or_values h'
  have hclause : r.value = r'.value := by
    obtain ⟨hv, hv', -⟩ | ⟨f, v, v', hv, hv', htext⟩ := hvalues
    · rw [hv, hv']
    · rw [valueLength, valueLength, hv, hv'] at hvalue
      rw [hv, hv', (List.append_inj htext hvalue).1]
  obtain ⟨target, value, window⟩ := r
  cases htarget
  cases hclause
  cases hwindow
  rfl

/-- **The reading that is taken is the shortest.** -/
theorem ofText?_eq_some_iff {cs : List Char} {r : Reading} :
    ofText? cs = some r ↔ r.Shortest cs := by
  constructor
  · intro h
    have hle : ∀ r', Writes r' cs → r.valueLength ≤ r'.valueLength ∧
        (r'.valueLength = r.valueLength → r.dateLength ≤ r'.dateLength) := by
      intro r' hr'
      obtain ⟨r₀, hr₀, hvalue, hdate⟩ := ofText?_le hr'
      cases hr₀.symm.trans h
      exact ⟨hvalue, hdate⟩
    exact ⟨ofText?_sound h, fun r' hr' => (hle r' hr').1, fun r' hr' => (hle r' hr').2⟩
  · intro h
    obtain ⟨r₀, hr₀, hvalue, hdate⟩ := ofText?_le h.writes
    have hwrites := ofText?_sound hr₀
    -- what is taken is no longer than the shortest, so it is as long
    have hvalue' := Nat.le_antisymm (h.value_le r₀ hwrites) hvalue
    have hdate' := Nat.le_antisymm (h.date_le r₀ hwrites hvalue'.symm) (hdate hvalue')
    rw [h.writes.eq_of_length hwrites hvalue' hdate', hr₀]

/-- **No reading is taken exactly where there is none.** -/
theorem ofText?_eq_none_iff {cs : List Char} :
    ofText? cs = none ↔ ∀ r : Reading, ¬r.Writes cs := by
  constructor
  · intro h r hr
    obtain ⟨r', hr', -⟩ := ofText?_le hr
    exact absurd (hr'.symm.trans h) (Option.some_ne_none r')
  · intro h
    cases hr : ofText? cs with
    | none => rfl
    | some r => exact absurd (ofText?_sound hr) (h r)

/-- A text has one shortest reading at most. -/
theorem Shortest.unique {cs : List Char} {r r' : Reading} (h : r.Shortest cs)
    (h' : r'.Shortest cs) : r = r' :=
  Option.some.inj ((ofText?_eq_some_iff.mpr h).symm.trans (ofText?_eq_some_iff.mpr h'))

/-! ## Parts without quotes -/

/-- The value and the first date hold no quote. -/
def QuoteFree (r : Reading) : Prop :=
  (∀ v ∈ r.value, '"' ∉ v.value) ∧ ∀ w ∈ r.window, '"' ∉ w.after

/-- A part without a quote ends at the first quote, so no other is shorter. -/
theorem length_le_of_not_mem {v v' tail tail' : List Char} (hv : '"' ∉ v)
    (h : v ++ '"' :: tail = v' ++ '"' :: tail') : v.length ≤ v'.length := by
  -- one of the two parts is the beginning of the other
  obtain ⟨more, rfl, -⟩ | ⟨more, rfl, htail⟩ := List.append_eq_append_iff.mp h
  · rw [List.length_append]
    exact Nat.le_add_right _ _
  · cases more with
    | nil => exact Nat.le_of_eq (congrArg List.length (List.append_nil v'))
    | cons c more =>
      obtain ⟨rfl, -⟩ := List.cons.inj htail
      exact absurd (List.mem_append_right v' List.mem_cons_self) hv

/-- **A reading without quotes in its parts is the shortest.** -/
theorem Writes.shortest {cs : List Char} {r : Reading} (h : r.Writes cs) (hfree : r.QuoteFree) :
    r.Shortest cs := by
  refine ⟨h, fun r' h' => ?_, fun r' h' hvalue => ?_⟩
  · obtain ⟨-, ⟨hv, hv', -⟩ | ⟨f, v, v', hv, hv', hvalues⟩⟩ := h.same_or_values h'
    · have hnone : r.valueLength = r'.valueLength := by rw [valueLength, valueLength, hv, hv']
      exact Nat.le_of_eq hnone
    · rw [valueLength, valueLength, hv, hv']
      exact length_le_of_not_mem (hfree.1 _ hv) hvalues
  · have hwindow := h.windowText_eq h' hvalue.symm
    rw [dateLength, dateLength]
    cases hw : r.window with
    | none => exact Nat.zero_le _
    | some w =>
      cases hw' : r'.window with
      | none =>
        rw [hw, hw'] at hwindow
        exact absurd hwindow (windowText_ne_nil w)
      | some w' =>
        rw [hw, hw'] at hwindow
        exact length_le_of_not_mem (hfree.2 w hw)
          (List.append_cancel_left (show betweenWord ++ _ = betweenWord ++ _ from hwindow))

end Reading

end AccessLog
