import AccessLog.Line
import AccessLog.Proofs.Text
import AccessLog.Text.Lines

/-!
# What the lines of a text are made of

A line is its content and its ending, and the content holds no character of an
ending (`content_of_mem_lines`).

The first lines of a text are the lines of a beginning of the text that stops
behind an ending, or is the whole text (`exists_lines_take`).

What a line holds does not show in the lines before it and behind it
(`lines_between`). Two characters can be one ending, though: where a carriage
return stands before the line and a line feed behind it, a line of no characters
is none.
-/

namespace AccessLog

namespace Text

/-! ## The first line -/

theorem lines_return {cs : List Char} (h : ∀ rest, cs ≠ '\n' :: rest) :
    lines ('\r' :: cs) = ['\n'] :: lines cs := by
  rw [lines]
  exact fun rest hcs => h rest hcs

/-- A character that ends no line begins the first line. -/
theorem lines_cons {c : Char} (hc : Line.isEnding c = false) (cs : List Char) :
    lines (c :: cs) = (c :: (lines cs).headD []) :: (lines cs).tail := by
  have hreturn : c ≠ '\r' := fun heq => by simp [heq, Line.isEnding] at hc
  have hfeed : c ≠ '\n' := fun heq => by simp [heq, Line.isEnding] at hc
  rw [lines]
  · cases lines cs <;> rfl
  · exact fun _ heq _ => hreturn heq
  · exact hreturn
  · exact hfeed

/-- **Induction along the lines of a text**: the text is empty, or begins with an
ending, or with a character that ends no line. An ending that the text begins
with is one for every beginning of the text. -/
theorem lines_induction {P : List Char → Prop} (nil : P [])
    (ending : ∀ e cs, e ≠ [] → (∀ c ∈ e, Line.isEnding c = true) →
      (∀ a, a <+: cs → lines (e ++ a) = ['\n'] :: lines a) → P cs → P (e ++ cs))
    (char : ∀ c cs, Line.isEnding c = false → P cs → P (c :: cs)) (cs : List Char) : P cs := by
  induction cs using lines.induct with
  | case1 => exact nil
  | case2 cs ih =>
    exact ending ['\r', '\n'] cs (by decide) (by simp [Line.isEnding]) (fun _ _ => rfl) ih
  | case3 cs hfeed ih =>
    refine ending ['\r'] cs (by decide) (by simp [Line.isEnding]) (fun a ha => lines_return ?_) ih
    -- a line feed behind the carriage return would belong to the ending
    rintro rest rfl
    obtain ⟨more, rfl⟩ := ha
    exact hfeed _ rfl
  | case4 cs ih => exact ending ['\n'] cs (by decide) (by simp [Line.isEnding]) (fun _ _ => rfl) ih
  | case5 c cs _ hreturn hfeed _ ih | case6 c cs _ hreturn hfeed _ _ _ ih =>
    refine char c cs ?_ ih
    rw [Line.isEnding, Bool.or_eq_false_iff, beq_eq_false_iff_ne, beq_eq_false_iff_ne]
    exact ⟨hreturn, hfeed⟩

/-- A text without lines is empty. -/
theorem eq_nil_of_lines {cs : List Char} (h : lines cs = []) : cs = [] := by
  cases cs using lines_induction with
  | nil => rfl
  | ending e cs _ _ hlines _ =>
    rw [hlines cs (List.prefix_refl cs)] at h
    cases h
  | char c cs hc _ =>
    rw [lines_cons hc] at h
    cases h

/-- **A line is its content and its ending.** Only the last line can lack the
ending. -/
theorem content_of_mem_lines {cs line : List Char} (h : line ∈ lines cs) :
    ∃ content, (∀ c ∈ content, Line.isEnding c = false) ∧
      (line = content ∨ line = content ++ ['\n']) := by
  induction cs using lines_induction generalizing line with
  | nil => cases h
  | ending e cs _ _ hlines ih =>
    rw [hlines cs (List.prefix_refl cs)] at h
    rcases List.mem_cons.mp h with rfl | h
    · exact ⟨[], fun _ hc => absurd hc List.not_mem_nil, Or.inr rfl⟩
    · exact ih h
  | char c cs hc ih =>
    have hcons : ∀ {content : List Char}, (∀ d ∈ content, Line.isEnding d = false) →
        ∀ d ∈ c :: content, Line.isEnding d = false :=
      fun hcontent => List.forall_mem_cons.mpr ⟨hc, hcontent⟩
    rw [lines_cons hc] at h
    cases hlines : lines cs with
    | nil =>
      rw [hlines] at h
      cases List.mem_singleton.mp h
      exact ⟨[c], hcons (fun _ hd => absurd hd List.not_mem_nil), Or.inl rfl⟩
    | cons first rest =>
      rw [hlines] at h ih
      rcases List.mem_cons.mp h with rfl | h
      · obtain ⟨content, hcontent, hfirst⟩ := ih List.mem_cons_self
        exact ⟨c :: content, hcons hcontent, hfirst.imp (congrArg _) (congrArg _)⟩
      · exact ih (List.mem_cons_of_mem first h)

/-- A text that holds an ending at its end only is one line. -/
theorem lines_of_content {content : List Char} (h : ∀ c ∈ content, Line.isEnding c = false) :
    lines (content ++ ['\n']) = [content ++ ['\n']] := by
  induction content with
  | nil => rfl
  | cons c content ih =>
    rw [List.cons_append, lines_cons (h c List.mem_cons_self),
      ih fun d hd => h d (List.mem_cons_of_mem c hd)]
    rfl

/-! ## The first lines -/

/-- The text stops behind an ending, or is empty. -/
def AtEnding (cs : List Char) : Prop := ∀ c ∈ cs.getLast?, Line.isEnding c = true

theorem AtEnding.cons {cs : List Char} (h : AtEnding cs) (hne : cs ≠ []) (c : Char) :
    AtEnding (c :: cs) := by
  intro d hd
  rw [List.getLast?_cons_of_ne_nil hne] at hd
  exact h d hd

theorem AtEnding.append {e cs : List Char} (he : ∀ c ∈ e, Line.isEnding c = true)
    (h : AtEnding cs) : AtEnding (e ++ cs) := by
  intro c hc
  rw [List.getLast?_append] at hc
  cases hlast : cs.getLast? with
  | none =>
    rw [hlast] at hc
    exact he c (List.mem_of_getLast? hc)
  | some d =>
    rw [hlast] at hc
    exact h c (hlast ▸ hc)

/-- **The first lines of a text are those of a beginning of it**, which is the
whole text or stops behind an ending. -/
theorem exists_lines_take (m : Nat) (cs : List Char) :
    ∃ a b, cs = a ++ b ∧ lines a = (lines cs).take m ∧ (b = [] ∨ AtEnding a) := by
  induction cs using lines_induction generalizing m with
  | nil => exact ⟨[], [], rfl, (List.take_nil).symm, Or.inl rfl⟩
  | ending e cs _ he hlines ih =>
    cases m with
    | zero => exact ⟨[], e ++ cs, rfl, rfl, Or.inr fun _ hc => absurd hc (Option.not_mem_none _)⟩
    | succ m =>
      obtain ⟨a, b, rfl, htake, hend⟩ := ih m
      refine ⟨e ++ a, b, (List.append_assoc e a b).symm, ?_, hend.imp id (AtEnding.append he)⟩
      rw [hlines a (List.prefix_append a b), hlines _ (List.prefix_refl _), htake,
        List.take_succ_cons]
  | char c cs hc ih =>
    cases m with
    | zero => exact ⟨[], c :: cs, rfl, rfl, Or.inr fun _ hc => absurd hc (Option.not_mem_none _)⟩
    | succ m =>
      obtain ⟨a, b, rfl, htake, hend⟩ := ih (m + 1)
      refine ⟨c :: a, b, rfl, ?_, ?_⟩
      · rw [lines_cons hc, lines_cons hc, htake]
        cases lines (a ++ b) <;> simp
      · cases a with
        | nil =>
          -- no line is left to be taken, so nothing is left of the text
          rcases List.take_eq_nil_iff.mp htake.symm with hm | hnil
          · cases hm
          · exact Or.inl (eq_nil_of_lines hnil)
        | cons d a => exact hend.imp id fun hat => hat.cons (List.cons_ne_nil d a) c

/-! ## A line between two texts -/

/-- A text that ends with a carriage return and one that begins with a line feed:
the two characters are one ending. -/
def Joined (a b : List Char) : Prop := a.getLast? = some '\r' ∧ b.head? = some '\n'

instance (a b : List Char) : Decidable (Joined a b) :=
  inferInstanceAs (Decidable (a.getLast? = some '\r' ∧ b.head? = some '\n'))

theorem joined_cons {a : List Char} (hne : a ≠ []) (c : Char) (b : List Char) :
    Joined (c :: a) b ↔ Joined a b := by
  rw [Joined, Joined, List.getLast?_cons_of_ne_nil hne]

/-- The text behind an ending: a line feed that completes the ending is left out. -/
def behind (a b : List Char) : List Char := if Joined a b then b.tail else b

theorem behind_cons {a : List Char} (hne : a ≠ []) (c : Char) (b : List Char) :
    behind (c :: a) b = behind a b := by
  unfold behind
  simp only [joined_cons hne]

theorem behind_of_getLast {a : List Char} (h : a.getLast? ≠ some '\r') (b : List Char) :
    behind a b = b := if_neg fun hjoined => h hjoined.1

theorem behind_feed (a b : List Char) : behind ('\n' :: a) b = behind a b := by
  cases a with
  | nil => rw [behind_of_getLast (by simp), behind_of_getLast (by simp)]
  | cons c a => exact behind_cons (List.cons_ne_nil c a) '\n' b

theorem AtEnding.of_cons {a : List Char} {c : Char} (h : AtEnding (c :: a)) : AtEnding a := by
  intro d hd
  have hne : a ≠ [] := fun heq => by rw [heq] at hd; cases hd
  exact h d (by rwa [List.getLast?_cons_of_ne_nil hne])

theorem lines_return_cons (b : List Char) :
    lines ('\r' :: b) = ['\n'] :: lines (behind ['\r'] b) := by
  by_cases hfeed : ∃ rest, b = '\n' :: rest
  · obtain ⟨rest, rfl⟩ := hfeed
    rfl
  · rw [lines_return fun rest heq => hfeed ⟨rest, heq⟩, behind, if_neg]
    rintro ⟨-, hhead⟩
    exact hfeed (List.head?_eq_some_iff.mp hhead)

/-- **The lines of a text that is cut behind an ending** are the lines of both
parts. -/
theorem lines_append {a : List Char} (ha : AtEnding a) (b : List Char) :
    lines (a ++ b) = lines a ++ lines (behind a b) := by
  induction a using lines.induct with
  | case1 => rw [behind_of_getLast (by simp)]; rfl
  | case2 cs ih =>
    rw [List.cons_append, List.cons_append, lines, lines, ih ha.of_cons.of_cons,
      behind_cons (List.cons_ne_nil _ _), behind_feed, List.cons_append]
  | case3 cs hfeed ih =>
    cases cs with
    | nil => exact lines_return_cons b
    | cons d cs =>
      have hnot : ∀ rest, d :: cs ++ b ≠ '\n' :: rest := fun rest heq =>
        hfeed cs (by rw [(List.cons.inj heq).1])
      rw [List.cons_append, lines_return hnot, lines_return hfeed, ih ha.of_cons,
        behind_cons (List.cons_ne_nil d cs), List.cons_append]
  | case4 cs ih =>
    rw [List.cons_append, lines, lines, ih ha.of_cons, behind_feed, List.cons_append]
  | case5 c cs _ hreturn hfeed hnil ih | case6 c cs _ hreturn hfeed _ _ _ ih =>
    have hc : Line.isEnding c = false := by
      rw [Line.isEnding, Bool.or_eq_false_iff, beq_eq_false_iff_ne, beq_eq_false_iff_ne]
      exact ⟨hreturn, hfeed⟩
    have hne : cs ≠ [] := by
      rintro rfl
      rw [ha c rfl] at hc
      cases hc
    rw [List.cons_append, lines_cons hc, lines_cons hc, ih ha.of_cons, behind_cons hne]
    obtain ⟨first, rest, hlines⟩ := List.exists_cons_of_ne_nil (mt eq_nil_of_lines hne)
    rw [hlines]
    rfl

/-- A text that begins with an ending has an empty first line. -/
theorem lines_of_head {b : List Char} (hne : b ≠ []) (hb : ∀ c ∈ b.head?, Line.isEnding c = true) :
    lines b = ['\n'] :: (lines b).tail := by
  cases b using lines_induction with
  | nil => exact absurd rfl hne
  | ending e cs _ _ hlines _ => rw [hlines cs (List.prefix_refl cs), List.tail_cons]
  | char c cs hc _ =>
    rw [hb c rfl] at hc
    cases hc

/-- Characters that end no line go to the front of the line that is ended behind
them. -/
theorem lines_content_append {m : List Char} (hm : ∀ c ∈ m, Line.isEnding c = false)
    {b : List Char} (hne : b ≠ []) (hb : ∀ c ∈ b.head?, Line.isEnding c = true) :
    lines (m ++ b) = (m ++ ['\n']) :: (lines b).tail := by
  induction m with
  | nil => exact lines_of_head hne hb
  | cons c m ih =>
    rw [List.cons_append, lines_cons (hm c List.mem_cons_self),
      ih fun d hd => hm d (List.mem_cons_of_mem c hd)]
    rfl

/-- Characters that end no line are one line, if there are any. -/
theorem lines_content {m : List Char} (hne : m ≠ []) (hm : ∀ c ∈ m, Line.isEnding c = false) :
    lines m = [m] := by
  induction m with
  | nil => exact absurd rfl hne
  | cons c m ih =>
    rw [lines_cons (hm c List.mem_cons_self)]
    cases m with
    | nil => rfl
    | cons d m =>
      rw [ih (List.cons_ne_nil d m) fun d hd => hm d (List.mem_cons_of_mem c hd)]
      rfl

/-- **The line that a text makes between two others**, the one up to an ending and
the other from an ending on. Nothing makes no line at the end, nor within an
ending. -/
def lineBetween (a m b : List Char) : List (List Char) :=
  if m = [] ∧ (b = [] ∨ Joined a b) then [] else [if b = [] then m else m ++ ['\n']]

/-- **One line among the others.** The lines before a line and the lines behind it
do not depend on what the line holds. -/
theorem lines_between {a m b : List Char} (ha : AtEnding a)
    (hm : ∀ c ∈ m, Line.isEnding c = false) (hb : ∀ c ∈ b.head?, Line.isEnding c = true) :
    lines (a ++ (m ++ b)) = lines a ++ (lineBetween a m b ++ (lines b).tail) := by
  rw [lines_append ha, lineBetween]
  refine congrArg (lines a ++ ·) ?_
  by_cases hempty : m = []
  · subst hempty
    rw [List.nil_append, behind]
    by_cases hnil : b = []
    · subst hnil
      simp [Joined, lines]
    · by_cases hjoined : Joined a b
      · -- the ending that `b` begins with is complete without its first character
        obtain ⟨rest, rfl⟩ := List.head?_eq_some_iff.mp hjoined.2
        rw [if_pos hjoined, if_pos ⟨rfl, Or.inr hjoined⟩]
        rfl
      · rw [if_neg hjoined, if_neg (by simp [hnil, hjoined]), if_neg hnil]
        exact lines_of_head hnil hb
  · have hbehind : behind a (m ++ b) = m ++ b := if_neg fun hjoined => by
      have hfeed := hjoined.2
      rw [List.head?_append_of_ne_nil _ hempty] at hfeed
      exact absurd (hm '\n' (List.mem_of_mem_head? hfeed)) (by decide)
    rw [hbehind, if_neg fun h => hempty h.1]
    by_cases hnil : b = []
    · subst hnil
      rw [List.append_nil, lines_content hempty hm]
      rfl
    · rw [lines_content_append hm hnil hb, if_neg hnil]
      rfl

end Text

end AccessLog
