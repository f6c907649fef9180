import AccessLog.Text.LowerCase
import Mathlib.Data.List.Basic

/-!
# What lower-casing does to the end of a text

Each character of a text has a form of its own in the lower-case form of the text. But for two
characters this is one character that does not depend on its neighbours. A capital sigma has one of
two forms, by what stands before and behind it, and the capital I with a dot becomes two characters.

So the end of a text is not lower-cased as it is by itself: what comes before it matters, though
only for the first capital sigma in it, if nothing but ignorable characters stands in front of that
(`lowerFrom_eq_or_sigma`). And what ends the lower-case form of a text need not be the form of an
end of the text: it can begin with the second character that the capital I with a dot becomes
(`suffix_lowerFrom_iff`).
-/

namespace AccessLog.Text

/-! ## One character -/

/-- The lower-case form of a character between the characters before it, the nearest first, and
those behind it. -/
def letterForm (before : List Char) (c : Char) (behind : List Char) : List Char :=
  if c = 'Σ' then if nextIsCased before && !nextIsCased behind then ['ς'] else ['σ']
  else if c = 'İ' then ['i', '\u0307']
  else [lowerChar c]

theorem lowerFrom_cons (before : List Char) (c : Char) (cs : List Char) :
    lowerFrom before (c :: cs) = letterForm before c cs ++ lowerFrom (c :: before) cs := rfl

/-- Only a capital sigma is lower-cased by its neighbours. -/
theorem letterForm_of_ne {c : Char} (hc : c ≠ 'Σ') (before before' behind behind' : List Char) :
    letterForm before c behind = letterForm before' c behind' := by
  rw [letterForm, letterForm, if_neg hc, if_neg hc]

theorem letterForm_congr {before before' : List Char}
    (h : nextIsCased before = nextIsCased before') (c : Char) (behind : List Char) :
    letterForm before c behind = letterForm before' c behind := by
  rw [letterForm, letterForm, h]

/-- A character becomes one, or it is the capital I with a dot. -/
theorem letterForm_cases (before : List Char) (c : Char) (behind : List Char) :
    (∃ d, letterForm before c behind = [d] ∧ c ≠ 'İ') ∨
      c = 'İ' ∧ letterForm before c behind = ['i', '\u0307'] := by
  by_cases hsigma : c = 'Σ'
  · subst hsigma
    rw [letterForm, if_pos rfl]
    split
    · exact Or.inl ⟨'ς', rfl, by decide⟩
    · exact Or.inl ⟨'σ', rfl, by decide⟩
  · rw [letterForm, if_neg hsigma]
    by_cases hdot : c = 'İ'
    · exact Or.inr ⟨hdot, if_pos hdot⟩
    · exact Or.inl ⟨lowerChar c, if_neg hdot, hdot⟩

/-! ## Neighbours -/

/-- An ignorable character is passed over, and any other is looked at. -/
theorem nextIsCased_cons (c : Char) (cs : List Char) :
    nextIsCased (c :: cs)
      = if caseIgnorable.contains c then nextIsCased cs else casedLetters.contains c := by
  unfold nextIsCased
  rw [List.dropWhile_cons]
  by_cases h : caseIgnorable.contains c = true
  · rw [if_pos h, if_pos h]
  · rw [if_neg h, if_neg h]

theorem nextIsCased_sigma (cs : List Char) : nextIsCased ('Σ' :: cs) = true := by
  rw [nextIsCased_cons, if_neg (by decide +kernel)]
  decide +kernel

theorem nextIsCased_dotted (cs : List Char) : nextIsCased ('İ' :: cs) = true := by
  rw [nextIsCased_cons, if_neg (by decide +kernel)]
  decide +kernel

theorem ne_sigma_of_ignorable {c : Char} (h : caseIgnorable.contains c = true) : c ≠ 'Σ' := by
  rintro rfl
  exact absurd h (by decide +kernel)

/-- **Of what comes before a text it matters only** whether a letter with a case is the nearest
that is not ignorable. -/
theorem lowerFrom_congr {before before' : List Char}
    (h : nextIsCased before = nextIsCased before') (cs : List Char) :
    lowerFrom before cs = lowerFrom before' cs := by
  induction cs generalizing before before' with
  | nil => rfl
  | cons c cs ih =>
    have hcons : nextIsCased (c :: before) = nextIsCased (c :: before') := by
      rw [nextIsCased_cons, nextIsCased_cons, h]
    rw [lowerFrom_cons, lowerFrom_cons, letterForm_congr h, ih hcons]

/-- An ignorable character before a text counts as none. -/
theorem lowerFrom_singleton {c : Char} (h : caseIgnorable.contains c = true) (cs : List Char) :
    lowerFrom [c] cs = lowerFrom [] cs :=
  lowerFrom_congr (by rw [nextIsCased_cons, if_pos h]) cs

/-- **A capital sigma behind ignorable characters** takes its form from what comes before them, and
nothing else does. -/
theorem lowerFrom_ignorable_sigma {ignorable : List Char}
    (h : ∀ c ∈ ignorable, caseIgnorable.contains c = true) (before rest : List Char) :
    lowerFrom before (ignorable ++ 'Σ' :: rest)
      = lowerFrom [] ignorable ++
          (if nextIsCased before && !nextIsCased rest then 'ς' else 'σ') ::
            lowerFrom ['Σ'] rest := by
  induction ignorable generalizing before with
  | nil =>
    have hrest : lowerFrom ('Σ' :: before) rest = lowerFrom ['Σ'] rest :=
      lowerFrom_congr (by rw [nextIsCased_sigma, nextIsCased_sigma]) rest
    rw [List.nil_append, lowerFrom_cons, hrest, letterForm, if_pos rfl]
    split <;> rfl
  | cons c cs ih =>
    obtain ⟨hc, hcs⟩ := List.forall_mem_cons.mp h
    have hbefore : nextIsCased (c :: before) = nextIsCased before := by
      rw [nextIsCased_cons, if_pos hc]
    rw [List.cons_append, lowerFrom_cons, lowerFrom_cons, ih hcs, hbefore,
      lowerFrom_singleton hc, List.append_assoc,
      letterForm_of_ne (ne_sigma_of_ignorable hc) before [] _ cs]

/-- **A text is lower-cased as by itself**, unless its first letter is a capital sigma that ends a
word begun before it. -/
theorem lowerFrom_eq_or_sigma (before cs : List Char) :
    lowerFrom before cs = lowerFrom [] cs ∨
      ∃ ignorable rest, cs = ignorable ++ 'Σ' :: rest ∧
        (∀ c ∈ ignorable, caseIgnorable.contains c = true) ∧
        nextIsCased before = true ∧ nextIsCased rest = false := by
  induction cs generalizing before with
  | nil => exact Or.inl rfl
  | cons c cs ih =>
    by_cases hc : caseIgnorable.contains c = true
    · rcases ih (c :: before) with heq | ⟨ignorable, rest, rfl, hignorable, hbefore, hrest⟩
      · left
        rw [lowerFrom_cons, lowerFrom_cons, heq, lowerFrom_singleton hc,
          letterForm_of_ne (ne_sigma_of_ignorable hc) before [] cs cs]
      · rw [nextIsCased_cons, if_pos hc] at hbefore
        exact Or.inr ⟨c :: ignorable, rest, rfl, List.forall_mem_cons.mpr ⟨hc, hignorable⟩,
          hbefore, hrest⟩
    · -- behind this character nothing sees what comes before it
      have hcs : lowerFrom (c :: before) cs = lowerFrom [c] cs :=
        lowerFrom_congr (by rw [nextIsCased_cons, nextIsCased_cons, if_neg hc, if_neg hc]) cs
      rw [lowerFrom_cons, lowerFrom_cons, hcs]
      by_cases hsigma : c = 'Σ'
      · subst hsigma
        by_cases hlast : nextIsCased before = true ∧ nextIsCased cs = false
        · exact Or.inr ⟨[], cs, rfl, fun _ h => absurd h List.not_mem_nil, hlast⟩
        · left
          have hform : (nextIsCased before && !nextIsCased cs) = false := by
            rw [Bool.and_eq_false_iff, Bool.not_eq_false']
            simpa [Classical.or_iff_not_imp_left] using hlast
          have halone : (nextIsCased [] && !nextIsCased cs) = false := rfl
          rw [letterForm, letterForm, hform, halone]
      · left
        rw [letterForm_of_ne hsigma before [] cs cs]

/-! ## Lengths -/

/-- The length of the lower-case form of a text: a capital I with a dot counts twice. -/
def lowerLength (cs : List Char) : Nat := cs.length + cs.count 'İ'

theorem lowerLength_append (cs ds : List Char) :
    lowerLength (cs ++ ds) = lowerLength cs + lowerLength ds := by
  rw [lowerLength, lowerLength, lowerLength, List.length_append, List.count_append]
  omega

theorem lowerLength_dotted (cs : List Char) : lowerLength ('İ' :: cs) = lowerLength cs + 2 := by
  rw [lowerLength, lowerLength, List.length_cons, List.count_cons_self]
  omega

theorem length_lowerFrom (before cs : List Char) :
    (lowerFrom before cs).length = lowerLength cs := by
  induction cs generalizing before with
  | nil => rfl
  | cons c cs ih =>
    rw [lowerFrom_cons, List.length_append, ih]
    rcases letterForm_cases before c cs with ⟨d, hd, hdot⟩ | ⟨rfl, hform⟩
    · rw [hd, lowerLength, lowerLength, List.length_cons, List.count_cons_of_ne hdot]
      simp only [List.length_cons, List.length_nil]
      omega
    · rw [hform, lowerLength_dotted, Nat.add_comm]
      rfl

/-- No character is lost. -/
theorem length_le_lowerLength (cs : List Char) : cs.length ≤ lowerLength cs :=
  Nat.le_add_right cs.length (cs.count 'İ')

/-- A longer end of a text has a longer form. -/
theorem lowerLength_lt_or_eq {a b : List Char} (h : a <:+ b) :
    lowerLength a < lowerLength b ∨ a = b := by
  obtain ⟨front, rfl⟩ := h
  have hfront := length_le_lowerLength front
  rw [lowerLength_append]
  rcases front with - | ⟨c, front⟩
  · exact Or.inr rfl
  · rw [List.length_cons] at hfront
    exact Or.inl (by omega)

/-- **An end of a text is told by the length of its lower-case form.** -/
theorem eq_of_lowerLength_eq {a b cs : List Char} (ha : a <:+ cs) (hb : b <:+ cs)
    (h : lowerLength a = lowerLength b) : a = b := by
  rcases List.suffix_or_suffix_of_suffix ha hb with hab | hba
  · exact (lowerLength_lt_or_eq hab).resolve_left (by omega)
  · exact ((lowerLength_lt_or_eq hba).resolve_left (by omega)).symm

/-- No end of a text begins inside the capital I with a dot. -/
theorem lowerLength_ne_of_dotted {a b cs : List Char} (ha : a <:+ cs) (hb : 'İ' :: b <:+ cs) :
    lowerLength a ≠ lowerLength b + 1 := by
  have hdotted := lowerLength_dotted b
  rcases List.suffix_or_suffix_of_suffix ha hb with hab | hba
  · rcases List.suffix_cons_iff.mp hab with rfl | hab
    · omega
    · rcases lowerLength_lt_or_eq hab with hlt | rfl <;> omega
  · rcases lowerLength_lt_or_eq hba with hlt | rfl <;> omega

/-! ## Ends of the lower-case form -/

/-- The form of an end of a text ends the form of the text. -/
theorem lowerFrom_suffix (before stem e : List Char) :
    lowerFrom (stem.reverse ++ before) e <:+ lowerFrom before (stem ++ e) := by
  induction stem generalizing before with
  | nil => exact List.suffix_rfl
  | cons c stem ih =>
    have hstem := ih (c :: before)
    rw [List.reverse_cons, List.append_assoc, List.singleton_append, List.cons_append,
      lowerFrom_cons]
    exact hstem.trans (List.suffix_append _ _)

/-- What comes before the capital I with a dot does not matter behind it. -/
theorem lowerFrom_dotted (before cs : List Char) :
    lowerFrom ('İ' :: before) cs = lowerFrom ['İ'] cs :=
  lowerFrom_congr (by rw [nextIsCased_dotted, nextIsCased_dotted]) cs

/-- What ends the form of a text is all of it, begins inside its first character, or stands
behind that. -/
theorem suffix_lowerFrom_cons {t before cs : List Char} {c : Char}
    (h : t <:+ lowerFrom before (c :: cs)) :
    lowerFrom before (c :: cs) = t ∨ (c = 'İ' ∧ t = '\u0307' :: lowerFrom ['İ'] cs) ∨
      t <:+ lowerFrom (c :: before) cs := by
  rw [lowerFrom_cons] at h ⊢
  rcases letterForm_cases before c cs with ⟨d, hd, -⟩ | ⟨rfl, hform⟩
  · rw [hd, List.singleton_append] at h ⊢
    rcases List.suffix_cons_iff.mp h with heq | hcs
    · exact Or.inl heq.symm
    · exact Or.inr (Or.inr hcs)
  · rw [hform, List.cons_append, List.singleton_append] at h ⊢
    rcases List.suffix_cons_iff.mp h with heq | h
    · exact Or.inl heq.symm
    · rcases List.suffix_cons_iff.mp h with heq | hcs
      · exact Or.inr (Or.inl ⟨rfl, by rw [heq, lowerFrom_dotted]⟩)
      · exact Or.inr (Or.inr hcs)

/-- **What ends the lower-case form of a text** is the form of an end of the text in its place, or
it begins with the dot that the capital I with a dot becomes. -/
theorem suffix_lowerFrom_iff {t before cs : List Char} :
    t <:+ lowerFrom before cs
      ↔ (∃ stem e, cs = stem ++ e ∧ lowerFrom (stem.reverse ++ before) e = t) ∨
        ∃ stem rest, cs = stem ++ 'İ' :: rest ∧ t = '\u0307' :: lowerFrom ['İ'] rest := by
  constructor
  · intro h
    induction cs generalizing before with
    | nil => exact Or.inl ⟨[], [], rfl, (List.suffix_nil.mp h).symm⟩
    | cons c cs ih =>
      rcases suffix_lowerFrom_cons h with heq | ⟨rfl, ht⟩ | hcs
      · exact Or.inl ⟨[], c :: cs, rfl, heq⟩
      · exact Or.inr ⟨[], cs, rfl, ht⟩
      · rcases ih hcs with ⟨stem, e, rfl, he⟩ | ⟨stem, rest, rfl, ht⟩
        · refine Or.inl ⟨c :: stem, e, rfl, ?_⟩
          rwa [List.reverse_cons, List.append_assoc, List.singleton_append]
        · exact Or.inr ⟨c :: stem, rest, rfl, ht⟩
  · rintro (⟨stem, e, rfl, rfl⟩ | ⟨stem, rest, rfl, rfl⟩)
    · exact lowerFrom_suffix before stem e
    · refine List.IsSuffix.trans ?_ (lowerFrom_suffix before stem ('İ' :: rest))
      rw [← lowerFrom_dotted (stem.reverse ++ before)]
      exact List.suffix_cons 'i' _

end AccessLog.Text
