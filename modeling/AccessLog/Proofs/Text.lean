import AccessLog.Text.Blank
import AccessLog.Text.DecimalDigit
import AccessLog.Text.Numeral
import AccessLog.Text.Separated
import Mathlib.Algebra.Group.Nat.Defs
import Mathlib.Data.List.Basic
import Mathlib.Data.List.DropRight
import Mathlib.Data.List.TakeWhile

/-!
# Digits, blanks and separators

Facts about texts that the readings of timestamps, lines and tokens share: the
digits of a number spell the number, a text without blanks at its ends is its
own stripped form, what stands between separators are the pieces, and neither
cutting a text at a separator nor reading a numeral in it makes it longer.
-/

namespace AccessLog.Text

/-! ## Digits -/

/-- An ASCII digit counts from the digit zero. -/
theorem digit?_of_isDigit {c : Char} (h : c.isDigit = true) :
    digit? c = some (c.toNat - '0'.toNat) := by
  have hc := Char.isDigit_iff_toNat.mp h
  have h0 : '0'.toNat = 0x30 := rfl
  have h9 : '9'.toNat = 0x39 := rfl
  unfold digit? digitZeros
  rw [List.find?_cons_of_pos (by simp; omega)]
  rfl

/-- What holds of the ten digits holds of every ASCII digit. -/
theorem of_isDigit {P : Char → Prop} (h : ∀ n < 10, P (Char.ofNat (0x30 + n))) {c : Char}
    (hc : c.isDigit = true) : P c := by
  have h0 : '0'.toNat = 0x30 := rfl
  have h9 : '9'.toNat = 0x39 := rfl
  obtain ⟨hlow, hhigh⟩ := Char.isDigit_iff_toNat.mp hc
  have hn := h (c.toNat - 0x30) (by omega)
  rw [Nat.add_sub_of_le (h0 ▸ hlow), Char.ofNat_toNat] at hn
  exact hn

theorem decimal_eq_ofDigitChars {cs : List Char} (h : ∀ c ∈ cs, c.isDigit = true) :
    decimal cs = Nat.ofDigitChars 10 cs 0 := by
  rw [Nat.ofDigitChars_eq_foldl]
  refine List.foldl_ext _ _ 0 (fun n c hc => ?_)
  rw [digit?_of_isDigit (h c hc)]
  rfl

/-- The digits of a number, as characters, are ASCII digits. -/
theorem isDigit_of_mem_digits {n : Nat} {c : Char} (h : c ∈ Nat.toDigits 10 n) :
    c.isDigit = true :=
  Nat.isDigit_of_mem_toDigits (by decide) (by decide) h

/-- The digits of a number spell the number. -/
@[simp] theorem decimal_toDigits (n : Nat) : decimal (Nat.toDigits 10 n) = n := by
  rw [decimal_eq_ofDigitChars (fun _ hc => isDigit_of_mem_digits hc)]
  exact Nat.ofDigitChars_ten_toDigits

/-- Digits spell a number below the power of ten that has as many zeros. -/
theorem ofDigitChars_lt {cs : List Char} (h : ∀ c ∈ cs, c.isDigit = true) :
    Nat.ofDigitChars 10 cs 0 < 10 ^ cs.length := by
  induction cs with
  | nil => decide
  | cons c cs ih =>
    obtain ⟨hc, hcs⟩ := List.forall_mem_cons.mp h
    have hdigit := (Char.isDigit_iff_toNat.mp hc).2
    have h0 : '0'.toNat = 0x30 := rfl
    have h9 : '9'.toNat = 0x39 := rfl
    have hle : c.toNat - '0'.toNat ≤ 9 := by omega
    rw [Nat.ofDigitChars_cons, Nat.ofDigitChars_eq_ofDigitChars_zero, Nat.mul_zero, Nat.zero_add,
      List.length_cons, Nat.pow_succ]
    calc 10 ^ cs.length * (c.toNat - '0'.toNat) + Nat.ofDigitChars 10 cs 0
        < 10 ^ cs.length * (c.toNat - '0'.toNat) + 10 ^ cs.length := Nat.add_lt_add_left (ih hcs) _
      _ = 10 ^ cs.length * (c.toNat - '0'.toNat + 1) := rfl
      _ ≤ 10 ^ cs.length * 10 := Nat.mul_le_mul_left _ (Nat.succ_le_succ hle)

theorem isBlank_of_isDigit {c : Char} (h : c.isDigit = true) : isBlank c = false := by
  have hc := Char.isDigit_iff_toNat.mp h
  have h0 : '0'.toNat = 0x30 := rfl
  have h9 : '9'.toNat = 0x39 := rfl
  simp only [isBlank, blanks, CharSet.contains, List.any_cons, List.any_nil,
    Bool.or_false, Bool.or_eq_false_iff, Bool.and_eq_false_iff, decide_eq_false_iff_not]
  omega

/-! ## Stripping -/

theorem dropTrailing_eq_self {α : Type} {p : α → Bool} {l : List α}
    (h : ∀ a ∈ l.getLast?, p a = false) : dropTrailing p l = l := by
  rcases List.eq_nil_or_concat' l with rfl | ⟨l, a, rfl⟩
  · rfl
  · rw [dropTrailing_concat, h a List.getLast?_concat]
    rfl

theorem dropTrailing_sublist {α : Type} (p : α → Bool) (l : List α) :
    (dropTrailing p l).Sublist l :=
  (List.rdropWhile_prefix p l).sublist

theorem dropTrailing_append_of_all {α : Type} {p : α → Bool} {l t : List α}
    (h : ∀ a ∈ t, p a = true) : dropTrailing p (l ++ t) = dropTrailing p l := by
  rw [dropTrailing, dropTrailing, List.reverse_append, List.dropWhile_append_of_pos]
  exact fun a ha => h a (List.mem_reverse.mp ha)

/-- What is dropped at the end of a text satisfies the predicate. -/
theorem exists_dropTrailing_append {α : Type} (p : α → Bool) (l : List α) :
    ∃ dropped, l = dropTrailing p l ++ dropped ∧ ∀ a ∈ dropped, p a = true :=
  ⟨l.rtakeWhile p, List.rdropWhile_append_rtakeWhile.symm,
    fun _ ha => List.mem_rtakeWhile_imp ha⟩

/-- What is left does not end with more of it. -/
theorem getLast?_dropTrailing {α : Type} {p : α → Bool} {l : List α} :
    ∀ a ∈ (dropTrailing p l).getLast?, p a = false := by
  intro a ha
  obtain ⟨hne, rfl⟩ := List.mem_getLast?_eq_getLast ha
  exact Bool.eq_false_iff.mpr (List.rdropWhile_last_not p l hne)

/-- **What is left is told by its end**, which is nothing that is dropped. -/
theorem dropTrailing_append_eq_left {α : Type} {p : α → Bool} {l dropped : List α}
    (hl : ∀ a ∈ l.getLast?, p a = false) (hdropped : ∀ a ∈ dropped, p a = true) :
    dropTrailing p (l ++ dropped) = l := by
  rw [dropTrailing_append_of_all hdropped, dropTrailing_eq_self hl]

/-- **A text without blanks at its ends is its own stripped form.** -/
theorem strip_eq_self {cs : List Char} (hfirst : ∀ c ∈ cs.head?, isBlank c = false)
    (hlast : ∀ c ∈ cs.getLast?, isBlank c = false) : strip cs = cs := by
  have hdrop : cs.dropWhile isBlank = cs := by
    cases cs with
    | nil => rfl
    | cons c cs => rw [List.dropWhile_cons_of_neg (by simp [hfirst c rfl])]
  rw [strip, hdrop, dropTrailing_eq_self hlast]

/-- **Nothing is left of a text when it is stripped** exactly if it holds blanks
only. -/
theorem strip_eq_nil_iff {cs : List Char} : strip cs = [] ↔ allBlank cs = true := by
  rw [strip, dropTrailing, List.reverse_eq_nil_iff, List.dropWhile_eq_nil_iff, allBlank,
    List.all_eq_true]
  constructor
  · intro h c hc
    -- a character stands before the first that is not blank, or behind it
    rw [← List.takeWhile_append_dropWhile (p := isBlank) (l := cs), List.mem_append] at hc
    rcases hc with hc | hc
    · exact List.mem_takeWhile_imp hc
    · exact h c (List.mem_reverse.mpr hc)
  · intro h c hc
    exact h c ((List.dropWhile_sublist isBlank).mem (List.mem_reverse.mp hc))

/-! ## Pieces -/

/-- What stands before the first separator is the first piece. -/
theorem pieces_append_cons {c : Char} {first : List Char} (h : c ∉ first) (rest : List Char) :
    pieces [c] (first ++ c :: rest) = first :: pieces [c] rest := by
  unfold pieces
  induction first with
  | nil => simp [piecesFrom]
  | cons d first ih =>
    have hd : c ≠ d := fun heq => h (heq ▸ List.mem_cons_self)
    rw [List.cons_append, piecesFrom, ih fun hmem => h (List.mem_cons_of_mem d hmem)]
    simp [hd]

/-- A text without the separator is its only piece. -/
theorem pieces_of_not_mem {c : Char} {cs : List Char} (h : c ∉ cs) : pieces [c] cs = [cs] := by
  unfold pieces
  induction cs with
  | nil => rfl
  | cons d cs ih =>
    have hd : c ≠ d := fun heq => h (heq ▸ List.mem_cons_self)
    rw [piecesFrom, ih fun hmem => h (List.mem_cons_of_mem d hmem)]
    simp [hd]

/-- A word that begins a text is erased from it. -/
theorem eraseAll_append (c : Char) (sep cs : List Char) :
    eraseAll (c :: sep) ((c :: sep) ++ cs) = eraseAll (c :: sep) cs := by
  unfold eraseAll pieces
  rw [List.cons_append, piecesFrom, if_pos (by simp), List.flatten_cons, List.nil_append,
    piecesFrom_eq_drop]
  simp

/-- Nothing is erased from a text that lacks the first letter of the word. -/
theorem eraseAll_of_not_mem {c : Char} {sep cs : List Char} (h : c ∉ cs) :
    eraseAll (c :: sep) cs = cs := by
  unfold eraseAll pieces
  induction cs with
  | nil => rfl
  | cons d cs ih =>
    have hd : c ≠ d := fun heq => h (heq ▸ List.mem_cons_self)
    have hrest := ih fun hmem => h (List.mem_cons_of_mem d hmem)
    rw [piecesFrom, if_neg (by simp [hd])]
    cases hp : piecesFrom (c :: sep) 0 cs with
    | nil => rw [hp] at hrest; simp [← hrest]
    | cons p ps => rw [hp] at hrest; simp [← hrest]

/-- What stands behind a word that begins a text. -/
theorem eq_append_drop_of_isPrefixOf {sep cs : List Char} {c : Char} (hne : sep ≠ [])
    (h : sep.isPrefixOf (c :: cs) = true) : c :: cs = sep ++ cs.drop (sep.length - 1) := by
  obtain ⟨rest, hrest⟩ := List.isPrefixOf_iff_prefix.mp h
  have hlength : 0 < sep.length := List.length_pos_iff.mpr hne
  have hdrop : cs.drop (sep.length - 1) = rest := by
    rw [← List.drop_succ_cons (a := c), Nat.sub_add_cancel hlength, ← hrest, List.drop_left]
  rw [hdrop, hrest]

/-- Cutting at a word leaves every character that the word does not hold. -/
theorem mem_flatten_piecesFrom {sep cs : List Char} (hne : sep ≠ []) {c : Char} (hsep : c ∉ sep)
    {k : Nat} (hc : c ∈ cs.drop k) : c ∈ (piecesFrom sep k cs).flatten := by
  induction cs generalizing k with
  | nil => simp at hc
  | cons x cs ih =>
    cases k with
    | succ k => exact ih hc
    | zero =>
      rw [piecesFrom]
      split
      · -- the occurrence of the word is passed over, and the character stands behind it
        rename_i hprefix
        rw [List.drop_zero, eq_append_drop_of_isPrefixOf hne hprefix, List.mem_append] at hc
        exact ih (hc.resolve_left hsep)
      · rcases List.mem_cons.mp hc with rfl | hc
        · cases piecesFrom sep 0 cs <;> simp
        · have hrest := ih (k := 0) hc
          cases hp : piecesFrom sep 0 cs with
          | nil => rw [hp] at hrest; cases hrest
          | cons p ps =>
            rw [hp] at hrest
            exact List.mem_cons_of_mem x hrest

/-- The first piece begins the text. -/
theorem prefix_of_head?_pieces {sep cs p : List Char} (h : (pieces sep cs).head? = some p) :
    p <+: cs := by
  unfold pieces at h
  induction cs generalizing p with
  | nil => cases h; exact List.nil_prefix
  | cons c cs ih =>
    rw [piecesFrom] at h
    split at h
    · cases h
      exact List.nil_prefix
    · cases hp : piecesFrom sep 0 cs with
      | nil =>
        rw [hp] at h
        cases h
        exact (List.prefix_append [c] cs)
      | cons q qs =>
        rw [hp] at h ih
        cases h
        exact List.cons_prefix_cons.mpr ⟨rfl, ih rfl⟩

/-- **No piece holds the separator.** -/
theorem not_infix_of_mem_piecesFrom {sep : List Char} (hne : sep ≠ []) {k : Nat}
    {cs p : List Char} (h : p ∈ piecesFrom sep k cs) : ¬ sep <:+: p := by
  have hnil : ¬ sep <:+: [] := fun hinfix => hne (List.infix_nil.mp hinfix)
  induction cs generalizing k p with
  | nil =>
    rw [piecesFrom, List.mem_singleton] at h
    rwa [h]
  | cons c cs ih =>
    cases k with
    | succ k => exact ih h
    | zero =>
      rw [piecesFrom] at h
      split at h
      · rcases List.mem_cons.mp h with rfl | h
        · exact hnil
        · exact ih h
      · -- an occurrence in the first piece would begin the text or stand behind its first character
        rename_i hprefix
        have hfirst : ∀ q : List Char, q <+: cs → ¬ sep <:+: q → ¬ sep <:+: c :: q := by
          intro q hq hinfix habsurd
          rcases List.infix_cons_iff.mp habsurd with hbegins | hbehind
          · exact hprefix (List.isPrefixOf_iff_prefix.mpr
              (hbegins.trans (List.cons_prefix_cons.mpr ⟨rfl, hq⟩)))
          · exact hinfix hbehind
        cases hp : piecesFrom sep 0 cs with
        | nil =>
          rw [hp] at h
          rw [List.mem_singleton.mp h]
          exact hfirst [] List.nil_prefix hnil
        | cons q qs =>
          rw [hp] at h
          rcases List.mem_cons.mp h with rfl | h
          · have hhead : (pieces sep cs).head? = some q := congrArg List.head? hp
            exact hfirst q (prefix_of_head?_pieces hhead) (ih (k := 0) (hp ▸ List.mem_cons_self))
          · exact ih (k := 0) (hp ▸ List.mem_cons_of_mem q h)

/-! ## Numerals and lengths -/

/-- **A numeral of a number**: digits that spell its distance from zero, with a sign in front
or without. Zeros at the beginning of the digits do not matter. -/
inductive Numeral.Spells (n : Int) (digits : List Char) : List Char → Prop
  | bare (h : (Nat.ofDigitChars 10 digits 0 : Int) = n) : Spells n digits digits
  | plus (h : (Nat.ofDigitChars 10 digits 0 : Int) = n) : Spells n digits ('+' :: digits)
  | minus (h : -(Nat.ofDigitChars 10 digits 0 : Int) = n) : Spells n digits ('-' :: digits)

theorem Numeral.eq_of_ofDigits? {negative : Bool} {ds : List Char} {k : Numeral}
    (h : ofDigits? negative ds = some k) :
    k = ⟨negative, ds⟩ ∧ ∀ d ∈ ds, d.isDigit = true := by
  rw [ofDigits?] at h
  split at h
  · rename_i hds
    exact ⟨(Option.some.inj h).symm, List.all_eq_true.mp hds.2⟩
  · cases h

/-- **What is read is a numeral** of the number that it is read as. -/
theorem Numeral.spells_of_read? {cs : List Char} {k : Numeral} (h : read? cs = some k) :
    Spells k.value k.digits cs ∧ ∀ d ∈ k.digits, d.isDigit = true := by
  rw [read?.eq_def] at h
  split at h
  · obtain ⟨rfl, hds⟩ := eq_of_ofDigits? h
    exact ⟨.plus rfl, hds⟩
  · obtain ⟨rfl, hds⟩ := eq_of_ofDigits? h
    exact ⟨.minus rfl, hds⟩
  · obtain ⟨rfl, hds⟩ := eq_of_ofDigits? h
    exact ⟨.bare rfl, hds⟩

/-- A numeral is made of digits and signs. -/
theorem Numeral.isDigit_or_sign_of_read? {cs : List Char} {n : Numeral} (h : read? cs = some n)
    {c : Char} (hc : c ∈ cs) : c.isDigit = true ∨ c = '+' ∨ c = '-' := by
  obtain ⟨hspells, hdigits⟩ := spells_of_read? h
  generalize n.digits = digits at hspells hdigits
  cases hspells with
  | bare => exact Or.inl (hdigits c hc)
  | plus =>
    rcases List.mem_cons.mp hc with rfl | hc
    · exact Or.inr (Or.inl rfl)
    · exact Or.inl (hdigits c hc)
  | minus =>
    rcases List.mem_cons.mp hc with rfl | hc
    · exact Or.inr (Or.inr rfl)
    · exact Or.inl (hdigits c hc)

/-- Digits alone are a numeral. -/
theorem Numeral.read?_of_digits {ds : List Char} (hne : ds ≠ [])
    (hds : ∀ d ∈ ds, d.isDigit = true) : read? ds = some ⟨false, ds⟩ := by
  have hdigits : ofDigits? false ds = some ⟨false, ds⟩ :=
    if_pos ⟨hne, List.all_eq_true.mpr hds⟩
  rw [read?.eq_def]
  split
  · cases hds '+' List.mem_cons_self
  · cases hds '-' List.mem_cons_self
  · exact hdigits

/-- Digits behind a minus are a numeral. -/
theorem Numeral.read?_minus_digits {ds : List Char} (hne : ds ≠ [])
    (hds : ∀ d ∈ ds, d.isDigit = true) : read? ('-' :: ds) = some ⟨true, ds⟩ :=
  if_pos ⟨hne, List.all_eq_true.mpr hds⟩

/-- **A numeral is read as its number.** -/
theorem Numeral.Spells.exists_read? {n : Int} {digits cs : List Char} (h : Spells n digits cs)
    (hne : digits ≠ []) (hdigits : ∀ d ∈ digits, d.isDigit = true) :
    ∃ k, read? cs = some k ∧ k.digits = digits ∧ k.value = n := by
  cases h with
  | bare h => exact ⟨⟨false, digits⟩, read?_of_digits hne hdigits, rfl, h⟩
  | plus h => exact ⟨⟨false, digits⟩, if_pos ⟨hne, List.all_eq_true.mpr hdigits⟩, rfl, h⟩
  | minus h => exact ⟨⟨true, digits⟩, read?_minus_digits hne hdigits, rfl, h⟩

/-- The decimal form of a number is a numeral of it. -/
theorem Numeral.spells_toString (n : Int) :
    Spells n (Nat.toDigits 10 n.natAbs) (toString n).toList := by
  cases n with
  | ofNat m =>
    have htext : (toString (Int.ofNat m)).toList = Nat.toDigits 10 m := Nat.toList_repr
    rw [htext]
    exact .bare (congrArg Int.ofNat Nat.ofDigitChars_ten_toDigits)
  | negSucc m =>
    have htext : (toString (Int.negSucc m)).toList = '-' :: Nat.toDigits 10 (m + 1) := by
      show ("-" ++ (m + 1).repr).toList = _
      rw [String.toList_append, Nat.toList_repr]
      rfl
    rw [htext]
    refine .minus ?_
    show -((Nat.ofDigitChars 10 (Nat.toDigits 10 (m + 1)) 0 : Nat) : Int) = Int.negSucc m
    rw [Nat.ofDigitChars_ten_toDigits]
    rfl

/-- **A number is read from its decimal form.** -/
theorem Numeral.exists_read?_toString (n : Int) :
    ∃ k, read? (toString n).toList = some k ∧ k.value = n := by
  obtain ⟨k, hk, -, hvalue⟩ := (spells_toString n).exists_read? Nat.toDigits_ne_nil
    fun _ hd => isDigit_of_mem_digits hd
  exact ⟨k, hk, hvalue⟩

/-- A numeral has no more digits than its text has characters. -/
theorem Numeral.length_digits_le {cs : List Char} {n : Numeral} (h : read? cs = some n) :
    n.digits.length ≤ cs.length := by
  have hspells := (spells_of_read? h).1
  generalize n.digits = digits at hspells ⊢
  cases hspells with
  | bare => exact Nat.le_refl _
  | plus => exact Nat.le_succ _
  | minus => exact Nat.le_succ _

/-- Cutting a text leaves nothing but characters of the text, in their order. -/
theorem flatten_piecesFrom_sublist (sep : List Char) (k : Nat) (cs : List Char) :
    (piecesFrom sep k cs).flatten.Sublist cs := by
  induction cs generalizing k with
  | nil => cases k <;> exact List.nil_sublist []
  | cons c cs ih =>
    cases k with
    | succ k => exact (ih k).cons c
    | zero =>
      rw [piecesFrom]
      split
      · exact (ih _).cons c
      · -- the character joins the piece that is begun
        have hcs := ih 0
        cases hp : piecesFrom sep 0 cs with
        | nil => exact (List.nil_sublist cs).cons_cons c
        | cons p ps =>
          rw [hp] at hcs
          exact hcs.cons_cons c

/-- Cutting a text does not make it longer. -/
theorem length_flatten_piecesFrom (sep : List Char) (k : Nat) (cs : List Char) :
    (piecesFrom sep k cs).flatten.length ≤ cs.length :=
  (flatten_piecesFrom_sublist sep k cs).length_le

end AccessLog.Text
