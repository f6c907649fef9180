import AccessLog.Proofs.Directory
import AccessLog.Proofs.Text.LowerCase

/-!
# Names that end with the extension in any letter case

A name ends with the extension, letter case aside, if some end of it has the lower-case form of
the extension (`Place.EndsAlike`). The log files of a folder are looked for in another way: the
whole name is lower-cased, and its form is to end with the form of the extension.

The two ways agree unless a letter is cut (`Place.CutsLetter`), and there they never agree
(`Place.hasExtension_iff`). A word of the name is cut if its last letter is a capital sigma and
belongs to the extension while the word begins before it: in the name the sigma is the last of a
word, and by itself it is not. A letter is cut if it is the capital I with a dot and only the dot
belongs to the extension. An extension without a sigma that does not begin with a combining dot
cuts no letter (`Place.not_cutsLetter`), whatever the name.
-/

namespace AccessLog

namespace Place

/-- **A name ends with an extension, letter case aside**: an end of it has the lower-case form of
the extension. -/
def EndsAlike (extension name : String) : Prop :=
  ∃ stem e : String, name = stem ++ e ∧ Text.lower e = Text.lower extension

/-- **A word of a name is cut** off its last letter: the word ends with a capital sigma and begins
before the end of the name that would be the extension, in which nothing but ignorable characters
comes before the sigma. The form of the extension is the form of this end, up to the form of the
sigma. -/
structure CutsSigma (extension name : String) (stem ignorable rest : List Char) (form : Char) :
    Prop where
  name_eq : name.toList = stem ++ (ignorable ++ 'Σ' :: rest)
  ignorable_of_mem : ∀ c ∈ ignorable, Text.caseIgnorable.contains c = true
  before : Text.nextIsCased stem.reverse = true
  behind : Text.nextIsCased rest = false
  lower_eq : (Text.lower extension).toList
    = Text.lowerFrom [] ignorable ++ form :: Text.lowerFrom ['Σ'] rest

/-- **An extension cuts a letter of a name**: a capital sigma, which ends a word of the name, off
the rest of the word, or the dot off a capital I. -/
inductive CutsLetter (extension name : String) : Prop
  | sigma {stem ignorable rest : List Char} {form : Char}
    (cuts : CutsSigma extension name stem ignorable rest form) (form_eq : form = 'σ' ∨ form = 'ς')
  | dot {stem rest : List Char} (name_eq : name.toList = stem ++ 'İ' :: rest)
    (lower_eq : (Text.lower extension).toList = '\u0307' :: Text.lowerFrom ['İ'] rest)

theorem toList_lower (s : String) : (Text.lower s).toList = Text.lowerFrom [] s.toList :=
  String.toList_ofList

/-- The same of the characters of the name. -/
theorem endsAlike_iff {extension name : String} :
    EndsAlike extension name ↔
      ∃ stem e, name.toList = stem ++ e ∧ Text.lowerFrom [] e = (Text.lower extension).toList := by
  constructor
  · rintro ⟨stem, e, rfl, he⟩
    exact ⟨stem.toList, e.toList, String.toList_append, by rw [← he, toList_lower]⟩
  · rintro ⟨stem, e, hname, he⟩
    refine ⟨.ofList stem, .ofList e, String.toList_injective (by simp [hname]), ?_⟩
    rw [Text.lower, String.toList_ofList, he, String.ofList_toList]

/-- What ends the form of a name is the form of one of its ends in its place, or begins with a
dot. -/
theorem hasExtension_iff_suffix {extension name : String} :
    hasExtension extension name = true ↔
      (∃ stem e, name.toList = stem ++ e ∧
        Text.lowerFrom stem.reverse e = (Text.lower extension).toList) ∨
      ∃ stem rest, name.toList = stem ++ 'İ' :: rest ∧
        (Text.lower extension).toList = '\u0307' :: Text.lowerFrom ['İ'] rest := by
  rw [hasExtension, List.isSuffixOf_iff_suffix, toList_lower name, Text.suffix_lowerFrom_iff]
  simp only [List.append_nil]

/-- **Where no letter is cut**, a name is looked at in one way or in the other. -/
theorem hasExtension_iff_endsAlike {extension name : String} (h : ¬ CutsLetter extension name) :
    hasExtension extension name = true ↔ EndsAlike extension name := by
  rw [hasExtension_iff_suffix, endsAlike_iff]
  constructor
  · rintro (⟨stem, e, hname, he⟩ | ⟨stem, rest, hname, hlower⟩)
    · rcases Text.lowerFrom_eq_or_sigma stem.reverse e with
        heq | ⟨ignorable, rest, rfl, hignorable, hbefore, hbehind⟩
      · exact ⟨stem, e, hname, by rw [← heq, he]⟩
      · -- in the name the sigma has its final form
        rw [Text.lowerFrom_ignorable_sigma hignorable, hbefore, hbehind] at he
        exact absurd (.sigma ⟨hname, hignorable, hbefore, hbehind, he.symm⟩ (.inr rfl)) h
    · exact absurd (.dot hname hlower) h
  · rintro ⟨stem, e, hname, he⟩
    rcases Text.lowerFrom_eq_or_sigma stem.reverse e with
      heq | ⟨ignorable, rest, rfl, hignorable, hbefore, hbehind⟩
    · exact Or.inl ⟨stem, e, hname, by rw [heq, he]⟩
    · -- by itself it has the other
      rw [Text.lowerFrom_ignorable_sigma hignorable] at he
      exact absurd (.sigma ⟨hname, hignorable, hbefore, hbehind, he.symm⟩ (.inl rfl)) h

/-- Only the dot is no end of a name: an end has a form that is longer than the dot and what
follows, or shorter. -/
theorem not_endsAlike_of_dot {extension name : String} {stem rest : List Char}
    (hname : name.toList = stem ++ 'İ' :: rest)
    (hlower : (Text.lower extension).toList = '\u0307' :: Text.lowerFrom ['İ'] rest) :
    ¬ EndsAlike extension name := by
  rw [endsAlike_iff]
  rintro ⟨stem', e, hname', he⟩
  refine Text.lowerLength_ne_of_dotted (hname' ▸ List.suffix_append stem' e)
    (hname ▸ List.suffix_append stem ('İ' :: rest)) ?_
  rw [← Text.length_lowerFrom [] e, he, hlower, List.length_cons, Text.length_lowerFrom]

namespace CutsSigma

variable {extension name : String} {stem ignorable rest : List Char} {form : Char}
  (h : CutsSigma extension name stem ignorable rest form)
include h

/-- The end of the name has a form as long as that of the extension. -/
theorem lowerLength_eq :
    Text.lowerLength (ignorable ++ 'Σ' :: rest) = (Text.lower extension).toList.length := by
  rw [h.lower_eq, ← Text.length_lowerFrom [], Text.lowerFrom_ignorable_sigma h.ignorable_of_mem,
    List.length_append, List.length_append, List.length_cons, List.length_cons]

/-- Its form is that of the extension if the sigma takes the form that it has there. -/
theorem lowerFrom_eq_iff (context : List Char) :
    Text.lowerFrom context (ignorable ++ 'Σ' :: rest) = (Text.lower extension).toList
      ↔ (if Text.nextIsCased context then 'ς' else 'σ') = form := by
  rw [Text.lowerFrom_ignorable_sigma h.ignorable_of_mem, h.lower_eq, List.append_cancel_left_eq,
    List.cons.injEq, and_iff_left rfl, h.behind, Bool.not_false, Bool.and_true]

/-- **No other end of the name** can have the form of the extension, in whatever context. -/
theorem eq_of_lowerFrom_eq {stem' e context : List Char} (hname : name.toList = stem' ++ e)
    (he : Text.lowerFrom context e = (Text.lower extension).toList) :
    stem' = stem ∧ e = ignorable ++ 'Σ' :: rest := by
  have hend : e = ignorable ++ 'Σ' :: rest := by
    refine Text.eq_of_lowerLength_eq (hname ▸ List.suffix_append stem' e)
      (h.name_eq ▸ List.suffix_append stem _) ?_
    rw [h.lowerLength_eq, ← he, Text.length_lowerFrom]
  subst hend
  exact ⟨List.append_cancel_right (hname.symm.trans h.name_eq), rfl⟩

/-- In the name the sigma is the last letter of a word. -/
theorem hasExtension_iff : hasExtension extension name = true ↔ form = 'ς' := by
  rw [hasExtension_iff_suffix]
  constructor
  · rintro (⟨stem', e, hname, he⟩ | ⟨stem', rest', hname, hlower⟩)
    · obtain ⟨rfl, rfl⟩ := h.eq_of_lowerFrom_eq hname he
      rw [h.lowerFrom_eq_iff, if_pos h.before] at he
      exact he.symm
    · have hdotted := Text.lowerLength_ne_of_dotted
        (h.name_eq ▸ List.suffix_append stem (ignorable ++ 'Σ' :: rest))
        (hname ▸ List.suffix_append stem' ('İ' :: rest'))
      refine absurd ?_ hdotted
      rw [h.lowerLength_eq, hlower, List.length_cons, Text.length_lowerFrom]
  · intro hform
    refine Or.inl ⟨stem, _, h.name_eq, (h.lowerFrom_eq_iff _).mpr ?_⟩
    rw [if_pos h.before, hform]

/-- By itself it is not. -/
theorem endsAlike_iff_form : EndsAlike extension name ↔ form = 'σ' := by
  rw [endsAlike_iff]
  constructor
  · rintro ⟨stem', e, hname, he⟩
    obtain ⟨rfl, rfl⟩ := h.eq_of_lowerFrom_eq hname he
    exact ((h.lowerFrom_eq_iff []).mp he).symm
  · intro hform
    exact ⟨stem, _, h.name_eq, (h.lowerFrom_eq_iff []).mpr hform.symm⟩

end CutsSigma

/-- **Where a letter is cut**, a name has the extension in exactly one of the two ways. -/
theorem hasExtension_iff_not_endsAlike {extension name : String}
    (h : CutsLetter extension name) :
    hasExtension extension name = true ↔ ¬ EndsAlike extension name := by
  cases h with
  | sigma cuts hform =>
    rw [cuts.hasExtension_iff, cuts.endsAlike_iff_form]
    rcases hform with rfl | rfl <;> decide
  | dot hname hlower =>
    exact iff_of_true (hasExtension_iff_suffix.mpr (Or.inr ⟨_, _, hname, hlower⟩))
      (not_endsAlike_of_dot hname hlower)

/-- **What it is to have the extension**: to end alike where no letter is cut, and not to where
one is. -/
theorem hasExtension_iff {extension name : String} :
    hasExtension extension name = true
      ↔ (EndsAlike extension name ↔ ¬ CutsLetter extension name) := by
  by_cases h : CutsLetter extension name
  · rw [hasExtension_iff_not_endsAlike h, iff_false_right (not_not_intro h)]
  · rw [hasExtension_iff_endsAlike h, iff_true_right h]

/-- **Most extensions cut no letter**: those whose form holds no sigma and does not begin with a
combining dot. -/
theorem not_cutsLetter {extension : String} (hsigma : 'σ' ∉ (Text.lower extension).toList)
    (hfinal : 'ς' ∉ (Text.lower extension).toList)
    (hdot : (Text.lower extension).toList.head? ≠ some '\u0307') (name : String) :
    ¬ CutsLetter extension name := by
  intro h
  cases h with
  | sigma cuts hform =>
    rw [cuts.lower_eq] at hsigma hfinal
    rcases hform with rfl | rfl
    · exact hsigma (by simp)
    · exact hfinal (by simp)
  | dot _ hlower => exact hdot (by rw [hlower]; rfl)

/-- **The log files of a folder are its regular files that end with the extension, letter case
aside**, unless the extension cuts a letter of the name; such a name has the extension exactly if
it does not end alike. So whether a file is listed does not depend on its stem, nor on the letter
case in which the extension is written behind it, where no letter is cut. An extension without a
sigma that does not begin with a combining dot cuts none. -/
theorem discover_folder (extension : String) (entries : List Entry) :
    ∃ files, discover extension (.folder entries) = .ok files ∧
      (∀ f, f ∈ files ↔ Entry.file f ∈ entries ∧
        (EndsAlike extension f.name ↔ ¬ CutsLetter extension f.name)) ∧
      (∀ f (stem e : String), f.name = stem ++ e → Text.lower e = Text.lower extension →
        ¬ CutsLetter extension f.name → (f ∈ files ↔ Entry.file f ∈ entries)) ∧
      ('σ' ∉ (Text.lower extension).toList → 'ς' ∉ (Text.lower extension).toList →
        (Text.lower extension).toList.head? ≠ some '\u0307' →
        ∀ f, f ∈ files ↔ Entry.file f ∈ entries ∧ EndsAlike extension f.name) := by
  refine ⟨logFiles extension entries, rfl, fun f => ?_, fun f stem e hname he hcuts => ?_,
    fun hsigma hfinal hdot f => ?_⟩
  · rw [mem_logFiles, hasExtension_iff]
  · rw [mem_logFiles, hasExtension_iff_endsAlike hcuts, and_iff_left ⟨stem, e, hname, he⟩]
  · rw [mem_logFiles, hasExtension_iff_endsAlike (not_cutsLetter hsigma hfinal hdot f.name)]

/-- The default extension in another letter case, on a regular file and on a folder. -/
theorem discover_folder_log :
    let f : SourceFile := ⟨"A.LoG", [], none⟩
    'σ' ∉ (Text.lower ".log").toList ∧ 'ς' ∉ (Text.lower ".log").toList ∧
      (Text.lower ".log").toList.head? ≠ some '\u0307' ∧
      ¬ CutsLetter ".log" f.name ∧ f.name = "A" ++ ".LoG" ∧
      ∃ files, discover ".log" (.folder [.folder "b.log", .file f]) = .ok files ∧
        ∀ g, g ∈ files ↔ g = f := by
  intro f
  have hsigma : 'σ' ∉ (Text.lower ".log").toList := by decide +kernel
  have hfinal : 'ς' ∉ (Text.lower ".log").toList := by decide +kernel
  have hdot : (Text.lower ".log").toList.head? ≠ some '\u0307' := by decide +kernel
  have hcuts := not_cutsLetter hsigma hfinal hdot f.name
  have hlower : Text.lower ".LoG" = Text.lower ".log" := by decide +kernel
  obtain ⟨files, hfiles, -, hstem, hplain⟩ :=
    discover_folder ".log" [.folder "b.log", .file f]
  refine ⟨hsigma, hfinal, hdot, hcuts, rfl, files, hfiles, fun g => ⟨fun hg => ?_, ?_⟩⟩
  · have hmem := ((hplain hsigma hfinal hdot g).mp hg).1
    simpa using hmem
  · rintro rfl
    exact (hstem f "A" ".LoG" rfl hlower hcuts).mpr (by simp)

/-- **A file that ends with the extension need not be listed**: behind a letter and a full stop,
which is ignorable, the sigma ends a word. -/
theorem not_mem_discover_final_sigma :
    let f : SourceFile := ⟨"a.Σ", [], none⟩
    EndsAlike ".Σ" f.name ∧ discover ".Σ" (.folder [.file f]) = .ok [] := by
  intro f
  refine ⟨⟨"a", ".Σ", rfl, rfl⟩, congrArg Except.ok (List.eq_nil_iff_forall_not_mem.mpr ?_)⟩
  intro g hg
  obtain ⟨hmem, hext⟩ := mem_logFiles.mp hg
  obtain rfl : g = f := by
    rw [List.mem_singleton, Entry.file.injEq] at hmem
    exact hmem
  exact absurd hext (by decide +kernel)

end Place

end AccessLog
