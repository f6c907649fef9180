import AccessLog.Proofs.Timestamp.LogFormat
import AccessLog.Proofs.Timestamp.Order
import AccessLog.Proofs.Timestamp.Padded
import Mathlib.Data.String.Basic

/-!
# What the written forms of instants tell

The padded forms of instants are ordered as the instants are, whatever their
microseconds (`Timestamp.sortForm_lt_iff`). Digits of one width compare as the numbers
that they spell, so the forms compare part by part from the year down, and a form
without microseconds begins every form that adds some.

The form that the logs use is not padded, and its texts are in no useful order. But each
number in it ends where no digit follows, so it tells all the parts that it has, and with
them the instant if that has no microseconds (`Timestamp.eq_of_logForm`).
-/

namespace AccessLog

namespace Text

/-! ## Texts of one length -/

/-- Behind texts of one length the rests decide only if these are the same. -/
theorem append_lt_append_iff {a b : List Char} (h : a.length = b.length) (x y : List Char) :
    a ++ x < b ++ y ↔ a < b ∨ a = b ∧ x < y := by
  induction a generalizing b with
  | nil =>
    obtain rfl := List.eq_nil_of_length_eq_zero h.symm
    simp
  | cons c a ih =>
    cases b with
    | nil => cases h
    | cons d b =>
      rw [List.cons_append, List.cons_append, List.cons_lt_cons_iff, List.cons_lt_cons_iff,
        ih (Nat.succ.inj h), List.cons.injEq]
      tauto

theorem decimal_concat (cs : List Char) (c : Char) :
    decimal (cs ++ [c]) = 10 * decimal cs + (digit? c).getD 0 := by
  rw [decimal, List.foldl_append]
  rfl

/-- The value of a digit is its distance from zero. -/
theorem exists_digit {c : Char} (h : c.isDigit = true) :
    ∃ n < 10, (digit? c).getD 0 = n ∧ c.toNat = '0'.toNat + n := by
  obtain ⟨hlow, hhigh⟩ := Char.isDigit_iff_toNat.mp h
  have h0 : '0'.toNat = 0x30 := rfl
  have h9 : '9'.toNat = 0x39 := rfl
  refine ⟨c.toNat - '0'.toNat, by omega, by rw [digit?_of_isDigit h]; rfl, by omega⟩

/-- **Digits of one width are compared as the numbers that they spell.** -/
theorem compare_digits {cs ds : List Char} (hlength : cs.length = ds.length)
    (hc : ∀ c ∈ cs, c.isDigit = true) (hd : ∀ d ∈ ds, d.isDigit = true) :
    (cs = ds ↔ decimal cs = decimal ds) ∧ (cs < ds ↔ decimal cs < decimal ds) := by
  induction cs using List.reverseRecOn generalizing ds with
  | nil =>
    obtain rfl := List.eq_nil_of_length_eq_zero hlength.symm
    simp
  | append_singleton cs c ih =>
    rcases List.eq_nil_or_concat' ds with rfl | ⟨ds, d, rfl⟩
    · simp at hlength
    · have hlength' : cs.length = ds.length := by simpa using hlength
      obtain ⟨heq, hlt⟩ := ih hlength' (fun x hx => hc x (List.mem_append_left _ hx))
        (fun x hx => hd x (List.mem_append_left _ hx))
      obtain ⟨m, hm, hmvalue, hmchar⟩ := exists_digit (hc c (by simp))
      obtain ⟨n, hn, hnvalue, hnchar⟩ := exists_digit (hd d (by simp))
      -- the last digits are compared as their values
      have hlast : [c] = [d] ↔ m = n := by
        rw [List.singleton_inj, ← Char.toNat_inj, hmchar, hnchar]
        omega
      have hlastlt : [c] < [d] ↔ m < n := by
        have hnat : c < d ↔ c.toNat < d.toNat := Iff.rfl
        rw [List.cons_lt_cons_iff, hnat, hmchar, hnchar]
        simp
      have hconcat : cs ++ [c] = ds ++ [d] ↔ cs = ds ∧ [c] = [d] :=
        ⟨fun h => List.append_inj h hlength', fun h => by rw [h.1, h.2]⟩
      rw [decimal_concat, decimal_concat, hmvalue, hnvalue, append_lt_append_iff hlength',
        hconcat, heq, hlt, hlast, hlastlt]
      omega

/-- Digits end where none follows. -/
theorem append_cons_inj_of_digits {cs ds : List Char} (hc : ∀ c ∈ cs, c.isDigit = true)
    (hd : ∀ d ∈ ds, d.isDigit = true) {e : Char} (he : e.isDigit = false) {x y : List Char}
    (h : cs ++ e :: x = ds ++ e :: y) : cs = ds ∧ x = y := by
  have htake : ∀ {as z : List Char}, (∀ a ∈ as, a.isDigit = true) →
      (as ++ e :: z).takeWhile Char.isDigit = as := fun has => by
    rw [List.takeWhile_append_of_pos has, List.takeWhile_cons_of_neg (by simp [he]),
      List.append_nil]
  have hcs : cs = ds := by rw [← htake hc, h, htake hd]
  subst hcs
  exact ⟨rfl, (List.cons.inj (List.append_cancel_left h)).2⟩

end Text

namespace Timestamp

open Text

variable {s t : Timestamp}

/-! ## The padded form -/

namespace Spells

variable {cs ds : List Char} {width m n : Nat}

/-- Behind numbers of one width the rests decide only if these are the same. -/
theorem append_lt_append_iff (hc : Spells cs width m) (hd : Spells ds width n) (x y : List Char) :
    cs ++ x < ds ++ y ↔ m < n ∨ m = n ∧ x < y := by
  have hlength : cs.length = ds.length := hc.length.trans hd.length.symm
  obtain ⟨heq, hlt⟩ := Text.compare_digits hlength hc.isDigit hd.isDigit
  rw [Text.append_lt_append_iff hlength, heq, hlt, hc.decimal, hd.decimal]

theorem lt_iff (hc : Spells cs width m) (hd : Spells ds width n) : cs < ds ↔ m < n := by
  have h := hc.append_lt_append_iff hd [] []
  simpa using h

end Spells

/-- The microseconds behind the padded form, if there are any. -/
def microForm (t : Timestamp) : List Char :=
  if t.micro = 0 then [] else '.' :: (padded 6 t.micro).toList

/-- The padded form, character by character. -/
theorem toList_sortForm (t : Timestamp) :
    t.sortForm.toList = (padded 4 t.year).toList ++ '-' :: ((padded 2 t.month).toList ++
      '-' :: ((padded 2 t.day).toList ++ 'T' :: ((padded 2 t.hour).toList ++
        ':' :: ((padded 2 t.minute).toList ++ ':' :: ((padded 2 t.second).toList ++
          t.microForm))))) := by
  have hmicro : (if t.micro = 0 then "" else "." ++ padded 6 t.micro).toList = t.microForm := by
    rw [microForm]
    split
    · rfl
    · rw [String.toList_append]
      rfl
  have hmark : ("-" : String).toList = ['-'] ∧ ("T" : String).toList = ['T'] ∧
      (":" : String).toList = [':'] := ⟨rfl, rfl, rfl⟩
  rw [sortForm]
  simp only [String.toList_append, hmicro, hmark, List.append_assoc, List.cons_append,
    List.nil_append]

/-- No fraction of a second is before any, and others are compared as numbers. -/
theorem microForm_lt_iff : s.microForm < t.microForm ↔ s.micro < t.micro := by
  have hspells : ∀ u : Timestamp, Spells (padded 6 u.micro).toList 6 u.micro := fun u =>
    spells_padded (by decide) (Nat.lt_succ_of_le u.time_valid.2.2.2)
  unfold microForm
  split
  · rename_i hs
    split
    · rename_i ht
      simp [hs, ht]
    · simp
      omega
  · split
    · rename_i ht
      simp [ht]
    · rw [List.cons_lt_cons_iff, (hspells s).lt_iff (hspells t)]
      simp

/-- **The padded forms are ordered as the instants are.** -/
theorem sortForm_lt_iff : s.sortForm < t.sortForm ↔ s < t := by
  have hcons : ∀ (c : Char) (x y : List Char), c :: x < c :: y ↔ x < y := by simp
  -- any part but the year has two digits
  have hpart : ∀ f : Timestamp → Nat, (∀ u, f u ∈ [u.month, u.day, u.hour, u.minute, u.second]) →
      ∀ x y, (padded 2 (f s)).toList ++ x < (padded 2 (f t)).toList ++ y
        ↔ f s < f t ∨ f s = f t ∧ x < y := fun _ hf =>
    (spells_two s (hf s)).append_lt_append_iff (spells_two t (hf t))
  rw [String.lt_iff_toList_lt, toList_sortForm, toList_sortForm, lt_iff, parts, parts,
    (spells_year s).append_lt_append_iff (spells_year t), hcons, hpart month (by simp), hcons,
    hpart day (by simp), hcons, hpart hour (by simp), hcons, hpart minute (by simp), hcons,
    hpart second (by simp), microForm_lt_iff]
  simp only [List.cons_lt_cons_iff, List.not_lt_nil, and_false, or_false]

/-! ## The form of the logs -/

/-- **The form of the logs tells instants apart** that have the same microseconds. -/
theorem eq_of_logForm (h : s.logForm = t.logForm) (hmicro : s.micro = t.micro) : s = t := by
  have hdigits : ∀ n, ∀ c ∈ digits n, c.isDigit = true := fun _ _ hc => isDigit_of_mem_digits hc
  have hinj : ∀ {m n : Nat}, digits m = digits n → m = n := fun {m n} heq => by
    rw [← decimal_toDigits m, ← decimal_toDigits n]
    exact congrArg decimal heq
  have hlist := congrArg String.toList h
  rw [toList_logForm, toList_logForm] at hlist
  obtain ⟨hday, hlist⟩ := append_cons_inj_of_digits (hdigits _) (hdigits _) (by decide) hlist
  obtain ⟨hmonth, hlist⟩ := append_cons_inj_of_digits (hdigits _) (hdigits _) (by decide) hlist
  obtain ⟨hyear, hlist⟩ := append_cons_inj_of_digits (hdigits _) (hdigits _) (by decide) hlist
  obtain ⟨hhour, hlist⟩ := append_cons_inj_of_digits (hdigits _) (hdigits _) (by decide) hlist
  obtain ⟨hminute, hlist⟩ := append_cons_inj_of_digits (hdigits _) (hdigits _) (by decide) hlist
  rw [List.append_nil, List.append_nil] at hlist
  exact Timestamp.ext (hinj hyear) (hinj hmonth) (hinj hday) (hinj hhour) (hinj hminute)
    (hinj hlist) hmicro

end Timestamp

end AccessLog
