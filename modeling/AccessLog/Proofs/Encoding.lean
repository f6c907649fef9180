import AccessLog.Encoding.Basic
import AccessLog.Proofs.Text.Lines
import Mathlib.Data.List.Basic
import Mathlib.Data.List.Induction
import Mathlib.Tactic.SplitIfs

/-!
# A beginning of the bytes for a beginning of the text

What a text begins with depends on the bytes at the beginning only: the bytes up
to a line ending decode to the text up to it (`Encoding.exists_decode_take`). In
the encodings that are written out this holds of every character that was encoded,
for it is complete with its last byte. It does not hold of a replacement, which may
stand for bytes that are only seen to be wrong when the next ones are read. Of a
further codec it is what is relied on.

So the first lines of a file are the lines of a beginning of its bytes
(`Encoding.exists_lines_decode_take`).
-/

namespace AccessLog.Encoding

variable {c : Char}

/-- A character that stands in the first of two parts is followed by the rest of
that part, and otherwise it stands in the second. -/
theorem append_eq_append_cons {p q a b : List Char} (h : p ++ q = a ++ c :: b) :
    (∃ a', a = p ++ a' ∧ q = a' ++ c :: b) ∨ ∃ more, p = a ++ c :: more := by
  rcases List.append_eq_append_iff.mp h with ⟨a', rfl, hq⟩ | ⟨more, hp, hrest⟩
  · exact Or.inl ⟨a', rfl, hq⟩
  · cases more with
    | nil => exact Or.inl ⟨[], by simp_all⟩
    | cons d more => exact Or.inr ⟨more, by rw [hp, (List.cons.inj hrest).1]⟩

/-- **One step of a decoder**: where a step completes the character last, and
nothing is owed behind it, the text up to the character is that of a beginning
of the bytes as soon as this holds of the bytes behind the step. -/
theorem exists_append_take {out a b : List Char} {rest : List UInt8 → List Char}
    {bs : List UInt8} (h : out ++ rest bs = a ++ c :: b)
    (hout : c ∈ out → ∃ pre, c ∉ pre ∧ out = pre ++ [c] ∧ rest [] = [])
    (hrest : ∀ a', rest bs = a' ++ c :: b → ∃ n, rest (bs.take n) = a' ++ [c]) :
    ∃ n, out ++ rest (bs.take n) = a ++ [c] := by
  rcases append_eq_append_cons h with ⟨a', rfl, hbehind⟩ | ⟨more, hmore⟩
  · obtain ⟨n, hn⟩ := hrest a' hbehind
    exact ⟨n, by rw [hn, List.append_assoc]⟩
  · obtain ⟨pre, hpre, rfl, hnil⟩ := hout (hmore ▸ List.mem_append_right a List.mem_cons_self)
    obtain ⟨rfl, -, -⟩ := (List.append_cons_inj_of_notMem hpre List.not_mem_nil).mp hmore
    exact ⟨0, by rw [List.take_zero, hnil, List.append_nil]⟩

namespace Utf8

theorem first_of_mem (hc : c ≠ replacement) {b : Nat} (h : c ∈ (first b).1) :
    first b = ([c], .start) := by
  unfold first at h ⊢
  split_ifs at h ⊢ <;> simp_all

/-- **A character is complete with its last byte**: the next one begins behind
it. -/
theorem step_of_mem (hc : c ≠ replacement) {s : State} {b : Nat} (h : c ∈ (step s b).1) :
    ∃ pre, c ∉ pre ∧ step s b = (pre ++ [c], .start) := by
  cases s with
  | start => exact ⟨[], List.not_mem_nil, first_of_mem hc h⟩
  | inside value owed low high =>
    rw [step.eq_def] at h ⊢
    dsimp only at h ⊢
    by_cases hb : low ≤ b ∧ b ≤ high
    · rw [if_pos hb] at h ⊢
      cases owed with
      | zero => exact ⟨[], List.not_mem_nil, by rw [List.mem_singleton.mp h]; rfl⟩
      | succ owed => cases h
    · -- the byte is read again as a first byte
      rw [if_neg hb] at h ⊢
      have hmem := (List.mem_cons.mp h).resolve_left hc
      exact ⟨[replacement], by simp [hc], by simp [first_of_mem hc hmem]⟩

theorem exists_decodeFrom_take (hc : c ≠ replacement) {s : State} {bs : List UInt8}
    {a b : List Char} (h : decodeFrom s bs = a ++ c :: b) :
    ∃ n, decodeFrom s (bs.take n) = a ++ [c] := by
  induction bs generalizing s a with
  | nil =>
    have hmem : c ∈ s.flush := by rw [show s.flush = _ from h]; simp
    cases s with
    | start => cases hmem
    | inside => exact absurd (List.mem_singleton.mp hmem) hc
  | cons x bs ih =>
    obtain ⟨n, hn⟩ := exists_append_take (show _ ++ decodeFrom _ bs = _ from h)
      (fun hmem => by
        obtain ⟨pre, hpre, heq⟩ := step_of_mem hc hmem
        exact ⟨pre, hpre, by rw [heq], by rw [heq]; rfl⟩)
      (fun a' => ih)
    exact ⟨n + 1, hn⟩

end Utf8

namespace Utf16

/-- What one unit gives: the characters that it completes, and the high surrogate
that is left open behind it. -/
def step (bigEndian : Bool) (high : Option Nat) (a b : UInt8) : List Char × Option Nat :=
  let u := unit bigEndian a b
  match high with
  | none =>
    if 0xD800 ≤ u ∧ u < 0xDC00 then ([], some u)
    else if 0xDC00 ≤ u ∧ u < 0xE000 then ([replacement], none)
    else ([Char.ofNat u], none)
  | some high =>
    if 0xDC00 ≤ u ∧ u < 0xE000 then
      ([Char.ofNat (0x10000 + (high - 0xD800) * 0x400 + (u - 0xDC00))], none)
    else if 0xD800 ≤ u ∧ u < 0xDC00 then ([replacement], some u)
    else ([replacement, Char.ofNat u], none)

theorem decodeFrom_cons_cons (bigEndian : Bool) (high : Option Nat) (a b : UInt8)
    (bs : List UInt8) :
    decodeFrom bigEndian high (a :: b :: bs)
      = (step bigEndian high a b).1 ++ decodeFrom bigEndian (step bigEndian high a b).2 bs := by
  cases high <;> simp only [decodeFrom, step] <;> split_ifs <;> rfl

theorem step_of_mem (hc : c ≠ replacement) {bigEndian : Bool} {high : Option Nat} {a b : UInt8}
    (h : c ∈ (step bigEndian high a b).1) :
    ∃ pre, c ∉ pre ∧ step bigEndian high a b = (pre ++ [c], none) := by
  have hone : ∀ {d : Char}, c ∈ [d] → ∃ pre, c ∉ pre ∧ (([d], none) : List Char × Option Nat)
      = (pre ++ [c], none) :=
    fun hd => ⟨[], List.not_mem_nil, by rw [List.mem_singleton.mp hd]; rfl⟩
  cases high with
  | none =>
    simp only [step] at h ⊢
    split_ifs at h ⊢ <;> first | exact hone h | cases h
  | some high =>
    simp only [step] at h ⊢
    split_ifs at h ⊢
    · exact hone h
    · exact absurd (List.mem_singleton.mp h) hc
    · cases List.mem_singleton.mp ((List.mem_cons.mp h).resolve_left hc)
      exact ⟨[replacement], by simp [hc], rfl⟩

theorem exists_decodeFrom_take (hc : c ≠ replacement) {bigEndian : Bool} {high : Option Nat}
    {bs : List UInt8} {a b : List Char} (h : decodeFrom bigEndian high bs = a ++ c :: b) :
    ∃ n, decodeFrom bigEndian high (bs.take n) = a ++ [c] := by
  -- what is left at the end of the bytes is no character
  have hend : ∀ {a : List Char}, [replacement] ≠ a ++ c :: b := fun heq =>
    hc (List.mem_singleton.mp (heq ▸ List.mem_append_right _ List.mem_cons_self))
  induction bs using List.twoStepInduction generalizing high a with
  | nil =>
    cases high with
    | none => cases a <;> cases h
    | some high => exact absurd h hend
  | singleton x => cases high <;> exact absurd h hend
  | cons_cons x y bs ih _ =>
    rw [decodeFrom_cons_cons] at h
    obtain ⟨n, hn⟩ := exists_append_take h
      (fun hmem => by
        obtain ⟨pre, hpre, heq⟩ := step_of_mem hc hmem
        exact ⟨pre, hpre, by rw [heq], by rw [heq]; rfl⟩)
      (fun a' hbehind => ih hbehind)
    refine ⟨n + 2, ?_⟩
    rw [List.take_succ_cons, List.take_succ_cons, decodeFrom_cons_cons, hn]

end Utf16

/-- Where a byte is a character. -/
theorem exists_map_take {f : UInt8 → Char} {bs : List UInt8} {a b : List Char}
    (h : bs.map f = a ++ c :: b) : ∃ n, (bs.take n).map f = a ++ [c] := by
  refine ⟨(a ++ [c]).length, ?_⟩
  rw [List.map_take, h, show a ++ c :: b = a ++ [c] ++ b by simp]
  exact List.take_left

/-- Bytes that are no more than the beginning of a byte order mark encode no
character. -/
theorem not_mem_decode_of_isPrefixOf (hc : c ≠ replacement) {bs : List UInt8}
    (h : bs.isPrefixOf signature = true) (hsig : signature.isPrefixOf bs = false) :
    c ∉ Utf8.decode bs := by
  have htake := List.prefix_iff_eq_take.mp (List.isPrefixOf_iff_prefix.mp h)
  generalize bs.length = k at htake
  subst htake
  match k with
  | 0 => exact List.not_mem_nil
  | 1 | 2 => exact fun hmem => hc (List.mem_singleton.mp hmem)
  | k + 3 => cases hsig

/-- **What a text begins with depends on the bytes at the beginning only.** The
bytes up to a line ending decode to the text up to it. -/
theorem exists_decode_take (e : Encoding) (hending : Line.isEnding c = true) {bs : List UInt8}
    {a b : List Char} (h : e.decode bs = a ++ c :: b) :
    ∃ n, e.decode (bs.take n) = a ++ [c] := by
  have hc : c ≠ replacement := by
    rintro rfl
    exact absurd hending (by decide)
  cases e with
  | utf8 => exact Utf8.exists_decodeFrom_take hc h
  | ascii | latin1 | cyrillic => exact exists_map_take h
  | utf16Little | utf16Big => exact Utf16.exists_decodeFrom_take hc h
  | further codec => exact codec.decode_take (by simpa [Line.isEnding] using hending) h
  | utf8Signed =>
    rw [decode, unsigned] at h
    split_ifs at h with hsig hpre
    · obtain ⟨rest, rfl⟩ := List.isPrefixOf_iff_prefix.mp hsig
      obtain ⟨n, hn⟩ := Utf8.exists_decodeFrom_take hc h
      exact ⟨n + 3, hn⟩
    · cases a <;> cases h
    · obtain ⟨n, hn⟩ := Utf8.exists_decodeFrom_take hc h
      refine ⟨n, ?_⟩
      rw [decode, unsigned]
      split_ifs with hsig' hpre'
      · -- the beginning has the mark, so the whole had it
        have hprefix := (List.isPrefixOf_iff_prefix.mp hsig').trans (List.take_prefix n bs)
        exact absurd (List.isPrefixOf_iff_prefix.mpr hprefix) hsig
      · have hmem : c ∈ Utf8.decode (bs.take n) := by
          rw [show Utf8.decode _ = _ from hn]
          simp
        exact absurd hmem (not_mem_decode_of_isPrefixOf hc hpre' (Bool.eq_false_iff.mpr hsig'))
      · exact hn

theorem decode_nil (e : Encoding) : e.decode [] = [] := by
  cases e with
  | further codec => exact codec.decode_nil
  | _ => rfl

/-- ASCII characters are their own bytes. -/
theorem decode_ascii {cs : List Char} (h : ∀ c ∈ cs, c.toNat < 0x80) :
    Encoding.utf8.decode (cs.map fun c => c.toNat.toUInt8) = cs := by
  show Utf8.decodeFrom .start _ = cs
  induction cs with
  | nil => rfl
  | cons c cs ih =>
    have hc := h c List.mem_cons_self
    have hbyte : c.toNat.toUInt8.toNat = c.toNat := by
      show (UInt8.ofNat c.toNat).toNat = c.toNat
      rw [UInt8.toNat_ofNat']
      omega
    have hstep : Utf8.step .start c.toNat = ([c], .start) := by
      rw [Utf8.step, Utf8.first, if_pos hc, Char.ofNat_toNat]
    rw [List.map_cons, Utf8.decodeFrom, hbyte, hstep,
      ih fun d hd => h d (List.mem_cons_of_mem c hd)]
    rfl

/-- **The first lines of a file are the lines of a beginning of its bytes.** -/
theorem exists_lines_decode_take (e : Encoding) (bs : List UInt8) (m : Nat) :
    ∃ n, Text.lines (e.decode (bs.take n)) = (Text.lines (e.decode bs)).take m := by
  obtain ⟨a, b, hab, hlines, hb | hending⟩ := Text.exists_lines_take m (e.decode bs)
  · exact ⟨bs.length, by rw [List.take_length, ← hlines, hab, hb, List.append_nil]⟩
  · rcases List.eq_nil_or_concat' a with rfl | ⟨a, c, rfl⟩
    · exact ⟨0, by rw [List.take_zero, decode_nil, hlines]⟩
    · rw [List.append_assoc] at hab
      obtain ⟨n, hn⟩ := e.exists_decode_take (hending c (by simp)) hab
      exact ⟨n, by rw [hn, hlines]⟩

end AccessLog.Encoding
