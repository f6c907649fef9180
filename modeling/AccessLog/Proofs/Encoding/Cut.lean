import AccessLog.Encoding.Utf8
import AccessLog.Line
import Mathlib.Data.List.Basic
import Mathlib.Tactic.SplitIfs

/-!
# An ASCII byte cuts a text in UTF-8

Whatever bytes stand before it, a byte below 0x80 ends every unfinished character
and is a character of its own. So bytes that are cut in front of such a byte, or
behind it, are decoded part by part (`Utf8.decode_append_of_head`,
`Utf8.decode_append_of_last`), and what one part holds, valid or not, does not
show in the other.

This rests on what the decoder knows inside a character (`Utf8.State.Proper`): the
next byte has to be above 0x7F, and the character will not be an ASCII character.
The second half gives that the characters of line endings come of the bytes of
line endings only (`Utf8.not_isEnding_of_mem_decode`).
-/

namespace AccessLog.Encoding.Utf8

/-! ## Inside a character -/

/-- **What the decoder knows inside a character**: the next byte is no ASCII byte,
and the value that is being put together will be no ASCII character. -/
def State.Proper : State → Prop
  | .start => True
  | .inside value owed low _ =>
    0x80 ≤ low ∧ 2 ≤ if owed = 0 then value else value * 64 + (low - 0x80)

theorem proper_first (b : Nat) : (first b).2.Proper := by
  unfold first
  split_ifs <;> simp [State.Proper] <;> omega

/-- Every step keeps what the decoder knows. -/
theorem proper_step {s : State} (hs : s.Proper) (b : Nat) : (step s b).2.Proper := by
  cases s with
  | start => exact proper_first b
  | inside value owed low high =>
    obtain ⟨hlow, hvalue⟩ := hs
    rw [step.eq_def]
    dsimp only
    split
    · cases owed with
      | zero => trivial
      | succ owed =>
        rw [if_neg (Nat.succ_ne_zero owed)] at hvalue
        refine ⟨Nat.le_refl _, ?_⟩
        split <;> omega
    · exact proper_first b

/-! ## Cutting at an ASCII byte -/

/-- **An ASCII byte ends every unfinished character** and is the character that it
is. -/
theorem decodeFrom_cons_ascii {s : State} (hs : s.Proper) {x : UInt8} (hx : x.toNat < 0x80)
    (bs : List UInt8) :
    decodeFrom s (x :: bs) = s.flush ++ Char.ofNat x.toNat :: decode bs := by
  have hfirst : first x.toNat = ([Char.ofNat x.toNat], .start) := if_pos hx
  cases s with
  | start =>
    rw [decodeFrom, step, hfirst]
    rfl
  | inside value owed low high =>
    have hout : ¬ (low ≤ x.toNat ∧ x.toNat ≤ high) := fun h => by
      have hlow := hs.1
      omega
    rw [decodeFrom, step.eq_def]
    dsimp only
    rw [if_neg hout, hfirst]
    rfl

theorem decode_cons_ascii {x : UInt8} (hx : x.toNat < 0x80) (bs : List UInt8) :
    decode (x :: bs) = Char.ofNat x.toNat :: decode bs :=
  decodeFrom_cons_ascii (s := .start) trivial hx bs

/-- In front of an ASCII byte, or at the end, the bytes are decoded part by part. -/
theorem decodeFrom_append_of_head {s : State} (hs : s.Proper) (a : List UInt8) {b : List UInt8}
    (hb : ∀ x ∈ b.head?, x.toNat < 0x80) :
    decodeFrom s (a ++ b) = decodeFrom s a ++ decode b := by
  induction a generalizing s with
  | nil =>
    cases b with
    | nil => exact (List.append_nil _).symm
    | cons x b =>
      have hx := hb x rfl
      rw [List.nil_append, decodeFrom_cons_ascii hs hx, decode_cons_ascii hx]
      rfl
  | cons y a ih =>
    rw [List.cons_append, decodeFrom, decodeFrom, ih (proper_step hs _), List.append_assoc]

/-- **Bytes are decoded part by part in front of an ASCII byte.** -/
theorem decode_append_of_head (a : List UInt8) {b : List UInt8}
    (hb : ∀ x ∈ b.head?, x.toNat < 0x80) : decode (a ++ b) = decode a ++ decode b :=
  decodeFrom_append_of_head (s := .start) trivial a hb

/-- Bytes that end with an ASCII byte are decoded to a text that ends with its
character. -/
theorem decode_concat_ascii (a : List UInt8) {x : UInt8} (hx : x.toNat < 0x80) :
    decode (a ++ [x]) = decode a ++ [Char.ofNat x.toNat] := by
  rw [decode_append_of_head a (by simpa using hx), decode_cons_ascii hx]
  rfl

/-- **Bytes are decoded part by part behind an ASCII byte.** -/
theorem decode_append_of_last {a : List UInt8} (ha : ∀ x ∈ a.getLast?, x.toNat < 0x80)
    (b : List UInt8) : decode (a ++ b) = decode a ++ decode b := by
  rcases List.eq_nil_or_concat' a with rfl | ⟨a, x, rfl⟩
  · rfl
  · have hx := ha x (by simp)
    rw [decode_concat_ascii a hx, List.append_assoc, List.append_assoc,
      decode_append_of_head a (by simpa using hx), List.singleton_append, decode_cons_ascii hx]
    rfl

/-- The last character is that of an ASCII byte that comes last. -/
theorem getLast?_decode {a : List UInt8} (ha : ∀ x ∈ a.getLast?, x.toNat < 0x80) :
    (decode a).getLast? = a.getLast?.map fun x => Char.ofNat x.toNat := by
  rcases List.eq_nil_or_concat' a with rfl | ⟨a, x, rfl⟩
  · rfl
  · rw [decode_concat_ascii a (ha x (by simp)), List.getLast?_concat, List.getLast?_concat]
    rfl

/-- The first character is that of an ASCII byte that comes first. -/
theorem head?_decode {b : List UInt8} (hb : ∀ x ∈ b.head?, x.toNat < 0x80) :
    (decode b).head? = b.head?.map fun x => Char.ofNat x.toNat := by
  cases b with
  | nil => rfl
  | cons x b =>
    rw [decode_cons_ascii (hb x rfl)]
    rfl

/-! ## What is decoded -/

theorem decodeFrom_inside_ne_nil (value owed low high : Nat) (bs : List UInt8) :
    decodeFrom (.inside value owed low high) bs ≠ [] := by
  induction bs generalizing value owed low high with
  | nil => exact List.cons_ne_nil _ _
  | cons x bs ih =>
    rw [decodeFrom, step.eq_def]
    dsimp only
    split
    · cases owed with
      | zero => exact List.cons_ne_nil _ _
      | succ owed => exact ih _ _ _ _
    · exact List.cons_ne_nil _ _

/-- Only from no bytes comes no text. -/
theorem decode_eq_nil_iff {bs : List UInt8} : decode bs = [] ↔ bs = [] := by
  refine ⟨fun h => ?_, fun h => h ▸ rfl⟩
  cases bs with
  | nil => rfl
  | cons x bs =>
    have hinside := fun value owed low high => decodeFrom_inside_ne_nil value owed low high bs
    rw [decode, decodeFrom, step, first] at h
    split_ifs at h <;> simp_all

/-- A character from 0x80 on belongs to no line ending. -/
theorem not_isEnding_ofNat {n : Nat} (h : 0x80 ≤ n) : Line.isEnding (Char.ofNat n) = false := by
  -- a number that is no code point stands for the character zero
  have htoNat : (Char.ofNat n).toNat = n ∨ (Char.ofNat n).toNat = 0 := by
    by_cases hn : n.isValidChar
    · rw [Char.ofNat, dif_pos hn]
      exact Or.inl rfl
    · rw [Char.ofNat, dif_neg hn]
      exact Or.inr rfl
  have hne : ∀ c : Char, 0 < c.toNat → c.toNat < 0x80 → Char.ofNat n ≠ c := by
    rintro c hpos hlt rfl
    omega
  rw [Line.isEnding, Bool.or_eq_false_iff, beq_eq_false_iff_ne, beq_eq_false_iff_ne]
  exact ⟨hne '\r' (by decide) (by decide), hne '\n' (by decide) (by decide)⟩

theorem eq_ofNat_of_mem_first {b : Nat} {c : Char} (h : c ∈ (first b).1)
    (hc : Line.isEnding c = true) : c = Char.ofNat b := by
  have hreplacement : Line.isEnding replacement = false := by decide
  unfold first at h
  split_ifs at h <;> simp_all

/-- A step gives the character of a line ending only for its own byte. -/
theorem eq_ofNat_of_mem_step {s : State} (hs : s.Proper) {b : Nat} {c : Char}
    (h : c ∈ (step s b).1) (hc : Line.isEnding c = true) : c = Char.ofNat b := by
  cases s with
  | start => exact eq_ofNat_of_mem_first h hc
  | inside value owed low high =>
    obtain ⟨hlow, hvalue⟩ := hs
    rw [step.eq_def] at h
    dsimp only at h
    split at h
    · cases owed with
      | zero =>
        rw [if_pos rfl] at hvalue
        rw [List.mem_singleton.mp h, not_isEnding_ofNat (by omega)] at hc
        cases hc
      | succ owed => cases h
    · rcases List.mem_cons.mp h with rfl | h
      · cases hc
      · exact eq_ofNat_of_mem_first h hc

/-- Whether the byte belongs to the ending of a line. -/
def isEnding (b : UInt8) : Bool := Line.isEnding (Char.ofNat b.toNat)

theorem ascii_of_isEnding {b : UInt8} (h : isEnding b = true) : b.toNat < 0x80 := by
  by_contra hb
  rw [isEnding, not_isEnding_ofNat (Nat.le_of_not_lt hb)] at h
  cases h

/-- An ASCII byte is told by its character. -/
theorem ofNat_eq_iff {x y : UInt8} (hx : x.toNat < 0x80) (hy : y.toNat < 0x80) :
    Char.ofNat x.toNat = Char.ofNat y.toNat ↔ x = y := by
  have htoNat : ∀ {n : Nat}, n < 0x80 → (Char.ofNat n).toNat = n := by
    intro n hn
    rw [Char.ofNat, dif_pos (Or.inl (by omega))]
    rfl
  refine ⟨fun h => ?_, fun h => h ▸ rfl⟩
  rw [← UInt8.toNat_inj, ← htoNat hx, h, htoNat hy]

theorem isEnding_of_mem_decodeFrom {s : State} (hs : s.Proper) {bs : List UInt8} {c : Char}
    (h : c ∈ decodeFrom s bs) (hc : Line.isEnding c = true) : ∃ b ∈ bs, isEnding b = true := by
  induction bs generalizing s with
  | nil =>
    cases s with
    | start => cases h
    | inside => rw [List.mem_singleton.mp h] at hc; cases hc
  | cons b bs ih =>
    rw [decodeFrom, List.mem_append] at h
    rcases h with h | h
    · have heq := eq_ofNat_of_mem_step hs h hc
      exact ⟨b, List.mem_cons_self, by rw [isEnding, ← heq, hc]⟩
    · obtain ⟨b', hb', hending⟩ := ih (proper_step hs _) h
      exact ⟨b', List.mem_cons_of_mem b hb', hending⟩

/-- **Bytes without line endings are decoded to a text without line endings.** -/
theorem not_isEnding_of_mem_decode {bs : List UInt8} (h : ∀ b ∈ bs, isEnding b = false) :
    ∀ c ∈ decode bs, Line.isEnding c = false := by
  intro c hmem
  by_contra hc
  obtain ⟨b, hb, hending⟩ := isEnding_of_mem_decodeFrom (s := .start) trivial hmem
    (eq_true_of_ne_false hc)
  rw [h b hb] at hending
  cases hending

end AccessLog.Encoding.Utf8
