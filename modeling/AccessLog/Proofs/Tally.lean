import AccessLog.Proofs.Selection
import Mathlib.Algebra.GroupWithZero.Nat
import Mathlib.Data.List.Basic
import Mathlib.Data.List.Induction

/-!
# A tally is the distinct values with their counts

A tally is made value by value: each one raises the count of its entry, or adds an
entry behind the others. What comes of it has a closed form (`tally_eq`): the
distinct values, in the order in which they come up, each with the number of its
occurrences. So every value that occurs has one entry, with its count
(`mem_tally`), a value without an entry does not occur (`countOf_tally`), and the
counts add up to the number of values (`total_tally`).
-/

namespace AccessLog

namespace Tally

/-- The number of occurrences that a tally counts, all values together. -/
def total (t : Tally) : Nat := (t.map Prod.snd).sum

/-- The count of a value, zero if it has no entry. -/
def countOf (t : Tally) (v : Scalar) : Nat := (t.lookup v).getD 0

theorem total_bump (t : Tally) (v : Scalar) : (t.bump v).total = t.total + 1 := by
  induction t with
  | nil => rfl
  | cons entry rest ih =>
    obtain ⟨u, n⟩ := entry
    unfold total at ih ⊢
    by_cases hv : u = v
    · rw [bump, if_pos hv]
      simp only [List.map_cons, List.sum_cons]
      omega
    · rw [bump, if_neg hv]
      simp only [List.map_cons, List.sum_cons, ih]
      omega

/-- Counting one more value in a tally without repetitions raises its count, or
adds an entry for it. -/
theorem bump_map {keys : List Scalar} (hkeys : keys.Nodup) (count : Scalar → Nat) (v : Scalar) :
    bump (keys.map fun u => (u, count u)) v
      = if v ∈ keys then keys.map fun u => (u, count u + if u = v then 1 else 0)
        else (keys.map fun u => (u, count u)) ++ [(v, 1)] := by
  induction keys with
  | nil => rfl
  | cons k keys ih =>
    obtain ⟨hk, hkeys⟩ := List.nodup_cons.mp hkeys
    rw [List.map_cons, bump, ih hkeys]
    by_cases hkv : k = v
    · -- no later entry is for the value, so the others stay as they are
      subst hkv
      have hrest : ∀ u ∈ keys, (u, count u) = (u, count u + if u = k then 1 else 0) := by
        intro u hu
        have huk : u ≠ k := fun heq => hk (heq ▸ hu)
        rw [if_neg huk, Nat.add_zero]
      rw [if_pos rfl, if_pos List.mem_cons_self, List.map_cons, if_pos rfl,
        List.map_congr_left hrest]
    · have hmem : v ∈ k :: keys ↔ v ∈ keys := by
        rw [List.mem_cons, or_iff_right fun heq => hkv heq.symm]
      rw [if_neg hkv, List.map_cons, if_neg hkv]
      simp only [hmem]
      split <;> rfl

end Tally

theorem total_foldl_bump (vs : List Scalar) (t : Tally) :
    (vs.foldl Tally.bump t).total = t.total + vs.length := by
  induction vs generalizing t with
  | nil => rfl
  | cons v vs ih =>
    rw [List.foldl_cons, ih, Tally.total_bump, List.length_cons]
    omega

/-- **A tally counts every value once.** -/
theorem total_tally (vs : List Scalar) : (tally vs).total = vs.length := by
  rw [tally, total_foldl_bump]
  exact Nat.zero_add _

theorem distinct_concat (vs : List Scalar) (v : Scalar) :
    distinct (vs ++ [v]) = insertNew (distinct vs) v := by
  rw [distinct, List.foldl_append]
  rfl

theorem tally_concat (vs : List Scalar) (v : Scalar) :
    tally (vs ++ [v]) = (tally vs).bump v := by
  rw [tally, List.foldl_append]
  rfl

/-- **A tally is the distinct values with their counts.** -/
theorem tally_eq (vs : List Scalar) : tally vs = (distinct vs).map fun v => (v, vs.count v) := by
  induction vs using List.reverseRecOn with
  | nil => rfl
  | append_singleton vs v ih =>
    have hcount : ∀ u, (vs ++ [v]).count u = vs.count u + if u = v then 1 else 0 := by
      intro u
      rw [List.count_append, List.count_singleton]
      simp only [beq_iff_eq, eq_comm (a := u)]
    rw [tally_concat, ih, Tally.bump_map (nodup_distinct vs), distinct_concat, insertNew]
    simp only [hcount]
    split
    · rfl
    · -- a value that is new has not occurred, and the others are not the new value
      rename_i hv
      have hzero : vs.count v = 0 := List.count_eq_zero.mpr fun hmem => hv (mem_distinct.mpr hmem)
      rw [List.map_append, List.map_singleton, hzero, if_pos rfl]
      refine congrArg (· ++ [(v, 0 + 1)]) (List.map_congr_left fun u hu => ?_)
      have huv : u ≠ v := fun heq => hv (heq ▸ hu)
      rw [if_neg huv, Nat.add_zero]

/-- The values with an entry are the distinct values. -/
theorem keys_tally (vs : List Scalar) : (tally vs).map Prod.fst = distinct vs := by
  rw [tally_eq, List.map_map]
  exact List.map_id _

/-- **The entries of a tally** are for the values that occur, each with its count. -/
theorem mem_tally {vs : List Scalar} {v : Scalar} {n : Nat} :
    (v, n) ∈ tally vs ↔ n = vs.count v ∧ 0 < n := by
  rw [tally_eq, List.mem_map]
  constructor
  · rintro ⟨u, hu, heq⟩
    cases heq
    exact ⟨rfl, List.count_pos_iff.mpr (mem_distinct.mp hu)⟩
  · rintro ⟨rfl, hpos⟩
    exact ⟨v, mem_distinct.mpr (List.count_pos_iff.mp hpos), rfl⟩

/-- The count of a value is the number of its occurrences. -/
theorem countOf_tally (vs : List Scalar) (v : Scalar) : (tally vs).countOf v = vs.count v := by
  rw [Tally.countOf, tally_eq]
  by_cases hv : v ∈ distinct vs
  · rw [List.lookup_graph _ hv]
    rfl
  · have hnone : ((distinct vs).map fun v => (v, vs.count v)).lookup v = none := by
      refine List.lookup_eq_none_iff.mpr fun entry hentry => ?_
      obtain ⟨u, hu, rfl⟩ := List.mem_map.mp hentry
      exact bne_iff_ne.mpr fun heq => hv (heq ▸ hu)
    rw [hnone, List.count_eq_zero.mpr fun hmem => hv (mem_distinct.mpr hmem)]
    rfl

end AccessLog
