import Mathlib.Algebra.GroupWithZero.Nat
import Mathlib.Order.Lattice.Nat
import Mathlib.Data.UInt
import Mathlib.Tactic.Common

/-!
# Checked and saturating arithmetic on 64-bit words

A checked operation fails where its result is no word, a saturating one returns
the nearest word. Everything later proofs use of one is an equation on the values.
-/
namespace PepeAudio

/-- `u64::checked_add(1)`. -/
def checkedSucc (n : UInt64) : Option UInt64 :=
  if n.toNat + 1 < UInt64.size then some (n + 1) else none

theorem checkedSucc_toNat {n m : UInt64} (h : checkedSucc n = some m) :
    m.toNat = n.toNat + 1 := by
  unfold checkedSucc at h
  split at h
  · next hlt =>
    obtain rfl := Option.some.inj h
    rw [UInt64.toNat_add]
    exact Nat.mod_eq_of_lt hlt
  · contradiction

theorem checkedSucc_of_toNat {n m : UInt64} (h : m.toNat = n.toNat + 1) :
    checkedSucc n = some m := by
  have hlt : n.toNat + 1 < UInt64.size := h ▸ m.toNat_lt_size
  rw [checkedSucc, if_pos hlt, Option.some.injEq, ← UInt64.toNat_inj, UInt64.toNat_add, h]
  exact Nat.mod_eq_of_lt hlt

/-- `u64::checked_add`. -/
def checkedAdd (a b : UInt64) : Option UInt64 :=
  if a.toNat + b.toNat < UInt64.size then some (a + b) else none

theorem checkedAdd_toNat {a b c : UInt64} (h : checkedAdd a b = some c) :
    c.toNat = a.toNat + b.toNat := by
  unfold checkedAdd at h
  split at h
  · next hlt =>
    obtain rfl := Option.some.inj h
    rw [UInt64.toNat_add]
    exact Nat.mod_eq_of_lt hlt
  · contradiction

theorem checkedAdd_eq_none {a b : UInt64} (h : checkedAdd a b = none) :
    UInt64.size ≤ a.toNat + b.toNat := by
  unfold checkedAdd at h
  split at h
  · contradiction
  · omega

/-- `u64::checked_sub`. -/
def checkedSub (a b : UInt64) : Option UInt64 := if b ≤ a then some (a - b) else none

theorem checkedSub_toNat {a b c : UInt64} (h : checkedSub a b = some c) :
    c.toNat + b.toNat = a.toNat := by
  unfold checkedSub at h
  split at h
  · next hle =>
    obtain rfl := Option.some.inj h
    have hle' : b.toNat ≤ a.toNat := hle
    rw [UInt64.toNat_sub_of_le a b hle]
    omega
  · contradiction

/-- `u64::saturating_sub`. -/
def saturatingSub (a b : UInt64) : UInt64 := if b ≤ a then a - b else 0

theorem saturatingSub_toNat {a b : UInt64} (h : b.toNat ≤ a.toNat) :
    (saturatingSub a b).toNat + b.toNat = a.toNat := by
  have hle : b ≤ a := h
  rw [saturatingSub, if_pos hle, UInt64.toNat_sub_of_le a b hle]
  omega

/-- On the values the saturating difference is the truncated one. -/
theorem toNat_saturatingSub (a b : UInt64) : (saturatingSub a b).toNat = a.toNat - b.toNat := by
  unfold saturatingSub
  split
  · next hle => exact UInt64.toNat_sub_of_le a b hle
  · next hlt =>
    have hle : ¬ b.toNat ≤ a.toNat := hlt
    rw [UInt64.toNat_zero]
    omega

/-- A sum of words that stays within a word. -/
theorem toNat_sum {l : List UInt64} (h : (l.map UInt64.toNat).sum < 2 ^ 64) :
    l.sum.toNat = (l.map UInt64.toNat).sum := by
  induction l with
  | nil => rfl
  | cons a l ih =>
    simp only [List.map_cons, List.sum_cons] at h ⊢
    rw [UInt64.toNat_add, ih (by omega)]
    exact Nat.mod_eq_of_lt h

/-- `u64::saturating_add`. -/
def saturatingAdd (a b : UInt64) : UInt64 :=
  if a.toNat + b.toNat < UInt64.size then a + b else UInt64.ofNat (UInt64.size - 1)

/-- `u64::try_from(n).unwrap_or(u64::MAX)`. -/
def saturatingOfNat (n : ℕ) : UInt64 :=
  UInt64.ofNat (min n (UInt64.size - 1))

end PepeAudio
