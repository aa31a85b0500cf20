import PepeAudio.Lib.Convolution
import Mathlib

/-!
# The discrete Fourier transform of real blocks

A real block of even length has a spectrum that is conjugate symmetric, so that half of it is
kept. The way back takes the other half from the symmetry. The two are exact.
-/
namespace PepeAudio

open Finset ZMod ComplexConjugate

namespace RealDft

variable (M : ℕ) [NeZero (M * 2)]

/-- A block as a function on the residues. -/
noncomputable def lift (x : Fin (M * 2) → ℝ) (k : ZMod (M * 2)) : ℂ :=
  x ((ZMod.finEquiv (M * 2)).symm k)

/-- The lower half of the spectrum, with both ends. -/
noncomputable def forward (x : Fin (M * 2) → ℝ) (k : Fin (M + 1)) : ℂ :=
  dft (lift M x) (k : ℕ)

/-- The real parts of the ends. -/
noncomputable def realEnds (s : Fin (M + 1) → ℂ) (k : Fin (M + 1)) : ℂ :=
  if k = 0 ∨ k = Fin.last M then ((s k).re : ℂ) else s k

/-- The whole spectrum, of which the upper half mirrors the lower. -/
noncomputable def mirrored (s : Fin (M + 1) → ℂ) (k : ZMod (M * 2)) : ℂ :=
  if k.val ≤ M then s (Fin.ofNat (M + 1) k.val) else conj (s (Fin.ofNat (M + 1) (M * 2 - k.val)))

noncomputable def inverse (s : Fin (M + 1) → ℂ) (n : Fin (M * 2)) : ℝ :=
  (∑ k, stdAddChar (k * ZMod.finEquiv (M * 2) n) * mirrored M s k).re

theorem conj_stdAddChar (k : ZMod (M * 2)) :
    conj (stdAddChar k : ℂ) = stdAddChar (-k) := by
  rw [stdAddChar_apply, stdAddChar_apply, AddChar.map_neg_eq_inv, Circle.coe_inv_eq_conj]

theorem conj_dft (x : Fin (M * 2) → ℝ) (k : ZMod (M * 2)) :
    conj (dft (lift M x) k) = dft (lift M x) (-k) := by
  simp only [dft_apply, smul_eq_mul, map_sum, map_mul, conj_stdAddChar]
  apply Finset.sum_congr rfl
  intro j _
  rw [lift, Complex.conj_ofReal, mul_neg]

theorem dft_convolution (x h : ZMod (M * 2) → ℂ) (k : ZMod (M * 2)) :
    dft (fun n => ∑ j, h j * x (n - j)) k = dft x k * dft h k := by
  rw [mul_comm (dft x k)]
  simp only [dft_apply, smul_eq_mul]
  rw [Finset.sum_mul_sum]
  simp only [Finset.mul_sum]
  rw [Finset.sum_comm]
  apply Finset.sum_congr rfl
  intro j _
  -- the term at `n` is the one that `n - j` contributes to the transform of `x`
  apply Fintype.sum_equiv (Equiv.subRight j)
  intro n
  have hsplit : -(n * k) = -((n - j) * k) + -(j * k) := by ring
  rw [hsplit, AddChar.map_add_eq_mul, Equiv.subRight_apply]
  ring

theorem lift_circular (x h : Fin (M * 2) → ℝ) :
    lift M (circular x h) = fun n => ∑ j, lift M h j * lift M x (n - j) := by
  ext n
  simp only [lift, circular, map_sub, Complex.ofReal_sum, Complex.ofReal_mul]
  apply Fintype.sum_equiv (ZMod.finEquiv (M * 2)).toEquiv
  intro j
  simp

theorem sum_stdAddChar_dft (f : ZMod (M * 2) → ℂ) (n : ZMod (M * 2)) :
    ∑ k, stdAddChar (k * n) * dft f k = (M * 2 : ℕ) * f n := by
  have hinverse := invDFT_apply (dft f) n
  rw [LinearEquiv.symm_apply_apply] at hinverse
  have hne : ((M * 2 : ℕ) : ℂ) ≠ 0 := Nat.cast_ne_zero.mpr (NeZero.ne _)
  rw [hinverse, smul_eq_mul, mul_inv_cancel_left₀ hne]
  rfl

theorem forward_ofNat (x : Fin (M * 2) → ℝ) {n : ℕ} (hn : n ≤ M) :
    forward M x (Fin.ofNat (M + 1) n) = dft (lift M x) n := by
  rw [forward, Fin.val_ofNat, Nat.mod_eq_of_lt (by omega)]

/-- At its ends the spectrum is real. -/
theorem realEnds_product (x h : Fin (M * 2) → ℝ) :
    realEnds M (forward M x * forward M h) = forward M x * forward M h := by
  ext k
  unfold realEnds
  split_ifs with hk
  · have hself : -((k : ℕ) : ZMod (M * 2)) = (k : ℕ) := by
      rcases hk with rfl | rfl
      · simp
      · rw [neg_eq_iff_add_eq_zero, ← Nat.cast_add, Fin.val_last, ← Nat.mul_two, ZMod.natCast_self]
    apply Complex.conj_eq_iff_re.mp
    simp only [Pi.mul_apply, forward, map_mul, conj_dft, hself]
  · rfl

theorem mirrored_product (x h : Fin (M * 2) → ℝ) (k : ZMod (M * 2)) :
    mirrored M (realEnds M (forward M x * forward M h)) k =
      dft (lift M x) k * dft (lift M h) k := by
  rw [realEnds_product]
  unfold mirrored
  split_ifs with hk
  · rw [Pi.mul_apply, forward_ofNat M x hk, forward_ofNat M h hk, ZMod.natCast_zmod_val]
  · have hlt := ZMod.val_lt k
    have hneg : ((M * 2 - k.val : ℕ) : ZMod (M * 2)) = -k := by
      rw [Nat.cast_sub hlt.le, ZMod.natCast_self, ZMod.natCast_zmod_val, zero_sub]
    rw [Pi.mul_apply, forward_ofNat M x (by omega), forward_ofNat M h (by omega), hneg, map_mul,
      conj_dft, conj_dft, neg_neg]

theorem lift_add (x y : Fin (M * 2) → ℝ) : lift M (x + y) = lift M x + lift M y := by
  ext k
  simp [lift]

theorem lift_smul (c : ℝ) (x : Fin (M * 2) → ℝ) : lift M (c • x) = (c : ℂ) • lift M x := by
  ext k
  simp [lift]

theorem forward_add (x y : Fin (M * 2) → ℝ) : forward M (x + y) = forward M x + forward M y := by
  ext k
  simp [forward, lift_add, map_add]

theorem forward_smul (c : ℝ) (x : Fin (M * 2) → ℝ) : forward M (c • x) = c • forward M x := by
  ext k
  rw [forward, lift_smul, LinearEquiv.map_smul]
  simp [forward]

omit [NeZero (M * 2)] in
theorem realEnds_add (s t : Fin (M + 1) → ℂ) :
    realEnds M (s + t) = realEnds M s + realEnds M t := by
  ext k
  simp only [realEnds, Pi.add_apply]
  split_ifs <;> simp

omit [NeZero (M * 2)] in
theorem realEnds_smul (c : ℝ) (s : Fin (M + 1) → ℂ) : realEnds M (c • s) = c • realEnds M s := by
  ext k
  simp only [realEnds, Pi.smul_apply]
  split_ifs <;> simp

theorem inverse_add (s t : Fin (M + 1) → ℂ) : inverse M (s + t) = inverse M s + inverse M t := by
  have hmirrored : mirrored M (s + t) = mirrored M s + mirrored M t := by
    ext k
    simp only [mirrored, Pi.add_apply]
    split_ifs <;> simp
  ext n
  simp [inverse, hmirrored, mul_add, Finset.sum_add_distrib]

theorem inverse_smul (c : ℝ) (s : Fin (M + 1) → ℂ) : inverse M (c • s) = c • inverse M s := by
  have hmirrored : ∀ k, mirrored M (c • s) k = c * mirrored M s k := by
    intro k
    simp only [mirrored, Pi.smul_apply]
    split_ifs <;> simp
  ext n
  simp only [inverse, hmirrored, Pi.smul_apply, smul_eq_mul]
  rw [← Complex.re_ofReal_mul, Finset.mul_sum]
  congr 1
  exact Finset.sum_congr rfl fun k _ => by ring

end RealDft

/-- The transform of real blocks of even length. -/
noncomputable def realDft (M : ℕ) [NeZero (M * 2)] :
    RealTransform (M * 2) ℝ (Fin (M + 1) → ℂ) where
  forward :=
    { toFun := RealDft.forward M
      map_add' := RealDft.forward_add M
      map_smul' := RealDft.forward_smul M }
  realEnds :=
    { toFun := RealDft.realEnds M
      map_add' := RealDft.realEnds_add M
      map_smul' := RealDft.realEnds_smul M }
  inverse :=
    { toFun := RealDft.inverse M
      map_add' := RealDft.inverse_add M
      map_smul' := RealDft.inverse_smul M }

theorem realDft_exact (M : ℕ) [NeZero (M * 2)] : (realDft M).Exact := by
  intro x h
  ext n
  have hproduct : ∀ k, RealDft.mirrored M (RealDft.realEnds M
      (RealDft.forward M x * RealDft.forward M h)) k = dft (RealDft.lift M (circular x h)) k := by
    intro k
    rw [RealDft.mirrored_product, RealDft.lift_circular, RealDft.dft_convolution]
  show RealDft.inverse M (RealDft.realEnds M (RealDft.forward M x * RealDft.forward M h)) n = _
  simp only [RealDft.inverse, hproduct]
  rw [RealDft.sum_stdAddChar_dft, RealDft.lift, RingEquiv.symm_apply_apply, Pi.smul_apply,
    smul_eq_mul, ← Complex.ofReal_natCast, ← Complex.ofReal_mul, Complex.ofReal_re]

end PepeAudio
