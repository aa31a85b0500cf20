import Mathlib

/-!
# Linear ramps

A value that moves to its target in equal steps, one a frame. A new target may be set at any
time, also while the value moves.
-/
namespace PepeAudio

/-- A value on its way, with the frames that are left. -/
structure Ramp (K : Type*) where
  current : K
  target : K
  step : K
  remaining : ℕ

namespace Ramp

variable {K : Type*} [Field K]

def rest (value : K) : Ramp K := ⟨value, value, 0, 0⟩

/-- Fewer than two frames leave no room for a step. -/
def setTarget (target : K) (frames : ℕ) (r : Ramp K) : Ramp K :=
  if frames ≤ 1 then rest target
  else ⟨r.current, target, (target - r.current) / ((frames - 1 : ℕ) : K), frames⟩

/-- The state after the current frame. -/
def advance (r : Ramp K) : Ramp K :=
  if r.remaining = 0 then r
  else if r.remaining - 1 = 0 then { r with current := r.target, remaining := 0 }
  else { r with current := r.current + r.step, remaining := r.remaining - 1 }

def settle (r : Ramp K) : Ramp K := rest r.target

def after : ℕ → Ramp K → Ramp K
  | 0, r => r
  | n + 1, r => after n r.advance

theorem after_add (m n : ℕ) (r : Ramp K) : r.after (m + n) = (r.after m).after n := by
  induction m generalizing r with
  | zero => simp [after]
  | succ m ih => rw [Nat.add_right_comm, after, after, ih]

@[simp] theorem rest_current (value : K) : (rest value).current = value := rfl

@[simp] theorem rest_target (value : K) : (rest value).target = value := rfl

@[simp] theorem rest_remaining (value : K) : (rest value).remaining = 0 := rfl

/-- The steps that are left lead to the target. -/
def Aims (r : Ramp K) : Prop :=
  match r.remaining with
  | 0 => r.current = r.target
  | k + 1 => r.current + r.step * k = r.target

theorem aims_rest (value : K) : (rest value).Aims := rfl

theorem aims_setTarget [CharZero K] (target : K) (frames : ℕ) (r : Ramp K) :
    (r.setTarget target frames).Aims := by
  unfold setTarget
  split_ifs with hframes
  · exact aims_rest target
  · obtain ⟨k, rfl⟩ : ∃ k, frames = k + 2 := ⟨frames - 2, by omega⟩
    have hk : ((k + 1 : ℕ) : K) ≠ 0 := Nat.cast_ne_zero.mpr (by omega)
    simp only [Aims, show k + 2 - 1 = k + 1 by omega]
    rw [div_mul_cancel₀ _ hk, add_sub_cancel]

theorem advance_idle {r : Ramp K} (h : r.remaining = 0) : r.advance = r := if_pos h

theorem advance_remaining (r : Ramp K) : r.advance.remaining = r.remaining - 1 := by
  unfold advance
  split_ifs with hidle hlast
  · omega
  · simp [hlast]
  · rfl

theorem advance_target (r : Ramp K) : r.advance.target = r.target := by
  unfold advance
  split_ifs <;> rfl

theorem Aims.idle {r : Ramp K} (h : r.Aims) (hidle : r.remaining = 0) : r.current = r.target := by
  unfold Aims at h
  rwa [hidle] at h

theorem Aims.advance {r : Ramp K} (h : r.Aims) : r.advance.Aims := by
  unfold Ramp.advance
  split_ifs with hidle hlast
  · exact h
  · rfl
  · obtain ⟨k, hk⟩ : ∃ k, r.remaining = k + 2 := ⟨r.remaining - 2, by omega⟩
    simp only [Aims, hk] at h ⊢
    rw [← h]
    push_cast
    ring

/-- After some frames the value has made as many steps, or stands at the target. -/
theorem Aims.after_current {r : Ramp K} (h : r.Aims) (n : ℕ) :
    (r.after n).current = if n < r.remaining then r.current + r.step * n else r.target := by
  induction n generalizing r with
  | zero =>
    rcases Nat.eq_zero_or_pos r.remaining with hidle | hmoves
    · simp [Ramp.after, hidle, h.idle hidle]
    · simp [Ramp.after, hmoves]
  | succ n ih =>
    rw [Ramp.after, ih h.advance, advance_remaining, advance_target]
    by_cases hlater : n + 1 < r.remaining
    · rw [if_pos (by omega), if_pos hlater]
      unfold Ramp.advance
      rw [if_neg (by omega), if_neg (by omega)]
      push_cast
      ring
    · rw [if_neg (by omega), if_neg hlater]

/-- The value moves on a straight line from where it was. -/
theorem setTarget_after [CharZero K] (target : K) (frames n : ℕ) (r : Ramp K) :
    ((r.setTarget target frames).after n).current = if n + 1 < frames then
      r.current + (target - r.current) * n / ((frames - 1 : ℕ) : K) else target := by
  rw [(aims_setTarget target frames r).after_current n]
  unfold setTarget
  by_cases hshort : frames ≤ 1
  · rw [if_pos hshort, rest_remaining, if_neg (Nat.not_lt_zero n), if_neg (by omega), rest_target]
  · rw [if_neg hshort]
    by_cases hlater : n + 1 < frames
    · rw [if_pos (by simp only; omega), if_pos hlater]
      ring
    · rw [if_neg hlater]
      by_cases hlast : n < frames
      -- The last step arrives by itself.
      · have hn : frames - 1 = n := by omega
        have hn0 : (n : K) ≠ 0 := Nat.cast_ne_zero.mpr (by omega)
        simp only [hlast, if_true, hn]
        rw [div_mul_cancel₀ _ hn0, add_sub_cancel]
      · simp [hlast]

section Bounds

variable [LinearOrder K] {lo hi : K}

/-- A ramp that stays within bounds. -/
structure Within (lo hi : K) (r : Ramp K) : Prop where
  aims : r.Aims
  current_mem : r.current ∈ Set.Icc lo hi
  target_mem : r.target ∈ Set.Icc lo hi

theorem within_rest {value : K} (h : value ∈ Set.Icc lo hi) : (rest value).Within lo hi :=
  ⟨aims_rest value, h, h⟩

theorem Within.settle {r : Ramp K} (h : r.Within lo hi) : r.settle.Within lo hi :=
  within_rest h.target_mem

variable [IsStrictOrderedRing K]

theorem Within.setTarget {r : Ramp K} (h : r.Within lo hi) {target : K}
    (htarget : target ∈ Set.Icc lo hi) (frames : ℕ) : (r.setTarget target frames).Within lo hi := by
  refine ⟨aims_setTarget target frames r, ?_, ?_⟩
  · unfold Ramp.setTarget
    split_ifs
    · exact htarget
    · exact h.current_mem
  · unfold Ramp.setTarget
    split_ifs <;> exact htarget

/-- One of the steps that lead to the target does not pass it. -/
theorem Within.advance {r : Ramp K} (h : r.Within lo hi) : r.advance.Within lo hi := by
  refine ⟨h.aims.advance, ?_, by rw [advance_target]; exact h.target_mem⟩
  unfold Ramp.advance
  split_ifs with hidle hlast
  · exact h.current_mem
  · exact h.target_mem
  · obtain ⟨k, hk⟩ : ∃ k, r.remaining = k + 2 := ⟨r.remaining - 2, by omega⟩
    have haims : r.current + r.step * ((k + 1 : ℕ) : K) = r.target := by
      have := h.aims
      simpa only [Aims, hk] using this
    have hpos : (0 : K) < ((k + 1 : ℕ) : K) := Nat.cast_pos.mpr (by omega)
    have hone : (1 : K) ≤ ((k + 1 : ℕ) : K) := by exact_mod_cast Nat.succ_pos k
    obtain ⟨hlo, hhi⟩ := h.current_mem
    obtain ⟨htlo, hthi⟩ := h.target_mem
    rcases le_total 0 r.step with hup | hdown
    · have hle : r.step ≤ r.step * ((k + 1 : ℕ) : K) := le_mul_of_one_le_right hup hone
      constructor
      · exact le_add_of_le_of_nonneg hlo hup
      · exact le_trans (by rw [← haims]; exact add_le_add_right hle _) hthi
    · have hge : r.step * ((k + 1 : ℕ) : K) ≤ r.step := by
        have := mul_le_mul_of_nonpos_left hone hdown
        rwa [mul_one] at this
      constructor
      · exact le_trans htlo (by rw [← haims]; exact add_le_add_right hge _)
      · exact le_trans (add_le_of_nonpos_right hdown) hhi

end Bounds

end Ramp

end PepeAudio
