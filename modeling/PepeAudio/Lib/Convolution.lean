import Mathlib

/-!
# Convolution in partitions

A causal filter sums the past of a signal, weighted by its taps. Cut into partitions
of one length, it is a sum of circular convolutions of twice that length, each of a
window of the signal and a padded partition of the taps; of each convolution the
second half counts, in which nothing has wrapped around.
-/
namespace PepeAudio

open Finset

variable {R : Type*} [CommRing R]

/-- The filter with so many taps, at a time. -/
def fir (count : ℕ) (taps : ℕ → R) (signal : ℤ → R) (n : ℤ) : R :=
  ∑ k ∈ range count, taps k * signal (n - k)

/-- Taps that are zero may be left out. -/
theorem fir_eq_of_le {count count' : ℕ} (taps : ℕ → R) (signal : ℤ → R) (n : ℤ)
    (hle : count ≤ count') (hzero : ∀ k, count ≤ k → taps k = 0) :
    fir count' taps signal n = fir count taps signal n := by
  symm
  apply Finset.sum_subset (Finset.range_mono hle)
  intro k _ hk
  rw [hzero k (by simpa using hk), zero_mul]

theorem fir_add (count : ℕ) (taps taps' : ℕ → R) (signal : ℤ → R) (n : ℤ) :
    fir count (taps + taps') signal n = fir count taps signal n + fir count taps' signal n := by
  simp only [fir, Pi.add_apply, add_mul, Finset.sum_add_distrib]

theorem fir_smul (count : ℕ) (gain : R) (taps : ℕ → R) (signal : ℤ → R) (n : ℤ) :
    fir count (gain • taps) signal n = gain * fir count taps signal n := by
  simp only [fir, Pi.smul_apply, smul_eq_mul, mul_assoc, Finset.mul_sum]

/-- What has not happened yet does not matter. -/
theorem fir_congr {count : ℕ} {taps : ℕ → R} {signal signal' : ℤ → R} {n : ℤ}
    (h : ∀ k ≤ n, signal k = signal' k) :
    fir count taps signal n = fir count taps signal' n := by
  apply Finset.sum_congr rfl
  intro k _
  rw [h (n - k) (by omega)]

/-- The signal that begins at zero with some samples, and is silent before and after. -/
def signalOf (samples : List R) (n : ℤ) : R := if n < 0 then 0 else samples.getD n.toNat 0

section SignalOf

variable (samples more : List R)

@[simp] theorem signalOf_natCast (n : ℕ) : signalOf samples n = samples.getD n 0 := by
  simp [signalOf]

theorem signalOf_neg {n : ℤ} (h : n < 0) : signalOf samples n = 0 := if_pos h

theorem signalOf_beyond {n : ℤ} (h : samples.length ≤ n) : signalOf samples n = 0 := by
  unfold signalOf
  split_ifs with hneg
  · rfl
  · exact List.getD_eq_default _ _ (by omega)

/-- More samples change nothing in the past. -/
theorem signalOf_append {n : ℤ} (h : n < samples.length) :
    signalOf (samples ++ more) n = signalOf samples n := by
  unfold signalOf
  split_ifs with hneg
  · rfl
  · rw [List.getD_append _ _ _ _ (by omega)]

@[simp] theorem signalOf_append_add (k : ℕ) :
    signalOf (samples ++ more) (samples.length + k) = more.getD k 0 := by
  rw [← Nat.cast_add, signalOf_natCast, List.getD_append_right _ _ _ _ (Nat.le_add_right _ _),
    Nat.add_sub_cancel_left]

end SignalOf

section Circular

variable {N : ℕ}

/-- The circular convolution. -/
def circular (x h : Fin N → R) (n : Fin N) : R := ∑ k, h k * x (n - k)

end Circular

/-- An index of the ring counted back from another. -/
theorem ring_index {index delay length : ℕ} (hindex : index < length) (hdelay : delay < length) :
    (index + length - delay) % length = if delay ≤ index then index - delay
      else index + length - delay := by
  split_ifs with h
  · rw [show index + length - delay = index - delay + length by omega, Nat.add_mod_right,
      Nat.mod_eq_of_lt (by omega)]
  · exact Nat.mod_eq_of_lt (by omega)

/-- Counting back by less than a round does not lead to the same place. -/
theorem ring_index_ne {index delay length : ℕ} (hindex : index < length) (hdelay : delay < length)
    (hpos : 0 < delay) : (index + length - delay) % length ≠ index := by
  rw [ring_index hindex hdelay]
  split_ifs <;> omega

/-- Every place is reached by counting back from another. -/
theorem ring_index_back {index place length : ℕ} (hindex : index < length)
    (hplace : place < length) :
    ∃ delay < length, (index + length - delay) % length = place := by
  rcases Nat.lt_or_ge index place with hgt | hle
  · refine ⟨index + length - place, by omega, ?_⟩
    rw [ring_index hindex (by omega), if_neg (by omega)]
    omega
  · refine ⟨index - place, by omega, ?_⟩
    rw [ring_index hindex (by omega), if_pos (by omega)]
    omega

/-- One round further, counting back by one more leads to the same place. -/
theorem ring_index_succ {index delay length : ℕ} (hindex : index < length)
    (hdelay : delay < length) :
    ((index + 1) % length + length - (delay + 1)) % length =
      (index + length - delay) % length := by
  by_cases hlast : index + 1 < length
  · rw [Nat.mod_eq_of_lt hlast, Nat.add_right_comm, Nat.add_sub_add_right]
  · rw [show index + 1 = length by omega, Nat.mod_self, ← Nat.add_mod_right]
    congr 1
    omega

/-- The window of two partitions that ends with the one of the given number. -/
def window (P : ℕ) (signal : ℤ → R) (b : ℤ) (i : Fin (P * 2)) : R := signal ((b - 1) * P + i)

/-- A partition of the taps, and as many zeros. -/
def padded (P : ℕ) (taps : ℕ → R) (j : ℕ) (i : Fin (P * 2)) : R :=
  if (i : ℕ) < P then taps (j * P + i) else 0

section Partitions

variable {P : ℕ} {taps : ℕ → R} {signal : ℤ → R}

/-- In the second half of a circular convolution no index wraps around. -/
theorem circular_window (b : ℤ) (j : ℕ) {i : ℕ} (n : Fin (P * 2))
    (hn : (n : ℕ) = P + i) :
    circular (window P signal b) (padded P taps j) n =
      ∑ k ∈ range P, taps (j * P + k) * signal (b * P + i - k) := by
  let term (k : ℕ) : R := if k < P then taps (j * P + k) * signal (b * P + i - k) else 0
  have hterm : ∀ k : Fin (P * 2),
      padded P taps j k * window P signal b (n - k) = term k := by
    intro k
    simp only [padded, window, term]
    split_ifs with hk
    · have hle : k ≤ n := by
        rw [Fin.le_def, hn]
        omega
      rw [Fin.sub_val_of_le hle, hn]
      congr 2
      push_cast [show (k : ℕ) ≤ P + i by omega]
      ring
    · rw [zero_mul]
  unfold circular
  rw [Finset.sum_congr rfl fun k _ => hterm k, Fin.sum_univ_eq_sum_range, Nat.mul_two,
    Finset.sum_range_add]
  have hsecond : ∑ k ∈ range P, term (P + k) = 0 := by
    apply Finset.sum_eq_zero
    intro k _
    exact if_neg (by omega)
  rw [hsecond, add_zero]
  apply Finset.sum_congr rfl
  intro k hk
  exact if_pos (Finset.mem_range.mp hk)

/-- The partitions together are the filter. -/
theorem sum_circular_window (b : ℤ) (count : ℕ) {i : ℕ} (n : Fin (P * 2))
    (hn : (n : ℕ) = P + i) :
    ∑ j ∈ range count, circular (window P signal (b - j)) (padded P taps j) n =
      fir (count * P) taps signal (b * P + i) := by
  induction count with
  | zero => simp [fir]
  | succ count ih =>
    rw [Finset.sum_range_succ, ih, circular_window _ _ n hn, Nat.succ_mul]
    unfold fir
    rw [Finset.sum_range_add]
    congr 1
    apply Finset.sum_congr rfl
    intro k _
    congr 2
    push_cast
    ring

end Partitions

/-- A transform of real blocks to spectra and back; `realEnds` is applied before the way back. -/
structure RealTransform (N : ℕ) (R S : Type*) [CommRing R] [CommRing S] [Algebra R S] where
  forward : (Fin N → R) →ₗ[R] S
  realEnds : S →ₗ[R] S
  inverse : S →ₗ[R] (Fin N → R)

/-- Without rounding, the product of two spectra is the circular convolution; nothing is
normalized. -/
def RealTransform.Exact {N : ℕ} {S : Type*} [CommRing S] [Algebra R S]
    (plans : RealTransform N R S) : Prop :=
  ∀ x h, plans.inverse (plans.realEnds (plans.forward x * plans.forward h)) =
    (N : R) • circular x h

section Overlap

variable {K S : Type*} [Field K] [CommRing S] [Algebra K S] {P : ℕ}

/-- The spectrum of a partition of taps, normalized. -/
def partitionSpectrum (plans : RealTransform (P * 2) K S) (taps : ℕ → K) (j : ℕ) : S :=
  ((P * 2 : ℕ) : K)⁻¹ • plans.forward (padded P taps j)

theorem partitionSpectrum_blend (plans : RealTransform (P * 2) K S) (taps taps' : ℕ → K)
    (gain gain' : K) (j : ℕ) :
    gain • partitionSpectrum plans taps j + gain' • partitionSpectrum plans taps' j =
      partitionSpectrum plans (gain • taps + gain' • taps') j := by
  have hpadded : padded P (gain • taps + gain' • taps') j =
      gain • padded P taps j + gain' • padded P taps' j := by
    ext i
    simp only [padded, Pi.add_apply, Pi.smul_apply]
    split_ifs <;> simp
  simp only [partitionSpectrum, hpadded, map_add, map_smul, smul_add]
  rw [smul_comm gain, smul_comm gain']

/-- Overlap-save: the spectra of the windows, each with that of its partition, give the filter. -/
theorem RealTransform.Exact.overlapSave {plans : RealTransform (P * 2) K S} (h : plans.Exact)
    (hP : ((P * 2 : ℕ) : K) ≠ 0) (taps : ℕ → K) (signal : ℤ → K) (b : ℤ) (count : ℕ) {i : ℕ}
    (n : Fin (P * 2)) (hn : (n : ℕ) = P + i) :
    plans.inverse (plans.realEnds (∑ j ∈ range count,
        plans.forward (window P signal (b - j)) * partitionSpectrum plans taps j)) n =
      fir (count * P) taps signal (b * P + i) := by
  have hpartition : ∀ j : ℕ, plans.inverse (plans.realEnds
      (plans.forward (window P signal (b - j)) * partitionSpectrum plans taps j)) =
      circular (window P signal (b - j)) (padded P taps j) := by
    intro j
    rw [partitionSpectrum, mul_smul_comm, map_smul, map_smul, h, smul_smul, inv_mul_cancel₀ hP,
      one_smul]
  rw [← sum_circular_window b count n hn, map_sum, map_sum, Finset.sum_apply]
  exact Finset.sum_congr rfl fun j _ => by rw [hpartition j]

end Overlap

end PepeAudio
