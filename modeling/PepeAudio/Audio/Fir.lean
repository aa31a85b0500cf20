import PepeAudio.Lib.Convolution

/-!
# The direct filter

`DirectFir` keeps as many samples as it has taps in a ring. It is the oracle for the
partitioned engine. Samples are elements of a ring: nothing is rounded.
-/
namespace PepeAudio.Audio

variable {K : Type*} [CommRing K]

structure DirectFir (K : Type*) where
  impulse : List K
  history : List K
  writeIndex : ℕ

namespace DirectFir

def fromValidatedShared (impulse : List K) : DirectFir K :=
  ⟨impulse, List.replicate impulse.length 0, 0⟩

/-- The sum over the taps from the given one on, as the loop adds them up. -/
def accumulate (history : List K) (writeIndex : ℕ) : ℕ → List K → K → K
  | _, [], accumulator => accumulator
  | tapIndex, coefficient :: impulse, accumulator =>
    let delay := tapIndex % history.length
    let historyIndex := (writeIndex + history.length - delay) % history.length
    accumulate history writeIndex (tapIndex + 1) impulse
      (coefficient * history.getD historyIndex 0 + accumulator)

def processSample (input : K) (s : DirectFir K) : K × DirectFir K :=
  let history := s.history.set s.writeIndex input
  (accumulate history s.writeIndex 0 s.impulse 0,
    { s with history, writeIndex := (s.writeIndex + 1) % history.length })

def processBlock : List K → DirectFir K → List K × DirectFir K
  | [], s => ([], s)
  | input :: rest, s =>
    let (output, s') := s.processSample input
    let (outputs, s'') := processBlock rest s'
    (output :: outputs, s'')

/-- The ring after some samples: the latest is before the place of writing. -/
structure Holds (samples : List K) (s : DirectFir K) : Prop where
  length : s.history.length = s.impulse.length
  writeIndex : s.writeIndex < s.impulse.length
  past : ∀ delay < s.impulse.length,
    s.history.getD ((s.writeIndex + s.impulse.length - 1 - delay) % s.impulse.length) 0 =
      signalOf samples (samples.length - 1 - delay)

theorem holds_new {impulse : List K} (h : impulse ≠ []) :
    (fromValidatedShared impulse).Holds [] := by
  refine ⟨by simp [fromValidatedShared], List.length_pos_of_ne_nil h, ?_⟩
  intro delay _
  rw [signalOf_neg _ (by simp only [List.length_nil]; omega)]
  simp [fromValidatedShared]

variable {samples : List K} {s : DirectFir K}

/-- With the next sample written, each delay finds the sample of that age. -/
theorem Holds.past_set (h : s.Holds samples) (input : K) {delay : ℕ}
    (hdelay : delay < s.impulse.length) :
    (s.history.set s.writeIndex input).getD
        ((s.writeIndex + s.impulse.length - delay) % s.impulse.length) 0 =
      signalOf (samples ++ [input]) (samples.length - delay) := by
  have hwrite := h.writeIndex
  have hindex := ring_index hwrite hdelay
  cases delay with
  | zero =>
    rw [hindex, if_pos (Nat.zero_le _), Nat.sub_zero]
    have := signalOf_append_add samples [input] 0
    simp only [Nat.cast_zero, add_zero, sub_zero] at this ⊢
    rw [this]
    simp [List.getD_eq_getElem?_getD, h.length, hwrite]
  | succ delay =>
    have hpast := h.past delay (by omega)
    rw [show s.writeIndex + s.impulse.length - 1 - delay =
      s.writeIndex + s.impulse.length - (delay + 1) by omega] at hpast
    rw [signalOf_append _ _ (by omega)]
    have hsame : (samples.length : ℤ) - (delay + 1 : ℕ) = samples.length - 1 - delay := by omega
    rw [hsame, ← hpast]
    have hne : s.writeIndex ≠ (s.writeIndex + s.impulse.length - (delay + 1)) %
        s.impulse.length := by
      rw [hindex]
      split_ifs <;> omega
    simp [List.getD_eq_getElem?_getD, List.getElem?_set_ne hne]

theorem accumulate_eq (history : List K) (writeIndex tapIndex : ℕ) (impulse : List K)
    (accumulator : K) :
    accumulate history writeIndex tapIndex impulse accumulator =
      (∑ k ∈ Finset.range impulse.length, impulse.getD k 0 *
        history.getD ((writeIndex + history.length - (tapIndex + k) % history.length) %
          history.length) 0) + accumulator := by
  induction impulse generalizing tapIndex accumulator with
  | nil => simp [accumulate]
  | cons coefficient impulse ih =>
    rw [accumulate, ih, List.length_cons, Finset.sum_range_succ']
    simp only [List.getD_cons_succ, List.getD_cons_zero, Nat.add_zero]
    rw [add_assoc]
    congr 1
    apply Finset.sum_congr rfl
    intro k _
    rw [show tapIndex + 1 + k = tapIndex + (k + 1) by omega]

/-- A sample comes out as the sum over the past. -/
theorem Holds.processSample (h : s.Holds samples) (input : K) :
    (s.processSample input).1 =
        fir s.impulse.length (s.impulse.getD · 0) (signalOf (samples ++ [input])) samples.length ∧
      (s.processSample input).2.impulse = s.impulse ∧
      (s.processSample input).2.Holds (samples ++ [input]) := by
  have hwrite := h.writeIndex
  refine ⟨?_, rfl, ?_, ?_, ?_⟩
  · simp only [DirectFir.processSample, accumulate_eq, List.length_set, h.length, add_zero, fir]
    apply Finset.sum_congr rfl
    intro k hk
    have hk := Finset.mem_range.mp hk
    rw [Nat.zero_add, Nat.mod_eq_of_lt hk, h.past_set input hk]
  · simp [DirectFir.processSample, h.length]
  · simp only [DirectFir.processSample, List.length_set, h.length]
    exact Nat.mod_lt _ (by omega)
  · intro delay hdelay
    have hindex : ((s.writeIndex + 1) % s.impulse.length + s.impulse.length - 1 - delay) %
        s.impulse.length = (s.writeIndex + s.impulse.length - delay) % s.impulse.length := by
      have hdelay : delay < s.impulse.length := hdelay
      by_cases hlast : s.writeIndex + 1 < s.impulse.length
      · rw [Nat.mod_eq_of_lt hlast]
        congr 1
        omega
      · rw [show s.writeIndex + 1 = s.impulse.length by omega, Nat.mod_self,
          show s.writeIndex + s.impulse.length - delay =
            0 + s.impulse.length - 1 - delay + s.impulse.length by omega, Nat.add_mod_right]
    simp only [DirectFir.processSample, List.length_set, h.length]
    rw [hindex, h.past_set input hdelay, List.length_append, List.length_singleton]
    congr 1
    push_cast
    ring

/-- A block after any number of samples: the filter over all of them. -/
theorem Holds.processBlock (h : s.Holds samples) (input : List K) :
    (s.processBlock input).1 = (List.range input.length).map (fun t =>
        fir s.impulse.length (s.impulse.getD · 0) (signalOf (samples ++ input))
          (samples.length + t : ℕ)) ∧
      (s.processBlock input).2.impulse = s.impulse ∧
      (s.processBlock input).2.Holds (samples ++ input) := by
  induction input generalizing s samples with
  | nil => simpa [DirectFir.processBlock] using h
  | cons x input ih =>
    obtain ⟨houtput, himpulse, hnext⟩ := h.processSample x
    obtain ⟨houtputs, himpulses, hlast⟩ := ih hnext
    rw [himpulse] at houtputs himpulses
    rw [List.append_assoc, List.singleton_append] at houtputs hlast
    refine ⟨?_, himpulses, hlast⟩
    show (s.processSample x).1 :: ((s.processSample x).2.processBlock input).1 = _
    rw [houtput, houtputs, List.length_cons, List.range_succ_eq_map, List.map_cons, List.map_map]
    congr 1
    · apply fir_congr
      intro k hk
      rw [show samples ++ x :: input = samples ++ [x] ++ input by simp]
      rw [signalOf_append _ input (by simp only [List.length_append, List.length_singleton]; omega)]
    · apply List.map_congr_left
      intro t _
      congr 1
      simp only [List.length_append, List.length_singleton]
      omega

end DirectFir

end PepeAudio.Audio
