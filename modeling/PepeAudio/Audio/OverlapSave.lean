import PepeAudio.Audio.Partitioned
import PepeAudio.Lib.RealDft

/-!
# The engine is the direct filter

A channel's history holds the spectra of the windows of its signal, whatever the calls
were that brought the samples. Rendering is therefore the causal filter over all samples
since the last reset, from the first one on and without delay.
-/
namespace PepeAudio.Audio

open Finset
open Hrir (VirtualDirection)

variable {K S : Type*} [Field K] [CommRing S] [Algebra K S] {plans : FftPlans K S}

theorem PARTITION_FRAMES_pos : 0 < PARTITION_FRAMES := by decide

/-! ## Prepared planes -/

theorem chunk_eq_padded (impulse : List K) (index : ℕ) :
    (fun i : Fin (PARTITION_FRAMES * 2) => (chunk impulse index).getD i 0) =
      padded PARTITION_FRAMES (impulse.getD · 0) index := by
  ext i
  unfold chunk padded
  split_ifs with hi
  · simp [List.getD_eq_getElem?_getD, hi, List.getElem?_drop]
  · exact List.getD_eq_default _ _ (by simp only [List.length_take]; omega)

/-- The partitions of a plane, of which the last covers the end of the impulse. -/
theorem prepare_partition (impulse : List K) {index : ℕ}
    (h : index < (prepare plans impulse).partitionCount) :
    (prepare plans impulse).partition index =
      partitionSpectrum plans (impulse.getD · 0) index := by
  have hcount : index < (impulse.length + (PARTITION_FRAMES - 1)) / PARTITION_FRAMES := h
  simp only [prepare, SpectralPlane.partition, chunk_eq_padded]
  simp [List.getD_eq_getElem?_getD, hcount, partitionSpectrum]

theorem length_le_prepare (impulse : List K) :
    impulse.length ≤ (prepare plans impulse).partitionCount * PARTITION_FRAMES := by
  have hlt := Nat.lt_mul_div_succ (impulse.length + (PARTITION_FRAMES - 1)) PARTITION_FRAMES_pos
  have hpos := PARTITION_FRAMES_pos
  rw [Nat.mul_add, Nat.mul_one, Nat.mul_comm] at hlt
  show impulse.length ≤ (impulse.length + (PARTITION_FRAMES - 1)) / PARTITION_FRAMES *
    PARTITION_FRAMES
  omega

/-! ## The ring of spectra -/

namespace SourceHistory

/-- A history while its partition of the given number is open, after some samples. -/
structure Holds (plans : FftPlans K S) (b : ℕ) (samples : List K) (s : SourceHistory K S) :
    Prop where
  previous_length : s.previous.length = PARTITION_FRAMES
  current_length : s.current.length = PARTITION_FRAMES
  previous : ∀ i < PARTITION_FRAMES,
    s.previous.getD i 0 = signalOf samples (((b : ℤ) - 1) * PARTITION_FRAMES + i)
  current : ∀ i < PARTITION_FRAMES,
    s.current.getD i 0 = signalOf samples ((b : ℤ) * PARTITION_FRAMES + i)
  fill : samples.length = b * PARTITION_FRAMES + s.fill
  fill_le : s.fill ≤ PARTITION_FRAMES
  spectra_length : s.spectra.length = s.partitionCount
  slot : s.currentSlot < s.partitionCount
  slot_eq : s.currentSlot = b % s.partitionCount
  spectrum : ∀ delay < s.partitionCount, 0 < delay → s.spectrumAtDelay delay =
    plans.forward (window PARTITION_FRAMES (signalOf samples) ((b : ℤ) - delay))

/-- A history whose open partition has been transformed as it is. -/
structure Loaded (plans : FftPlans K S) (b : ℕ) (samples : List K) (s : SourceHistory K S) : Prop
    extends s.Holds plans b samples where
  open_spectrum : s.spectrumAtDelay 0 =
    plans.forward (window PARTITION_FRAMES (signalOf samples) b)

/-- A history between two calls: the place of an open partition without samples is cleared. -/
structure Rests (plans : FftPlans K S) (b : ℕ) (samples : List K) (s : SourceHistory K S) : Prop
    extends s.Holds plans b samples where
  fill_lt : s.fill < PARTITION_FRAMES
  open_spectrum : s.spectrumAtDelay 0 =
    if s.fill = 0 then 0 else plans.forward (window PARTITION_FRAMES (signalOf samples) b)

variable {b : ℕ} {samples : List K} {s : SourceHistory K S}

theorem Loaded.spectrum_all (h : s.Loaded plans b samples) {delay : ℕ}
    (hdelay : delay < s.partitionCount) : s.spectrumAtDelay delay =
      plans.forward (window PARTITION_FRAMES (signalOf samples) ((b : ℤ) - delay)) := by
  cases delay with
  | zero => simpa using h.open_spectrum
  | succ delay => exact h.spectrum _ hdelay (Nat.succ_pos delay)

theorem window_before {samples : List K} {b : ℤ} (h : b < 0) :
    window PARTITION_FRAMES (signalOf samples) b = 0 := by
  ext i
  have hi := i.isLt
  have hle : (b - 1) * PARTITION_FRAMES ≤ -2 * PARTITION_FRAMES :=
    mul_le_mul_of_nonneg_right (by omega) (by omega)
  exact signalOf_neg _ (by omega)

theorem rests_new {partitionCount : ℕ} (h : 0 < partitionCount) :
    (new partitionCount : SourceHistory K S).Rests plans 0 [] := by
  have hpos := PARTITION_FRAMES_pos
  refine ⟨⟨by simp [new], by simp [new], ?_, ?_, by simp [new], by simp [new], by simp [new], h,
    by simp [new], ?_⟩, hpos, by simp [new, spectrumAtDelay]⟩
  · intro i hi
    rw [signalOf_neg _ (by simp only [Nat.cast_zero]; omega)]
    simp [new]
  · intro i hi
    rw [signalOf_beyond _ (by simp only [Nat.cast_zero, List.length_nil]; omega)]
    simp [new]
  · intro delay hdelay hpos
    rw [window_before (by simp only [Nat.cast_zero]; omega), map_zero]
    simp [new, spectrumAtDelay]

/-- The first samples of a channel. -/
def channelOf (channel frames : ℕ) (input : List K) : List K :=
  (List.range frames).map fun i => input.getD (channel + 2 * i) 0

@[simp] theorem length_channelOf (channel frames : ℕ) (input : List K) :
    (channelOf channel frames input).length = frames := by
  simp [channelOf]

theorem getD_channelOf (channel : ℕ) {frames i : ℕ} (input : List K) (h : i < frames) :
    (channelOf channel frames input).getD i 0 = input.getD (channel + 2 * i) 0 := by
  simp [channelOf, List.getD_eq_getElem?_getD, h]

section Append

variable {input : List K} {channel frames : ℕ}

/-- The open partition grows by the channel's samples. -/
theorem Holds.current_append (h : s.Holds plans b samples)
    (hinput : channel + 2 * frames ≤ input.length + 1) {i : ℕ} (hi : i < PARTITION_FRAMES) :
    (s.appendInterleaved plans input channel frames).current.getD i 0 =
      signalOf (samples ++ channelOf channel frames input) ((b : ℤ) * PARTITION_FRAMES + i) := by
  have hfill := h.fill
  have hlt : i < s.current.length := by rw [h.current_length]; exact hi
  have hold := h.current i hi
  rw [List.getD_eq_getElem _ _ hlt] at hold
  have hget : (s.appendInterleaved plans input channel frames).current.getD i 0 =
      if s.fill ≤ i ∧ i < s.fill + frames then
        input.getD (channel + 2 * (i - s.fill)) (s.current.get ⟨i, hlt⟩)
      else s.current.get ⟨i, hlt⟩ := by
    simp only [appendInterleaved]
    rw [List.getD_eq_getElem _ _ (by simpa using hlt), List.getElem_mapIdx]
    rfl
  rw [hget]
  split_ifs with hin
  · have hat : (b : ℤ) * PARTITION_FRAMES + i = samples.length + (i - s.fill : ℕ) := by
      rw [hfill]
      push_cast [hin.1]
      ring
    rw [hat, signalOf_append_add, getD_channelOf _ _ (by omega)]
    have hindex : channel + 2 * (i - s.fill) < input.length := by omega
    rw [List.getD_eq_getElem _ _ hindex, List.getD_eq_getElem _ _ hindex]
  · rw [List.get_eq_getElem, hold]
    rcases Nat.lt_or_ge i s.fill with hbefore | hafter
    · rw [signalOf_append]
      rw [hfill]
      push_cast
      omega
    · rw [signalOf_beyond, signalOf_beyond]
      · rw [List.length_append, length_channelOf, hfill]
        push_cast
        omega
      · rw [hfill]
        push_cast
        omega

/-- The windows of closed partitions do not change. -/
theorem Holds.window_append (h : s.Holds plans b samples) (more : List K) {delay : ℕ}
    (hpos : 0 < delay) :
    window PARTITION_FRAMES (signalOf (samples ++ more)) ((b : ℤ) - delay) =
      window PARTITION_FRAMES (signalOf samples) ((b : ℤ) - delay) := by
  ext i
  have hi := i.isLt
  have hfill := h.fill
  apply signalOf_append
  have hle : ((b : ℤ) - delay - 1) * PARTITION_FRAMES ≤ ((b : ℤ) - 2) * PARTITION_FRAMES :=
    mul_le_mul_of_nonneg_right (by omega) (by omega)
  rw [sub_mul (b : ℤ) 2] at hle
  rw [hfill]
  push_cast
  omega

theorem Holds.append (h : s.Holds plans b samples) (hfit : s.fill + frames ≤ PARTITION_FRAMES)
    (hinput : channel + 2 * frames ≤ input.length + 1) :
    (s.appendInterleaved plans input channel frames).Loaded plans b
      (samples ++ channelOf channel frames input) := by
  have hfill := h.fill
  have hcurrent := fun i (hi : i < PARTITION_FRAMES) => h.current_append hinput hi
  have hprevious : ∀ i < PARTITION_FRAMES, s.previous.getD i 0 =
      signalOf (samples ++ channelOf channel frames input)
        (((b : ℤ) - 1) * PARTITION_FRAMES + i) := by
    intro i hi
    rw [h.previous i hi, signalOf_append]
    rw [hfill, sub_mul]
    push_cast
    omega
  have hlength : (s.appendInterleaved plans input channel frames).current.length =
      PARTITION_FRAMES := by
    simp [appendInterleaved, h.current_length]
  have hslot (delay : ℕ) : (s.appendInterleaved plans input channel frames).spectrumAtDelay delay =
      (s.spectra.set s.currentSlot (plans.forward fun i =>
        (s.previous ++ (s.appendInterleaved plans input channel frames).current).getD i 0)).getD
        ((s.currentSlot + s.partitionCount - delay) % s.partitionCount) 0 := rfl
  have htime : (fun i : Fin (PARTITION_FRAMES * 2) =>
      (s.previous ++ (s.appendInterleaved plans input channel frames).current).getD i 0) =
      window PARTITION_FRAMES (signalOf (samples ++ channelOf channel frames input)) b := by
    ext i
    have hi := i.isLt
    unfold window
    rcases Nat.lt_or_ge i PARTITION_FRAMES with hfirst | hsecond
    · rw [List.getD_append _ _ _ _ (by rw [h.previous_length]; exact hfirst), hprevious i hfirst]
    · rw [List.getD_append_right _ _ _ _ (by rw [h.previous_length]; exact hsecond),
        h.previous_length, hcurrent _ (by omega)]
      congr 1
      rw [sub_mul]
      push_cast [hsecond]
      ring
  refine ⟨⟨h.previous_length, hlength, hprevious, hcurrent, ?_, hfit, ?_, h.slot, h.slot_eq, ?_⟩,
    ?_⟩
  · rw [List.length_append, length_channelOf, hfill]
    exact Nat.add_assoc ..
  · exact (List.length_set ..).trans h.spectra_length
  · intro delay hdelay hpos
    have hdelay : delay < s.partitionCount := hdelay
    have hne := ring_index_ne h.slot hdelay hpos
    rw [hslot, List.getD_eq_getElem?_getD, List.getElem?_set_ne hne.symm,
      ← List.getD_eq_getElem?_getD]
    rw [h.window_append _ hpos]
    exact h.spectrum delay hdelay hpos
  · rw [hslot, htime, Nat.sub_zero, Nat.add_mod_right, Nat.mod_eq_of_lt h.slot]
    simp [List.getD_eq_getElem?_getD, h.spectra_length, h.slot]

end Append

/-- A full partition is closed, and the next one opened. -/
theorem Loaded.finish (h : s.Loaded plans b samples) (hfill : 0 < s.fill) :
    s.finishPartition.Rests plans (if s.fill = PARTITION_FRAMES then b + 1 else b) samples := by
  have hpos := PARTITION_FRAMES_pos
  unfold finishPartition
  by_cases hfull : s.fill = PARTITION_FRAMES
  · rw [if_neg (not_not.mpr hfull), if_pos hfull]
    have hnew : (s.currentSlot + 1) % s.partitionCount < s.partitionCount :=
      Nat.mod_lt _ (Nat.zero_lt_of_lt h.slot)
    refine ⟨⟨h.current_length, by simp, ?_, ?_, ?_, Nat.zero_le _, ?_, hnew, ?_, ?_⟩, hpos, ?_⟩
    · intro i hi
      rw [h.current i hi]
      push_cast
      ring_nf
    · intro i hi
      rw [signalOf_beyond]
      · simp
      · rw [h.fill, hfull]
        push_cast
        ring_nf
        omega
    · simp only
      rw [h.fill, hfull]
      ring
    · exact (List.length_set ..).trans h.spectra_length
    · simp only
      rw [h.slot_eq, Nat.mod_add_mod]
    · intro delay hdelay hdelay_pos
      obtain ⟨earlier, rfl⟩ : ∃ earlier, delay = earlier + 1 := ⟨delay - 1, by omega⟩
      have hdelay : earlier + 1 < s.partitionCount := hdelay
      have hne := ring_index_ne hnew hdelay (Nat.succ_pos earlier)
      have hspectrum := h.spectrum_all (show earlier < s.partitionCount by omega)
      rw [show ((b + 1 : ℕ) : ℤ) - (earlier + 1 : ℕ) = (b : ℤ) - earlier by push_cast; ring,
        ← hspectrum]
      unfold spectrumAtDelay
      simp only
      rw [List.getD_eq_getElem?_getD, List.getElem?_set_ne hne.symm,
        ring_index_succ h.slot (by omega), ← List.getD_eq_getElem?_getD]
    · unfold spectrumAtDelay
      simp only
      rw [Nat.sub_zero, Nat.add_mod_right, Nat.mod_eq_of_lt hnew]
      simp [List.getD_eq_getElem?_getD, h.spectra_length, hnew]
  · rw [if_pos hfull, if_neg hfull]
    refine ⟨h.toHolds, Nat.lt_of_le_of_ne h.fill_le hfull, ?_⟩
    rw [if_neg hfill.ne', h.open_spectrum]

theorem Rests.partition_eq (h : s.Rests plans b samples) :
    b = samples.length / PARTITION_FRAMES := by
  rw [h.fill, Nat.mul_comm, Nat.mul_add_div PARTITION_FRAMES_pos, Nat.div_eq_of_lt h.fill_lt,
    Nat.add_zero]

/-- Each delay has the spectrum that the samples give. -/
theorem Rests.spectrum_eq {s' : SourceHistory K S} (h : s.Rests plans b samples)
    (h' : s'.Rests plans b samples) (hcount : s.partitionCount = s'.partitionCount)
    (hfill : s.fill = s'.fill) {delay : ℕ} (hdelay : delay < s.partitionCount) :
    s.spectrumAtDelay delay = s'.spectrumAtDelay delay := by
  cases delay with
  | zero => rw [h.open_spectrum, h'.open_spectrum, hfill]
  | succ delay =>
    rw [h.spectrum _ hdelay (Nat.succ_pos delay),
      h'.spectrum _ (hcount ▸ hdelay) (Nat.succ_pos delay)]

theorem eq_of_getD {M : Type*} [Zero M] {xs ys : List M} (hlength : xs.length = ys.length)
    (h : ∀ i < xs.length, xs.getD i 0 = ys.getD i 0) : xs = ys := by
  apply List.ext_getElem hlength
  intro i hx hy
  have := h i hx
  rwa [List.getD_eq_getElem _ _ hx, List.getD_eq_getElem _ _ hy] at this

/-- Between two calls a history depends on the samples alone. -/
theorem Rests.unique {s' : SourceHistory K S} {b' : ℕ} (h : s.Rests plans b samples)
    (h' : s'.Rests plans b' samples) (hcount : s.partitionCount = s'.partitionCount) : s = s' := by
  obtain rfl : b = b' := h.partition_eq.trans h'.partition_eq.symm
  have hfill : s.fill = s'.fill := Nat.add_left_cancel (h.fill.symm.trans h'.fill)
  have hslot : s.currentSlot = s'.currentSlot := by rw [h.slot_eq, h'.slot_eq, hcount]
  have hprevious : s.previous = s'.previous := by
    apply eq_of_getD (h.previous_length.trans h'.previous_length.symm)
    intro i hi
    rw [h.previous_length] at hi
    rw [h.previous i hi, h'.previous i hi]
  have hcurrent : s.current = s'.current := by
    apply eq_of_getD (h.current_length.trans h'.current_length.symm)
    intro i hi
    rw [h.current_length] at hi
    rw [h.current i hi, h'.current i hi]
  have hspectra : s.spectra = s'.spectra := by
    apply eq_of_getD (by rw [h.spectra_length, h'.spectra_length, hcount])
    intro place hplace
    rw [h.spectra_length] at hplace
    obtain ⟨delay, hdelay, rfl⟩ := ring_index_back h.slot hplace
    have hspectrum := h.spectrum_eq h' hcount hfill hdelay
    unfold spectrumAtDelay at hspectrum
    rw [hspectrum, hslot, hcount]
  cases s
  cases s'
  simp_all

theorem channelOf_take (channel frames count : ℕ) (input : List K)
    (h : frames ≤ count) (hchannel : channel < 2) :
    channelOf channel frames (input.take (count * 2)) = channelOf channel frames input := by
  apply List.map_congr_left
  intro i hi
  have hi := List.mem_range.mp hi
  simp only [List.getD_eq_getElem?_getD]
  rw [List.getElem?_take_of_lt (by omega)]

theorem channelOf_add (channel frames more : ℕ) (input : List K) :
    channelOf channel (frames + more) input =
      channelOf channel frames input ++ channelOf channel more (input.drop (frames * 2)) := by
  unfold channelOf
  rw [List.range_add, List.map_append, List.map_map]
  congr 1
  apply List.map_congr_left
  intro i _
  simp only [Function.comp_apply, List.getD_eq_getElem?_getD, List.getElem?_drop]
  congr 2
  ring

end SourceHistory

/-! ## One ear of one channel -/

theorem foldl_add_range (f : ℕ → S) (count : ℕ) :
    (List.range count).foldl (fun sum index => sum + f index) 0 =
      ∑ index ∈ range count, f index := by
  induction count with
  | zero => rfl
  | succ count ih =>
    rw [List.range_succ, List.foldl_append, ih, Finset.sum_range_succ]
    rfl

open SourceHistory in
/-- The products of the spectra add up to the filter with the blended response. -/
theorem convolve_getD [CharZero K] (hexact : plans.Exact) {b : ℕ} {samples : List K}
    {source : SourceHistory K S} (h : source.Loaded plans b samples) (first second : List K)
    (selection : Selection K) {frameCount : ℕ} (hfirst : first.length = frameCount)
    (hsecond : second.length = frameCount)
    (hcount : source.partitionCount = (prepare plans first).partitionCount) {i : ℕ}
    (hi : i < PARTITION_FRAMES) :
    (convolve plans source (prepare plans first) (prepare plans second) selection).getD i 0 =
      fir frameCount
        (selection.firstGain • (first.getD · 0) + selection.secondGain • (second.getD · 0))
        (signalOf samples) (b * PARTITION_FRAMES + i : ℕ) := by
  have hsame : (prepare plans second).partitionCount = (prepare plans first).partitionCount := by
    simp [prepare, hfirst, hsecond]
  have hlong : first.length ≤ (prepare plans first).partitionCount * PARTITION_FRAMES :=
    length_le_prepare first
  have hnonzero : ((PARTITION_FRAMES * 2 : ℕ) : K) ≠ 0 :=
    Nat.cast_ne_zero.mpr (by decide)
  have hterm : ∀ index < source.partitionCount, source.spectrumAtDelay index *
      (selection.firstGain • (prepare plans first).partition index +
        selection.secondGain • (prepare plans second).partition index) =
      plans.forward (window PARTITION_FRAMES (signalOf samples) ((b : ℤ) - index)) *
        partitionSpectrum plans (selection.firstGain • (first.getD · 0) +
          selection.secondGain • (second.getD · 0)) index := by
    intro index hindex
    rw [h.spectrum_all hindex, prepare_partition first (by omega),
      prepare_partition second (by omega), partitionSpectrum_blend]
  have hget : (convolve plans source (prepare plans first) (prepare plans second)
      selection).getD i 0 = plans.inverse (plans.realEnds (∑ index ∈ range source.partitionCount,
        source.spectrumAtDelay index *
          (selection.firstGain • (prepare plans first).partition index +
            selection.secondGain • (prepare plans second).partition index)))
        ⟨PARTITION_FRAMES + i, by omega⟩ := by
    rw [convolve, foldl_add_range, List.getD_eq_getElem?_getD, List.getElem?_drop,
      List.getElem?_ofFn, dif_pos (by omega)]
    rfl
  have hshort : ∀ k, frameCount ≤ k → (selection.firstGain • (first.getD · 0) +
      selection.secondGain • (second.getD · 0) : ℕ → K) k = 0 := by
    intro k hk
    simp only [Pi.add_apply, Pi.smul_apply]
    rw [List.getD_eq_default _ _ (by omega), List.getD_eq_default _ _ (by omega), smul_zero,
      smul_zero, add_zero]
  rw [hget, Finset.sum_congr rfl fun index hindex => hterm index (Finset.mem_range.mp hindex),
    hexact.overlapSave hnonzero _ _ _ _ _ rfl, hcount,
    fir_eq_of_le _ _ _ (by omega : frameCount ≤ _) hshort]
  push_cast
  rfl

/-! ## The direct filters -/

section Direct

variable (preset : PreparedHrir plans)

/-- The plane of a direction for an ear. -/
def PreparedHrir.plane (direction : VirtualDirection) (ear : ℕ) : List K :=
  if ear = 0 then (preset.pair direction).leftEar else (preset.pair direction).rightEar

theorem PreparedHrir.length_plane (direction : VirtualDirection) (ear : ℕ) :
    (preset.plane direction ear).length = preset.frameCount := by
  unfold PreparedHrir.plane
  split_ifs
  · exact preset.left_length direction
  · exact preset.right_length direction

/-- The response of a selection at an ear. -/
def PreparedHrir.response (selection : Selection K) (ear : ℕ) : ℕ → K :=
  selection.firstGain • ((preset.plane selection.first ear).getD · 0) +
    selection.secondGain • ((preset.plane selection.second ear).getD · 0)

/-- What an ear hears at a time, by the sums over the past of both channels. -/
def PreparedHrir.direct (left right : Selection K) (ear : ℕ) (leftSamples rightSamples : List K)
    (n : ℕ) : K :=
  fir preset.frameCount (preset.response left ear) (signalOf leftSamples) n +
    fir preset.frameCount (preset.response right ear) (signalOf rightSamples) n

/-- What comes later is not heard. -/
theorem PreparedHrir.direct_append (left right : Selection K) (ear : ℕ)
    {leftSamples rightSamples : List K} (leftMore rightMore : List K) {n : ℕ}
    (hleft : n < leftSamples.length) (hright : n < rightSamples.length) :
    preset.direct left right ear (leftSamples ++ leftMore) (rightSamples ++ rightMore) n =
      preset.direct left right ear leftSamples rightSamples n := by
  unfold PreparedHrir.direct
  congr 1
  · exact fir_congr fun k hk => signalOf_append _ _ (by omega)
  · exact fir_congr fun k hk => signalOf_append _ _ (by omega)

end Direct

/-! ## The engine -/

namespace PartitionedStereoEngine

open SourceHistory

variable {preset : PreparedHrir plans}

/-- The engine with the kernels of a preset, while the partition of the given number is open. -/
structure Holds (preset : PreparedHrir plans) (b : ℕ) (leftSamples rightSamples : List K)
    (engine : PartitionedStereoEngine K S) : Prop where
  kernels : ∀ direction, engine.kernels direction =
    ⟨prepare plans (preset.pair direction).leftEar, prepare plans (preset.pair direction).rightEar⟩
  left : engine.leftSource.Holds plans b leftSamples
  right : engine.rightSource.Holds plans b rightSamples
  left_count : engine.leftSource.partitionCount =
    (preset.frameCount + (PARTITION_FRAMES - 1)) / PARTITION_FRAMES
  right_count : engine.rightSource.partitionCount =
    (preset.frameCount + (PARTITION_FRAMES - 1)) / PARTITION_FRAMES
  length_eq : leftSamples.length = rightSamples.length

variable {b : ℕ} {leftSamples rightSamples : List K} {engine : PartitionedStereoEngine K S}

theorem Holds.fill_eq (h : engine.Holds preset b leftSamples rightSamples) :
    engine.rightSource.fill = engine.leftSource.fill := by
  have hleft := h.left.fill
  have hright := h.right.fill
  have := h.length_eq
  omega

theorem holds_new (preset : PreparedHrir plans) : (new preset).Holds preset 0 [] [] := by
  have hcount : ((new preset).kernels .FrontLeft).left.partitionCount =
      (preset.frameCount + (PARTITION_FRAMES - 1)) / PARTITION_FRAMES := by
    simp [new, preset.left_prepared, prepare, preset.left_length]
  have hpositive : 0 < ((new preset).kernels .FrontLeft).left.partitionCount := by
    have := preset.frameCount_pos
    have := PARTITION_FRAMES_pos
    rw [hcount]
    exact Nat.div_pos (by omega) PARTITION_FRAMES_pos
  refine ⟨?_, (SourceHistory.rests_new hpositive).toHolds,
    (SourceHistory.rests_new hpositive).toHolds, hcount, hcount,
    rfl⟩
  intro direction
  simp [new, preset.left_prepared, preset.right_prepared]

/-- The engine with samples appended that fit into the open partition. -/
structure Loaded (preset : PreparedHrir plans) (b : ℕ) (leftSamples rightSamples : List K)
    (engine : PartitionedStereoEngine K S) : Prop
    extends engine.Holds preset b leftSamples rightSamples where
  left_loaded : engine.leftSource.Loaded plans b leftSamples
  right_loaded : engine.rightSource.Loaded plans b rightSamples

theorem Holds.append (h : engine.Holds preset b leftSamples rightSamples) {input : List K}
    {frames : ℕ} (hfit : engine.leftSource.fill + frames ≤ PARTITION_FRAMES)
    (hinput : 2 * frames ≤ input.length) :
    (engine.append plans input frames).Loaded preset b (leftSamples ++ channelOf 0 frames input)
      (rightSamples ++ channelOf 1 frames input) := by
  have hleft := h.left.append hfit (by omega : 0 + 2 * frames ≤ input.length + 1)
  have hright := h.right.append (by rw [h.fill_eq]; exact hfit)
    (by omega : 1 + 2 * frames ≤ input.length + 1)
  refine ⟨⟨h.kernels, hleft.toHolds, hright.toHolds, h.left_count, h.right_count, ?_⟩, hleft,
    hright⟩
  simp [h.length_eq]

/-- The engine between two calls. -/
structure Rests (preset : PreparedHrir plans) (b : ℕ) (leftSamples rightSamples : List K)
    (engine : PartitionedStereoEngine K S) : Prop
    extends engine.Holds preset b leftSamples rightSamples where
  left_rests : engine.leftSource.Rests plans b leftSamples
  right_rests : engine.rightSource.Rests plans b rightSamples

theorem append_fill (samples : List K) (frames : ℕ) (engine : PartitionedStereoEngine K S) :
    (engine.append plans samples frames).leftSource.fill = engine.leftSource.fill + frames :=
  rfl

theorem Loaded.finish (h : engine.Loaded preset b leftSamples rightSamples)
    (hfill : 0 < engine.leftSource.fill) :
    ∃ b', engine.finishPartition.Rests preset b' leftSamples rightSamples := by
  have hleft := h.left_loaded.finish hfill
  have hright := h.right_loaded.finish (by rw [h.toHolds.fill_eq]; exact hfill)
  rw [h.toHolds.fill_eq] at hright
  have hcount (source : SourceHistory K S) :
      source.finishPartition.partitionCount = source.partitionCount := by
    unfold SourceHistory.finishPartition
    split_ifs <;> rfl
  exact ⟨_, ⟨h.kernels, hleft.toHolds, hright.toHolds, (hcount _).trans h.left_count,
    (hcount _).trans h.right_count, h.length_eq⟩, hleft, hright⟩

section Render

variable [CharZero K] (hexact : plans.Exact)
include hexact

/-- One channel at one ear. -/
theorem Loaded.convolve (h : engine.Loaded preset b leftSamples rightSamples) (ear : Fin 2)
    (leftSource : Bool) (selection : Selection K) {i : ℕ} (hi : i < PARTITION_FRAMES) :
    (Audio.convolve plans (if leftSource then engine.leftSource else engine.rightSource)
        (if ear = 0 then (engine.kernels selection.first).left
          else (engine.kernels selection.first).right)
        (if ear = 0 then (engine.kernels selection.second).left
          else (engine.kernels selection.second).right) selection).getD i 0 =
      fir preset.frameCount (preset.response selection ear)
        (signalOf (if leftSource then leftSamples else rightSamples))
        (b * PARTITION_FRAMES + i : ℕ) := by
  have hkernel (direction : VirtualDirection) : (if ear = 0 then (engine.kernels direction).left
      else (engine.kernels direction).right) = prepare plans (preset.plane direction ear) := by
    rw [h.kernels]
    unfold PreparedHrir.plane
    by_cases hear : ear = 0
    · simp [hear]
    · have hval : (ear : ℕ) ≠ 0 := fun hzero => hear (Fin.ext hzero)
      simp [hear, hval]
  have hloaded : (if leftSource then engine.leftSource else engine.rightSource).Loaded plans b
      (if leftSource then leftSamples else rightSamples) := by
    cases leftSource
    · exact h.right_loaded
    · exact h.left_loaded
  have hcount : (if leftSource then engine.leftSource else engine.rightSource).partitionCount =
      (prepare plans (preset.plane selection.first ear)).partitionCount := by
    have hprepared : (prepare plans (preset.plane selection.first ear)).partitionCount =
        (preset.frameCount + (PARTITION_FRAMES - 1)) / PARTITION_FRAMES := by
      simp [prepare, preset.length_plane]
    rw [hprepared]
    cases leftSource
    · exact h.right_count
    · exact h.left_count
  rw [hkernel, hkernel]
  exact convolve_getD hexact hloaded _ _ selection (preset.length_plane _ _)
    (preset.length_plane _ _) hcount hi

/-- One ear's share of one channel, added to every second sample. -/
theorem Loaded.addEar (h : engine.Loaded preset b leftSamples rightSamples) (ear : Fin 2)
    (leftSource : Bool) (selection : Selection K) {start frames : ℕ}
    (hfit : start + frames ≤ PARTITION_FRAMES) (output : ℕ → K) :
    engine.addEar plans ear leftSource selection start ((List.range (frames * 2)).map output) =
      (List.range (frames * 2)).map fun index : ℕ => if index % 2 = ear then
        output index + fir preset.frameCount (preset.response selection ear)
          (signalOf (if leftSource then leftSamples else rightSamples))
          (b * PARTITION_FRAMES + (start + index / 2) : ℕ)
      else output index := by
  apply List.ext_getElem
  · simp [PartitionedStereoEngine.addEar]
  · intro index hlength _
    have hindex : index < frames * 2 := by
      simpa [PartitionedStereoEngine.addEar] using hlength
    have hear := h.convolve hexact ear leftSource selection (i := start + index / 2) (by omega)
    simp only [PartitionedStereoEngine.addEar, List.getElem_mapIdx, List.getElem_map,
      List.getElem_range]
    rw [hear]

/-- A range is what both ears hear of both channels. -/
theorem Loaded.renderRange (h : engine.Loaded preset b leftSamples rightSamples)
    (left right : Selection K) {start frames : ℕ} (hfit : start + frames ≤ PARTITION_FRAMES) :
    engine.renderRange plans start frames left right =
      (List.range (frames * 2)).map fun index => preset.direct left right (index % 2) leftSamples
        rightSamples (b * PARTITION_FRAMES + (start + index / 2)) := by
  have hsilent : List.replicate (frames * 2) (0 : K) =
      (List.range (frames * 2)).map fun _ => 0 := by
    rw [List.map_const', List.length_range]
  unfold PartitionedStereoEngine.renderRange
  simp only
  rw [hsilent, h.addEar hexact 0 true left hfit, h.addEar hexact 1 true left hfit,
    h.addEar hexact 0 false right hfit, h.addEar hexact 1 false right hfit]
  apply List.map_congr_left
  intro index _
  rcases Nat.mod_two_eq_zero_or_one index with heven | hodd
  · simp [heven, PreparedHrir.direct]
  · simp [hodd, PreparedHrir.direct]

end Render

/-- The engine after some samples of both channels. -/
def Heard (preset : PreparedHrir plans) (leftSamples rightSamples : List K)
    (engine : PartitionedStereoEngine K S) : Prop :=
  ∃ b, engine.Rests preset b leftSamples rightSamples

theorem heard_new (preset : PreparedHrir plans) : (new preset).Heard preset [] [] := by
  have hholds := holds_new preset
  have hpositive : 0 < ((new preset).kernels .FrontLeft).left.partitionCount :=
    Nat.zero_lt_of_lt hholds.left.slot
  exact ⟨0, hholds, SourceHistory.rests_new hpositive, SourceHistory.rests_new hpositive⟩

theorem Heard.reset (h : engine.Heard preset leftSamples rightSamples) :
    engine.reset.Heard preset [] [] := by
  obtain ⟨b, h⟩ := h
  have hleft : engine.leftSource.reset.Rests plans 0 [] :=
    SourceHistory.rests_new (Nat.zero_lt_of_lt h.left.slot)
  have hright : engine.rightSource.reset.Rests plans 0 [] :=
    SourceHistory.rests_new (Nat.zero_lt_of_lt h.right.slot)
  exact ⟨0, ⟨h.kernels, hleft.toHolds, hright.toHolds, h.left_count, h.right_count, rfl⟩, hleft,
    hright⟩

/-- Between two calls the engine depends on the samples alone. -/
theorem Heard.unique {engine' : PartitionedStereoEngine K S}
    (h : engine.Heard preset leftSamples rightSamples)
    (h' : engine'.Heard preset leftSamples rightSamples) : engine = engine' := by
  obtain ⟨b, h⟩ := h
  obtain ⟨b', h'⟩ := h'
  have hleft := h.left_rests.unique h'.left_rests (h.left_count.trans h'.left_count.symm)
  have hright := h.right_rests.unique h'.right_rests (h.right_count.trans h'.right_count.symm)
  have hkernels : engine.kernels = engine'.kernels := by
    ext direction
    rw [h.kernels, h'.kernels]
  cases engine
  cases engine'
  simp_all

/-- The samples of the left channel after an input. -/
def leftAfter (leftSamples input : List K) : List K :=
  leftSamples ++ channelOf 0 (input.length / 2) input

/-- The samples of the right channel after an input. -/
def rightAfter (rightSamples input : List K) : List K :=
  rightSamples ++ channelOf 1 (input.length / 2) input

/-- The part of the input that goes into the open partition, and the rest. -/
theorem after_split (samples input : List K) {frames : ℕ} (hframes : frames ≤ input.length / 2) :
    leftAfter samples input =
        leftAfter (samples ++ channelOf 0 frames (input.take (frames * 2)))
          (input.drop (frames * 2)) ∧
      rightAfter samples input =
        rightAfter (samples ++ channelOf 1 frames (input.take (frames * 2)))
          (input.drop (frames * 2)) := by
  have hrest : (input.drop (frames * 2)).length / 2 = input.length / 2 - frames := by
    rw [List.length_drop]
    omega
  have htotal : input.length / 2 = frames + (input.length / 2 - frames) := by omega
  constructor
  · rw [leftAfter, leftAfter, hrest, List.append_assoc, channelOf_take _ _ _ _ le_rfl (by omega),
      ← channelOf_add, ← htotal]
  · rw [rightAfter, rightAfter, hrest, List.append_assoc, channelOf_take _ _ _ _ le_rfl (by omega),
      ← channelOf_add, ← htotal]

/-- What both ears hear during an input. -/
def directOutput (preset : PreparedHrir plans) (left right : Selection K)
    (leftSamples rightSamples input : List K) : List K :=
  (List.range (input.length / 2 * 2)).map fun index => preset.direct left right (index % 2)
    (leftAfter leftSamples input) (rightAfter rightSamples input) (leftSamples.length + index / 2)

theorem directOutput_split (preset : PreparedHrir plans) (left right : Selection K)
    {leftSamples rightSamples : List K} (input : List K) {frames : ℕ}
    (hlength : leftSamples.length = rightSamples.length) (hframes : frames ≤ input.length / 2) :
    directOutput preset left right leftSamples rightSamples input =
      ((List.range (frames * 2)).map fun index => preset.direct left right (index % 2)
        (leftSamples ++ channelOf 0 frames (input.take (frames * 2)))
        (rightSamples ++ channelOf 1 frames (input.take (frames * 2)))
        (leftSamples.length + index / 2)) ++
      directOutput preset left right (leftSamples ++ channelOf 0 frames (input.take (frames * 2)))
        (rightSamples ++ channelOf 1 frames (input.take (frames * 2)))
        (input.drop (frames * 2)) := by
  have hrest : (input.drop (frames * 2)).length / 2 = input.length / 2 - frames := by
    rw [List.length_drop]
    omega
  have htotal : input.length / 2 * 2 = frames * 2 + (input.length / 2 - frames) * 2 := by omega
  unfold directOutput
  rw [(after_split leftSamples input hframes).1, (after_split rightSamples input hframes).2, htotal,
    List.range_add, List.map_append, List.map_map, hrest]
  congr 1
  · apply List.map_congr_left
    intro index hindex
    have hindex := List.mem_range.mp hindex
    exact preset.direct_append left right _ _ _ (by simp; omega) (by simp; omega)
  · apply List.map_congr_left
    intro index _
    have hear : (frames * 2 + index) % 2 = index % 2 := by omega
    have htime : leftSamples.length + (frames * 2 + index) / 2 =
        leftSamples.length + frames + index / 2 := by omega
    simp only [Function.comp_apply, hear, htime, List.length_append, length_channelOf]

/-- Samples that fit into the open partition, at least one of a channel. -/
theorem Heard.append (h : engine.Heard preset leftSamples rightSamples) {input : List K}
    (hsome : input.length / 2 ≠ 0) :
    ∃ b frames, frames = min (PARTITION_FRAMES - engine.leftSource.fill) (input.length / 2) ∧
      0 < frames ∧ engine.leftSource.fill + frames ≤ PARTITION_FRAMES ∧
      leftSamples.length = b * PARTITION_FRAMES + engine.leftSource.fill ∧
      (engine.append plans (input.take (frames * 2)) frames).Loaded preset b
        (leftSamples ++ channelOf 0 frames (input.take (frames * 2)))
        (rightSamples ++ channelOf 1 frames (input.take (frames * 2))) := by
  obtain ⟨b, h⟩ := h
  have hfill := h.left_rests.fill_lt
  refine ⟨b, _, rfl, by omega, by omega, h.left.fill, h.toHolds.append (by omega) ?_⟩
  rw [List.length_take]
  omega

section Loops

variable [CharZero K] (hexact : plans.Exact) (left right : Selection K)
include hexact

/-- Rendering ends, with what both ears hear. -/
theorem Heard.renderLoop (h : engine.Heard preset leftSamples rightSamples) (fuel : ℕ)
    (input : List K) (hfuel : input.length / 2 ≤ fuel) :
    ∃ engine', engine.renderLoop plans left right fuel input =
        some (directOutput preset left right leftSamples rightSamples input, engine') ∧
      engine'.Heard preset (leftAfter leftSamples input) (rightAfter rightSamples input) := by
  induction fuel generalizing engine leftSamples rightSamples input with
  | zero =>
    have hnone : input.length / 2 = 0 := by omega
    refine ⟨engine, ?_, ?_⟩
    · simp [PartitionedStereoEngine.renderLoop, directOutput, hnone]
    · simpa [leftAfter, rightAfter, hnone, channelOf] using h
  | succ fuel ih =>
    by_cases hnone : input.length / 2 = 0
    · refine ⟨engine, ?_, ?_⟩
      · simp [PartitionedStereoEngine.renderLoop, directOutput, hnone]
      · simpa [leftAfter, rightAfter, hnone, channelOf] using h
    · have hlengths : leftSamples.length = rightSamples.length := by
        obtain ⟨_, hrests⟩ := h
        exact hrests.length_eq
      obtain ⟨b, frames, hframes, hpos, hfit, hlength, hloaded⟩ := h.append hnone
      obtain ⟨b', hrests⟩ := hloaded.finish (by rw [append_fill]; omega)
      have hrest : (input.drop (frames * 2)).length / 2 = input.length / 2 - frames := by
        rw [List.length_drop]
        omega
      obtain ⟨engine', hrun, hheard⟩ := ih ⟨b', hrests⟩ (input.drop (frames * 2)) (by omega)
      have hrendered := hloaded.renderRange hexact left right hfit
      rw [← (after_split leftSamples input (by omega)).1,
        ← (after_split rightSamples input (by omega)).2] at hheard
      refine ⟨engine', ?_, hheard⟩
      rw [PartitionedStereoEngine.renderLoop, if_neg hnone, ← hframes]
      simp only
      rw [hrun, hrendered, Option.map_some, directOutput_split preset left right input
        hlengths (by omega : frames ≤ _), hlength]
      simp only [Nat.add_assoc]

end Loops

theorem Heard.warmLoop (h : engine.Heard preset leftSamples rightSamples) (fuel : ℕ)
    (input : List K) (hfuel : input.length / 2 ≤ fuel) :
    ∃ engine', engine.warmLoop plans fuel input = some engine' ∧
      engine'.Heard preset (leftAfter leftSamples input) (rightAfter rightSamples input) := by
  induction fuel generalizing engine leftSamples rightSamples input with
  | zero =>
    have hnone : input.length / 2 = 0 := by omega
    refine ⟨engine, ?_, ?_⟩
    · simp [PartitionedStereoEngine.warmLoop, hnone]
    · simpa [leftAfter, rightAfter, hnone, channelOf] using h
  | succ fuel ih =>
    by_cases hnone : input.length / 2 = 0
    · refine ⟨engine, ?_, ?_⟩
      · simp [PartitionedStereoEngine.warmLoop, hnone]
      · simpa [leftAfter, rightAfter, hnone, channelOf] using h
    · obtain ⟨b, frames, hframes, hpos, hfit, -, hloaded⟩ := h.append hnone
      obtain ⟨b', hrests⟩ := hloaded.finish (by rw [append_fill]; omega)
      have hrest : (input.drop (frames * 2)).length / 2 = input.length / 2 - frames := by
        rw [List.length_drop]
        omega
      obtain ⟨engine', hrun, hheard⟩ := ih ⟨b', hrests⟩ (input.drop (frames * 2)) (by omega)
      rw [← (after_split leftSamples input (by omega)).1,
        ← (after_split rightSamples input (by omega)).2] at hheard
      refine ⟨engine', ?_, hheard⟩
      rw [PartitionedStereoEngine.warmLoop, if_neg hnone, ← hframes]
      exact hrun

end PartitionedStereoEngine

/-! ## Runs -/

/-- A call to the engine. -/
inductive EngineCall (K : Type*) where
  | render (input : List K) (left right : Selection K)
  | warm (input : List K)
  | reset

namespace EngineCall

open PartitionedStereoEngine

/-- What a call puts out, and the engine after it. -/
def perform (plans : FftPlans K S) (engine : PartitionedStereoEngine K S) :
    EngineCall K → Option (List K × PartitionedStereoEngine K S)
  | .render input left right => engine.renderValidated plans input left right
  | .warm input => (engine.warmValidated plans input).map fun engine => ([], engine)
  | .reset => some ([], engine.reset)

def performAll (plans : FftPlans K S) : List (EngineCall K) → PartitionedStereoEngine K S →
    Option (List (List K) × PartitionedStereoEngine K S)
  | [], engine => some ([], engine)
  | call :: calls, engine =>
    (call.perform plans engine).bind fun after =>
      (performAll plans calls after.2).map fun rest => (after.1 :: rest.1, rest.2)

/-- Both channels since the last reset. -/
def after (past : List K × List K) : EngineCall K → List K × List K
  | .render input _ _ => (leftAfter past.1 input, rightAfter past.2 input)
  | .warm input => (leftAfter past.1 input, rightAfter past.2 input)
  | .reset => ([], [])

def pastOf (calls : List (EngineCall K)) (past : List K × List K) : List K × List K :=
  calls.foldl after past

/-- The output of a call by the sums over the past. -/
def direct (preset : PreparedHrir plans) (past : List K × List K) : EngineCall K → List K
  | .render input left right => directOutput preset left right past.1 past.2 input
  | .warm _ => []
  | .reset => []

def directAll (preset : PreparedHrir plans) :
    List (EngineCall K) → List K × List K → List (List K)
  | [], _ => []
  | call :: calls, past => call.direct preset past :: directAll preset calls (call.after past)

section Runs

variable [CharZero K] (hexact : plans.Exact) {preset : PreparedHrir plans}
  {engine : PartitionedStereoEngine K S} {past : List K × List K}
include hexact

theorem perform_heard (call : EngineCall K) (h : engine.Heard preset past.1 past.2) :
    ∃ engine', call.perform plans engine = some (call.direct preset past, engine') ∧
      engine'.Heard preset (call.after past).1 (call.after past).2 := by
  cases call with
  | render input left right => exact h.renderLoop hexact left right _ input le_rfl
  | warm input =>
    obtain ⟨engine', hrun, hheard⟩ := h.warmLoop _ input le_rfl
    exact ⟨engine', by simp [perform, warmValidated, hrun, direct], hheard⟩
  | reset => exact ⟨engine.reset, rfl, h.reset⟩

theorem performAll_heard (calls : List (EngineCall K)) (past : List K × List K)
    (h : engine.Heard preset past.1 past.2) :
    ∃ engine', performAll plans calls engine = some (directAll preset calls past, engine') ∧
      engine'.Heard preset (pastOf calls past).1 (pastOf calls past).2 := by
  induction calls generalizing engine past with
  | nil => exact ⟨engine, rfl, h⟩
  | cons call calls ih =>
    obtain ⟨engine', hrun, hheard⟩ := perform_heard hexact call h
    obtain ⟨engine'', hruns, hheard'⟩ := ih _ hheard
    refine ⟨engine'', ?_, hheard'⟩
    rw [performAll, hrun, Option.bind_some, hruns, Option.map_some, directAll]

/-- Whatever the preset, the calls and the selections: every sample that is put out is the sum over
the past of both channels since the last reset, no call fails to return, and the engine that is
left depends on that past alone. -/
theorem engine_refines_direct (preset : PreparedHrir plans) (calls : List (EngineCall K)) :
    ∃ engine, performAll plans calls (.new preset) =
        some (directAll preset calls ([], []), engine) ∧
      ∀ calls' outputs engine', performAll plans calls' (.new preset) = some (outputs, engine') →
        pastOf calls' ([], []) = pastOf calls ([], []) → engine' = engine := by
  obtain ⟨engine, hrun, hheard⟩ := performAll_heard hexact calls ([], []) (heard_new preset)
  refine ⟨engine, hrun, ?_⟩
  intro calls' outputs engine' hrun' hpast
  obtain ⟨_, hrun'', hheard'⟩ := performAll_heard hexact calls' ([], []) (heard_new preset)
  rw [hrun'] at hrun''
  cases hrun''
  rw [hpast] at hheard'
  exact hheard'.unique hheard

end Runs

instance : NeZero (PARTITION_FRAMES * 2) := ⟨by decide⟩

/-- A preset of single echoes. -/
noncomputable def echoPreset : PreparedHrir (realDft PARTITION_FRAMES) where
  pair _ := ⟨[1, 1 / (2 : ℕ)], [1 / (4 : ℕ), 1 / (8 : ℕ)],
    prepare _ ([1, 1 / (2 : ℕ)] : List ℝ), prepare _ ([1 / (4 : ℕ), 1 / (8 : ℕ)] : List ℝ)⟩
  frameCount := 2
  frameCount_pos := by decide
  left_length _ := rfl
  right_length _ := rfl
  left_prepared _ := rfl
  right_prepared _ := rfl

theorem engine_refines_direct_echo :
    ∃ engine, performAll (realDft PARTITION_FRAMES)
        [.render [1, 0] (.exact .FrontLeft) (.exact .FrontRight), .warm [0, 1]] (.new echoPreset) =
        some (directAll echoPreset
          [.render [1, 0] (.exact .FrontLeft) (.exact .FrontRight), .warm [0, 1]] ([], []),
          engine) ∧
      ∀ calls' outputs engine',
        performAll (realDft PARTITION_FRAMES) calls' (.new echoPreset) = some (outputs, engine') →
        pastOf calls' ([], []) = pastOf
          [.render [1, 0] (.exact .FrontLeft) (.exact .FrontRight), .warm [0, 1]] ([], []) →
        engine' = engine :=
  engine_refines_direct (realDft_exact PARTITION_FRAMES) echoPreset _

end EngineCall

end PepeAudio.Audio
