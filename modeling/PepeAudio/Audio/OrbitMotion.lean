import PepeAudio.Audio.OrbitContinuity
import PepeAudio.Audio.ProcessorRefinement

/-!
# Moving the pair

As the share of each direction changes continuously and all directions are heard with the same
past, what the renderer on the horizon puts out changes continuously when the pair is moved, all
the way around the listener.
-/
namespace PepeAudio.Audio

open Hrir (VirtualDirection)
open PartitionedStereoEngine (directOutput leftAfter rightAfter heard_new)

section Shares

variable {K S : Type*} [Field K] [LinearOrder K] [CommRing S] [Algebra K S] {plans : FftPlans K S}

omit [LinearOrder K] in
/-- A blend is heard as the sum over all directions, each with its share. -/
theorem fir_response_ofBlend (preset : PreparedHrir plans) (blend : DirectionBlend K) (ear : ℕ)
    (signal : ℤ → K) (n : ℤ) :
    fir preset.frameCount (preset.response (.ofBlend blend) ear) signal n =
      ∑ direction, blend.gain direction *
        fir preset.frameCount (fun k => (preset.plane direction ear).getD k 0) signal n := by
  have hshare (x : K) (chosen : VirtualDirection) (f : VirtualDirection → K) :
      ∑ direction, (if chosen = direction then x else 0) * f direction = x * f chosen := by
    simp [ite_mul]
  simp only [DirectionBlend.gain, add_mul, Finset.sum_add_distrib, hshare]
  unfold PreparedHrir.response
  rw [fir_add, fir_smul, fir_smul]
  rfl

variable [IsStrictOrderedRing K] [FloorRing K] (turn : QuarterTurn K)

theorem blendForAzimuth_normalize (degrees : K) :
    blendForAzimuth turn (normalizeFiniteAzimuth degrees) = blendForAzimuth turn degrees := by
  obtain ⟨-, turns, hturns⟩ := normalizeFiniteAzimuth_spec degrees
  conv_rhs => rw [hturns, blendForAzimuth_add]

/-- The pair that is made for a center stands where the center does. -/
theorem blendForAzimuth_pair {center width : K} {position : HorizontalStereoPair K}
    (h : HorizontalStereoPair.new center width = .ok position) :
    blendForAzimuth turn position.leftDegrees = blendForAzimuth turn (center + width * (1 / 2)) ∧
      blendForAzimuth turn position.rightDegrees =
        blendForAzimuth turn (center - width * (1 / 2)) := by
  obtain ⟨-, turns, hturns⟩ := normalizeFiniteAzimuth_spec center
  unfold HorizontalStereoPair.new at h
  split_ifs at h
  cases h
  unfold HorizontalStereoPair.leftDegrees HorizontalStereoPair.rightDegrees
  simp only [blendForAzimuth_normalize]
  constructor
  · conv_rhs => rw [hturns, add_right_comm, blendForAzimuth_add]
  · conv_rhs => rw [hturns, add_sub_right_comm, blendForAzimuth_add]

end Shares

variable {S : Type*} [CommRing S] [Algebra ℝ S] {plans : FftPlans ℝ S}

theorem continuous_fir_response (preset : PreparedHrir plans) (ear : ℕ) (signal : ℤ → ℝ) (n : ℤ)
    (offset : ℝ) :
    Continuous fun center : ℝ => fir preset.frameCount
      (preset.response (.ofBlend (blendForAzimuth realTurn (center + offset))) ear) signal n := by
  simp only [fir_response_ofBlend]
  apply continuous_finsetSum
  intro direction _
  exact ((gain_continuous direction).comp (continuous_id.add continuous_const)).mul
    continuous_const

/-- Whatever was rendered before, each sample of a block is a continuous function of the angle
that the pair faces. -/
theorem orbit_output_continuous (hexact : plans.Exact) (preset : PreparedHrir plans)
    {calls : List (EngineCall ℝ)} {outputs : List (List ℝ)} {engine : PartitionedStereoEngine ℝ S}
    (hcalls : EngineCall.performAll plans calls (.new preset) = some (outputs, engine))
    {input : List ℝ} {frames : ℕ} (hvalid : validateStereoBlocks input input.length = .ok frames)
    {width : ℝ} (hwidth : 0 ≤ width ∧ width ≤ 180) :
    ∃ output : ℝ → List ℝ, (∀ i, Continuous fun center => (output center).getD i 0) ∧
      ∀ center, ∃ position renderer, HorizontalStereoPair.new center width = .ok position ∧
        HorizontalOrbitRenderer.renderBlock plans realTurn input input.length
          ⟨engine, position⟩ = some (.ok (output center, renderer)) := by
  obtain ⟨engine', hrun, hheard⟩ :=
    EngineCall.performAll_heard hexact calls ([], []) (heard_new preset)
  rw [hcalls] at hrun
  cases hrun
  obtain ⟨past, hpast⟩ : ∃ past, EngineCall.pastOf calls ([], []) = past := ⟨_, rfl⟩
  rw [hpast] at hheard
  refine ⟨fun center => directOutput preset
    (.ofBlend (blendForAzimuth realTurn (center + width * (1 / 2))))
    (.ofBlend (blendForAzimuth realTurn (center - width * (1 / 2)))) past.1 past.2 input, ?_, ?_⟩
  · intro i
    by_cases hi : i < input.length / 2 * 2
    · simp only [directOutput, List.getD_eq_getElem?_getD, List.getElem?_map,
        List.getElem?_range hi, Option.map_some, Option.getD_some, PreparedHrir.direct]
      apply Continuous.add
      · exact continuous_fir_response preset _ _ _ (width * (1 / 2))
      · simp only [sub_eq_add_neg]
        exact continuous_fir_response preset _ _ _ (-(width * (1 / 2)))
    · simp only [directOutput, List.getD_eq_getElem?_getD, List.getElem?_map]
      rw [List.getElem?_eq_none (by simpa using hi)]
      exact continuous_const
  · intro center
    have hnew : ∃ position, HorizontalStereoPair.new center width = .ok position := by
      unfold HorizontalStereoPair.new
      rw [dif_pos hwidth]
      exact ⟨_, rfl⟩
    obtain ⟨position, hposition⟩ := hnew
    obtain ⟨hleft, hright⟩ := blendForAzimuth_pair realTurn hposition
    obtain ⟨engine', hrender, -⟩ := hheard.renderLoop hexact
      (.ofBlend (blendForAzimuth realTurn position.leftDegrees))
      (.ofBlend (blendForAzimuth realTurn position.rightDegrees)) _ input le_rfl
    refine ⟨position, ⟨engine', position⟩, hposition, ?_⟩
    rw [hleft, hright] at hrender
    simp only [HorizontalOrbitRenderer.renderBlock, hvalid, hleft, hright,
      PartitionedStereoEngine.renderValidated, hrender]
    rfl

theorem orbit_output_continuous_echo :
    ∃ outputs engine, EngineCall.performAll (realDft PARTITION_FRAMES) [.warm [1, 0]]
        (.new EngineCall.echoPreset) = some (outputs, engine) ∧
      ∃ output : ℝ → List ℝ, (∀ i, Continuous fun center => (output center).getD i 0) ∧
        ∀ center, ∃ position renderer, HorizontalStereoPair.new center 60 = .ok position ∧
          HorizontalOrbitRenderer.renderBlock (realDft PARTITION_FRAMES) realTurn [0, 1] 2
            ⟨engine, position⟩ = some (.ok (output center, renderer)) := by
  obtain ⟨engine, hcalls, -⟩ := EngineCall.engine_refines_direct (realDft_exact PARTITION_FRAMES)
    EngineCall.echoPreset [.warm [1, 0]]
  have hvalid : validateStereoBlocks ([0, 1] : List ℝ) 2 = .ok 1 :=
    validateStereoBlocks_pair (by norm_num [MAX_ABS_INPUT_SAMPLE])
      (by norm_num [MAX_ABS_INPUT_SAMPLE])
  exact ⟨_, engine, hcalls, orbit_output_continuous (realDft_exact PARTITION_FRAMES)
    EngineCall.echoPreset hcalls hvalid (by norm_num)⟩

end PepeAudio.Audio
