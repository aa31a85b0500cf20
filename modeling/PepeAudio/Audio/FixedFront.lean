import PepeAudio.Audio.Fir
import PepeAudio.Audio.ProcessorRefinement

/-!
# The fixed front and its oracle

The two channels are heard from the front left and the front right. However the input is cut into
blocks, the renderer puts out what four direct filters make of the whole input at once.
-/
namespace PepeAudio.Audio

open Hrir (VirtualDirection)
open PartitionedStereoEngine (directOutput directOutput_split leftAfter rightAfter heard_new)
open SourceHistory (channelOf length_channelOf)

variable {K S : Type*} [Field K] [LinearOrder K] [CommRing S] [Algebra K S] {plans : FftPlans K S}

/-- One direct filter on a whole channel. -/
def directPath (input impulse : List K) : List K :=
  ((DirectFir.fromValidatedShared impulse).processBlock input).1

/-- The sum of two paths for each ear, frame by frame. -/
def fixedFrontOracle (preset : PreparedHrir plans) (input : List K) : List K :=
  let left := channelOf 0 (input.length / 2) input
  let right := channelOf 1 (input.length / 2) input
  let leftLeft := directPath left (preset.pair .FrontLeft).leftEar
  let leftRight := directPath left (preset.pair .FrontLeft).rightEar
  let rightLeft := directPath right (preset.pair .FrontRight).leftEar
  let rightRight := directPath right (preset.pair .FrontRight).rightEar
  (List.range (input.length / 2)).flatMap fun frame =>
    [leftLeft.getD frame 0 + rightLeft.getD frame 0,
      leftRight.getD frame 0 + rightRight.getD frame 0]

namespace FixedFrontRenderer

/-- One block after another, up to an error. -/
def renderBlocks (plans : FftPlans K S) :
    List (List K) → FixedFrontRenderer K S → Option (Except (DspError K) (List K))
  | [], _ => some (.ok [])
  | block :: blocks, renderer =>
    (renderer.renderBlock plans block block.length).bind fun
      | .error error => some (.error error)
      | .ok (output, renderer) =>
        (renderBlocks plans blocks renderer).map (Except.map (output ++ ·))

end FixedFrontRenderer

omit [LinearOrder K] in
theorem directPath_getD {impulse : List K} (hsome : impulse ≠ []) (input : List K) {frame : ℕ}
    (hframe : frame < input.length) :
    (directPath input impulse).getD frame 0 =
      fir impulse.length (impulse.getD · 0) (signalOf input) frame := by
  obtain ⟨houtput, -, -⟩ := (DirectFir.holds_new hsome).processBlock input
  rw [directPath, houtput]
  simp [List.getD_eq_getElem?_getD, hframe, DirectFir.fromValidatedShared]

omit [LinearOrder K] in
theorem response_exact (preset : PreparedHrir plans) (direction : VirtualDirection) (ear : ℕ) :
    preset.response (.exact direction) ear = fun k => (preset.plane direction ear).getD k 0 := by
  funext k
  simp [PreparedHrir.response, Selection.exact]

theorem map_range_mul_two {α : Type*} (f : ℕ → α) (n : ℕ) :
    (List.range (n * 2)).map f = (List.range n).flatMap fun t => [f (2 * t), f (2 * t + 1)] := by
  induction n with
  | zero => rfl
  | succ n ih =>
    rw [Nat.succ_mul, List.range_succ, List.range_succ, List.range_succ, List.flatMap_append, ← ih]
    simp [Nat.mul_comm]

omit [LinearOrder K] in
/-- What is heard of the whole input is what the oracle puts out. -/
theorem directOutput_oracle (preset : PreparedHrir plans) (input : List K) :
    directOutput preset (.exact .FrontLeft) (.exact .FrontRight) [] [] input =
      fixedFrontOracle preset input := by
  have hsome (direction : VirtualDirection) :
      (preset.pair direction).leftEar ≠ [] ∧ (preset.pair direction).rightEar ≠ [] := by
    have hpos := preset.frameCount_pos
    constructor
    · rw [← List.length_pos_iff, preset.left_length]
      exact hpos
    · rw [← List.length_pos_iff, preset.right_length]
      exact hpos
  unfold directOutput fixedFrontOracle
  rw [map_range_mul_two]
  apply List.flatMap_congr
  intro frame hframe
  have hframe := List.mem_range.mp hframe
  have hpath (channel : ℕ) {impulse : List K} (himpulse : impulse ≠ []) :=
    directPath_getD himpulse (channelOf channel (input.length / 2) input)
      (by rw [length_channelOf]; exact hframe : frame < _)
  simp only [hpath 0 (hsome .FrontLeft).1, hpath 0 (hsome .FrontLeft).2,
    hpath 1 (hsome .FrontRight).1, hpath 1 (hsome .FrontRight).2, preset.left_length,
    preset.right_length]
  have heven : 2 * frame % 2 = 0 := by omega
  have hodd : (2 * frame + 1) % 2 = 1 := by omega
  have hhalf : 2 * frame / 2 = frame := by omega
  have hhalf' : (2 * frame + 1) / 2 = frame := by omega
  simp [heven, hodd, hhalf, hhalf', PreparedHrir.direct, response_exact, PreparedHrir.plane,
    leftAfter, rightAfter]

omit [LinearOrder K] in
theorem directOutput_append (preset : PreparedHrir plans) (left right : Selection K)
    {leftSamples rightSamples : List K} (hlength : leftSamples.length = rightSamples.length)
    {block : List K} (heven : block.length % 2 = 0) (rest : List K) :
    directOutput preset left right leftSamples rightSamples (block ++ rest) =
      directOutput preset left right leftSamples rightSamples block ++
        directOutput preset left right (leftAfter leftSamples block)
          (rightAfter rightSamples block) rest := by
  have hframes : block.length / 2 * 2 = block.length := by omega
  have hle : block.length / 2 ≤ (block ++ rest).length / 2 := by
    rw [List.length_append]
    omega
  rw [directOutput_split preset left right (block ++ rest) hlength hle,
    directOutput_split preset left right block hlength le_rfl]
  have hnone (leftSamples rightSamples : List K) :
      directOutput preset left right leftSamples rightSamples [] = [] := by
    simp [directOutput]
  rw [hframes, List.take_left, List.drop_left, List.take_length, List.drop_length, hnone,
    List.append_nil]
  rfl

/-- The blocks one after another put out what the whole input does. -/
theorem FixedFrontRenderer.renderBlocks_heard [CharZero K] (hexact : plans.Exact)
    {preset : PreparedHrir plans} {blocks : List (List K)}
    (hvalid : ∀ block ∈ blocks, ∃ frames, validateStereoBlocks block block.length = .ok frames)
    {renderer : FixedFrontRenderer K S} {leftSamples rightSamples : List K}
    (h : renderer.engine.Heard preset leftSamples rightSamples) :
    renderBlocks plans blocks renderer = some (.ok (directOutput preset (.exact .FrontLeft)
      (.exact .FrontRight) leftSamples rightSamples blocks.flatten)) := by
  induction blocks generalizing renderer leftSamples rightSamples with
  | nil => simp [renderBlocks, directOutput]
  | cons block blocks ih =>
    simp only [List.forall_mem_cons] at hvalid
    obtain ⟨⟨frames, hblock⟩, hblocks⟩ := hvalid
    obtain ⟨heven, -, -⟩ := validateStereoBlocks_ok hblock
    have hlength : leftSamples.length = rightSamples.length := by
      obtain ⟨_, hrests⟩ := h
      exact hrests.length_eq
    obtain ⟨engine, hrun, hheard⟩ := h.renderLoop hexact (.exact .FrontLeft) (.exact .FrontRight) _
      block le_rfl
    have hrest : ({ renderer with engine } : FixedFrontRenderer K S).engine.Heard preset
        (leftAfter leftSamples block) (rightAfter rightSamples block) := hheard
    rw [List.flatten_cons, directOutput_append preset _ _ hlength heven]
    simp [renderBlocks, renderBlock, hblock, PartitionedStereoEngine.renderValidated, hrun,
      ih hblocks hrest, Except.map]

/-- However the input is cut into blocks, the renderer agrees with the direct filters. -/
theorem fixed_front_matches_oracle [CharZero K] (hexact : plans.Exact)
    (preset : PreparedHrir plans) {blocks : List (List K)}
    (hvalid : ∀ block ∈ blocks, ∃ frames, validateStereoBlocks block block.length = .ok frames) :
    FixedFrontRenderer.renderBlocks plans blocks (.new preset) =
      some (.ok (fixedFrontOracle preset blocks.flatten)) := by
  have hheard : (FixedFrontRenderer.new preset).engine.Heard preset [] [] := heard_new preset
  rw [FixedFrontRenderer.renderBlocks_heard hexact hvalid hheard, directOutput_oracle]

theorem fixed_front_matches_oracle_echo :
    FixedFrontRenderer.renderBlocks (realDft PARTITION_FRAMES) [[1, 0], [0, 1]]
        (.new EngineCall.echoPreset) =
      some (.ok (fixedFrontOracle EngineCall.echoPreset [[1, 0], [0, 1]].flatten)) := by
  apply fixed_front_matches_oracle (realDft_exact PARTITION_FRAMES)
  simp only [List.forall_mem_cons]
  refine ⟨⟨1, validateStereoBlocks_pair ?_ ?_⟩, ⟨1, validateStereoBlocks_pair ?_ ?_⟩, by simp⟩ <;>
    norm_num [MAX_ABS_INPUT_SAMPLE]

end PepeAudio.Audio
