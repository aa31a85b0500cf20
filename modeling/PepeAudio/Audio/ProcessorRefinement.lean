import PepeAudio.Audio.DirectProcessor
import PepeAudio.Audio.OrbitContinuity

/-!
# The processor refines its frames

A renderer makes of a block what its samples one by one are heard as. The loop over the frames of
a block follows the frames, also when a fade ends within the block: until the block ends the
replacement then sounds alone beside the old renderer.
-/
namespace PepeAudio.Audio

open PartitionedStereoEngine (leftAfter rightAfter directOutput directOutput_split after_split
  heard_new)
open SourceHistory (channelOf)

variable {K S : Type*} [Field K] [LinearOrder K] [CommRing S] [Algebra K S] {plans : FftPlans K S}

/-! ## Renderers -/

namespace DirectRenderer

/-- Both channels have been heard for as long. -/
def Even (r : DirectRenderer plans) : Prop := r.leftSamples.length = r.rightSamples.length

def hearAll (input : List K) (r : DirectRenderer plans) : DirectRenderer plans :=
  { r with
    leftSamples := leftAfter r.leftSamples input,
    rightSamples := rightAfter r.rightSamples input }

omit [LinearOrder K] in
theorem channels_pair (left right : K) (input : List K) :
    channelOf 0 1 ((left :: right :: input).take (1 * 2)) = [left] ∧
      channelOf 1 1 ((left :: right :: input).take (1 * 2)) = [right] := by
  simp [channelOf]

theorem hearAll_short {input : List K} (h : input.length < 2) (r : DirectRenderer plans) :
    r.hearAll input = r := by
  have hnone : input.length / 2 = 0 := by omega
  simp [hearAll, leftAfter, rightAfter, channelOf, hnone]

theorem hearAll_cons (left right : K) (input : List K) (r : DirectRenderer plans) :
    r.hearAll (left :: right :: input) = (r.hear left right).hearAll input := by
  have hone : 1 ≤ (left :: right :: input).length / 2 := by
    simp only [List.length_cons]
    omega
  have hleft := (after_split r.leftSamples (left :: right :: input) hone).1
  have hright := (after_split r.rightSamples (left :: right :: input) hone).2
  rw [(channels_pair left right input).1] at hleft
  rw [(channels_pair left right input).2] at hright
  unfold hearAll hear
  rw [hleft, hright]
  rfl

theorem Even.hear {r : DirectRenderer plans} (h : r.Even) (left right : K) :
    (r.hear left right).Even := by
  unfold Even at h ⊢
  simp [DirectRenderer.hear, h]

section Output

variable [FloorRing K] (turn : QuarterTurn K)

/-- What both ears hear of a block. -/
def output (input : List K) (r : DirectRenderer plans) : List K :=
  directOutput r.preset (r.selections turn).1 (r.selections turn).2 r.leftSamples r.rightSamples
    input

theorem length_output (input : List K) (r : DirectRenderer plans) :
    (r.output turn input).length = input.length / 2 * 2 := by
  simp [output, directOutput]

theorem output_cons (left right : K) (input : List K) {r : DirectRenderer plans} (h : r.Even) :
    r.output turn (left :: right :: input) = (r.hear left right).atEar turn 0 ::
      (r.hear left right).atEar turn 1 :: (r.hear left right).output turn input := by
  have hone : 1 ≤ (left :: right :: input).length / 2 := by
    simp only [List.length_cons]
    omega
  unfold output
  rw [directOutput_split r.preset _ _ (left :: right :: input) h hone,
    (channels_pair left right input).1, (channels_pair left right input).2]
  simp [List.range_succ, atEar, hear, selections]

end Output

end DirectRenderer

namespace RendererState

/-- A renderer that has heard the samples of a direct one. -/
def Follows (state : RendererState K S) (r : DirectRenderer plans) : Prop :=
  match state, r.mode with
  | .Fixed renderer, .FixedFront => renderer.engine.Heard r.preset r.leftSamples r.rightSamples
  | .Orbit renderer, .HorizontalOrbit position =>
    renderer.position = position ∧
      renderer.engine.Heard r.preset r.leftSamples r.rightSamples
  | _, _ => False

variable {state : RendererState K S} {r : DirectRenderer plans}

theorem Follows.even (h : state.Follows r) : r.Even := by
  unfold Follows at h
  split at h
  · obtain ⟨_, hrests⟩ := h
    exact hrests.length_eq
  · obtain ⟨-, _, hrests⟩ := h
    exact hrests.length_eq
  · exact h.elim

theorem follows_new (preset : PreparedHrir plans) (mode : RenderMode K) :
    (RendererState.new preset mode).Follows (.new preset mode) := by
  cases mode with
  | FixedFront => exact heard_new preset
  | HorizontalOrbit position => exact ⟨rfl, heard_new preset⟩

theorem Follows.reset (h : state.Follows r) : state.reset.Follows r.reset := by
  obtain ⟨preset, mode, leftSamples, rightSamples⟩ := r
  cases state with
  | Fixed renderer =>
    cases mode with
    | FixedFront => exact PartitionedStereoEngine.Heard.reset h
    | HorizontalOrbit position => exact h.elim
  | Orbit renderer =>
    cases mode with
    | FixedFront => exact h.elim
    | HorizontalOrbit position => exact ⟨h.1, PartitionedStereoEngine.Heard.reset h.2⟩

/-- A renderer on the horizon can be moved, the other one cannot. -/
theorem Follows.setOrbitPosition (h : state.Follows r) (position : HorizontalStereoPair K) :
    match r.mode with
    | .FixedFront => state.setOrbitPosition position = .error .OrbitModeRequired
    | .HorizontalOrbit _ => ∃ state', state.setOrbitPosition position = .ok state' ∧
        state'.Follows { r with mode := .HorizontalOrbit position } := by
  obtain ⟨preset, mode, leftSamples, rightSamples⟩ := r
  cases state with
  | Fixed renderer =>
    cases mode with
    | FixedFront => rfl
    | HorizontalOrbit position' => exact h.elim
  | Orbit renderer =>
    cases mode with
    | FixedFront => exact h.elim
    | HorizontalOrbit position' => exact ⟨_, rfl, rfl, h.2⟩

theorem Follows.warm (h : state.Follows r) (input : List K) :
    ∃ state', state.warmBlockValidated plans input = some state' ∧
      state'.Follows (r.hearAll input) := by
  obtain ⟨preset, mode, leftSamples, rightSamples⟩ := r
  cases state with
  | Fixed renderer =>
    cases mode with
    | FixedFront =>
      obtain ⟨engine, hrun, hheard⟩ := PartitionedStereoEngine.Heard.warmLoop h _ input le_rfl
      refine ⟨.Fixed ⟨engine⟩, ?_, hheard⟩
      simp [warmBlockValidated, FixedFrontRenderer.warmBlockValidated,
        PartitionedStereoEngine.warmValidated, hrun]
    | HorizontalOrbit position => exact h.elim
  | Orbit renderer =>
    cases mode with
    | FixedFront => exact h.elim
    | HorizontalOrbit position =>
      obtain ⟨rfl, h⟩ := h
      obtain ⟨engine, hrun, hheard⟩ := PartitionedStereoEngine.Heard.warmLoop h _ input le_rfl
      refine ⟨.Orbit ⟨engine, renderer.position⟩, ?_, rfl, hheard⟩
      simp [warmBlockValidated, HorizontalOrbitRenderer.warmBlockValidated,
        PartitionedStereoEngine.warmValidated, hrun]

/-- A valid block is rendered to what is heard of it. -/
theorem Follows.render [CharZero K] [FloorRing K] (hexact : plans.Exact) (turn : QuarterTurn K)
    (h : state.Follows r) {input : List K} {frames : ℕ}
    (hvalid : validateStereoBlocks input input.length = .ok frames) :
    ∃ state', state.renderBlock plans turn input input.length =
        some (.ok (r.output turn input, state')) ∧ state'.Follows (r.hearAll input) := by
  obtain ⟨preset, mode, leftSamples, rightSamples⟩ := r
  cases state with
  | Fixed renderer =>
    cases mode with
    | FixedFront =>
      obtain ⟨engine, hrun, hheard⟩ := PartitionedStereoEngine.Heard.renderLoop hexact
        (.exact .FrontLeft) (.exact .FrontRight) h _ input le_rfl
      refine ⟨.Fixed ⟨engine⟩, ?_, hheard⟩
      simp [renderBlock, FixedFrontRenderer.renderBlock, hvalid,
        PartitionedStereoEngine.renderValidated, hrun, Except.map]
      rfl
    | HorizontalOrbit position => exact h.elim
  | Orbit renderer =>
    cases mode with
    | FixedFront => exact h.elim
    | HorizontalOrbit position =>
      obtain ⟨rfl, h⟩ := h
      obtain ⟨engine, hrun, hheard⟩ := PartitionedStereoEngine.Heard.renderLoop hexact
        (.ofBlend (blendForAzimuth turn renderer.position.leftDegrees))
        (.ofBlend (blendForAzimuth turn renderer.position.rightDegrees)) h _ input le_rfl
      refine ⟨.Orbit ⟨engine, renderer.position⟩, ?_, rfl, hheard⟩
      simp [renderBlock, HorizontalOrbitRenderer.renderBlock, hvalid,
        PartitionedStereoEngine.renderValidated, hrun, Except.map]
      rfl

end RendererState

/-! ## The frames of a block -/

theorem exists_pair {α : Type*} {xs : List α} (h : 2 ≤ xs.length) :
    ∃ x y rest, xs = x :: y :: rest := by
  match xs, h with
  | x :: y :: rest, _ => exact ⟨x, y, rest, rfl⟩

section Advance

variable [FloorRing K] (turn : QuarterTurn K) (d : DirectProcessor plans)

omit [FloorRing K] in
theorem DirectProcessor.advance_wetMix : (d.advance turn).wetMix = d.wetMix.advance := by
  unfold DirectProcessor.advance
  dsimp only
  split
  · rfl
  · split_ifs <;> rfl

omit [FloorRing K] in
theorem DirectProcessor.advance_outputGain :
    (d.advance turn).outputGain = d.outputGain.advance := by
  unfold DirectProcessor.advance
  dsimp only
  split
  · rfl
  · split_ifs <;> rfl

omit [FloorRing K] in
theorem DirectProcessor.advance_maxBlockFrames :
    (d.advance turn).maxBlockFrames = d.maxBlockFrames := by
  unfold DirectProcessor.advance
  dsimp only
  split
  · rfl
  · split_ifs <;> rfl

end Advance

theorem DirectProcessor.frames_short [FloorRing K] (turn : QuarterTurn K) {input : List K}
    (h : input.length < 2) (d : DirectProcessor plans) : d.frames turn input = ([], d) := by
  match input, h with
  | [], _ => rfl
  | [_], _ => rfl

theorem DirectProcessor.frames_cons [FloorRing K] (turn : QuarterTurn K) (left right : K)
    (input : List K) (d : DirectProcessor plans) :
    d.frames turn (left :: right :: input) =
      ((d.hear left right).sample turn left ((d.hear left right).wet turn 0) ::
        (d.hear left right).sample turn right ((d.hear left right).wet turn 1) ::
          (((d.hear left right).advance turn).frames turn input).1,
        (((d.hear left right).advance turn).frames turn input).2) := rfl

namespace AudioProcessor

section Dry

variable [IsStrictOrderedRing K] [FloorRing K] (turn : QuarterTurn K)

/-- While nothing wet is heard, nothing but the gain matters. -/
theorem dryFrames_eq (input : List K) {p : AudioProcessor K S} {d : DirectProcessor plans}
    (hpending : d.pending = none) (hidle : d.wetMix.remaining = 0) (hdry : d.wetMix.current = 0)
    (hgain : p.outputGain = d.outputGain) :
    p.dryFrames input = ((d.frames turn input).1,
        { p with outputGain := (d.frames turn input).2.outputGain }) ∧
      (d.frames turn input).2 = { d with
        active := d.active.hearAll input,
        outputGain := (d.frames turn input).2.outputGain } := by
  induction input using List.twoStepInduction generalizing p d with
  | nil =>
    rw [DirectProcessor.frames_short turn (by simp), DirectRenderer.hearAll_short (by simp)]
    exact ⟨by rw [← hgain]; rfl, rfl⟩
  | singleton left =>
    rw [DirectProcessor.frames_short turn (by simp), DirectRenderer.hearAll_short (by simp)]
    exact ⟨by rw [← hgain]; rfl, rfl⟩
  | cons_cons left right input ih _ =>
    have hadvance : (d.hear left right).advance turn = { d with
        active := d.active.hear left right, outputGain := d.outputGain.advance } := by
      simp [DirectProcessor.hear, DirectProcessor.advance, hpending, Ramp.advance_idle hidle]
    have hsample (x wet : K) :
        (d.hear left right).sample turn x wet = ensureFiniteOutput (x * d.outputGain.current) := by
      simp [DirectProcessor.sample, DirectProcessor.hear, hdry, equalPowerWeightsFinite_zero]
    obtain ⟨hrun, hstate⟩ := ih (p := { p with outputGain := d.outputGain.advance })
      (d := { d with
        active := d.active.hear left right, outputGain := d.outputGain.advance })
      hpending hidle hdry rfl
    rw [DirectProcessor.frames_cons, hadvance, DirectRenderer.hearAll_cons]
    refine ⟨?_, hstate⟩
    simp only [dryFrames, GainRamp.nextFrameGain, hrun, hsample, hgain]

end Dry

/-- What the scratch buffers hold of a block that is heard by the renderers of a processor: the
active one alone, or beside its replacement until the fade between them is complete. -/
inductive Mixing [FloorRing K] (turn : QuarterTurn K) (input : List K)
    (old new : DirectRenderer plans) :
    DirectProcessor plans → Option (EqualPowerFade K) → List K → List K → Prop
  | alone {d : DirectProcessor plans} {pending : List K} (hpending : d.pending = none)
      (hend : d.active.hearAll input = old) (heven : d.active.Even)
      (hstale : input.length / 2 * 2 ≤ pending.length) :
      Mixing turn input old new d none (d.active.output turn input) pending
  | fading {d : DirectProcessor plans} {r : DirectRenderer plans} {fade : EqualPowerFade K}
      (hpending : d.pending = some (r, fade)) (haims : fade.progress.Aims)
      (htarget : fade.progress.target = 1) (hmoves : fade.isComplete = false)
      (hold : d.active.hearAll input = old) (hnew : r.hearAll input = new)
      (heven : d.active.Even) (heven' : r.Even) :
      Mixing turn input old new d (some fade) (d.active.output turn input) (r.output turn input)
  | faded {d : DirectProcessor plans} {fade : EqualPowerFade K} {active : List K}
      (hpending : d.pending = none) (hcomplete : fade.isComplete = true)
      (hcurrent : fade.progress.current = 1) (hend : d.active.hearAll input = new)
      (heven : d.active.Even) (hstale : input.length / 2 * 2 ≤ active.length) :
      Mixing turn input old new d (some fade) active (d.active.output turn input)

section Mix

variable [IsStrictOrderedRing K] [FloorRing K] {turn : QuarterTurn K} {input : List K}
  {old new : DirectRenderer plans} {d : DirectProcessor plans}

/-- A frame of the block: what both ears hear is in the buffers, with the weights of the fade. -/
theorem Mixing.step {p : AudioProcessor K S} {left right : K} {active pending : List K}
    (h : Mixing turn (left :: right :: input) old new d p.presetFade active pending) :
    ∃ activeLeft activeRight active' pendingLeft pendingRight pending',
      active = activeLeft :: activeRight :: active' ∧
      pending = pendingLeft :: pendingRight :: pending' ∧
      activeLeft * (p.fadeWeights turn).1.1 + pendingLeft * (p.fadeWeights turn).1.2 =
        (d.hear left right).wet turn 0 ∧
      activeRight * (p.fadeWeights turn).1.1 + pendingRight * (p.fadeWeights turn).1.2 =
        (d.hear left right).wet turn 1 ∧
      Mixing turn input old new ((d.hear left right).advance turn) (p.fadeWeights turn).2 active'
        pending' := by
  obtain ⟨presetFade, hfade⟩ : ∃ presetFade, p.presetFade = presetFade := ⟨_, rfl⟩
  rw [hfade] at h
  cases h with
  | alone hpending hend heven hstale =>
    simp only [List.length_cons] at hstale
    obtain ⟨x, y, rest, rfl⟩ := exists_pair (by omega : 2 ≤ pending.length)
    refine ⟨_, _, _, x, y, rest, DirectRenderer.output_cons turn left right input heven, rfl, ?_,
      ?_, ?_⟩
    · simp [fadeWeights, hfade, DirectProcessor.wet, DirectProcessor.hear, hpending]
    · simp [fadeWeights, hfade, DirectProcessor.wet, DirectProcessor.hear, hpending]
    · have hactive : ((d.hear left right).advance turn).active = d.active.hear left right := by
        simp [DirectProcessor.advance, DirectProcessor.hear, hpending]
      have hpending' : ((d.hear left right).advance turn).pending = none := by
        simp [DirectProcessor.advance, DirectProcessor.hear, hpending]
      have hnone : (p.fadeWeights turn).2 = none := by simp [fadeWeights, hfade]
      rw [DirectRenderer.hearAll_cons] at hend
      simp only [List.length_cons] at hstale
      rw [hnone, ← hactive]
      exact .alone hpending' (by rw [hactive]; exact hend) (by rw [hactive]; exact heven.hear _ _)
        (by omega)
  | fading hpending haims htarget hmoves hold hnew heven heven' =>
    rename_i r fade
    have hweights : p.fadeWeights turn =
        ((fade.nextWeights turn).1, some (fade.nextWeights turn).2) := by
      unfold fadeWeights
      rw [hfade]
      rfl
    rw [DirectRenderer.hearAll_cons] at hold hnew
    rw [hweights]
    refine ⟨_, _, _, _, _, _, DirectRenderer.output_cons turn left right input heven,
      DirectRenderer.output_cons turn left right input heven', ?_, ?_, ?_⟩
    · simp [DirectProcessor.wet, DirectProcessor.hear, hpending]
    · simp [DirectProcessor.wet, DirectProcessor.hear, hpending]
    · have haims' : (fade.nextWeights turn).2.progress.Aims := haims.advance
      have htarget' : (fade.nextWeights turn).2.progress.target = 1 :=
        (Ramp.advance_target _).trans htarget
      cases hcomplete : (fade.nextWeights turn).2.isComplete with
      | true =>
        have hactive : ((d.hear left right).advance turn).active = r.hear left right := by
          simp [DirectProcessor.advance, DirectProcessor.hear, hpending, hcomplete]
        have hpending' : ((d.hear left right).advance turn).pending = none := by
          simp [DirectProcessor.advance, DirectProcessor.hear, hpending, hcomplete]
        have hidle : (fade.nextWeights turn).2.progress.remaining = 0 := by
          simpa [EqualPowerFade.isComplete, UnitRamp.isSettled] using hcomplete
        rw [← hactive]
        refine .faded hpending' hcomplete ((haims'.idle hidle).trans htarget') ?_ ?_ ?_
        · rw [hactive]
          exact hnew
        · rw [hactive]
          exact heven'.hear _ _
        · rw [DirectRenderer.length_output]
      | false =>
        have hactive : ((d.hear left right).advance turn).active = d.active.hear left right := by
          simp [DirectProcessor.advance, DirectProcessor.hear, hpending, hcomplete]
        have hpending' : ((d.hear left right).advance turn).pending =
            some (r.hear left right, (fade.nextWeights turn).2) := by
          simp [DirectProcessor.advance, DirectProcessor.hear, hpending, hcomplete]
        rw [← hactive]
        refine .fading hpending' haims' htarget' hcomplete ?_ hnew ?_ (heven'.hear _ _)
        · rw [hactive]
          exact hold
        · rw [hactive]
          exact heven.hear _ _
  | faded hpending hcomplete hcurrent hend heven hstale =>
    rename_i fade
    simp only [List.length_cons] at hstale
    obtain ⟨x, y, rest, rfl⟩ := exists_pair (by omega : 2 ≤ active.length)
    have hidle : fade.progress.remaining = 0 := by
      simpa [EqualPowerFade.isComplete, UnitRamp.isSettled] using hcomplete
    have hweights : p.fadeWeights turn = ((0, 1), some fade) := by
      simp [fadeWeights, hfade, EqualPowerFade.nextWeights, UnitRamp.next, hcurrent,
        equalPowerWeightsFinite_one, Ramp.advance_idle hidle]
    rw [DirectRenderer.hearAll_cons] at hend
    rw [hweights]
    refine ⟨x, y, rest, _, _, _, rfl, DirectRenderer.output_cons turn left right input heven, ?_,
      ?_, ?_⟩
    · simp [DirectProcessor.wet, DirectProcessor.hear, hpending]
    · simp [DirectProcessor.wet, DirectProcessor.hear, hpending]
    · have hactive : ((d.hear left right).advance turn).active = d.active.hear left right := by
        simp [DirectProcessor.advance, DirectProcessor.hear, hpending]
      have hpending' : ((d.hear left right).advance turn).pending = none := by
        simp [DirectProcessor.advance, DirectProcessor.hear, hpending]
      simp only [List.length_cons] at hstale
      rw [← hactive]
      exact .faded hpending' hcomplete hcurrent (by rw [hactive]; exact hend)
        (by rw [hactive]; exact heven.hear _ _) (by omega)

omit [CommRing S] [Algebra K S] [IsStrictOrderedRing K] [FloorRing K] in
theorem fadeWeights_isSome (p : AudioProcessor K S) :
    (p.fadeWeights turn).2.isSome = p.presetFade.isSome := by
  unfold fadeWeights
  split <;> simp_all

/-- The loop over the frames follows the frames. -/
theorem Mixing.loop {p : AudioProcessor K S} {active pending : List K}
    (h : Mixing turn input old new d p.presetFade active pending)
    (hlength : input.length % 2 = 0) (hmix : p.wetMix = d.wetMix)
    (hgain : p.outputGain = d.outputGain) :
    ∃ presetFade active' pending', p.mixFrames turn input active pending =
        ((d.frames turn input).1, { p with
          presetFade,
          wetMix := (d.frames turn input).2.wetMix,
          outputGain := (d.frames turn input).2.outputGain }) ∧
      presetFade.isSome = p.presetFade.isSome ∧
      (d.frames turn input).2.maxBlockFrames = d.maxBlockFrames ∧
      Mixing turn [] old new (d.frames turn input).2 presetFade active' pending' := by
  induction input using List.twoStepInduction generalizing p d active pending with
  | nil =>
    refine ⟨p.presetFade, active, pending, ?_, rfl, rfl, h⟩
    rw [DirectProcessor.frames_short turn (by simp), ← hmix, ← hgain]
    simp [mixFrames]
  | singleton left => simp at hlength
  | cons_cons left right input ih _ =>
    simp only [List.length_cons] at hlength
    obtain ⟨activeLeft, activeRight, active, pendingLeft, pendingRight, pending, rfl, rfl, hleft,
      hright, hmixing⟩ := h.step
    have hwetMix : ((d.hear left right).advance turn).wetMix = d.wetMix.advance :=
      DirectProcessor.advance_wetMix turn _
    have houtputGain : ((d.hear left right).advance turn).outputGain = d.outputGain.advance :=
      DirectProcessor.advance_outputGain turn _
    obtain ⟨presetFade, active', pending', hrun, hsome, hmaximum, hend⟩ := ih
      (p := { p with
        presetFade := (p.fadeWeights turn).2,
        wetMix := p.wetMix.advance,
        outputGain := p.outputGain.advance })
      hmixing (by omega) (by rw [hwetMix, hmix]) (by rw [houtputGain, hgain])
    refine ⟨presetFade, active', pending', ?_, hsome.trans (fadeWeights_isSome p),
      hmaximum.trans (DirectProcessor.advance_maxBlockFrames turn _), hend⟩
    rw [DirectProcessor.frames_cons]
    simp only [mixFrames, UnitRamp.next, GainRamp.nextFrameGain, hrun, hleft, hright]
    simp only [DirectProcessor.sample, DirectProcessor.hear, hmix, hgain]

end Mix

/-! ## The processor -/

/-- A replacement beside the one of the frames, in the same fade, which is not complete. -/
def FollowsPending (mode : RenderMode K) (pending : Option (RendererState K S))
    (presetFade : Option (EqualPowerFade K)) :
    Option (DirectRenderer plans × EqualPowerFade K) → Prop
  | none => pending = none ∧ presetFade = none
  | some (r, fade) => presetFade = some fade ∧ fade.progress.Aims ∧ fade.progress.target = 1 ∧
      fade.isComplete = false ∧ r.mode = mode ∧
      ∃ state, pending = some state ∧ state.Follows r

/-- A processor between two calls. -/
structure Follows (p : AudioProcessor K S) (d : DirectProcessor plans) : Prop where
  mode : p.mode = d.active.mode
  active : p.active.Follows d.active
  pending : FollowsPending p.mode p.pending p.presetFade d.pending
  wetMix : p.wetMix = d.wetMix
  outputGain : p.outputGain = d.outputGain
  maxBlockFrames : p.maxBlockFrames = d.maxBlockFrames
  activeScratch : p.activeScratch.length = p.maxBlockFrames * 2
  pendingScratch : p.pendingScratch.length = p.maxBlockFrames * 2

section Process

variable {p : AudioProcessor K S} {d : DirectProcessor plans}

/-- After the last frame the replacement of a complete fade is the renderer. -/
theorem Mixing.finish [FloorRing K] {turn : QuarterTurn K} {old new : DirectRenderer plans}
    {active pending : List K} (h : Mixing turn [] old new d p.presetFade active pending)
    (hactive : p.active.Follows old) (holdMode : p.mode = old.mode)
    (hpending : p.pending.isSome = p.presetFade.isSome)
    (hnew : ∀ state ∈ p.pending, state.Follows new ∧ p.mode = new.mode)
    (hmix : p.wetMix = d.wetMix) (hgain : p.outputGain = d.outputGain)
    (hmaximum : p.maxBlockFrames = d.maxBlockFrames)
    (hactiveScratch : p.activeScratch.length = p.maxBlockFrames * 2)
    (hpendingScratch : p.pendingScratch.length = p.maxBlockFrames * 2) :
    p.finishFade.Follows d := by
  obtain ⟨presetFade, hfade⟩ : ∃ presetFade, p.presetFade = presetFade := ⟨_, rfl⟩
  rw [hfade] at h hpending
  cases h with
  | alone hnone hend =>
    rw [DirectRenderer.hearAll_short (by simp)] at hend
    have hidle : p.finishFade = p := by simp [finishFade, hfade]
    rw [hidle]
    refine ⟨by rw [hend]; exact holdMode, by rw [hend]; exact hactive, ?_, hmix, hgain, hmaximum,
      hactiveScratch, hpendingScratch⟩
    rw [hnone]
    exact ⟨by simpa using hpending, hfade⟩
  | fading hsome haims htarget hmoves hold hnew' =>
    rename_i r fade
    rw [DirectRenderer.hearAll_short (by simp)] at hold hnew'
    have hidle : p.finishFade = p := by simp [finishFade, hfade, hmoves]
    obtain ⟨state, hstate⟩ := Option.isSome_iff_exists.mp (hpending.trans rfl)
    obtain ⟨hfollows, hmode⟩ := hnew state hstate
    rw [hidle]
    refine ⟨by rw [hold]; exact holdMode, by rw [hold]; exact hactive, ?_, hmix, hgain, hmaximum,
      hactiveScratch, hpendingScratch⟩
    rw [hsome]
    exact ⟨hfade, haims, htarget, hmoves, by rw [hnew']; exact hmode.symm, state, hstate,
      by rw [hnew']; exact hfollows⟩
  | faded hnone hcomplete hcurrent hend =>
    rw [DirectRenderer.hearAll_short (by simp)] at hend
    obtain ⟨state, hstate⟩ := Option.isSome_iff_exists.mp (hpending.trans rfl)
    obtain ⟨hfollows, hmode⟩ := hnew state hstate
    have hfinished : p.finishFade =
        { p with active := state, pending := none, presetFade := none } := by
      simp [finishFade, hfade, hcomplete, hstate]
    rw [hfinished]
    refine ⟨by rw [hend]; exact hmode, by rw [hend]; exact hfollows, ?_, hmix, hgain, hmaximum,
      hactiveScratch, hpendingScratch⟩
    rw [hnone]
    exact ⟨rfl, rfl⟩

variable [IsStrictOrderedRing K] [FloorRing K] (turn : QuarterTurn K)

omit [IsStrictOrderedRing K] [FloorRing K] in
theorem Follows.isFullyDry (h : p.Follows d) (hdry : p.isFullyDry = true) :
    d.pending = none ∧ d.wetMix.remaining = 0 ∧ d.wetMix.current = 0 := by
  simp only [AudioProcessor.isFullyDry, UnitRamp.isSettled, Bool.and_eq_true, decide_eq_true_eq,
    Option.isNone_iff_eq_none] at hdry
  obtain ⟨⟨⟨hidle, hcurrent⟩, hpending⟩, -⟩ := hdry
  have hfollows := h.pending
  rw [h.wetMix] at hidle hcurrent
  refine ⟨?_, hidle, hcurrent⟩
  cases hnone : d.pending with
  | none => rfl
  | some replacement =>
    rw [hnone] at hfollows
    obtain ⟨-, -, -, -, -, state, hstate, -⟩ := hfollows
    rw [hpending] at hstate
    cases hstate

omit [IsStrictOrderedRing K] in
/-- The renderers have written what is heard of the block into the scratch buffers. -/
theorem Follows.render (hexact : plans.Exact) (h : p.Follows d) {input : List K} {frames : ℕ}
    (hvalid : validateStereoBlocks input input.length = .ok frames)
    (hfits : input.length ≤ p.maxBlockFrames * 2) :
    ∃ p₁ p₂ new, p.renderActive turn plans input = some (.ok p₁) ∧
      p₁.renderPending turn plans input = some (.ok p₂) ∧
      p₂ = { p with
        active := p₂.active,
        pending := p₂.pending,
        activeScratch := p₂.activeScratch,
        pendingScratch := p₂.pendingScratch } ∧
      p₂.active.Follows (d.active.hearAll input) ∧ p₂.pending.isSome = p₂.presetFade.isSome ∧
      (∀ state ∈ p₂.pending, state.Follows new ∧ p.mode = new.mode) ∧
      p₂.activeScratch.length = p.maxBlockFrames * 2 ∧
      p₂.pendingScratch.length = p.maxBlockFrames * 2 ∧
      Mixing turn input (d.active.hearAll input) new d p₂.presetFade
        (p₂.activeScratch.take input.length) (p₂.pendingScratch.take input.length) := by
  have hactiveScratch := h.activeScratch
  have hpendingScratch := h.pendingScratch
  obtain ⟨heven, -, -⟩ := validateStereoBlocks_ok hvalid
  have hlength (r : DirectRenderer plans) : (r.output turn input).length = input.length := by
    rw [DirectRenderer.length_output]
    omega
  have htake (r : DirectRenderer plans) (scratch : List K) :
      (r.output turn input ++ scratch.drop input.length).take input.length =
        r.output turn input := by
    rw [← hlength r, List.take_left']
    rfl
  obtain ⟨active, hrun, hactive⟩ := h.active.render hexact turn hvalid
  have hfollows := h.pending
  cases hsome : d.pending with
  | none =>
    rw [hsome] at hfollows
    obtain ⟨hnone, hfade⟩ := hfollows
    refine ⟨{ p with
        active,
        activeScratch := d.active.output turn input ++ p.activeScratch.drop input.length },
      { p with
        active,
        activeScratch := d.active.output turn input ++ p.activeScratch.drop input.length },
      d.active.hearAll input, ?_, ?_, rfl, hactive, ?_, ?_, ?_, hpendingScratch, ?_⟩
    · simp [renderActive, hrun, Except.map]
    · simp only [renderPending, hnone]
    · simp [hnone, hfade]
    · simp [hnone]
    · simp only [List.length_append, hlength, List.length_drop]
      omega
    · simp only [htake, hfade]
      refine .alone hsome rfl h.active.even ?_
      rw [List.length_take]
      omega
  | some replacement =>
    obtain ⟨r, fade⟩ := replacement
    rw [hsome] at hfollows
    obtain ⟨hfade, haims, htarget, hmoves, hmode, state, hstate, hstateFollows⟩ := hfollows
    obtain ⟨state', hrun', hstate'⟩ := hstateFollows.render hexact turn hvalid
    refine ⟨{ p with
        active,
        activeScratch := d.active.output turn input ++ p.activeScratch.drop input.length },
      { p with
        active,
        pending := some state',
        activeScratch := d.active.output turn input ++ p.activeScratch.drop input.length,
        pendingScratch := r.output turn input ++ p.pendingScratch.drop input.length },
      r.hearAll input, ?_, ?_, rfl, hactive, ?_, ?_, ?_, ?_, ?_⟩
    · simp [renderActive, hrun, Except.map]
    · simp [renderPending, hstate, hrun', Except.map]
    · simp [hfade]
    · intro state hmem
      cases hmem
      exact ⟨hstate', hmode.symm⟩
    · simp only [List.length_append, hlength, List.length_drop]
      omega
    · simp only [List.length_append, hlength, List.length_drop]
      omega
    · simp only [htake, hfade]
      exact .fading hsome haims htarget hmoves rfl rfl h.active.even hstateFollows.even

/-- A block is what its frames are. -/
theorem Follows.processBlock (hexact : plans.Exact) (h : p.Follows d) (input : List K)
    (outputLength : ℕ) :
    ∃ p', p.processBlock turn plans input outputLength =
        some ((d.processBlock turn input outputLength).1, p') ∧
      p'.Follows (d.processBlock turn input outputLength).2 := by
  unfold AudioProcessor.processBlock DirectProcessor.processBlock
  cases hvalidate : validateStereoBlocks input outputLength with
  | error error => exact ⟨p, rfl, h⟩
  | ok frames =>
    obtain ⟨heven, hframes, hvalid⟩ := validateStereoBlocks_ok hvalidate
    have hmaximum := h.maxBlockFrames
    by_cases htoo : frames > d.maxBlockFrames
    · simp only [hmaximum, htoo, if_true]
      exact ⟨p, rfl, h⟩
    have hfits : input.length ≤ p.maxBlockFrames * 2 := by omega
    have htoo' : ¬frames > p.maxBlockFrames := by omega
    cases hdry : p.isFullyDry with
    | true =>
      obtain ⟨hnone, hidle, hcurrent⟩ := h.isFullyDry hdry
      obtain ⟨active, hwarm, hactive⟩ := h.active.warm input
      obtain ⟨hrun, hstate⟩ := dryFrames_eq turn input (p := { p with active }) hnone hidle
        hcurrent h.outputGain
      simp only [htoo, htoo', if_true, if_false, hwarm, Option.bind_eq_bind, Option.bind_some, hrun]
      refine ⟨_, rfl, ?_⟩
      rw [hstate]
      exact ⟨h.mode, hactive, h.pending, h.wetMix, rfl, h.maxBlockFrames, h.activeScratch,
        h.pendingScratch⟩
    | false =>
      obtain ⟨p₁, p₂, new, hrunActive, hrunPending, hp₂, hactive, hsome, hnew, hactiveScratch,
        hpendingScratch, hmixing⟩ := h.render turn hexact hvalid hfits
      have hmode₂ : p₂.mode = p.mode := by rw [hp₂]
      have hmaximum₂ : p₂.maxBlockFrames = p.maxBlockFrames := by rw [hp₂]
      obtain ⟨presetFade, active', pending', hrun, hfade, hmaximum', hend⟩ := hmixing.loop heven
        (by rw [hp₂]; exact h.wetMix) (by rw [hp₂]; exact h.outputGain)
      simp only [htoo, htoo', if_false, hrunActive, hrunPending, Option.bind_eq_bind,
        Option.bind_some, hrun]
      refine ⟨_, rfl, hend.finish hactive (hmode₂.trans h.mode) (hsome.trans hfade.symm) ?_ rfl rfl
        (hmaximum₂.trans (hmaximum.trans hmaximum'.symm)) ?_ ?_⟩
      · intro state hstate
        rw [hmode₂]
        exact hnew state hstate
      · rw [hactiveScratch, hmaximum₂]
      · rw [hpendingScratch, hmaximum₂]

end Process

/-! ## Control calls -/

section Control

variable {p : AudioProcessor K S} {d : DirectProcessor plans}

theorem Follows.pending_isSome (h : p.Follows d) : p.pending.isSome = d.pending.isSome := by
  have hfollows := h.pending
  cases hsome : d.pending with
  | none =>
    rw [hsome] at hfollows
    rw [hfollows.1]
    rfl
  | some replacement =>
    rw [hsome] at hfollows
    obtain ⟨-, -, -, -, -, state, hstate, -⟩ := hfollows
    rw [hstate]
    rfl

theorem Follows.setWetMix (h : p.Follows d) (wetMix : UnitRamp K) :
    { p with wetMix := wetMix }.Follows { d with wetMix := wetMix } :=
  ⟨h.mode, h.active, h.pending, rfl, h.outputGain, h.maxBlockFrames, h.activeScratch,
    h.pendingScratch⟩

theorem Follows.setGain (h : p.Follows d) (outputGain : GainRamp K) :
    { p with outputGain := outputGain }.Follows { d with outputGain := outputGain } :=
  ⟨h.mode, h.active, h.pending, h.wetMix, rfl, h.maxBlockFrames, h.activeScratch,
    h.pendingScratch⟩

theorem matchesMode_new (preset : PreparedHrir plans) (mode mode' : RenderMode K) :
    (RendererState.new preset mode).matchesMode mode' = DirectProcessor.sameKind mode mode' := by
  cases mode <;> cases mode' <;> rfl

/-- A fresh renderer of the right kind is placed where the processor's stands. -/
theorem placed_new (preset : PreparedHrir plans) {mode : RenderMode K}
    (h : DirectProcessor.sameKind mode p.mode = true) :
    ∃ replacement, p.placed (.new preset mode) = .ok replacement ∧
      replacement.Follows (.new preset p.mode) := by
  unfold placed
  cases hmode : p.mode with
  | FixedFront =>
    cases mode with
    | FixedFront => exact ⟨_, rfl, RendererState.follows_new preset .FixedFront⟩
    | HorizontalOrbit position => simp [hmode, DirectProcessor.sameKind] at h
  | HorizontalOrbit position =>
    cases mode with
    | FixedFront => simp [hmode, DirectProcessor.sameKind] at h
    | HorizontalOrbit position' =>
      exact ⟨_, rfl, RendererState.follows_new preset (.HorizontalOrbit position)⟩

theorem Follows.install [IsStrictOrderedRing K] (h : p.Follows d) (preset : PreparedHrir plans)
    (mode : RenderMode K) (transitionFrames : ℕ) :
    match d.install preset mode transitionFrames with
    | .error error =>
      p.installPreparedRenderer (.new preset mode) transitionFrames = .error error
    | .ok d' => ∃ p', p.installPreparedRenderer (.new preset mode) transitionFrames = .ok p' ∧
        p'.Follows d' := by
  have hkinds : (PreparedRenderer.new preset mode).state.matchesMode p.mode =
      DirectProcessor.sameKind mode p.mode := matchesMode_new preset mode p.mode
  unfold installPreparedRenderer DirectProcessor.install
  rw [h.pending_isSome, hkinds, ← h.mode]
  split_ifs with hsome hkind hshort
  · rfl
  · rfl
  · obtain ⟨replacement, hplaced, hfollows⟩ := placed_new preset
      (by simpa using hkind : DirectProcessor.sameKind mode p.mode = true)
    have hnone : d.pending = none := by simpa using hsome
    have hpending := h.pending
    rw [hnone] at hpending
    rw [hplaced]
    refine ⟨{ p with active := replacement.reset }, rfl, rfl, hfollows.reset, ?_, h.wetMix,
      h.outputGain, h.maxBlockFrames, h.activeScratch, h.pendingScratch⟩
    simp only [hnone]
    exact hpending
  · obtain ⟨replacement, hplaced, hfollows⟩ := placed_new preset
      (by simpa using hkind : DirectProcessor.sameKind mode p.mode = true)
    rw [hplaced]
    refine ⟨{ p with
        pending := some replacement,
        presetFade := some (.new transitionFrames) }, rfl, h.mode, h.active, ?_, h.wetMix,
      h.outputGain, h.maxBlockFrames, h.activeScratch, h.pendingScratch⟩
    refine ⟨rfl, Ramp.aims_setTarget _ _ _, ?_, ?_, rfl, replacement, rfl, hfollows⟩
    · simp [EqualPowerFade.new, Ramp.setTarget, hshort]
    · simp only [EqualPowerFade.isComplete, UnitRamp.isSettled, EqualPowerFade.new,
        Ramp.setTarget, hshort, if_false, decide_eq_false_iff_not]
      omega

theorem Follows.setOrbitPosition (h : p.Follows d) (position : HorizontalStereoPair K) :
    match d.setOrbitPosition position with
    | .error error => p.setOrbitPosition position = (.error error, p)
    | .ok d' => (p.setOrbitPosition position).1 = .ok () ∧
        (p.setOrbitPosition position).2.Follows d' := by
  have hmoved := h.active.setOrbitPosition position
  unfold DirectProcessor.setOrbitPosition AudioProcessor.setOrbitPosition
  cases hmode : d.active.mode with
  | FixedFront =>
    simp only [hmode] at hmoved ⊢
    rw [hmoved]
  | HorizontalOrbit position' =>
    simp only [hmode] at hmoved ⊢
    obtain ⟨active, hrun, hactive⟩ := hmoved
    rw [hrun]
    have hpending := h.pending
    cases hsome : d.pending with
    | none =>
      rw [hsome] at hpending
      obtain ⟨hnone, hfade⟩ := hpending
      simp only [hnone]
      exact ⟨trivial, rfl, hactive, ⟨rfl, hfade⟩, h.wetMix, h.outputGain, h.maxBlockFrames,
        h.activeScratch, h.pendingScratch⟩
    | some replacement =>
      obtain ⟨r, fade⟩ := replacement
      rw [hsome] at hpending
      obtain ⟨hfade, haims, htarget, hmoves, hsame, state, hstate, hfollows⟩ := hpending
      have hmoved' := hfollows.setOrbitPosition position
      rw [hsame, h.mode, hmode] at hmoved'
      obtain ⟨pending, hrun', hpending'⟩ := hmoved'
      simp only [hstate, hrun']
      exact ⟨trivial, rfl, hactive, ⟨hfade, haims, htarget, hmoves, rfl, pending, rfl, hpending'⟩,
        h.wetMix, h.outputGain, h.maxBlockFrames, h.activeScratch, h.pendingScratch⟩

theorem Follows.reset (h : p.Follows d) : p.reset.Follows d.reset := by
  have hpending := h.pending
  cases hsome : d.pending with
  | none =>
    rw [hsome] at hpending
    obtain ⟨hnone, hfade⟩ := hpending
    unfold AudioProcessor.reset DirectProcessor.reset
    simp only [hnone, hsome, h.wetMix, h.outputGain]
    exact ⟨h.mode, h.active.reset, ⟨rfl, hfade⟩, rfl, rfl, h.maxBlockFrames,
      by simp [h.activeScratch], by simp [h.pendingScratch]⟩
  | some replacement =>
    obtain ⟨r, fade⟩ := replacement
    rw [hsome] at hpending
    obtain ⟨hfade, haims, htarget, hmoves, hsame, state, hstate, hfollows⟩ := hpending
    unfold AudioProcessor.reset DirectProcessor.reset
    simp only [hstate, hsome, h.wetMix, h.outputGain]
    exact ⟨hsame.symm, hfollows.reset, ⟨rfl, rfl⟩, rfl, rfl, h.maxBlockFrames,
      by simp [h.activeScratch], by simp [h.pendingScratch]⟩

theorem follows_fromPrepared [IsStrictOrderedRing K] (preset : PreparedHrir plans)
    (mode : RenderMode K) {maxBlockFrames : ℕ} (hsome : 0 < maxBlockFrames)
    (hfits : maxBlockFrames * 2 < USIZE_VALUES) :
    ∃ p, AudioProcessor.fromPrepared (.new preset mode) maxBlockFrames = .ok p ∧
      p.Follows (.new preset mode maxBlockFrames) := by
  unfold AudioProcessor.fromPrepared
  rw [if_neg (by omega), if_neg (by omega)]
  exact ⟨_, rfl, rfl, RendererState.follows_new preset mode, ⟨rfl, rfl⟩, rfl, rfl, rfl, by simp,
    by simp⟩

end Control

end AudioProcessor

/-! ## Runs -/

namespace ProcessorCall

variable [IsStrictOrderedRing K] [FloorRing K] (turn : QuarterTurn K)

/-- A call does what the same call does frame by frame. -/
theorem perform_follows (hexact : plans.Exact) {p : AudioProcessor K S}
    {d : DirectProcessor plans} (h : p.Follows d) (call : ProcessorCall plans) :
    ∃ p', call.perform turn p = some ((call.direct turn d).1, p') ∧
      p'.Follows (call.direct turn d).2 := by
  cases call with
  | processBlock input outputLength => exact h.processBlock turn hexact input outputLength
  | installPreparedRenderer preset mode transitionFrames =>
    have hinstall := h.install preset mode transitionFrames
    unfold perform direct
    cases hdirect : d.install preset mode transitionFrames with
    | error error =>
      simp only [hdirect] at hinstall ⊢
      rw [hinstall]
      exact ⟨p, rfl, h⟩
    | ok d' =>
      simp only [hdirect] at hinstall ⊢
      obtain ⟨p', hrun, hfollows⟩ := hinstall
      rw [hrun]
      exact ⟨p', rfl, hfollows⟩
  | switchPreset preset transitionFrames =>
    have hinstall := h.install preset d.active.mode transitionFrames
    unfold perform direct AudioProcessor.switchPreset
    rw [h.mode]
    cases hdirect : d.install preset d.active.mode transitionFrames with
    | error error =>
      simp only [hdirect] at hinstall ⊢
      rw [hinstall]
      exact ⟨p, rfl, h⟩
    | ok d' =>
      simp only [hdirect] at hinstall ⊢
      obtain ⟨p', hrun, hfollows⟩ := hinstall
      rw [hrun]
      exact ⟨p', rfl, hfollows⟩
  | setWetEnabled enabled transitionFrames =>
    refine ⟨_, rfl, ?_⟩
    unfold AudioProcessor.setWetEnabled direct
    rw [h.wetMix]
    exact h.setWetMix _
  | setOutputGain gain transitionFrames =>
    refine ⟨_, rfl, ?_⟩
    unfold AudioProcessor.setOutputGain direct
    rw [h.outputGain]
    exact h.setGain _
  | setOrbitPosition position =>
    have hmove := h.setOrbitPosition position
    unfold perform direct
    cases hdirect : d.setOrbitPosition position with
    | error error =>
      simp only [hdirect] at hmove ⊢
      rw [hmove]
      exact ⟨p, rfl, h⟩
    | ok d' =>
      simp only [hdirect] at hmove ⊢
      rw [hmove.1]
      exact ⟨_, rfl, hmove.2⟩
  | reset => exact ⟨_, rfl, h.reset⟩

omit [IsStrictOrderedRing K] [FloorRing K] in
theorem answer_follows {p : AudioProcessor K S} {d : DirectProcessor plans} (h : p.Follows d)
    (result : Except (DspError K) (List K)) : answer result p = directAnswer result d := by
  unfold answer directAnswer AudioProcessor.isSwitchingPreset
  rw [h.wetMix, h.outputGain, h.pending_isSome]

theorem performAll_follows (hexact : plans.Exact) (calls : List (ProcessorCall plans))
    {p : AudioProcessor K S} {d : DirectProcessor plans} (h : p.Follows d) :
    ∃ p', performAll turn calls p = some ((directAll turn calls d).1, p') ∧
      p'.Follows (directAll turn calls d).2 := by
  induction calls generalizing p d with
  | nil => exact ⟨p, rfl, h⟩
  | cons call calls ih =>
    obtain ⟨p', hrun, hfollows⟩ := perform_follows turn hexact h call
    obtain ⟨p'', hruns, hfollows'⟩ := ih hfollows
    refine ⟨p'', ?_, hfollows'⟩
    rw [performAll, hrun, Option.bind_some, hruns, Option.map_some, answer_follows hfollows]
    rfl

/-- Whatever the calls, the blocks and the transitions: the processor answers as if every frame
were heard by itself, by filters that keep the whole past. -/
theorem processor_refines_frames (hexact : plans.Exact) (preset : PreparedHrir plans)
    (mode : RenderMode K) {maxBlockFrames : ℕ} (hsome : 0 < maxBlockFrames)
    (hfits : maxBlockFrames * 2 < USIZE_VALUES) (calls : List (ProcessorCall plans)) :
    ∃ p p', AudioProcessor.fromPrepared (.new preset mode) maxBlockFrames = .ok p ∧
      performAll turn calls p =
        some ((directAll turn calls (.new preset mode maxBlockFrames)).1, p') := by
  obtain ⟨p, hnew, hfollows⟩ := AudioProcessor.follows_fromPrepared preset mode hsome hfits
  obtain ⟨p', hrun, -⟩ := performAll_follows turn hexact calls hfollows
  exact ⟨p, p', hnew, hrun⟩

theorem processor_refines_frames_echo :
    ∃ p p', AudioProcessor.fromPrepared (.new EngineCall.echoPreset .FixedFront) 480 = .ok p ∧
      performAll realTurn [.setWetEnabled false 3, .processBlock [1, 0] 2,
          .switchPreset EngineCall.echoPreset 2, .processBlock [0, 1, 1, 0] 4, .reset] p =
        some ((directAll realTurn [.setWetEnabled false 3, .processBlock [1, 0] 2,
          .switchPreset EngineCall.echoPreset 2, .processBlock [0, 1, 1, 0] 4, .reset]
          (.new EngineCall.echoPreset .FixedFront 480)).1, p') :=
  processor_refines_frames realTurn (realDft_exact PARTITION_FRAMES) EngineCall.echoPreset
    .FixedFront (by norm_num) (by norm_num [USIZE_VALUES]) _

end ProcessorCall

end PepeAudio.Audio
