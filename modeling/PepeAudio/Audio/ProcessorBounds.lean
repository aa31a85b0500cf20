import PepeAudio.Audio.BlockGrouping

/-!
# What callers can rely on

Whatever the calls: the gains and the samples stay within their bounds, and a transition that
nothing replaces takes exactly its frames, in equal steps.
-/
namespace PepeAudio.Audio

variable {K S : Type*} [Field K] [LinearOrder K] [CommRing S] [Algebra K S] {plans : FftPlans K S}

section Bounds

variable [IsStrictOrderedRing K]

theorem ensureFiniteOutput_mem (sample : K) :
    ensureFiniteOutput sample ∈ Set.Icc (-MAX_ABS_OUTPUT_SAMPLE : K) MAX_ABS_OUTPUT_SAMPLE := by
  have hle : (-MAX_ABS_OUTPUT_SAMPLE : K) ≤ MAX_ABS_OUTPUT_SAMPLE := by
    unfold MAX_ABS_OUTPUT_SAMPLE
    linarith
  exact ⟨le_max_left _ _, max_le hle (min_le_right _ _)⟩

/-- A processor whose ramps are within their bounds. -/
structure DirectProcessor.Bounded (d : DirectProcessor plans) : Prop where
  wetMix : d.wetMix.Within 0 1
  outputGain : d.outputGain.Within 0 MAX_LINEAR_GAIN

/-- What a caller sees is within bounds. -/
structure ProcessorAnswer.Bounded (answer : ProcessorAnswer K) : Prop where
  wetMix : answer.wetMix ∈ Set.Icc (0 : K) 1
  outputGain : answer.outputGain ∈ Set.Icc (0 : K) MAX_LINEAR_GAIN
  samples : ∀ samples, answer.result = .ok samples →
    ∀ sample ∈ samples, |sample| ≤ MAX_ABS_OUTPUT_SAMPLE

namespace DirectProcessor

variable {d : DirectProcessor plans}

theorem bounded_new (preset : PreparedHrir plans) (mode : RenderMode K) (maxBlockFrames : ℕ) :
    (new preset mode maxBlockFrames).Bounded :=
  ⟨Ramp.within_rest ⟨zero_le_one, le_rfl⟩, Ramp.within_rest (LinearGain.UNITY).get_mem⟩

variable [FloorRing K] (turn : QuarterTurn K)

omit [FloorRing K] in
theorem Bounded.advance (h : d.Bounded) : (d.advance turn).Bounded := by
  refine ⟨?_, ?_⟩
  · rw [advance_wetMix]
    exact h.wetMix.advance
  · rw [advance_outputGain]
    exact h.outputGain.advance

theorem Bounded.frames (h : d.Bounded) (input : List K) :
    (d.frames turn input).2.Bounded ∧
      ∀ sample ∈ (d.frames turn input).1, |sample| ≤ MAX_ABS_OUTPUT_SAMPLE := by
  induction input using List.twoStepInduction generalizing d with
  | nil => exact ⟨h, by simp [DirectProcessor.frames]⟩
  | singleton left => exact ⟨h, by simp [DirectProcessor.frames]⟩
  | cons_cons left right input ih _ =>
    have hhear : (d.hear left right).Bounded := ⟨h.wetMix, h.outputGain⟩
    obtain ⟨hstate, hsamples⟩ := ih (hhear.advance turn)
    rw [frames_cons]
    refine ⟨hstate, ?_⟩
    have hclipped (sample : K) : |ensureFiniteOutput sample| ≤ MAX_ABS_OUTPUT_SAMPLE :=
      abs_le.mpr (ensureFiniteOutput_mem sample)
    simp only [List.forall_mem_cons]
    exact ⟨hclipped _, hclipped _, hsamples⟩

omit [IsStrictOrderedRing K] [FloorRing K] in
theorem Bounded.install (h : d.Bounded) {preset : PreparedHrir plans} {mode : RenderMode K}
    {transitionFrames : ℕ} {d' : DirectProcessor plans}
    (hd' : d.install preset mode transitionFrames = .ok d') : d'.Bounded := by
  unfold DirectProcessor.install at hd'
  split_ifs at hd' <;> cases hd' <;> exact ⟨h.wetMix, h.outputGain⟩

/-- A call keeps the bounds, and what it puts out is within them. -/
theorem Bounded.direct (h : d.Bounded) (call : ProcessorCall plans) :
    (call.direct turn d).2.Bounded ∧ ∀ samples, (call.direct turn d).1 = .ok samples →
      ∀ sample ∈ samples, |sample| ≤ MAX_ABS_OUTPUT_SAMPLE := by
  have hsilent (samples : List K) (hok : (.ok [] : Except (DspError K) (List K)) = .ok samples) :
      ∀ sample ∈ samples, |sample| ≤ MAX_ABS_OUTPUT_SAMPLE := by
    cases hok
    simp
  have hfailed (error : DspError K) (samples : List K)
      (hok : (.error error : Except (DspError K) (List K)) = .ok samples) :
      ∀ sample ∈ samples, |sample| ≤ MAX_ABS_OUTPUT_SAMPLE := by
    cases hok
  cases call with
  | processBlock input outputLength =>
    simp only [ProcessorCall.direct, DirectProcessor.processBlock]
    split
    · exact ⟨h, hfailed _⟩
    · split_ifs
      · exact ⟨h, fun _ => False.elim⟩
      · obtain ⟨hstate, hsamples⟩ := h.frames turn input
        refine ⟨hstate, ?_⟩
        intro samples hok
        cases hok
        exact hsamples
  | installPreparedRenderer preset mode transitionFrames =>
    simp only [ProcessorCall.direct]
    split
    · exact ⟨h, hfailed _⟩
    · exact ⟨h.install ‹_›, hsilent⟩
  | switchPreset preset transitionFrames =>
    simp only [ProcessorCall.direct]
    split
    · exact ⟨h, hfailed _⟩
    · exact ⟨h.install ‹_›, hsilent⟩
  | setWetEnabled enabled transitionFrames =>
    have htarget : (if enabled then (1 : K) else 0) ∈ Set.Icc (0 : K) 1 := by
      split_ifs
      · exact ⟨zero_le_one, le_rfl⟩
      · exact ⟨le_rfl, zero_le_one⟩
    exact ⟨⟨h.wetMix.setTarget htarget transitionFrames, h.outputGain⟩, hsilent⟩
  | setOutputGain gain transitionFrames =>
    exact ⟨⟨h.wetMix, h.outputGain.setTarget gain.get_mem transitionFrames⟩, hsilent⟩
  | setOrbitPosition position =>
    simp only [ProcessorCall.direct, DirectProcessor.setOrbitPosition]
    split <;> rename_i hmove <;> split at hmove <;> cases hmove
    · exact ⟨h, hfailed _⟩
    · exact ⟨⟨h.wetMix, h.outputGain⟩, hsilent⟩
  | reset => exact ⟨⟨h.wetMix.settle, h.outputGain.settle⟩, hsilent⟩

end DirectProcessor

namespace ProcessorCall

variable [FloorRing K] (turn : QuarterTurn K)

theorem directAll_bounded (calls : List (ProcessorCall plans)) {d : DirectProcessor plans}
    (h : d.Bounded) : ∀ answer ∈ (directAll turn calls d).1, answer.Bounded := by
  induction calls generalizing d with
  | nil => simp [directAll]
  | cons call calls ih =>
    obtain ⟨hstate, hsamples⟩ := h.direct turn call
    simp only [directAll, List.forall_mem_cons]
    exact ⟨⟨hstate.wetMix.current_mem, hstate.outputGain.current_mem, hsamples⟩, ih hstate⟩

/-- No sequence of calls leads the gains or a sample out of their bounds. -/
theorem answers_bounded (hexact : plans.Exact) (preset : PreparedHrir plans) (mode : RenderMode K)
    {maxBlockFrames : ℕ} (hsome : 0 < maxBlockFrames)
    (hfits : maxBlockFrames * 2 < USIZE_VALUES) (calls : List (ProcessorCall plans)) :
    ∃ p answers p', AudioProcessor.fromPrepared (.new preset mode) maxBlockFrames = .ok p ∧
      performAll turn calls p = some (answers, p') ∧ ∀ answer ∈ answers, answer.Bounded := by
  obtain ⟨p, hnew, hfollows⟩ := AudioProcessor.follows_fromPrepared preset mode hsome hfits
  obtain ⟨p', hrun, -⟩ := performAll_follows turn hexact calls hfollows
  exact ⟨p, _, p', hnew, hrun,
    directAll_bounded turn calls (DirectProcessor.bounded_new preset mode maxBlockFrames)⟩

theorem answers_bounded_echo :
    ∃ p answers p', AudioProcessor.fromPrepared
        (.new EngineCall.echoPreset (.HorizontalOrbit .FRONT)) 480 = .ok p ∧
      performAll realTurn ([.setOutputGain .UNITY 0, .processBlock [4, -4] 2] :
        List (ProcessorCall (realDft PARTITION_FRAMES))) p = some (answers, p') ∧
      ∀ answer ∈ answers, answer.Bounded :=
  answers_bounded realTurn (realDft_exact PARTITION_FRAMES) EngineCall.echoPreset
    (.HorizontalOrbit .FRONT) (by norm_num) (by norm_num [USIZE_VALUES]) _

end ProcessorCall

end Bounds

namespace ProcessorCall

/-- The frames that a call puts out. -/
def framesOf (maximum : ℕ) : ProcessorCall plans → ℕ
  | .processBlock input outputLength =>
    match validateStereoBlocks input outputLength with
    | .error _ => 0
    | .ok frames => if frames > maximum then 0 else frames
  | _ => 0

def keepsWetMix : ProcessorCall plans → Bool
  | .setWetEnabled _ _ => false
  | .reset => false
  | _ => true

def keepsOutputGain : ProcessorCall plans → Bool
  | .setOutputGain _ _ => false
  | .reset => false
  | _ => true

def frameCount (maximum : ℕ) (calls : List (ProcessorCall plans)) : ℕ :=
  (calls.map (framesOf maximum)).sum

section Direct

variable [FloorRing K] (turn : QuarterTurn K)

/-- Both ramps make a step in every frame. -/
theorem frames_ramps (input : List K) (d : DirectProcessor plans) :
    (d.frames turn input).2.wetMix = d.wetMix.after (input.length / 2) ∧
      (d.frames turn input).2.outputGain = d.outputGain.after (input.length / 2) := by
  induction input using List.twoStepInduction generalizing d with
  | nil => simp [DirectProcessor.frames, Ramp.after]
  | singleton left => simp [DirectProcessor.frames, Ramp.after]
  | cons_cons left right input ih _ =>
    obtain ⟨hmix, hgain⟩ := ih ((d.hear left right).advance turn)
    have hlength : (left :: right :: input).length / 2 = input.length / 2 + 1 := by
      simp only [List.length_cons]
      omega
    rw [DirectProcessor.frames_cons, hmix, hgain, hlength, DirectProcessor.advance_wetMix,
      DirectProcessor.advance_outputGain]
    exact ⟨rfl, rfl⟩

omit [FloorRing K] in
theorem install_ramps {preset : PreparedHrir plans} {mode : RenderMode K} {transitionFrames : ℕ}
    {d d' : DirectProcessor plans} (h : d.install preset mode transitionFrames = .ok d') :
    d'.wetMix = d.wetMix ∧ d'.outputGain = d.outputGain := by
  unfold DirectProcessor.install at h
  split_ifs at h <;> cases h <;> exact ⟨rfl, rfl⟩

/-- A call that does not set a ramp lets it go on for its frames. -/
theorem direct_ramps (call : ProcessorCall plans) (d : DirectProcessor plans) :
    (call.keepsWetMix = true →
        (call.direct turn d).2.wetMix = d.wetMix.after (call.framesOf d.maxBlockFrames)) ∧
      (call.keepsOutputGain = true →
        (call.direct turn d).2.outputGain =
          d.outputGain.after (call.framesOf d.maxBlockFrames)) := by
  cases call with
  | processBlock input outputLength =>
    simp only [direct, DirectProcessor.processBlock, framesOf]
    cases hvalidate : validateStereoBlocks input outputLength with
    | error error => exact ⟨fun _ => rfl, fun _ => rfl⟩
    | ok frames =>
      obtain ⟨-, rfl, -⟩ := validateStereoBlocks_ok hvalidate
      simp only
      split_ifs
      · exact ⟨fun _ => rfl, fun _ => rfl⟩
      · exact ⟨fun _ => (frames_ramps turn input d).1, fun _ => (frames_ramps turn input d).2⟩
  | installPreparedRenderer preset mode transitionFrames =>
    simp only [direct, framesOf]
    split
    · exact ⟨fun _ => rfl, fun _ => rfl⟩
    · exact ⟨fun _ => (install_ramps ‹_›).1, fun _ => (install_ramps ‹_›).2⟩
  | switchPreset preset transitionFrames =>
    simp only [direct, framesOf]
    split
    · exact ⟨fun _ => rfl, fun _ => rfl⟩
    · exact ⟨fun _ => (install_ramps ‹_›).1, fun _ => (install_ramps ‹_›).2⟩
  | setWetEnabled enabled transitionFrames => exact ⟨by simp [keepsWetMix], fun _ => rfl⟩
  | setOutputGain gain transitionFrames => exact ⟨fun _ => rfl, by simp [keepsOutputGain]⟩
  | setOrbitPosition position =>
    simp only [direct, DirectProcessor.setOrbitPosition, framesOf]
    split <;> rename_i hmove <;> split at hmove <;> cases hmove <;>
      exact ⟨fun _ => rfl, fun _ => rfl⟩
  | reset => exact ⟨by simp [keepsWetMix], by simp [keepsOutputGain]⟩

theorem directAll_ramps (calls : List (ProcessorCall plans)) (d : DirectProcessor plans) :
    ((∀ call ∈ calls, call.keepsWetMix = true) →
        (directAll turn calls d).2.wetMix =
          d.wetMix.after (frameCount d.maxBlockFrames calls)) ∧
      ((∀ call ∈ calls, call.keepsOutputGain = true) →
        (directAll turn calls d).2.outputGain =
          d.outputGain.after (frameCount d.maxBlockFrames calls)) := by
  induction calls generalizing d with
  | nil => exact ⟨fun _ => rfl, fun _ => rfl⟩
  | cons call calls ih =>
    obtain ⟨hmix, hgain⟩ := direct_ramps turn call d
    obtain ⟨hmixes, hgains⟩ := ih (call.direct turn d).2
    have hmaximum := direct_maxBlockFrames turn call d
    rw [hmaximum] at hmixes hgains
    simp only [List.forall_mem_cons, directAll, frameCount, List.map_cons, List.sum_cons,
      Ramp.after_add]
    constructor
    · rintro ⟨hcall, hcalls⟩
      rw [hmixes hcalls, hmix hcall]
      rfl
    · rintro ⟨hcall, hcalls⟩
      rw [hgains hcalls, hgain hcall]
      rfl

end Direct

variable [IsStrictOrderedRing K] [FloorRing K] (turn : QuarterTurn K)

/-- How far a transition over some frames is after some of them. -/
def moved (start target : K) (transitionFrames frames : ℕ) : K :=
  if frames + 1 < transitionFrames then
    start + (target - start) * frames / ((transitionFrames - 1 : ℕ) : K)
  else target

/-- A transition goes from where the value is to its target in equal steps, one a frame, whatever
the calls before were and whatever else is called meanwhile. -/
theorem transitions_linear (hexact : plans.Exact) (preset : PreparedHrir plans)
    (mode : RenderMode K) {maxBlockFrames : ℕ} (hsome : 0 < maxBlockFrames)
    (hfits : maxBlockFrames * 2 < USIZE_VALUES) (before meanwhile : List (ProcessorCall plans)) :
    ∃ p start answers, AudioProcessor.fromPrepared (.new preset mode) maxBlockFrames = .ok p ∧
      performAll turn before p = some (answers, start) ∧
      (∀ enabled transitionFrames, (∀ call ∈ meanwhile, call.keepsWetMix = true) →
        ∃ answers' after,
          performAll turn (.setWetEnabled enabled transitionFrames :: meanwhile) start =
            some (answers', after) ∧
          after.wetMix.current = moved start.wetMix.current (if enabled then 1 else 0)
            transitionFrames (frameCount maxBlockFrames meanwhile)) ∧
      ∀ (gain : LinearGain K) transitionFrames, (∀ call ∈ meanwhile, call.keepsOutputGain = true) →
        ∃ answers' after,
          performAll turn (.setOutputGain gain transitionFrames :: meanwhile) start =
            some (answers', after) ∧
          after.outputGain.current = moved start.outputGain.current gain.get transitionFrames
            (frameCount maxBlockFrames meanwhile) := by
  obtain ⟨p, hnew, hfollows⟩ := AudioProcessor.follows_fromPrepared preset mode hsome hfits
  obtain ⟨start, hrun, hstart⟩ := performAll_follows turn hexact before hfollows
  have hmaximum : (directAll turn before (.new preset mode maxBlockFrames)).2.maxBlockFrames =
      maxBlockFrames := directAll_maxBlockFrames turn before _
  refine ⟨p, start, _, hnew, hrun, ?_, ?_⟩
  · intro enabled transitionFrames hkeeps
    obtain ⟨after, hrun', hafter⟩ := performAll_follows turn hexact
      (.setWetEnabled enabled transitionFrames :: meanwhile) hstart
    refine ⟨_, after, hrun', ?_⟩
    rw [hafter.wetMix, hstart.wetMix]
    simp only [directAll, direct]
    rw [(directAll_ramps turn meanwhile _).1 hkeeps, Ramp.setTarget_after, hmaximum]
    rfl
  · intro gain transitionFrames hkeeps
    obtain ⟨after, hrun', hafter⟩ := performAll_follows turn hexact
      (.setOutputGain gain transitionFrames :: meanwhile) hstart
    refine ⟨_, after, hrun', ?_⟩
    rw [hafter.outputGain, hstart.outputGain]
    simp only [directAll, direct]
    rw [(directAll_ramps turn meanwhile _).2 hkeeps, GainRamp.setTarget, Ramp.setTarget_after,
      hmaximum]
    rfl

/-- A block between two changes. -/
noncomputable def echoMeanwhile : List (ProcessorCall (realDft PARTITION_FRAMES)) :=
  [.processBlock [0, 1] 2, .setOrbitPosition .FRONT]

theorem transitions_linear_echo :
    ∃ p start answers,
      AudioProcessor.fromPrepared (.new EngineCall.echoPreset .FixedFront) 480 = .ok p ∧
      performAll realTurn echoMeanwhile p = some (answers, start) ∧
      (∀ enabled transitionFrames, (∀ call ∈ echoMeanwhile, call.keepsWetMix = true) →
        ∃ answers' after,
          performAll realTurn (.setWetEnabled enabled transitionFrames :: echoMeanwhile) start =
            some (answers', after) ∧
          after.wetMix.current = moved start.wetMix.current (if enabled then 1 else 0)
            transitionFrames (frameCount 480 echoMeanwhile)) ∧
      ∀ (gain : LinearGain ℝ) transitionFrames,
        (∀ call ∈ echoMeanwhile, call.keepsOutputGain = true) →
        ∃ answers' after,
          performAll realTurn (.setOutputGain gain transitionFrames :: echoMeanwhile) start =
            some (answers', after) ∧
          after.outputGain.current = moved start.outputGain.current gain.get transitionFrames
            (frameCount 480 echoMeanwhile) :=
  transitions_linear realTurn (realDft_exact PARTITION_FRAMES) EngineCall.echoPreset .FixedFront
    (by norm_num) (by norm_num [USIZE_VALUES]) echoMeanwhile echoMeanwhile

end ProcessorCall

end PepeAudio.Audio
