import PepeAudio.Audio.ProcessorRefinement

/-!
# Blocks do not matter

Two sequences of calls with the same frames and the same control calls between them put out the
same samples and leave the same processor, however the frames are grouped into blocks. Blocks
that are rejected leave no trace.
-/
namespace PepeAudio.Audio

variable {K S : Type*} [Field K] [LinearOrder K] [CommRing S] [Algebra K S] {plans : FftPlans K S}

theorem RendererState.Follows.unique {state state' : RendererState K S}
    {r : DirectRenderer plans} (h : state.Follows r) (h' : state'.Follows r) : state = state' := by
  obtain ⟨preset, mode, leftSamples, rightSamples⟩ := r
  cases mode with
  | FixedFront =>
    cases state with
    | Orbit renderer => exact h.elim
    | Fixed renderer =>
      cases state' with
      | Orbit renderer' => exact h'.elim
      | Fixed renderer' =>
        obtain ⟨engine⟩ := renderer
        obtain ⟨engine'⟩ := renderer'
        congr 2
        exact PartitionedStereoEngine.Heard.unique h h'
  | HorizontalOrbit position =>
    cases state with
    | Fixed renderer => exact h.elim
    | Orbit renderer =>
      cases state' with
      | Fixed renderer' => exact h'.elim
      | Orbit renderer' =>
        obtain ⟨engine, position⟩ := renderer
        obtain ⟨engine', position'⟩ := renderer'
        obtain ⟨rfl, h⟩ := h
        obtain ⟨rfl, h'⟩ := h'
        congr 2
        exact PartitionedStereoEngine.Heard.unique h h'

/-- Apart from its scratch buffers the processor is determined by what it follows. -/
theorem AudioProcessor.Follows.unique {p p' : AudioProcessor K S} {d : DirectProcessor plans}
    (h : p.Follows d) (h' : p'.Follows d) :
    p' = { p with activeScratch := p'.activeScratch, pendingScratch := p'.pendingScratch } := by
  have hactive := h.active.unique h'.active
  have hpending : p.pending = p'.pending ∧ p.presetFade = p'.presetFade := by
    have hfollows := h.pending
    have hfollows' := h'.pending
    cases hsome : d.pending with
    | none =>
      rw [hsome] at hfollows hfollows'
      exact ⟨hfollows.1.trans hfollows'.1.symm, hfollows.2.trans hfollows'.2.symm⟩
    | some replacement =>
      rw [hsome] at hfollows hfollows'
      obtain ⟨hfade, -, -, -, -, state, hstate, hr⟩ := hfollows
      obtain ⟨hfade', -, -, -, -, state', hstate', hr'⟩ := hfollows'
      rw [hstate, hstate', hr.unique hr']
      exact ⟨rfl, hfade.trans hfade'.symm⟩
  have hmode := h.mode.trans h'.mode.symm
  have hmix := h.wetMix.trans h'.wetMix.symm
  have hgain := h.outputGain.trans h'.outputGain.symm
  have hmaximum := h.maxBlockFrames.trans h'.maxBlockFrames.symm
  cases p
  cases p'
  simp_all

namespace ProcessorCall

/-- The frames of a block. -/
def pairs : List K → List (K × K)
  | left :: right :: input => (left, right) :: pairs input
  | _ => []

/-- A call with its frames as blocks of their own; a rejected block has none. -/
def frameByFrame (maximum : ℕ) : ProcessorCall plans → List (ProcessorCall plans)
  | .processBlock input outputLength =>
    match validateStereoBlocks input outputLength with
    | .error _ => []
    | .ok frames =>
      if frames > maximum then []
      else (pairs input).map fun (left, right) => .processBlock [left, right] 2
  | .installPreparedRenderer preset mode transitionFrames =>
    [.installPreparedRenderer preset mode transitionFrames]
  | .switchPreset preset transitionFrames => [.switchPreset preset transitionFrames]
  | .setWetEnabled enabled transitionFrames => [.setWetEnabled enabled transitionFrames]
  | .setOutputGain gain transitionFrames => [.setOutputGain gain transitionFrames]
  | .setOrbitPosition position => [.setOrbitPosition position]
  | .reset => [.reset]

/-- All samples that are put out. -/
def played (answers : List (ProcessorAnswer K)) : List K :=
  answers.flatMap fun answer => answer.result.toOption.getD []

section Direct

variable [FloorRing K] (turn : QuarterTurn K)

theorem directAll_append (calls more : List (ProcessorCall plans)) (d : DirectProcessor plans) :
    directAll turn (calls ++ more) d = ((directAll turn calls d).1 ++
        (directAll turn more (directAll turn calls d).2).1,
      (directAll turn more (directAll turn calls d).2).2) := by
  induction calls generalizing d with
  | nil => rfl
  | cons call calls ih => simp only [List.cons_append, directAll, ih]

/-- The frames of a block, each in a block of its own. -/
theorem directAll_pairs (input : List K)
    (hvalid : ∀ sample ∈ input, |sample| ≤ MAX_ABS_INPUT_SAMPLE)
    {d : DirectProcessor plans} (hsome : 0 < d.maxBlockFrames) :
    played (directAll turn ((pairs input).map fun (left, right) =>
        .processBlock [left, right] 2) d).1 = (d.frames turn input).1 ∧
      (directAll turn ((pairs input).map fun (left, right) =>
        .processBlock [left, right] 2) d).2 = (d.frames turn input).2 := by
  induction input using List.twoStepInduction generalizing d with
  | nil => exact ⟨rfl, rfl⟩
  | singleton left => exact ⟨rfl, rfl⟩
  | cons_cons left right input ih _ =>
    simp only [List.forall_mem_cons] at hvalid
    obtain ⟨hleft, hright, hvalid⟩ := hvalid
    have hpair : d.processBlock turn [left, right] 2 =
        (.ok (d.frames turn [left, right]).1, (d.frames turn [left, right]).2) := by
      unfold DirectProcessor.processBlock
      rw [validateStereoBlocks_pair hleft hright]
      simp only
      rw [if_neg (by omega)]
    have hone : d.frames turn [left, right] =
        ([(d.hear left right).sample turn left ((d.hear left right).wet turn 0),
          (d.hear left right).sample turn right ((d.hear left right).wet turn 1)],
          (d.hear left right).advance turn) := rfl
    obtain ⟨hplayed, hstate⟩ := ih hvalid (d := (d.hear left right).advance turn)
      (by rw [DirectProcessor.advance_maxBlockFrames]; exact hsome)
    rw [DirectProcessor.frames_cons]
    simp only [pairs, List.map_cons, directAll, direct, hpair, hone]
    refine ⟨?_, hstate⟩
    rw [← hplayed]
    rfl

theorem frames_maxBlockFrames (input : List K) (d : DirectProcessor plans) :
    (d.frames turn input).2.maxBlockFrames = d.maxBlockFrames := by
  induction input using List.twoStepInduction generalizing d with
  | nil => rfl
  | singleton left => rfl
  | cons_cons left right input ih _ =>
    rw [DirectProcessor.frames_cons]
    exact (ih _).trans (DirectProcessor.advance_maxBlockFrames turn _)

omit [FloorRing K] in
theorem install_maxBlockFrames {preset : PreparedHrir plans} {mode : RenderMode K}
    {transitionFrames : ℕ} {d d' : DirectProcessor plans}
    (h : d.install preset mode transitionFrames = .ok d') :
    d'.maxBlockFrames = d.maxBlockFrames := by
  unfold DirectProcessor.install at h
  split_ifs at h <;> cases h <;> rfl

/-- No call changes the size of the largest block. -/
theorem direct_maxBlockFrames (call : ProcessorCall plans) (d : DirectProcessor plans) :
    (call.direct turn d).2.maxBlockFrames = d.maxBlockFrames := by
  cases call with
  | processBlock input outputLength =>
    simp only [direct, DirectProcessor.processBlock]
    split
    · rfl
    · split_ifs
      · rfl
      · exact frames_maxBlockFrames turn input d
  | installPreparedRenderer preset mode transitionFrames =>
    simp only [direct]
    split
    · rfl
    · exact install_maxBlockFrames ‹_›
  | switchPreset preset transitionFrames =>
    simp only [direct]
    split
    · rfl
    · exact install_maxBlockFrames ‹_›
  | setWetEnabled enabled transitionFrames => rfl
  | setOutputGain gain transitionFrames => rfl
  | setOrbitPosition position =>
    simp only [direct, DirectProcessor.setOrbitPosition]
    split <;> rename_i hmove <;> split at hmove <;> cases hmove <;> rfl
  | reset => rfl

theorem directAll_maxBlockFrames (calls : List (ProcessorCall plans)) (d : DirectProcessor plans) :
    (directAll turn calls d).2.maxBlockFrames = d.maxBlockFrames := by
  induction calls generalizing d with
  | nil => rfl
  | cons call calls ih => exact (ih _).trans (direct_maxBlockFrames turn call d)

theorem directAll_frameByFrame (call : ProcessorCall plans) {d : DirectProcessor plans}
    (hsome : 0 < d.maxBlockFrames) :
    played (directAll turn (call.frameByFrame d.maxBlockFrames) d).1 =
        (call.direct turn d).1.toOption.getD [] ∧
      (directAll turn (call.frameByFrame d.maxBlockFrames) d).2 = (call.direct turn d).2 := by
  cases call with
  | processBlock input outputLength =>
    simp only [frameByFrame, direct, DirectProcessor.processBlock]
    cases hvalidate : validateStereoBlocks input outputLength with
    | error error => exact ⟨rfl, rfl⟩
    | ok frames =>
      simp only
      split_ifs
      · exact ⟨rfl, rfl⟩
      · exact directAll_pairs turn input (mem_of_validateStereoBlocks hvalidate) hsome
  | installPreparedRenderer preset mode transitionFrames =>
    exact ⟨List.append_nil _, rfl⟩
  | switchPreset preset transitionFrames => exact ⟨List.append_nil _, rfl⟩
  | setWetEnabled enabled transitionFrames => exact ⟨List.append_nil _, rfl⟩
  | setOutputGain gain transitionFrames => exact ⟨List.append_nil _, rfl⟩
  | setOrbitPosition position => exact ⟨List.append_nil _, rfl⟩
  | reset => exact ⟨List.append_nil _, rfl⟩

theorem directAll_flatMap (calls : List (ProcessorCall plans)) {d : DirectProcessor plans}
    (hsome : 0 < d.maxBlockFrames) :
    played (directAll turn (calls.flatMap (frameByFrame d.maxBlockFrames)) d).1 =
        played (directAll turn calls d).1 ∧
      (directAll turn (calls.flatMap (frameByFrame d.maxBlockFrames)) d).2 =
        (directAll turn calls d).2 := by
  induction calls generalizing d with
  | nil => exact ⟨rfl, rfl⟩
  | cons call calls ih =>
    obtain ⟨hplayed, hstate⟩ := directAll_frameByFrame turn call hsome
    have hmaximum := direct_maxBlockFrames turn call d
    obtain ⟨hplayed', hstate'⟩ := ih (d := (call.direct turn d).2) (by omega)
    rw [hmaximum] at hplayed' hstate'
    rw [List.flatMap_cons, directAll_append, hstate, hstate']
    refine ⟨?_, rfl⟩
    simp only [played, List.flatMap_append] at hplayed hplayed' ⊢
    rw [hplayed, hplayed']
    rfl

variable [IsStrictOrderedRing K]

/-- Calls with the same frames and the same control calls between them put out the same samples
and leave the same processor. -/
theorem blocks_do_not_matter (hexact : plans.Exact) (preset : PreparedHrir plans)
    (mode : RenderMode K) {maxBlockFrames : ℕ} (hsome : 0 < maxBlockFrames)
    (hfits : maxBlockFrames * 2 < USIZE_VALUES) {calls calls' : List (ProcessorCall plans)}
    (hsame : calls.flatMap (frameByFrame maxBlockFrames) =
      calls'.flatMap (frameByFrame maxBlockFrames)) :
    ∃ p answers answers' after after',
      AudioProcessor.fromPrepared (.new preset mode) maxBlockFrames = .ok p ∧
      performAll turn calls p = some (answers, after) ∧
      performAll turn calls' p = some (answers', after') ∧ played answers = played answers' ∧
      after' = { after with
        activeScratch := after'.activeScratch, pendingScratch := after'.pendingScratch } := by
  obtain ⟨p, hnew, hfollows⟩ := AudioProcessor.follows_fromPrepared preset mode hsome hfits
  obtain ⟨after, hrun, hafter⟩ := performAll_follows turn hexact calls hfollows
  obtain ⟨after', hrun', hafter'⟩ := performAll_follows turn hexact calls' hfollows
  obtain ⟨hplayed, hstate⟩ := directAll_flatMap turn calls
    (d := .new preset mode maxBlockFrames) hsome
  obtain ⟨hplayed', hstate'⟩ := directAll_flatMap turn calls'
    (d := .new preset mode maxBlockFrames) hsome
  have hmaximum : (DirectProcessor.new preset mode maxBlockFrames).maxBlockFrames =
    maxBlockFrames := rfl
  rw [hmaximum, hsame] at hplayed hstate
  rw [hmaximum] at hplayed' hstate'
  rw [← hstate, hstate'] at hafter
  exact ⟨p, _, _, after, after', hnew, hrun, hrun', hplayed.symm.trans hplayed',
    hafter.unique hafter'⟩

/-- One block of two frames, of which the first is silent. -/
def echoBlock : List (ProcessorCall (realDft PARTITION_FRAMES)) := [.processBlock [0, 0, 1, -1] 4]

/-- The same frames by themselves, after a block that is rejected. -/
def echoFrames : List (ProcessorCall (realDft PARTITION_FRAMES)) :=
  [.processBlock [0] 1, .processBlock [0, 0] 2, .processBlock [1, -1] 2]

theorem echoBlock_frames :
    echoBlock.flatMap (frameByFrame 480) = echoFrames.flatMap (frameByFrame 480) := by
  have hsilent : validateStereoBlocks ([0, 0] : List ℝ) 2 = .ok 1 :=
    validateStereoBlocks_pair (by norm_num [MAX_ABS_INPUT_SAMPLE])
      (by norm_num [MAX_ABS_INPUT_SAMPLE])
  have hloud : validateStereoBlocks ([1, -1] : List ℝ) 2 = .ok 1 :=
    validateStereoBlocks_pair (by norm_num [MAX_ABS_INPUT_SAMPLE])
      (by norm_num [MAX_ABS_INPUT_SAMPLE])
  have hmem : ∀ sample ∈ ([0, 0, 1, -1] : List ℝ), |sample| ≤ MAX_ABS_INPUT_SAMPLE := by
    norm_num [MAX_ABS_INPUT_SAMPLE]
  have hblock : validateStereoBlocks ([0, 0, 1, -1] : List ℝ) 4 = .ok 2 := by
    simpa using validateStereoBlocks_of_mem (by simp) hmem
  have hodd : validateStereoBlocks ([0] : List ℝ) 1 = .error (.OddStereoBlock 1) := by
    simp [validateStereoBlocks]
  simp [echoBlock, echoFrames, frameByFrame, hsilent, hloud, hblock, hodd, pairs]

theorem blocks_do_not_matter_echo :
    ∃ p answers answers' after after',
      AudioProcessor.fromPrepared (.new EngineCall.echoPreset .FixedFront) 480 = .ok p ∧
      performAll realTurn echoBlock p = some (answers, after) ∧
      performAll realTurn echoFrames p = some (answers', after') ∧
      played answers = played answers' ∧
      after' = { after with
        activeScratch := after'.activeScratch, pendingScratch := after'.pendingScratch } :=
  blocks_do_not_matter realTurn (realDft_exact PARTITION_FRAMES) EngineCall.echoPreset .FixedFront
    (by norm_num) (by norm_num [USIZE_VALUES]) echoBlock_frames

end Direct

end ProcessorCall

end PepeAudio.Audio
