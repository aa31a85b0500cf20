import PepeAudio.Audio.Renderer

/-!
# The processor

`AudioProcessor` mixes the dry input with what its renderer makes of it. A new renderer is faded
in beside the old one, and while nothing wet is heard the renderer is only kept warm.
-/
namespace PepeAudio.Audio

/-- The values of the machine's addresses. -/
def USIZE_VALUES : ℕ := 2 ^ 64

structure AudioProcessor (K S : Type*) [Field K] [LinearOrder K] where
  mode : RenderMode K
  active : RendererState K S
  pending : Option (RendererState K S)
  presetFade : Option (EqualPowerFade K)
  wetMix : UnitRamp K
  outputGain : GainRamp K
  activeScratch : List K
  pendingScratch : List K
  maxBlockFrames : ℕ

namespace AudioProcessor

variable {K S : Type*} [Field K] [LinearOrder K] [CommRing S] [Algebra K S]

def fromPrepared [IsStrictOrderedRing K] (prepared : PreparedRenderer K S) (maxBlockFrames : ℕ) :
    Except (DspError K) (AudioProcessor K S) :=
  if maxBlockFrames = 0 then .error .ZeroBlockCapacity
  else if maxBlockFrames * 2 ≥ USIZE_VALUES then .error .ResampleLengthOverflow
  else .ok {
    mode := prepared.mode,
    active := prepared.state,
    pending := none,
    presetFade := none,
    wetMix := UnitRamp.new 1,
    outputGain := GainRamp.new .UNITY,
    activeScratch := List.replicate (maxBlockFrames * 2) 0,
    pendingScratch := List.replicate (maxBlockFrames * 2) 0,
    maxBlockFrames }

/-- Only on the horizon is there a position to take over. -/
def placed (prepared : PreparedRenderer K S) (p : AudioProcessor K S) :
    Except (DspError K) (RendererState K S) :=
  match p.mode with
  | .HorizontalOrbit position => prepared.state.setOrbitPosition position
  | .FixedFront => .ok prepared.state

def installPreparedRenderer (prepared : PreparedRenderer K S) (transitionFrames : ℕ)
    (p : AudioProcessor K S) : Except (DspError K) (AudioProcessor K S) :=
  if p.pending.isSome then .error .PresetTransitionInProgress
  else if !prepared.state.matchesMode p.mode then .error .RendererModeMismatch
  else do
    let replacement ← p.placed prepared
    if transitionFrames ≤ 1 then .ok { p with active := replacement.reset }
    else .ok {
      p with
      pending := some replacement,
      presetFade := some (.new transitionFrames) }

def switchPreset {plans : FftPlans K S} (preset : PreparedHrir plans) (transitionFrames : ℕ)
    (p : AudioProcessor K S) : Except (DspError K) (AudioProcessor K S) :=
  p.installPreparedRenderer (.new preset p.mode) transitionFrames

def setWetEnabled (enabled : Bool) (transitionFrames : ℕ) (p : AudioProcessor K S) :
    AudioProcessor K S :=
  { p with wetMix := p.wetMix.setTarget (if enabled then 1 else 0) transitionFrames }

def setOutputGain (gain : LinearGain K) (transitionFrames : ℕ) (p : AudioProcessor K S) :
    AudioProcessor K S :=
  { p with outputGain := GainRamp.setTarget gain transitionFrames p.outputGain }

/-- The processor may have been changed when an error is returned. -/
def setOrbitPosition (position : HorizontalStereoPair K) (p : AudioProcessor K S) :
    Except (DspError K) Unit × AudioProcessor K S :=
  match p.active.setOrbitPosition position with
  | .error error => (.error error, p)
  | .ok active =>
    match p.pending with
    | none => (.ok (), { p with active, mode := .HorizontalOrbit position })
    | some pending =>
      match pending.setOrbitPosition position with
      | .error error => (.error error, { p with active })
      | .ok pending =>
        (.ok (), { p with active, pending := some pending, mode := .HorizontalOrbit position })

def reset (p : AudioProcessor K S) : AudioProcessor K S :=
  let p := match p.pending with
    | some pending => { p with pending := none, active := pending.reset, presetFade := none }
    | none => { p with active := p.active.reset }
  { p with
    wetMix := p.wetMix.settle,
    outputGain := p.outputGain.settle,
    activeScratch := List.replicate p.activeScratch.length 0,
    pendingScratch := List.replicate p.pendingScratch.length 0 }

def isSwitchingPreset (p : AudioProcessor K S) : Bool := p.pending.isSome

def isFullyDry (p : AudioProcessor K S) : Bool :=
  p.wetMix.isSettled && p.wetMix.current = 0 && p.pending.isNone && p.presetFade.isNone

/-- Frames of which the gain alone is changed. -/
def dryFrames : List K → AudioProcessor K S → List K × AudioProcessor K S
  | left :: right :: input, p =>
    let (gain, outputGain) := GainRamp.nextFrameGain p.outputGain
    let (output, p) := dryFrames input { p with outputGain }
    (ensureFiniteOutput (left * gain) :: ensureFiniteOutput (right * gain) :: output, p)
  | _, p => ([], p)

section Process

variable (turn : QuarterTurn K)

def fadeWeights (p : AudioProcessor K S) : (K × K) × Option (EqualPowerFade K) :=
  match p.presetFade with
  | some fade => (fade.nextWeights turn).map id some
  | none => ((1, 0), none)

/-- Frames of the input with those of both scratch buffers. -/
def mixFrames : List K → List K → List K → AudioProcessor K S → List K × AudioProcessor K S
  | left :: right :: input, activeLeft :: activeRight :: active,
      pendingLeft :: pendingRight :: pending, p =>
    let ((oldGain, newGain), presetFade) := p.fadeWeights turn
    let (mix, wetMix) := UnitRamp.next p.wetMix
    let (dryGain, wetGain) := equalPowerWeightsFinite turn mix
    let (gain, outputGain) := GainRamp.nextFrameGain p.outputGain
    let sample (input active pending : K) : K :=
      ensureFiniteOutput
        ((input * dryGain + (active * oldGain + pending * newGain) * wetGain) * gain)
    let (output, p) := mixFrames input active pending { p with presetFade, wetMix, outputGain }
    (sample left activeLeft pendingLeft :: sample right activeRight pendingRight :: output, p)
  | _, _, _, p => ([], p)

/-- A complete fade leaves the replacement. -/
def finishFade (p : AudioProcessor K S) : AudioProcessor K S :=
  if p.presetFade.any EqualPowerFade.isComplete then
    { p with active := p.pending.getD p.active, pending := none, presetFade := none }
  else p

variable [FloorRing K] (plans : FftPlans K S)

/-- What is rendered is written to the beginning of a scratch buffer. -/
def renderActive (input : List K) (p : AudioProcessor K S) :
    Option (Except (DspError K) (AudioProcessor K S)) := do
  let result ← p.active.renderBlock plans turn input input.length
  some (result.map fun (output, active) =>
    { p with active, activeScratch := output ++ p.activeScratch.drop input.length })

def renderPending (input : List K) (p : AudioProcessor K S) :
    Option (Except (DspError K) (AudioProcessor K S)) :=
  match p.pending with
  | none => some (.ok p)
  | some pending => do
    let result ← pending.renderBlock plans turn input input.length
    some (result.map fun (output, pending) =>
      { p with
        pending := some pending,
        pendingScratch := output ++ p.pendingScratch.drop input.length })

/-- A block and the length of the buffer for the output. -/
def processBlock (input : List K) (outputLength : ℕ) (p : AudioProcessor K S) :
    Option (Except (DspError K) (List K) × AudioProcessor K S) :=
  match validateStereoBlocks input outputLength with
  | .error error => some (.error error, p)
  | .ok frames =>
    if frames > p.maxBlockFrames then some (.error (.BlockTooLarge frames p.maxBlockFrames), p)
    else if p.isFullyDry then do
      let active ← p.active.warmBlockValidated plans input
      let (output, p) := dryFrames input { p with active }
      some (.ok output, p)
    else do
      match ← p.renderActive turn plans input with
      | .error error => some (.error error, p)
      | .ok p =>
        match ← p.renderPending turn plans input with
        | .error error => some (.error error, p)
        | .ok p =>
          let (output, p) := p.mixFrames turn input (p.activeScratch.take input.length)
            (p.pendingScratch.take input.length)
          some (.ok output, p.finishFade)

end Process

end AudioProcessor

end PepeAudio.Audio
