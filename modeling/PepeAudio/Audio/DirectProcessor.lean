import PepeAudio.Audio.OverlapSave
import PepeAudio.Audio.Processor

/-!
# The processor, frame by frame

What the processor is for: every frame is heard by the active renderer, and by its replacement
while one is faded in; what both make of the past is mixed with the frame itself. Here renderers
keep all samples and apply the filters directly; there are no blocks, no scratch buffers and no
path of its own for a dry signal. The processor refines this, however the frames come in blocks.
-/
namespace PepeAudio.Audio

open Hrir (VirtualDirection)

variable {K S : Type*} [Field K] [LinearOrder K] [CommRing S] [Algebra K S] {plans : FftPlans K S}

/-- A preset and all samples since the last reset. -/
structure DirectRenderer (plans : FftPlans K S) where
  preset : PreparedHrir plans
  mode : RenderMode K
  leftSamples : List K
  rightSamples : List K

namespace DirectRenderer

def new (preset : PreparedHrir plans) (mode : RenderMode K) : DirectRenderer plans :=
  ⟨preset, mode, [], []⟩

def reset (r : DirectRenderer plans) : DirectRenderer plans := new r.preset r.mode

def hear (left right : K) (r : DirectRenderer plans) : DirectRenderer plans :=
  { r with leftSamples := r.leftSamples ++ [left], rightSamples := r.rightSamples ++ [right] }

/-- Where the two channels are heard from. -/
def selections [FloorRing K] (turn : QuarterTurn K) (r : DirectRenderer plans) :
    Selection K × Selection K :=
  match r.mode with
  | .FixedFront => (.exact .FrontLeft, .exact .FrontRight)
  | .HorizontalOrbit position => (.ofBlend (blendForAzimuth turn position.leftDegrees),
      .ofBlend (blendForAzimuth turn position.rightDegrees))

/-- What an ear hears of the last frame. -/
def atEar [FloorRing K] (turn : QuarterTurn K) (ear : ℕ) (r : DirectRenderer plans) : K :=
  r.preset.direct (r.selections turn).1 (r.selections turn).2 ear r.leftSamples r.rightSamples
    (r.leftSamples.length - 1)

end DirectRenderer

structure DirectProcessor (plans : FftPlans K S) where
  active : DirectRenderer plans
  pending : Option (DirectRenderer plans × EqualPowerFade K)
  wetMix : UnitRamp K
  outputGain : GainRamp K
  maxBlockFrames : ℕ

namespace DirectProcessor

def new [IsStrictOrderedRing K] (preset : PreparedHrir plans) (mode : RenderMode K)
    (maxBlockFrames : ℕ) : DirectProcessor plans :=
  ⟨.new preset mode, none, UnitRamp.new 1, GainRamp.new .UNITY, maxBlockFrames⟩

section Frames

variable [FloorRing K] (turn : QuarterTurn K)

/-- The wet signal of the last frame. -/
def wet (ear : ℕ) (d : DirectProcessor plans) : K :=
  match d.pending with
  | none => d.active.atEar turn ear
  | some (pending, fade) =>
    d.active.atEar turn ear * (fade.nextWeights turn).1.1 +
      pending.atEar turn ear * (fade.nextWeights turn).1.2

def hear (left right : K) (d : DirectProcessor plans) : DirectProcessor plans :=
  { d with
    active := d.active.hear left right,
    pending := d.pending.map fun (pending, fade) => (pending.hear left right, fade) }

def sample (input wet : K) (d : DirectProcessor plans) : K :=
  let (dryGain, wetGain) := equalPowerWeightsFinite turn d.wetMix.current
  ensureFiniteOutput ((input * dryGain + wet * wetGain) * d.outputGain.current)

/-- All transitions go on, and a complete fade leaves the replacement. -/
def advance (d : DirectProcessor plans) : DirectProcessor plans :=
  let d := { d with wetMix := d.wetMix.advance, outputGain := d.outputGain.advance }
  match d.pending with
  | none => d
  | some (pending, fade) =>
    let fade := (fade.nextWeights turn).2
    if fade.isComplete then { d with active := pending, pending := none }
    else { d with pending := some (pending, fade) }

def frames : List K → DirectProcessor plans → List K × DirectProcessor plans
  | left :: right :: input, d =>
    let d := d.hear left right
    let (output, d') := frames input (d.advance turn)
    (d.sample turn left (d.wet turn 0) :: d.sample turn right (d.wet turn 1) :: output, d')
  | _, d => ([], d)

def processBlock (input : List K) (outputLength : ℕ) (d : DirectProcessor plans) :
    Except (DspError K) (List K) × DirectProcessor plans :=
  match validateStereoBlocks input outputLength with
  | .error error => (.error error, d)
  | .ok frames =>
    if frames > d.maxBlockFrames then (.error (.BlockTooLarge frames d.maxBlockFrames), d)
    else ((.ok (d.frames turn input).1, (d.frames turn input).2))

end Frames

def sameKind : RenderMode K → RenderMode K → Bool
  | .FixedFront, .FixedFront => true
  | .HorizontalOrbit _, .HorizontalOrbit _ => true
  | _, _ => false

/-- A replacement takes its place where the active renderer stands. -/
def install (preset : PreparedHrir plans) (mode : RenderMode K) (transitionFrames : ℕ)
    (d : DirectProcessor plans) : Except (DspError K) (DirectProcessor plans) :=
  if d.pending.isSome then .error .PresetTransitionInProgress
  else if !sameKind mode d.active.mode then .error .RendererModeMismatch
  else
    let replacement := DirectRenderer.new preset d.active.mode
    if transitionFrames ≤ 1 then .ok { d with active := replacement }
    else .ok { d with pending := some (replacement, .new transitionFrames) }

def setOrbitPosition (position : HorizontalStereoPair K) (d : DirectProcessor plans) :
    Except (DspError K) (DirectProcessor plans) :=
  match d.active.mode with
  | .FixedFront => .error .OrbitModeRequired
  | .HorizontalOrbit _ => .ok { d with
      active := { d.active with mode := .HorizontalOrbit position },
      pending := d.pending.map fun (pending, fade) =>
        ({ pending with mode := .HorizontalOrbit position }, fade) }

def reset (d : DirectProcessor plans) : DirectProcessor plans :=
  { d with
    active := match d.pending with
      | some (pending, _) => pending.reset
      | none => d.active.reset,
    pending := none,
    wetMix := d.wetMix.settle,
    outputGain := d.outputGain.settle }

end DirectProcessor

inductive ProcessorCall (plans : FftPlans K S) where
  | processBlock (input : List K) (outputLength : ℕ)
  | installPreparedRenderer (preset : PreparedHrir plans) (mode : RenderMode K)
      (transitionFrames : ℕ)
  | switchPreset (preset : PreparedHrir plans) (transitionFrames : ℕ)
  | setWetEnabled (enabled : Bool) (transitionFrames : ℕ)
  | setOutputGain (gain : LinearGain K) (transitionFrames : ℕ)
  | setOrbitPosition (position : HorizontalStereoPair K)
  | reset

/-- What a caller sees of a call. -/
structure ProcessorAnswer (K : Type*) where
  result : Except (DspError K) (List K)
  wetMix : K
  outputGain : K
  isSwitchingPreset : Bool

namespace ProcessorCall

variable [FloorRing K] (turn : QuarterTurn K)

/-- A call of the processor; a control call that fails leaves it as it was. -/
def perform (p : AudioProcessor K S) :
    ProcessorCall plans → Option (Except (DspError K) (List K) × AudioProcessor K S)
  | .processBlock input outputLength => p.processBlock turn plans input outputLength
  | .installPreparedRenderer preset mode transitionFrames =>
    match p.installPreparedRenderer (.new preset mode) transitionFrames with
    | .error error => some (.error error, p)
    | .ok p => some (.ok [], p)
  | .switchPreset preset transitionFrames =>
    match p.switchPreset preset transitionFrames with
    | .error error => some (.error error, p)
    | .ok p => some (.ok [], p)
  | .setWetEnabled enabled transitionFrames =>
    some (.ok [], p.setWetEnabled enabled transitionFrames)
  | .setOutputGain gain transitionFrames => some (.ok [], p.setOutputGain gain transitionFrames)
  | .setOrbitPosition position =>
    some ((p.setOrbitPosition position).1.map fun _ => [], (p.setOrbitPosition position).2)
  | .reset => some (.ok [], p.reset)

def answer (result : Except (DspError K) (List K)) (p : AudioProcessor K S) : ProcessorAnswer K :=
  ⟨result, p.wetMix.current, p.outputGain.current, p.isSwitchingPreset⟩

def performAll : List (ProcessorCall plans) → AudioProcessor K S →
    Option (List (ProcessorAnswer K) × AudioProcessor K S)
  | [], p => some ([], p)
  | call :: calls, p =>
    (call.perform turn p).bind fun after =>
      (performAll calls after.2).map fun rest => (answer after.1 after.2 :: rest.1, rest.2)

/-- The same call, frame by frame. -/
def direct (d : DirectProcessor plans) :
    ProcessorCall plans → Except (DspError K) (List K) × DirectProcessor plans
  | .processBlock input outputLength => d.processBlock turn input outputLength
  | .installPreparedRenderer preset mode transitionFrames =>
    match d.install preset mode transitionFrames with
    | .error error => (.error error, d)
    | .ok d => (.ok [], d)
  | .switchPreset preset transitionFrames =>
    match d.install preset d.active.mode transitionFrames with
    | .error error => (.error error, d)
    | .ok d => (.ok [], d)
  | .setWetEnabled enabled transitionFrames =>
    (.ok [], { d with wetMix := d.wetMix.setTarget (if enabled then 1 else 0) transitionFrames })
  | .setOutputGain gain transitionFrames =>
    (.ok [], { d with outputGain := GainRamp.setTarget gain transitionFrames d.outputGain })
  | .setOrbitPosition position =>
    match d.setOrbitPosition position with
    | .error error => (.error error, d)
    | .ok d => (.ok [], d)
  | .reset => (.ok [], d.reset)

def directAnswer (result : Except (DspError K) (List K)) (d : DirectProcessor plans) :
    ProcessorAnswer K :=
  ⟨result, d.wetMix.current, d.outputGain.current, d.pending.isSome⟩

def directAll : List (ProcessorCall plans) → DirectProcessor plans →
    List (ProcessorAnswer K) × DirectProcessor plans
  | [], d => ([], d)
  | call :: calls, d =>
    let rest := directAll calls (call.direct turn d).2
    (directAnswer (call.direct turn d).1 (call.direct turn d).2 :: rest.1, rest.2)

end ProcessorCall

end PepeAudio.Audio
