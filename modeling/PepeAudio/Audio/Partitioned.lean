import PepeAudio.Hrir.Loader
import PepeAudio.Lib.Convolution

/-!
# The partitioned engine

`PartitionedStereoEngine` convolves two input channels with the responses of the selected
directions. Each channel keeps the spectra of its last partitions in a ring, and the open
partition is transformed again whenever it has grown. Samples are elements of a field and
spectra of an algebra over it; `time` and the scratch buffers are overwritten before they are
read, and are left out.
-/
namespace PepeAudio.Audio

open Hrir (VirtualDirection)

def PARTITION_FRAMES : ℕ := 256

abbrev FftPlans (K S : Type*) [CommRing K] [CommRing S] [Algebra K S] :=
  RealTransform (PARTITION_FRAMES * 2) K S

structure SpectralPlane (S : Type*) where
  partitions : List S
  partitionCount : ℕ

structure DirectionKernel (S : Type*) where
  left : SpectralPlane S
  right : SpectralPlane S

structure PreparedHrirPair (K S : Type*) where
  leftEar : List K
  rightEar : List K
  leftSpectrum : SpectralPlane S
  rightSpectrum : SpectralPlane S

structure Selection (K : Type*) where
  first : VirtualDirection
  second : VirtualDirection
  firstGain : K
  secondGain : K

section Definitions

variable {K S : Type*} [Field K] [CommRing S] [Algebra K S] (plans : FftPlans K S)

def SpectralPlane.partition (plane : SpectralPlane S) (index : ℕ) : S :=
  plane.partitions.getD index 0

/-- The chunk of the given number, as `chunks` cuts them. -/
def chunk (impulse : List K) (index : ℕ) : List K :=
  (impulse.drop (index * PARTITION_FRAMES)).take PARTITION_FRAMES

def prepare (impulse : List K) : SpectralPlane S :=
  let partitionCount := (impulse.length + (PARTITION_FRAMES - 1)) / PARTITION_FRAMES
  let normalization : K := ((PARTITION_FRAMES * 2 : ℕ) : K)⁻¹
  { partitions := (List.range partitionCount).map fun index =>
      normalization • plans.forward fun i => (chunk impulse index).getD i 0,
    partitionCount }

/-- A preset, of which all planes are non-empty, equally long and prepared. -/
structure PreparedHrir where
  pair : VirtualDirection → PreparedHrirPair K S
  frameCount : ℕ
  frameCount_pos : 0 < frameCount
  left_length : ∀ direction, (pair direction).leftEar.length = frameCount
  right_length : ∀ direction, (pair direction).rightEar.length = frameCount
  left_prepared : ∀ direction,
    (pair direction).leftSpectrum = prepare plans (pair direction).leftEar
  right_prepared : ∀ direction,
    (pair direction).rightSpectrum = prepare plans (pair direction).rightEar

def Selection.exact (direction : VirtualDirection) : Selection K := ⟨direction, direction, 1, 0⟩

structure SourceHistory (K S : Type*) where
  previous : List K
  current : List K
  spectra : List S
  partitionCount : ℕ
  currentSlot : ℕ
  fill : ℕ

namespace SourceHistory

def new (partitionCount : ℕ) : SourceHistory K S where
  previous := List.replicate PARTITION_FRAMES 0
  current := List.replicate PARTITION_FRAMES 0
  spectra := List.replicate partitionCount 0
  partitionCount
  currentSlot := 0
  fill := 0

/-- The open partition takes the samples of a channel, and is transformed with the one before. -/
def appendInterleaved (input : List K) (channel frames : ℕ) (s : SourceHistory K S) :
    SourceHistory K S :=
  let current := s.current.mapIdx fun i sample =>
    if s.fill ≤ i ∧ i < s.fill + frames then input.getD (channel + 2 * (i - s.fill)) sample
    else sample
  { s with
    current,
    fill := s.fill + frames,
    spectra := s.spectra.set s.currentSlot
      (plans.forward fun i => (s.previous ++ current).getD i 0) }

def spectrumAtDelay (delay : ℕ) (s : SourceHistory K S) : S :=
  s.spectra.getD ((s.currentSlot + s.partitionCount - delay) % s.partitionCount) 0

def finishPartition (s : SourceHistory K S) : SourceHistory K S :=
  if s.fill ≠ PARTITION_FRAMES then s
  else
    let currentSlot := (s.currentSlot + 1) % s.partitionCount
    { s with
      previous := s.current,
      current := List.replicate PARTITION_FRAMES 0,
      fill := 0,
      currentSlot,
      spectra := s.spectra.set currentSlot 0 }

def reset (s : SourceHistory K S) : SourceHistory K S := new s.partitionCount

end SourceHistory

/-- The second half of the way back, in which nothing has wrapped around. -/
def convolve (source : SourceHistory K S) (first second : SpectralPlane S)
    (selection : Selection K) : List K :=
  let spectrum := (List.range source.partitionCount).foldl (fun spectrum partition =>
    spectrum + source.spectrumAtDelay partition *
      (selection.firstGain • first.partition partition +
        selection.secondGain • second.partition partition)) 0
  (List.ofFn (plans.inverse (plans.realEnds spectrum))).drop PARTITION_FRAMES

structure PartitionedStereoEngine (K S : Type*) where
  kernels : VirtualDirection → DirectionKernel S
  leftSource : SourceHistory K S
  rightSource : SourceHistory K S

namespace PartitionedStereoEngine

variable {plans}

def new (preset : PreparedHrir plans) : PartitionedStereoEngine K S :=
  let kernels (direction : VirtualDirection) : DirectionKernel S :=
    ⟨(preset.pair direction).leftSpectrum, (preset.pair direction).rightSpectrum⟩
  let partitionCount := (kernels .FrontLeft).left.partitionCount
  ⟨kernels, .new partitionCount, .new partitionCount⟩

variable (plans)

/-- One ear's share of one channel is added to every second sample. -/
def addEar (ear : Fin 2) (leftSource : Bool) (selection : Selection K) (start : ℕ)
    (engine : PartitionedStereoEngine K S) (output : List K) : List K :=
  let source := if leftSource then engine.leftSource else engine.rightSource
  let first := engine.kernels selection.first
  let second := engine.kernels selection.second
  let first := if ear = 0 then first.left else first.right
  let second := if ear = 0 then second.left else second.right
  let rendered := convolve plans source first second selection
  output.mapIdx fun index sample =>
    if index % 2 = ear then sample + rendered.getD (start + index / 2) 0 else sample

def renderRange (start frames : ℕ) (left right : Selection K)
    (engine : PartitionedStereoEngine K S) : List K :=
  let output := List.replicate (frames * 2) 0
  let output := engine.addEar plans 0 true left start output
  let output := engine.addEar plans 1 true left start output
  let output := engine.addEar plans 0 false right start output
  engine.addEar plans 1 false right start output

def append (samples : List K) (frames : ℕ) (engine : PartitionedStereoEngine K S) :
    PartitionedStereoEngine K S :=
  { engine with
    leftSource := engine.leftSource.appendInterleaved plans samples 0 frames,
    rightSource := engine.rightSource.appendInterleaved plans samples 1 frames }

def finishPartition (engine : PartitionedStereoEngine K S) : PartitionedStereoEngine K S :=
  { engine with
    leftSource := engine.leftSource.finishPartition,
    rightSource := engine.rightSource.finishPartition }

/-- The loop of `render_validated` on what is left of the input; without fuel it does not end. -/
def renderLoop (left right : Selection K) :
    ℕ → List K → PartitionedStereoEngine K S → Option (List K × PartitionedStereoEngine K S)
  | 0, input, engine => if input.length / 2 = 0 then some ([], engine) else none
  | fuel + 1, input, engine =>
    if input.length / 2 = 0 then some ([], engine)
    else
      let frames := min (PARTITION_FRAMES - engine.leftSource.fill) (input.length / 2)
      let loaded := engine.append plans (input.take (frames * 2)) frames
      let rendered := loaded.renderRange plans engine.leftSource.fill frames left right
      (renderLoop left right fuel (input.drop (frames * 2)) loaded.finishPartition).map
        fun rest => (rendered ++ rest.1, rest.2)

def renderValidated (input : List K) (left right : Selection K)
    (engine : PartitionedStereoEngine K S) : Option (List K × PartitionedStereoEngine K S) :=
  engine.renderLoop plans left right (input.length / 2) input

def warmLoop : ℕ → List K → PartitionedStereoEngine K S → Option (PartitionedStereoEngine K S)
  | 0, input, engine => if input.length / 2 = 0 then some engine else none
  | fuel + 1, input, engine =>
    if input.length / 2 = 0 then some engine
    else
      let frames := min (PARTITION_FRAMES - engine.leftSource.fill) (input.length / 2)
      let loaded := engine.append plans (input.take (frames * 2)) frames
      warmLoop fuel (input.drop (frames * 2)) loaded.finishPartition

def warmValidated (input : List K) (engine : PartitionedStereoEngine K S) :
    Option (PartitionedStereoEngine K S) :=
  engine.warmLoop plans (input.length / 2) input

def reset (engine : PartitionedStereoEngine K S) : PartitionedStereoEngine K S :=
  { engine with leftSource := engine.leftSource.reset, rightSource := engine.rightSource.reset }

end PartitionedStereoEngine

end Definitions

end PepeAudio.Audio
