import PepeAudio.Lib.Interleave
import PepeAudio.Lib.Program

/-!
# Loading an HRIR from a WAVE file

The WAVE reader is outside: of it there are its header, the number of frames it reports and
the stream of samples it yields, each of which may be a read error. A sample is the bit
pattern of a float.
-/
namespace PepeAudio.Hrir

abbrev F32 := UInt32

/-- `f32::is_finite`: without its sign the pattern is below that of the infinity. -/
def isFinite (sample : F32) : Bool := sample.toNat % 2 ^ 31 < 0x7f800000

/-- `f32::from(sample) / 32_768.0`, which is exact. -/
def normalized (sample : Int16) : F32 :=
  let magnitude := sample.toInt.natAbs
  if magnitude = 0 then 0
  else
    let exponent := magnitude.log2
    UInt32.ofNat ((if sample.toInt < 0 then 2 ^ 31 else 0) + (exponent + 112) * 2 ^ 23
      + (magnitude - 2 ^ exponent) * 2 ^ (23 - exponent))

inductive VirtualDirection where
  | FrontLeft
  | FrontRight
  | FrontCenter
  | BackLeft
  | BackRight
  | SideLeft
  | SideRight
  deriving DecidableEq, Repr

def VirtualDirection.index : VirtualDirection → Fin 7
  | FrontLeft => 0
  | FrontRight => 1
  | FrontCenter => 2
  | BackLeft => 3
  | BackRight => 4
  | SideLeft => 5
  | SideRight => 6

inductive HesuviSampleRate where
  | Hz44100
  | Hz48000
  deriving DecidableEq, Repr

inductive SourceLayout where
  | SevenChannelMirrored
  | FourteenChannelIndependent
  deriving DecidableEq, Repr

structure HrirPair where
  leftEar : List F32
  rightEar : List F32
  deriving DecidableEq, Repr

def HrirPair.fromPlanes (leftEar rightEar : List F32) : HrirPair := ⟨leftEar, rightEar⟩

structure HesuviPreset where
  sampleRate : HesuviSampleRate
  sourceLayout : SourceLayout
  frameCount : ℕ
  pairs : Vector HrirPair 7
  deriving DecidableEq, Repr

def HesuviPreset.pair (preset : HesuviPreset) (direction : VirtualDirection) : HrirPair :=
  preset.pairs.get direction.index

inductive SampleFormat where
  | Int
  | Float
  deriving DecidableEq, Repr

structure WavSpec where
  channels : UInt16
  sampleRate : UInt32
  bitsPerSample : UInt16
  sampleFormat : SampleFormat
  deriving DecidableEq, Repr

/-- The samples the reader yields in either of the two types they can be asked for. -/
structure WavReader (WaveError : Type) where
  spec : WavSpec
  duration : UInt32
  intSamples : List (Except WaveError Int16)
  floatSamples : List (Except WaveError F32)

inductive WaveSampleKind where
  | Integer
  | Float
  deriving DecidableEq, Repr

inductive LoadError (WaveError : Type) where
  | wave (error : WaveError)
  | unsupportedChannelCount (actual : UInt16)
  | unsupportedSampleRate (actual : UInt32)
  | unsupportedSampleEncoding (kind : WaveSampleKind) (bitsPerSample : UInt16)
  | zeroLength
  | tooManyFrames (actual maximum : ℕ)
  | frameCountOutOfRange (actual : ℕ)
  | nonFiniteSample (frame channel : ℕ)
  | unequalFrameCount (channel expected actual : ℕ)
  deriving DecidableEq, Repr

abbrev LoadResult (WaveError α : Type) : Type := Except (LoadError WaveError) α

def DEFAULT_MAX_FRAMES : ℕ := 96000

structure LoadLimits where
  maxFrames : ℕ := DEFAULT_MAX_FRAMES
  deriving DecidableEq, Repr

def MAP_14 : Vector (Fin 14 × Fin 14) 7 :=
  #v[(0, 1), (8, 7), (6, 13), (4, 5), (12, 11), (2, 3), (10, 9)]

def MAP_7 : Vector (Fin 7 × Fin 7) 7 :=
  #v[(0, 1), (1, 0), (6, 6), (4, 5), (5, 4), (2, 3), (3, 2)]

/-- A source layout with its channels and the left and right channel of each direction. -/
structure ChannelMapping where
  sourceLayout : SourceLayout
  channelCount : ℕ
  mapping : Vector (Fin channelCount × Fin channelCount) 7
  positive : 0 < channelCount

variable {WaveError : Type}

def validateChannels (channels : UInt16) : LoadResult WaveError ChannelMapping :=
  if channels = 7 then .ok ⟨.SevenChannelMirrored, 7, MAP_7, by decide⟩
  else if channels = 14 then .ok ⟨.FourteenChannelIndependent, 14, MAP_14, by decide⟩
  else .error (.unsupportedChannelCount channels)

def validateSampleRate (sampleRate : UInt32) : LoadResult WaveError HesuviSampleRate :=
  if sampleRate = 44100 then .ok .Hz44100
  else if sampleRate = 48000 then .ok .Hz48000
  else .error (.unsupportedSampleRate sampleRate)

def validateEncoding (sampleFormat : SampleFormat) (bitsPerSample : UInt16) :
    LoadResult WaveError Unit :=
  match sampleFormat with
  | .Int =>
    if bitsPerSample = 16 then .ok ()
    else .error (.unsupportedSampleEncoding .Integer bitsPerSample)
  | .Float =>
    if bitsPerSample = 32 then .ok ()
    else .error (.unsupportedSampleEncoding .Float bitsPerSample)

/-- The largest `usize`. -/
def MAX_FRAME_COUNT : ℕ := 2 ^ 64 - 1

/-- The checks of `decode` on the reported number of frames. -/
def validateFrameCount (duration : UInt32) (limits : LoadLimits) :
    LoadResult WaveError ℕ :=
  if MAX_FRAME_COUNT < duration.toNat then .error (.frameCountOutOfRange duration.toNat)
  else if duration.toNat = 0 then .error .zeroLength
  else if duration.toNat > limits.maxFrames then
    .error (.tooManyFrames duration.toNat limits.maxFrames)
  else .ok duration.toNat

def pushSample {channelCount : ℕ} (hpos : 0 < channelCount)
    (planes : Vector (List F32) channelCount) (sampleIndex : ℕ) (sample : F32) :
    LoadResult WaveError (Vector (List F32) channelCount) :=
  let channel := sampleIndex % channelCount
  let frame := sampleIndex / channelCount
  if isFinite sample then .ok (pushPlane planes channel (Nat.mod_lt _ hpos) sample)
  else .error (.nonFiniteSample frame channel)

/-- The loop over the enumerated samples. -/
def pushSamples {β : Type} {channelCount : ℕ} (hpos : 0 < channelCount) (convert : β → F32)
    (planes : Vector (List F32) channelCount) (sampleIndex : ℕ) :
    List (Except WaveError β) → LoadResult WaveError (Vector (List F32) channelCount)
  | [] => .ok planes
  | sample :: samples => do
    let sample ← sample.mapError .wave
    let planes ← pushSample hpos planes sampleIndex (convert sample)
    pushSamples hpos convert planes (sampleIndex + 1) samples

/-- The loop over the enumerated planes, from `channel` on. -/
def validatePlaneLengths (expected : ℕ) (channel : ℕ) :
    List (List F32) → LoadResult WaveError Unit
  | [] => .ok ()
  | plane :: planes =>
    if plane.length ≠ expected then .error (.unequalFrameCount channel expected plane.length)
    else validatePlaneLengths expected (channel + 1) planes

def decode (reader : WavReader WaveError) (limits : LoadLimits) :
    LoadResult WaveError HesuviPreset := do
  let spec := reader.spec
  let layout ← validateChannels spec.channels
  let sampleRate ← validateSampleRate spec.sampleRate
  validateEncoding spec.sampleFormat spec.bitsPerSample
  let frameCount ← validateFrameCount reader.duration limits
  let planes := Vector.replicate layout.channelCount []
  let planes ← match spec.sampleFormat with
    | .Int => pushSamples layout.positive normalized planes 0 reader.intSamples
    | .Float => pushSamples layout.positive id planes 0 reader.floatSamples
  validatePlaneLengths frameCount 0 planes.toList
  let pairs := layout.mapping.map fun (left, right) =>
    HrirPair.fromPlanes (planes.get left) (planes.get right)
  pure ⟨sampleRate, layout.sourceLayout, frameCount, pairs⟩

end PepeAudio.Hrir
