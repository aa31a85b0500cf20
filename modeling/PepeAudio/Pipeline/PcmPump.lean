import PepeAudio.Lib.FillBuffer
import PepeAudio.Lib.Run

/-!
# The PCM pump

The pump reads what the decoder has for it, hands the whole frames of it to the
audio processor and writes the processed frames to the consumer. A read may end
inside a frame and a write may take a part of the bytes; the pump is a machine that
reacts to one such event after the other. A sample is the bit pattern of a float.
-/
namespace PepeAudio.Pipeline

def PCM_FRAME_BYTES : ℕ := 8
def MAX_BLOCK_FRAMES : ℕ := 4800
def MAX_PCM_BUFFER_BYTES : ℕ := 1536000
def MAX_SONGBIRD_BUFFER_BYTES : ℕ := 384000
def MAX_CHANNEL_CAPACITY : ℕ := 4096
def MAX_TRANSITION_FRAMES : ℕ := 96000
def MAX_SHUTDOWN_TIMEOUT : ℕ := 60000000000

/-- The error of the decoder stands for those of its pipe and of its process. -/
inductive PipelineError (DecoderError DspError : Type) where
  | invalidConfig
  | partialPcmFrame
  | decoder (error : DecoderError)
  | dsp (error : DspError)
  | workerClosed
  | decoderPipe
  | outputClosed
  deriving DecidableEq, Repr

/-- `usize::checked_mul`. -/
def checkedMul (a b : ℕ) : Option ℕ := if a * b < 2 ^ 64 then some (a * b) else none

/-- The timeout is in nanoseconds. -/
structure PipelineConfig where
  blockFrames : ℕ
  pcmBufferBytes : ℕ
  songbirdBufferBytes : ℕ
  controlCapacity : ℕ
  eventCapacity : ℕ
  transitionFrames : ℕ
  shutdownTimeout : ℕ
  deriving DecidableEq, Repr

def PipelineConfig.validate {D E : Type} (config : PipelineConfig) :
    Except (PipelineError D E) PipelineConfig :=
  if config.blockFrames = 0 ∨ config.blockFrames > MAX_BLOCK_FRAMES ∨
      config.controlCapacity = 0 ∨ config.controlCapacity > MAX_CHANNEL_CAPACITY ∨
      config.eventCapacity = 0 ∨ config.eventCapacity > MAX_CHANNEL_CAPACITY ∨
      config.transitionFrames > MAX_TRANSITION_FRAMES ∨
      config.shutdownTimeout = 0 ∨ config.shutdownTimeout > MAX_SHUTDOWN_TIMEOUT ∨
      config.pcmBufferBytes > MAX_PCM_BUFFER_BYTES ∨
      config.songbirdBufferBytes > MAX_SONGBIRD_BUFFER_BYTES then
    .error .invalidConfig
  else match checkedMul config.blockFrames PCM_FRAME_BYTES with
    | none => .error .invalidConfig
    | some blockBytes =>
      if config.pcmBufferBytes < blockBytes ∨ config.songbirdBufferBytes < PCM_FRAME_BYTES ∨
          config.pcmBufferBytes % PCM_FRAME_BYTES ≠ 0 ∨
          config.songbirdBufferBytes % PCM_FRAME_BYTES ≠ 0 then
        .error .invalidConfig
      else .ok config

abbrev Sample := UInt32

/-- `f32::from_le_bytes`. -/
def fromLeBytes (b₀ b₁ b₂ b₃ : UInt8) : Sample :=
  UInt32.ofNat (b₀.toNat + 256 * b₁.toNat + 65536 * b₂.toNat + 16777216 * b₃.toNat)

/-- `f32::to_le_bytes`. -/
def toLeBytes (sample : Sample) : List UInt8 :=
  [UInt8.ofNat sample.toNat, UInt8.ofNat (sample.toNat / 256),
    UInt8.ofNat (sample.toNat / 65536), UInt8.ofNat (sample.toNat / 16777216)]

def decodeSamples : List UInt8 → List Sample
  | b₀ :: b₁ :: b₂ :: b₃ :: bytes => fromLeBytes b₀ b₁ b₂ b₃ :: decodeSamples bytes
  | _ => []

def encodeSamples (samples : List Sample) : List UInt8 := samples.flatMap toLeBytes

@[simp] theorem toLeBytes_fromLeBytes (b₀ b₁ b₂ b₃ : UInt8) :
    toLeBytes (fromLeBytes b₀ b₁ b₂ b₃) = [b₀, b₁, b₂, b₃] := by
  have h₀ := b₀.toNat_lt
  have h₁ := b₁.toNat_lt
  have h₂ := b₂.toNat_lt
  have h₃ := b₃.toNat_lt
  simp only [toLeBytes, fromLeBytes, UInt32.toNat_ofNat', List.cons.injEq, and_true]
  refine ⟨?_, ?_, ?_, ?_⟩ <;> refine UInt8.toNat.inj ?_ <;>
    rw [UInt8.toNat_ofNat'] <;> omega

@[simp] theorem encodeSamples_append (left right : List Sample) :
    encodeSamples (left ++ right) = encodeSamples left ++ encodeSamples right :=
  List.flatMap_append

@[simp] theorem length_encodeSamples (samples : List Sample) :
    (encodeSamples samples).length = 4 * samples.length := by
  induction samples with
  | nil => rfl
  | cons sample samples ih =>
    rw [encodeSamples, List.flatMap_cons, List.length_append, ← encodeSamples, ih]
    simp only [toLeBytes, List.length_cons, List.length_nil]
    omega

/-- Whole samples are decoded without a loss. -/
theorem encodeSamples_decodeSamples {bytes : List UInt8} (h : bytes.length % 4 = 0) :
    encodeSamples (decodeSamples bytes) = bytes := by
  induction bytes using decodeSamples.induct with
  | case1 b₀ b₁ b₂ b₃ bytes ih =>
    simp only [List.length_cons] at h
    rw [decodeSamples, encodeSamples, List.flatMap_cons, ← encodeSamples, ih (by omega),
      toLeBytes_fromLeBytes]
    rfl
  | case2 bytes hshort =>
    match bytes with
    | [] => rfl
    | [_] | [_, _] | [_, _, _] => simp at h
    | b₀ :: b₁ :: b₂ :: b₃ :: bytes => exact absurd rfl (hshort b₀ b₁ b₂ b₃ bytes)

/-- The operations of the processor. A block that is processed has the length of its input. -/
structure Dsp where
  Processor : Type
  Position : Type
  Gain : Type
  Renderer : Type
  Error : Type
  setOutputGain : Processor → Gain → ℕ → Processor
  setWetEnabled : Processor → Bool → ℕ → Processor
  setOrbitPosition : Processor → Position → Except Error Unit × Processor
  installPreparedRenderer : Processor → Renderer → ℕ → Except Error Unit × Processor
  processBlock : Processor → (input : List Sample) →
    Except Error {output : List Sample // output.length = input.length} × Processor

inductive DspMutation (dsp : Dsp) where
  | gain (gain : dsp.Gain)
  | preset (renderer : dsp.Renderer) (enableWet : Bool)
  | spatial (enabled : Bool)
  | orbit (position : dsp.Position)

/-- The first component is what the sender of the command is told. -/
def applyCommand {dsp : Dsp} {D : Type} (processor : Option dsp.Processor)
    (position : dsp.Position) (mutation : DspMutation dsp) (transitionFrames : ℕ) :
    Except (PipelineError D dsp.Error) Unit × Option dsp.Processor × dsp.Position :=
  match processor with
  | none => (.error .workerClosed, none, position)
  | some processor =>
    match mutation with
    | .gain gain => (.ok (), some (dsp.setOutputGain processor gain transitionFrames), position)
    | .spatial enabled =>
      (.ok (), some (dsp.setWetEnabled processor enabled transitionFrames), position)
    | .orbit target =>
      match dsp.setOrbitPosition processor target with
      | (.ok (), processor) => (.ok (), some processor, target)
      | (.error error, processor) => (.error (.dsp error), some processor, position)
    | .preset renderer enableWet =>
      match dsp.installPreparedRenderer processor renderer transitionFrames with
      | (.ok (), processor) =>
        (.ok (), some (dsp.setWetEnabled processor enableWet transitionFrames), position)
      | (.error error, processor) => (.error (.dsp error), some processor, position)

inductive WorkerCompletion where
  | natural
  | cancelled
  deriving DecidableEq, Repr

variable {dsp : Dsp} {D : Type}

inductive PumpPhase (dsp : Dsp) (D : Type) where
  | reading
  /-- `write_processed` has written a part of the encoded bytes. -/
  | writing (encoded : List UInt8) (completeBytes written : ℕ)
  | finishing
  | closing
  | done (result : Except (PipelineError D dsp.Error) WorkerCompletion)

/-- The last four fields record what the pump's peers have sent and received. -/
structure Pump (dsp : Dsp) (D : Type) where
  processor : Option dsp.Processor
  position : dsp.Position
  bytes : FillBuffer UInt8
  controlsOpen : Bool
  phase : PumpPhase dsp D
  decoded : List UInt8
  blocks : List (List Sample)
  processed : List Sample
  consumed : List UInt8

/-- Before the first event. -/
def pumpPcm (config : PipelineConfig) (processor : dsp.Processor) (position : dsp.Position) :
    Except (PipelineError D dsp.Error) (Pump dsp D) :=
  match checkedMul config.blockFrames 2 with
  | none => .error .invalidConfig
  | some sampleCapacity =>
    match checkedMul sampleCapacity 4 with
    | none => .error .invalidConfig
    | some byteCapacity => .ok {
        processor := some processor, position, bytes := .empty 0 byteCapacity
        controlsOpen := true, phase := .reading
        decoded := [], blocks := [], processed := [], consumed := [] }

/-- What an awaited operation has come to. -/
inductive PumpEvent (dsp : Dsp) (D : Type) where
  | cancelled
  | command (mutation : DspMutation dsp)
  | controlsClosed
  | read (result : Except D (List UInt8))
  | finished (result : Except D Unit)
  /-- The number of bytes the consumer took, unless it failed. -/
  | wrote (count : Option ℕ)
  | shutdown (ok : Bool)

namespace Pump

def fail (pump : Pump dsp D) (error : PipelineError D dsp.Error) : Pump dsp D :=
  { pump with phase := .done (.error error) }

/-- The head of the loop in `write_processed`, and what follows the loop. -/
def continueWriting (pump : Pump dsp D) (encoded : List UInt8) (completeBytes written : ℕ) :
    Pump dsp D :=
  if written < encoded.length then
    { pump with phase := .writing encoded completeBytes written }
  else { pump with bytes := pump.bytes.consume completeBytes, phase := .reading }

/-- Hand the whole frames in the buffer to the processor. -/
def processComplete (pump : Pump dsp D) (completeBytes : ℕ) : Pump dsp D :=
  let input := decodeSamples (pump.bytes.contents.take completeBytes)
  match pump.processor with
  | none => pump.fail .workerClosed
  | some processor =>
    match dsp.setOrbitPosition processor pump.position with
    | (.error error, processor) => { pump with processor := some processor }.fail (.dsp error)
    | (.ok (), processor) =>
      match dsp.processBlock processor input with
      | (.error error, processor) =>
        { pump with processor := some processor, blocks := pump.blocks ++ [input] }.fail
          (.dsp error)
      | (.ok output, processor) =>
        { pump with
          processor := some processor
          blocks := pump.blocks ++ [input]
          processed := pump.processed ++ output.val }.continueWriting
            (encodeSamples output.val) completeBytes 0

/-- A read has returned some bytes, or none at the end of the stream. -/
def receive (pump : Pump dsp D) (data : List UInt8) (h : data.length ≤ pump.bytes.free) :
    Pump dsp D :=
  let pump' := { pump with
    bytes := pump.bytes.append data h
    decoded := pump.decoded ++ data }
  if data.length = 0 then
    if pump.bytes.filled ≠ 0 then pump.fail .partialPcmFrame
    else { pump with phase := .finishing }
  else if pump.bytes.filled + data.length < 2 ^ 64 then
    let filled := pump.bytes.filled + data.length
    let completeBytes := filled - filled % PCM_FRAME_BYTES
    if completeBytes = 0 then pump' else pump'.processComplete completeBytes
  else pump'.fail .invalidConfig

/-- A write has taken some bytes. -/
def wrote (pump : Pump dsp D) (encoded : List UInt8) (completeBytes written count : ℕ) :
    Pump dsp D :=
  if count = 0 then pump.fail .outputClosed
  else
    let pump := { pump with consumed := pump.consumed ++ (encoded.drop written).take count }
    if written + count < 2 ^ 64 then pump.continueWriting encoded completeBytes (written + count)
    else pump.fail .invalidConfig

def control (pump : Pump dsp D) (transitionFrames : ℕ) (mutation : DspMutation dsp) :
    Pump dsp D :=
  let applied : Except (PipelineError D dsp.Error) Unit × _ :=
    applyCommand pump.processor pump.position mutation transitionFrames
  { pump with processor := applied.2.1, position := applied.2.2 }

/-- One event at the point where the pump waits, if it can happen there. -/
def step (config : PipelineConfig) (pump : Pump dsp D) (event : PumpEvent dsp D) :
    Option (Pump dsp D) :=
  match pump.phase, event with
  | .reading, .cancelled => some { pump with phase := .done (.ok .cancelled) }
  | .reading, .command mutation | .writing _ _ _, .command mutation =>
    if pump.controlsOpen then some (pump.control config.transitionFrames mutation) else none
  | .reading, .controlsClosed | .writing _ _ _, .controlsClosed =>
    if pump.controlsOpen then some { pump with controlsOpen := false } else none
  | .reading, .read (.error error) => some (pump.fail (.decoder error))
  | .reading, .read (.ok data) =>
    if h : data.length ≤ pump.bytes.free then some (pump.receive data h) else none
  | .writing _ _ _, .cancelled => some (pump.fail .workerClosed)
  | .writing _ _ _, .wrote none => some (pump.fail .outputClosed)
  | .writing encoded completeBytes written, .wrote (some count) =>
    if count ≤ encoded.length - written then
      some (pump.wrote encoded completeBytes written count)
    else none
  | .finishing, .cancelled => some { pump with phase := .done (.ok .cancelled) }
  | .finishing, .finished (.error error) => some (pump.fail (.decoder error))
  | .finishing, .finished (.ok ()) => some { pump with phase := .closing }
  | .closing, .shutdown true => some { pump with phase := .done (.ok .natural) }
  | .closing, .shutdown false => some (pump.fail .decoderPipe)
  | _, _ => none

end Pump

end PepeAudio.Pipeline
