import PepeAudio.Pipeline.PcmPump

/-!
# The pump keeps the frames whole

Between two events each byte of the decoder is in a block that the processor has
had, or waits in the buffer; each byte of the processor's output is with the
consumer, or waits to be written. This holds for every way in which reads and writes
cut the stream, since less than one frame is carried from one read to the next.
-/
namespace PepeAudio.Pipeline

variable {dsp : Dsp} {D : Type}

namespace Pump

/-- Where the bytes are: what the processor has not had yet, and what the consumer has not. -/
structure Accounted (pump : Pump dsp D) (pending unsent : List UInt8) : Prop where
  decoded : pump.decoded = encodeSamples pump.blocks.flatten ++ pending
  processed : encodeSamples pump.processed = pump.consumed ++ unsent
  lengths : pump.processed.length = pump.blocks.flatten.length

/-- What is left of it when the pump stops early. -/
structure Ordered (pump : Pump dsp D) : Prop where
  decoded : encodeSamples pump.blocks.flatten <+: pump.decoded
  processed : pump.consumed <+: encodeSamples pump.processed

/-- Every block has whole frames of two samples, and as many as the processor can take. -/
def Whole (config : PipelineConfig) (pump : Pump dsp D) : Prop :=
  ∀ block ∈ pump.blocks, block ≠ [] ∧ block.length % 2 = 0 ∧ block.length ≤ 2 * config.blockFrames

def PhaseFramed (pump : Pump dsp D) : PumpPhase dsp D → Prop
  | .reading => pump.bytes.filled < PCM_FRAME_BYTES ∧ pump.Accounted pump.bytes.contents []
  | .writing encoded completeBytes written =>
    completeBytes ≤ pump.bytes.filled ∧ pump.bytes.filled - completeBytes < PCM_FRAME_BYTES ∧
      encoded.length ≤ pump.bytes.capacity ∧ written < encoded.length ∧
      pump.Accounted (pump.bytes.contents.drop completeBytes) (encoded.drop written)
  | .finishing | .closing | .done (.ok .natural) => pump.Accounted [] []
  | .done (.ok .cancelled) => pump.Ordered
  | .done (.error error) => pump.Ordered ∧ error ≠ .invalidConfig ∧
      (error = .partialPcmFrame → pump.decoded.length % PCM_FRAME_BYTES ≠ 0)

/-- The invariant between two events. -/
structure Framed (config : PipelineConfig) (pump : Pump dsp D) : Prop where
  capacity : pump.bytes.capacity = PCM_FRAME_BYTES * config.blockFrames
  whole : pump.Whole config
  phase : pump.PhaseFramed pump.phase

variable {config : PipelineConfig} {pump : Pump dsp D} {pending unsent : List UInt8}

theorem Accounted.ordered (h : pump.Accounted pending unsent) : pump.Ordered :=
  ⟨⟨pending, h.decoded.symm⟩, ⟨unsent, h.processed.symm⟩⟩

/-- The bytes that the processor has had are whole frames. -/
theorem Whole.frames (h : pump.Whole config) :
    (encodeSamples pump.blocks.flatten).length % PCM_FRAME_BYTES = 0 := by
  have heven : pump.blocks.flatten.length % 2 = 0 := by
    unfold Whole at h
    generalize pump.blocks = blocks at h
    induction blocks with
    | nil => rfl
    | cons block blocks ih =>
      have hblock := (h block List.mem_cons_self).2.1
      have hrest := ih fun block hmem => h block (List.mem_cons_of_mem _ hmem)
      rw [List.flatten_cons, List.length_append]
      omega
  rw [length_encodeSamples]
  unfold PCM_FRAME_BYTES
  omega

/-- Less than a frame is pending: the processor has had all whole frames. -/
theorem Accounted.remainder (h : pump.Accounted pending unsent) (hwhole : pump.Whole config) :
    pump.decoded.length % PCM_FRAME_BYTES = pending.length % PCM_FRAME_BYTES := by
  have hframes := hwhole.frames
  rw [h.decoded, List.length_append]
  unfold PCM_FRAME_BYTES at hframes ⊢
  omega

section Steps

theorem framed_fail {error : PipelineError D dsp.Error}
    (hcapacity : pump.bytes.capacity = PCM_FRAME_BYTES * config.blockFrames)
    (hwhole : pump.Whole config) (hordered : pump.Ordered) (hconfig : error ≠ .invalidConfig)
    (hbroken : error = .partialPcmFrame → pump.decoded.length % PCM_FRAME_BYTES ≠ 0) :
    (pump.fail error).Framed config :=
  ⟨hcapacity, hwhole, ⟨hordered.decoded, hordered.processed⟩, hconfig, hbroken⟩

/-- The loop goes on with the rest, or the used frames leave the buffer. -/
theorem framed_continueWriting {encoded : List UInt8} {completeBytes written : ℕ}
    (hcapacity : pump.bytes.capacity = PCM_FRAME_BYTES * config.blockFrames)
    (hwhole : pump.Whole config) (hcomplete : completeBytes ≤ pump.bytes.filled)
    (hrest : pump.bytes.filled - completeBytes < PCM_FRAME_BYTES)
    (hencoded : encoded.length ≤ pump.bytes.capacity)
    (h : pump.Accounted (pump.bytes.contents.drop completeBytes) (encoded.drop written)) :
    (pump.continueWriting encoded completeBytes written).Framed config := by
  unfold continueWriting
  split_ifs with hwritten
  · exact ⟨hcapacity, hwhole, hcomplete, hrest, hencoded, hwritten,
      h.decoded, h.processed, h.lengths⟩
  · have hnone : encoded.drop written = [] := List.drop_eq_nil_of_le (by omega)
    rw [hnone] at h
    refine ⟨(FillBuffer.capacity_consume hcomplete).trans hcapacity, hwhole, hrest, ?_,
      h.processed, h.lengths⟩
    rw [FillBuffer.contents_consume]
    exact h.decoded

/-- The whole frames in the buffer make one more block. -/
theorem framed_processComplete
    (hcapacity : pump.bytes.capacity = PCM_FRAME_BYTES * config.blockFrames)
    (hwhole : pump.Whole config) (h : pump.Accounted pump.bytes.contents [])
    {completeBytes : ℕ}
    (hcomplete : completeBytes = pump.bytes.filled - pump.bytes.filled % PCM_FRAME_BYTES)
    (hsome : completeBytes ≠ 0) : (pump.processComplete completeBytes).Framed config := by
  rw [show PCM_FRAME_BYTES = 8 from rfl] at hcomplete
  have hfilled : pump.bytes.filled ≤ pump.bytes.capacity := pump.bytes.filled_le
  have hlength : (pump.bytes.contents.take completeBytes).length = completeBytes := by
    rw [List.length_take, FillBuffer.length_contents]
    omega
  -- the samples stand for exactly these bytes
  have hbytes : encodeSamples (decodeSamples (pump.bytes.contents.take completeBytes)) = _ :=
    encodeSamples_decodeSamples (by omega)
  have hsamples := length_encodeSamples (decodeSamples (pump.bytes.contents.take completeBytes))
  rw [hbytes, hlength] at hsamples
  unfold processComplete
  dsimp only
  generalize decodeSamples (pump.bytes.contents.take completeBytes) = input at hbytes hsamples ⊢
  have hwhole' : ∀ block ∈ pump.blocks ++ [input],
      block ≠ [] ∧ block.length % 2 = 0 ∧ block.length ≤ 2 * config.blockFrames := by
    intro block hblock
    rcases List.mem_append.mp hblock with hblock | hblock
    · exact hwhole block hblock
    · obtain rfl := List.mem_singleton.mp hblock
      rw [hcapacity, show PCM_FRAME_BYTES = 8 from rfl] at hfilled
      refine ⟨fun hnil => ?_, by omega, by omega⟩
      rw [hnil, List.length_nil] at hsamples
      omega
  have hdecoded : pump.decoded = encodeSamples (pump.blocks ++ [input]).flatten ++
      pump.bytes.contents.drop completeBytes := by
    rw [List.flatten_append, List.flatten_singleton, encodeSamples_append, hbytes,
      List.append_assoc, List.take_append_drop]
    exact h.decoded
  cases pump.processor with
  | none => exact framed_fail hcapacity hwhole h.ordered (by simp) (by simp)
  | some processor =>
    dsimp only
    rcases dsp.setOrbitPosition processor pump.position with ⟨error | ⟨⟩, processor⟩
    · exact framed_fail hcapacity hwhole ⟨h.ordered.decoded, h.ordered.processed⟩ (by simp)
        (by simp)
    · dsimp only
      rcases dsp.processBlock processor input with ⟨error | output, processor⟩
      · exact framed_fail hcapacity hwhole' ⟨⟨_, hdecoded.symm⟩, h.ordered.processed⟩
          (by simp) (by simp)
      · have hprocessed := h.processed
        rw [List.append_nil] at hprocessed
        refine framed_continueWriting hcapacity hwhole' ?_ ?_ ?_ ⟨hdecoded, ?_, ?_⟩
        · dsimp only
          omega
        · dsimp only
          rw [show PCM_FRAME_BYTES = 8 from rfl]
          omega
        · rw [length_encodeSamples, output.property]
          dsimp only
          omega
        · dsimp only
          rw [encodeSamples_append, hprocessed, List.drop_zero]
        · simp [output.property, h.lengths]

/-- The bytes of a read go behind those that wait. -/
theorem framed_receive {data : List UInt8} (hdata : data.length ≤ pump.bytes.free)
    (hvalid : config.blockFrames ≤ MAX_BLOCK_FRAMES)
    (hframed : pump.Framed config) (hphase : pump.phase = .reading) :
    (pump.receive data hdata).Framed config := by
  obtain ⟨hcapacity, hwhole, hreading⟩ := hframed
  rw [hphase] at hreading
  obtain ⟨hfilled, h⟩ := hreading
  have hremainder := h.remainder hwhole
  have happended : Pump.Accounted { pump with
      bytes := pump.bytes.append data hdata, decoded := pump.decoded ++ data }
      (pump.bytes.append data hdata).contents [] := by
    refine ⟨?_, h.processed, h.lengths⟩
    rw [FillBuffer.contents_append, ← List.append_assoc]
    exact congrArg (· ++ data) h.decoded
  unfold receive
  dsimp only
  split_ifs with hzero hfull hword hcomplete
  · refine framed_fail hcapacity hwhole h.ordered (by simp) fun _ => ?_
    rw [hremainder, FillBuffer.length_contents, Nat.mod_eq_of_lt hfilled]
    exact hfull
  · have hnothing : pump.bytes.contents = [] := by
      rw [← List.length_eq_zero_iff, FillBuffer.length_contents]
      omega
    rw [hnothing] at h
    exact ⟨hcapacity, hwhole, h.decoded, h.processed, h.lengths⟩
  · refine ⟨(FillBuffer.capacity_append hdata).trans hcapacity, hwhole, ?_⟩
    show Pump.PhaseFramed _ pump.phase
    rw [hphase]
    refine ⟨?_, happended.decoded, h.processed, h.lengths⟩
    rw [show PCM_FRAME_BYTES = 8 from rfl] at hcomplete ⊢
    show pump.bytes.filled + data.length < 8
    omega
  · refine framed_processComplete ?_ ?_ happended rfl hcomplete
    · exact (FillBuffer.capacity_append hdata).trans hcapacity
    · exact hwhole
  · have hfits : pump.bytes.filled + data.length ≤ pump.bytes.capacity := by
      have := pump.bytes.filled_le
      unfold FillBuffer.free FillBuffer.capacity at hdata
      unfold FillBuffer.capacity
      omega
    rw [hcapacity, show PCM_FRAME_BYTES = 8 from rfl] at hfits
    unfold MAX_BLOCK_FRAMES at hvalid
    omega

/-- The consumer has taken some of the bytes. -/
theorem framed_wrote {encoded : List UInt8} {completeBytes written count : ℕ}
    (hcount : count ≤ encoded.length - written) (hvalid : config.blockFrames ≤ MAX_BLOCK_FRAMES)
    (hframed : pump.Framed config) (hphase : pump.phase = .writing encoded completeBytes written) :
    (pump.wrote encoded completeBytes written count).Framed config := by
  obtain ⟨hcapacity, hwhole, hwriting⟩ := hframed
  rw [hphase] at hwriting
  obtain ⟨hcomplete, hrest, hencoded, hwritten, h⟩ := hwriting
  have htaken : encodeSamples pump.processed =
      pump.consumed ++ (encoded.drop written).take count ++ encoded.drop (written + count) := by
    rw [h.processed, List.append_assoc, ← List.drop_drop, List.take_append_drop]
  unfold wrote
  dsimp only
  split_ifs with hzero hword
  · exact framed_fail hcapacity hwhole h.ordered (by simp) (by simp)
  · exact framed_continueWriting hcapacity hwhole hcomplete hrest hencoded
      ⟨h.decoded, htaken, h.lengths⟩
  · rw [hcapacity, show PCM_FRAME_BYTES = 8 from rfl] at hencoded
    unfold MAX_BLOCK_FRAMES at hvalid
    omega

/-- Another processor, another position and a closed channel change no byte. -/
theorem Framed.congr (hframed : pump.Framed config) (processor : Option dsp.Processor)
    (position : dsp.Position) (controlsOpen : Bool) :
    Pump.Framed config { pump with processor, position, controlsOpen } := by
  obtain ⟨hcapacity, hwhole, hphase⟩ := hframed
  refine ⟨hcapacity, hwhole, ?_⟩
  dsimp only
  cases hcase : pump.phase with
  | reading =>
    rw [hcase] at hphase
    exact ⟨hphase.1, hphase.2.decoded, hphase.2.processed, hphase.2.lengths⟩
  | writing encoded completeBytes written =>
    rw [hcase] at hphase
    obtain ⟨hcomplete, hrest, hencoded, hwritten, h⟩ := hphase
    exact ⟨hcomplete, hrest, hencoded, hwritten, h.decoded, h.processed, h.lengths⟩
  | finishing | closing =>
    rw [hcase] at hphase
    exact ⟨hphase.decoded, hphase.processed, hphase.lengths⟩
  | done result =>
    rw [hcase] at hphase
    match result, hphase with
    | .ok .natural, h => exact ⟨h.decoded, h.processed, h.lengths⟩
    | .ok .cancelled, h => exact ⟨h.decoded, h.processed⟩
    | .error _, ⟨h, hconfig, hbroken⟩ => exact ⟨⟨h.decoded, h.processed⟩, hconfig, hbroken⟩

/-- While the pump runs its bytes are accounted for. -/
theorem Framed.ordered (hframed : pump.Framed config) : pump.Ordered := by
  have hphase := hframed.phase
  cases hcase : pump.phase with
  | reading =>
    rw [hcase] at hphase
    exact hphase.2.ordered
  | writing encoded completeBytes written =>
    rw [hcase] at hphase
    exact hphase.2.2.2.2.ordered
  | finishing | closing =>
    rw [hcase] at hphase
    exact hphase.ordered
  | done result =>
    rw [hcase] at hphase
    match result, hphase with
    | .ok .natural, h => exact h.ordered
    | .ok .cancelled, h => exact h
    | .error _, h => exact h.1

/-- Every event keeps the invariant. -/
theorem framed_step {pump' : Pump dsp D} {event : PumpEvent dsp D}
    (hvalid : config.blockFrames ≤ MAX_BLOCK_FRAMES) (hframed : pump.Framed config)
    (hstep : pump.step config event = some pump') : pump'.Framed config := by
  have hordered := hframed.ordered
  have ⟨hcapacity, hwhole, hphase⟩ := hframed
  have hfail : ∀ error : PipelineError D dsp.Error, error ≠ .invalidConfig →
      error ≠ .partialPcmFrame → (pump.fail error).Framed config :=
    fun error hconfig hbroken => framed_fail hcapacity hwhole hordered hconfig
      fun heq => absurd heq hbroken
  unfold step at hstep
  split at hstep
  -- cancelled while reading, or while the decoder is reaped
  case h_1 | h_11 =>
    obtain rfl := Option.some.inj hstep
    exact ⟨hcapacity, hwhole, hordered.decoded, hordered.processed⟩
  -- a command, or the end of the commands
  case h_2 | h_3 | h_4 | h_5 =>
    split_ifs at hstep
    obtain rfl := Option.some.inj hstep
    exact hframed.congr _ _ _
  case h_6 | h_8 | h_9 | h_12 | h_15 =>
    obtain rfl := Option.some.inj hstep
    exact hfail _ (by simp) (by simp)
  case h_7 hreading =>
    split_ifs at hstep with hdata
    obtain rfl := Option.some.inj hstep
    exact framed_receive hdata hvalid hframed hreading
  case h_10 hwriting =>
    split_ifs at hstep with hcount
    obtain rfl := Option.some.inj hstep
    exact framed_wrote hcount hvalid hframed hwriting
  case h_13 hfinishing | h_14 hfinishing =>
    obtain rfl := Option.some.inj hstep
    rw [hfinishing] at hphase
    exact ⟨hcapacity, hwhole, hphase.decoded, hphase.processed, hphase.lengths⟩
  case h_16 => cases hstep

end Steps

def Next (config : PipelineConfig) (pump : Pump dsp D) (event : PumpEvent dsp D)
    (pump' : Pump dsp D) : Prop :=
  pump.step config event = some pump'

/-- What the decoder has sent with an event. -/
def bytesRead : PumpEvent dsp D → List UInt8
  | .read (.ok data) => data
  | _ => []

/-- What the consumer has taken with an event, of the bytes that are offered to it. -/
def bytesWritten (pump : Pump dsp D) (event : PumpEvent dsp D) : List UInt8 :=
  match pump.phase, event with
  | .writing encoded _ written, .wrote (some count) => (encoded.drop written).take count
  | _, _ => []

/-- The processor has answered a block with this output. -/
def Processes (dsp : Dsp) (block output : List Sample) : Prop :=
  ∃ processor result processor', dsp.processBlock processor block = (.ok result, processor') ∧
    result.val = output

/-- The processor has answered the blocks in order, and its answers are what is written. -/
def Answered (pump : Pump dsp D) : Prop :=
  ∃ outputs, List.Forall₂ (Processes dsp) pump.blocks outputs ∧ pump.processed = outputs.flatten

def Failed (pump : Pump dsp D) : Prop := ∃ error, pump.phase = .done (.error error)

/-- The peers have sent and received nothing yet. -/
structure Unused (pump : Pump dsp D) : Prop where
  decoded : pump.decoded = []
  blocks : pump.blocks = []
  processed : pump.processed = []
  consumed : pump.consumed = []

/-- What the pump has on record of its peers but for the bytes of one event. -/
structure Recorded (pump pump' : Pump dsp D) (read written : List UInt8) : Prop where
  decoded : pump'.decoded = pump.decoded ++ read
  consumed : pump'.consumed = pump.consumed ++ written
  answered : pump.Answered → pump'.Answered ∨ pump'.Failed

theorem recorded_fail {error : PipelineError D dsp.Error} :
    pump.Recorded (pump.fail error) [] [] :=
  ⟨(List.append_nil _).symm, (List.append_nil _).symm, fun _ => .inr ⟨_, rfl⟩⟩

theorem recorded_continueWriting (pump : Pump dsp D) (encoded : List UInt8)
    (completeBytes written : ℕ) :
    pump.Recorded (pump.continueWriting encoded completeBytes written) [] [] := by
  unfold continueWriting
  split_ifs <;> exact ⟨(List.append_nil _).symm, (List.append_nil _).symm, .inl⟩

/-- The block goes to the processor, and only its answer is written. -/
theorem recorded_processComplete (pump : Pump dsp D) (completeBytes : ℕ) :
    pump.Recorded (pump.processComplete completeBytes) [] [] := by
  unfold processComplete
  dsimp only
  generalize decodeSamples (pump.bytes.contents.take completeBytes) = input
  cases pump.processor with
  | none => exact recorded_fail
  | some processor =>
    dsimp only
    rcases dsp.setOrbitPosition processor pump.position with ⟨error | ⟨⟩, processor⟩
    · exact ⟨(List.append_nil _).symm, (List.append_nil _).symm, fun _ => .inr ⟨_, rfl⟩⟩
    · dsimp only
      rcases hblock : dsp.processBlock processor input with ⟨error | output, processor'⟩
      · exact ⟨(List.append_nil _).symm, (List.append_nil _).symm, fun _ => .inr ⟨_, rfl⟩⟩
      · obtain ⟨hdecoded, hconsumed, hanswered⟩ := recorded_continueWriting
          { pump with
            processor := some processor'
            blocks := pump.blocks ++ [input]
            processed := pump.processed ++ output.val }
          (encodeSamples output.val) completeBytes 0
        refine ⟨hdecoded, hconsumed, fun hall => ?_⟩
        obtain ⟨outputs, hall, hprocessed⟩ := hall
        have hlast : Processes dsp input output.val := ⟨processor, output, processor', hblock, rfl⟩
        refine hanswered ⟨outputs ++ [output.val], ?_, ?_⟩
        · exact List.rel_append hall (.cons hlast .nil)
        · rw [List.flatten_append, List.flatten_singleton, ← hprocessed]

theorem recorded_receive {data : List UInt8} (hdata : data.length ≤ pump.bytes.free) :
    pump.Recorded (pump.receive data hdata) data [] := by
  unfold receive
  dsimp only
  split_ifs with hzero
  · obtain rfl := List.length_eq_zero_iff.mp hzero
    exact recorded_fail
  · obtain rfl := List.length_eq_zero_iff.mp hzero
    exact ⟨(List.append_nil _).symm, (List.append_nil _).symm, .inl⟩
  · exact ⟨rfl, (List.append_nil _).symm, .inl⟩
  · have h := recorded_processComplete
      { pump with bytes := pump.bytes.append data hdata, decoded := pump.decoded ++ data }
      (pump.bytes.filled + data.length - (pump.bytes.filled + data.length) % PCM_FRAME_BYTES)
    exact ⟨h.decoded.trans (List.append_nil _), h.consumed, h.answered⟩
  · exact ⟨rfl, (List.append_nil _).symm, fun _ => .inr ⟨_, rfl⟩⟩

theorem recorded_wrote {encoded : List UInt8} {completeBytes written count : ℕ} :
    pump.Recorded (pump.wrote encoded completeBytes written count) []
      ((encoded.drop written).take count) := by
  unfold wrote
  dsimp only
  split_ifs with hzero
  · rw [hzero, List.take_zero]
    exact recorded_fail
  · have h := recorded_continueWriting
      { pump with consumed := pump.consumed ++ (encoded.drop written).take count }
      encoded completeBytes (written + count)
    exact ⟨h.decoded, h.consumed.trans (List.append_nil _), h.answered⟩
  · exact ⟨(List.append_nil _).symm, rfl, fun _ => .inr ⟨_, rfl⟩⟩

/-- What every event leaves on record. -/
theorem recorded_step {pump' : Pump dsp D} {event : PumpEvent dsp D}
    (hstep : pump.step config event = some pump') :
    pump.Recorded pump' (bytesRead event) (pump.bytesWritten event) := by
  unfold step at hstep
  split at hstep
  case h_7 hreading =>
    split_ifs at hstep with hdata
    obtain rfl := Option.some.inj hstep
    simp only [bytesRead, bytesWritten, hreading]
    exact recorded_receive hdata
  case h_10 hwriting =>
    split_ifs at hstep
    obtain rfl := Option.some.inj hstep
    simp only [bytesRead, bytesWritten, hwriting]
    exact recorded_wrote
  case h_16 => cases hstep
  all_goals
    rename_i hphase
    simp only [bytesRead, bytesWritten, hphase]
  case h_2 | h_3 | h_4 | h_5 =>
    split_ifs at hstep
    obtain rfl := Option.some.inj hstep
    exact ⟨(List.append_nil _).symm, (List.append_nil _).symm, .inl⟩
  case h_6 | h_8 | h_9 | h_12 | h_15 =>
    obtain rfl := Option.some.inj hstep
    exact recorded_fail
  case h_1 | h_11 | h_13 | h_14 =>
    obtain rfl := Option.some.inj hstep
    exact ⟨(List.append_nil _).symm, (List.append_nil _).symm, .inl⟩

/-- The record of a run is what its events have carried. -/
theorem recorded_run {start pump : Pump dsp D} {taken : List (Taken (Pump dsp D) (PumpEvent dsp D))}
    (hempty : start.Unused) (run : Run (Next config) start taken pump) :
    pump.decoded = taken.flatMap (fun t => bytesRead t.label) ∧
      pump.consumed = taken.flatMap (fun t => t.before.bytesWritten t.label) ∧
      (pump.Answered ∨ pump.Failed) := by
  obtain ⟨hdecoded, hblocks, hprocessed, hconsumed⟩ := hempty
  have hanswered : start.Answered := ⟨[], by rw [hblocks]; exact .nil, hprocessed⟩
  refine run.history (I := fun taken pump =>
    pump.decoded = taken.flatMap (fun t => bytesRead t.label) ∧
      pump.consumed = taken.flatMap (fun t => t.before.bytesWritten t.label) ∧
      (pump.Answered ∨ pump.Failed)) ⟨hdecoded, hconsumed, .inl hanswered⟩ ?_
  rintro taken pump event pump' - ⟨hdecoded, hconsumed, hanswered⟩ hstep
  have hrecord := recorded_step hstep
  refine ⟨?_, ?_, ?_⟩
  · rw [hrecord.decoded, hdecoded, List.flatMap_append, List.flatMap_singleton]
  · rw [hrecord.consumed, hconsumed, List.flatMap_append, List.flatMap_singleton]
  · rcases hanswered with hanswered | ⟨error, hfailed⟩
    · exact hrecord.answered hanswered
    · -- a pump that has failed takes no event
      unfold Next step at hstep
      rw [hfailed] at hstep
      simp at hstep

/-- While frames may follow, or all have been delivered. -/
def Unbroken (pump : Pump dsp D) : Prop :=
  pump.phase ≠ .done (.ok .cancelled) ∧ ∀ error, pump.phase ≠ .done (.error error)

/-- Outside of a write nothing waits to be written. -/
def Writing (pump : Pump dsp D) : Prop :=
  ∃ encoded completeBytes written, pump.phase = .writing encoded completeBytes written

theorem Framed.accounted (hframed : pump.Framed config) (hunbroken : pump.Unbroken) :
    ∃ pending unsent, pending.length < PCM_FRAME_BYTES ∧ pump.Accounted pending unsent ∧
      (¬ pump.Writing → unsent = []) := by
  have hphase := hframed.phase
  cases hcase : pump.phase with
  | reading =>
    rw [hcase] at hphase
    refine ⟨_, _, ?_, hphase.2, fun _ => rfl⟩
    rw [FillBuffer.length_contents]
    exact hphase.1
  | writing encoded completeBytes written =>
    rw [hcase] at hphase
    obtain ⟨-, hrest, -, -, h⟩ := hphase
    refine ⟨_, _, ?_, h, fun hnot => absurd ⟨_, _, _, hcase⟩ hnot⟩
    rw [List.length_drop, FillBuffer.length_contents]
    exact hrest
  | finishing | closing =>
    rw [hcase] at hphase
    exact ⟨_, _, by decide, hphase, fun _ => rfl⟩
  | done result =>
    rw [hcase] at hphase
    match result, hphase with
    | .ok .natural, h => exact ⟨_, _, by decide, h, fun _ => rfl⟩
    | .ok .cancelled, _ => exact absurd hcase hunbroken.1
    | .error error, _ => exact absurd hcase (hunbroken.2 error)

/-- The processor has had all whole frames. -/
theorem Framed.blocks (hframed : pump.Framed config) (hunbroken : pump.Unbroken) :
    encodeSamples pump.blocks.flatten =
        pump.decoded.take (PCM_FRAME_BYTES * (pump.decoded.length / PCM_FRAME_BYTES)) ∧
      pump.processed.length = pump.blocks.flatten.length ∧
      (¬ pump.Writing → pump.consumed = encodeSamples pump.processed) := by
  obtain ⟨pending, unsent, hpending, h, hwriting⟩ := hframed.accounted hunbroken
  have hframes := hframed.whole.frames
  refine ⟨?_, h.lengths, fun hnot => ?_⟩
  · rw [h.decoded, List.length_append]
    rw [show PCM_FRAME_BYTES = 8 from rfl] at hpending hframes ⊢
    refine (List.take_left' ?_).symm
    omega
  · rw [h.processed, hwriting hnot, List.append_nil]

theorem validate_blockFrames
    (hvalid : (config.validate : Except (PipelineError D dsp.Error) PipelineConfig) = .ok config) :
    0 < config.blockFrames ∧ config.blockFrames ≤ MAX_BLOCK_FRAMES := by
  unfold PipelineConfig.validate at hvalid
  split_ifs at hvalid with hbounds
  omega

theorem framed_start (hvalid : config.blockFrames ≤ MAX_BLOCK_FRAMES)
    (processor : dsp.Processor) (position : dsp.Position) :
    ∃ start : Pump dsp D, pumpPcm config processor position = .ok start ∧
      start.Framed config ∧ start.Unused := by
  unfold MAX_BLOCK_FRAMES at hvalid
  unfold pumpPcm checkedMul
  rw [if_pos (by omega)]
  dsimp only
  rw [if_pos (by omega)]
  refine ⟨_, rfl, ⟨?_, by simp [Whole], Nat.succ_pos 7, ?_, rfl, rfl⟩, rfl, rfl, rfl, rfl⟩
  · dsimp only
    rw [FillBuffer.capacity_empty, show PCM_FRAME_BYTES = 8 from rfl]
    omega
  · dsimp only
    rw [FillBuffer.contents_empty]
    rfl

/-- At the end of the stream the pump ends naturally exactly after whole frames. -/
theorem Framed.end (hframed : pump.Framed config) (hreading : pump.phase = .reading) :
    ∃ ended : Pump dsp D, pump.step config (.read (.ok [])) = some ended ∧
      if pump.decoded.length % PCM_FRAME_BYTES = 0 then
        ∃ reaped closed : Pump dsp D, ended.step config (.finished (.ok ())) = some reaped ∧
          reaped.step config (.shutdown true) = some closed ∧
          closed.phase = .done (.ok .natural)
      else ended.phase = .done (.error .partialPcmFrame) := by
  have hphase := hframed.phase
  rw [hreading] at hphase
  have hremainder := hphase.2.remainder hframed.whole
  rw [FillBuffer.length_contents, Nat.mod_eq_of_lt hphase.1] at hremainder
  rw [hremainder]
  unfold step
  rw [hreading]
  refine ⟨_, dif_pos (Nat.zero_le _), ?_⟩
  unfold receive
  by_cases hzero : pump.bytes.filled = 0
  · rw [if_pos hzero]
    simp [hzero]
  · rw [if_neg hzero]
    simp [hzero, fail]

variable (dsp D) in
/-- However reads and writes cut the stream, the processor gets the decoder's bytes in order as
whole frames, the consumer gets the processed bytes in order, and the pump ends naturally
exactly when the stream does not end inside a frame. -/
theorem pump_framing (config : PipelineConfig)
    (hvalid : (config.validate : Except (PipelineError D dsp.Error) PipelineConfig) = .ok config)
    (processor : dsp.Processor) (position : dsp.Position) :
    ∃ start : Pump dsp D, pumpPcm config processor position = .ok start ∧
      ∀ taken pump, Run (Next config) start taken pump →
        pump.decoded = taken.flatMap (fun t => bytesRead t.label) ∧
        pump.consumed = taken.flatMap (fun t => t.before.bytesWritten t.label) ∧
        pump.Whole config ∧
        encodeSamples pump.blocks.flatten <+: pump.decoded ∧
        pump.consumed <+: encodeSamples pump.processed ∧
        (pump.Unbroken → encodeSamples pump.blocks.flatten =
            pump.decoded.take (PCM_FRAME_BYTES * (pump.decoded.length / PCM_FRAME_BYTES)) ∧
          pump.Answered ∧ pump.processed.length = pump.blocks.flatten.length ∧
          (¬ pump.Writing → pump.consumed = encodeSamples pump.processed)) ∧
        (pump.phase = .reading → 0 < pump.bytes.free ∧
          ∃ ended, pump.step config (.read (.ok [])) = some ended ∧
            if pump.decoded.length % PCM_FRAME_BYTES = 0 then
              ∃ reaped closed, ended.step config (.finished (.ok ())) = some reaped ∧
                reaped.step config (.shutdown true) = some closed ∧
                closed.phase = .done (.ok .natural)
            else ended.phase = .done (.error .partialPcmFrame)) ∧
        (pump.phase = .done (.ok .natural) → pump.decoded.length % PCM_FRAME_BYTES = 0) ∧
        (pump.phase = .done (.error .partialPcmFrame) →
          pump.decoded.length % PCM_FRAME_BYTES ≠ 0) ∧
        pump.phase ≠ .done (.error .invalidConfig) := by
  obtain ⟨hpositive, hbound⟩ := validate_blockFrames hvalid
  obtain ⟨start, hstart, hframed, hempty⟩ := framed_start hbound processor position
  refine ⟨start, hstart, fun taken pump run => ?_⟩
  have hinvariant : pump.Framed config :=
    run.invariant hframed fun _ _ _ hi hstep => framed_step hbound hi hstep
  obtain ⟨hdecoded, hconsumed, hanswered⟩ := recorded_run hempty run
  have hphase := hinvariant.phase
  refine ⟨hdecoded, hconsumed, hinvariant.whole, hinvariant.ordered.decoded,
    hinvariant.ordered.processed, fun hunbroken => ?_,
    fun hreading => ⟨?_, hinvariant.end hreading⟩, fun hnatural => ?_, fun hbroken => ?_,
    fun hconfig => ?_⟩
  · obtain ⟨hblocks, hlengths, hwritten⟩ := hinvariant.blocks hunbroken
    refine ⟨hblocks, hanswered.resolve_right ?_, hlengths, hwritten⟩
    rintro ⟨error, hfailed⟩
    exact hunbroken.2 error hfailed
  · have hcapacity := hinvariant.capacity
    rw [hreading] at hphase
    have hfilled := hphase.1
    rw [show PCM_FRAME_BYTES = 8 from rfl] at hcapacity hfilled
    unfold FillBuffer.free
    omega
  · rw [hnatural] at hphase
    exact hphase.remainder hinvariant.whole
  · rw [hbroken] at hphase
    exact hphase.2.2 rfl
  · rw [hconfig] at hphase
    exact hphase.2.1 rfl

/-- A processor that changes nothing. -/
def identityDsp : Dsp where
  Processor := Unit
  Position := Unit
  Gain := Unit
  Renderer := Unit
  Error := Empty
  setOutputGain processor _ _ := processor
  setWetEnabled processor _ _ := processor
  setOrbitPosition processor _ := (.ok (), processor)
  installPreparedRenderer processor _ _ := (.ok (), processor)
  processBlock processor input := (.ok ⟨input, rfl⟩, processor)

/-- `PipelineConfig::default`. -/
def defaultConfig : PipelineConfig := ⟨960, 96000, 32000, 16, 64, 2400, 10000000000⟩

theorem validate_defaultConfig : (defaultConfig.validate :
    Except (PipelineError Empty Empty) PipelineConfig) = .ok defaultConfig := rfl

/-- Blocks of two frames. -/
def twoFrames : PipelineConfig := ⟨2, 16, 8, 1, 1, 0, 1⟩

/-- The first read ends inside the second frame, and the writes of the first frame are short. -/
def splitFrame : List (PumpEvent identityDsp Empty) :=
  [.read (.ok [1, 2, 3, 4, 5, 6, 7, 8, 9, 10, 11]), .wrote (some 5), .wrote (some 3),
    .read (.ok [12, 13, 14, 15, 16]), .wrote (some 8), .read (.ok []), .finished (.ok ()),
    .shutdown true]

def naturalBlocks (pump : Pump identityDsp Empty) : Option ℕ :=
  match pump.phase with
  | .done (.ok .natural) => some pump.blocks.length
  | _ => none

/-- Both frames pass through whole, and the pump ends naturally. -/
theorem pump_framing_splitFrame :
    ∃ start taken pump, pumpPcm twoFrames () () = .ok start ∧
      Run (Next twoFrames) start taken pump ∧ taken.map Taken.label = splitFrame ∧
      pump.decoded = [1, 2, 3, 4, 5, 6, 7, 8, 9, 10, 11, 12, 13, 14, 15, 16] ∧
      pump.decoded = taken.flatMap (fun t => bytesRead t.label) ∧
      pump.consumed = pump.decoded ∧
      pump.consumed = taken.flatMap (fun t => t.before.bytesWritten t.label) ∧
      pump.blocks.length = 2 ∧ pump.Answered ∧ pump.phase = .done (.ok .natural) ∧
      pump.decoded.length % PCM_FRAME_BYTES = 0 := by
  obtain ⟨start, hstart, h⟩ := pump_framing identityDsp Empty twoFrames rfl () ()
  have hreplay : ((pumpPcm twoFrames () ()).toOption.bind fun start =>
      (replay? (step twoFrames) start splitFrame).map
        fun r => (r.2.decoded, r.2.consumed, naturalBlocks r.2)) =
      some ([1, 2, 3, 4, 5, 6, 7, 8, 9, 10, 11, 12, 13, 14, 15, 16],
        [1, 2, 3, 4, 5, 6, 7, 8, 9, 10, 11, 12, 13, 14, 15, 16], some 2) := by
    decide +kernel
  rw [hstart] at hreplay
  obtain ⟨⟨taken, pump⟩, htaken, hpump⟩ := Option.map_eq_some_iff.mp hreplay
  obtain ⟨hdecoded, hconsumed, hnatural⟩ := by simpa only [Prod.mk.injEq] using hpump
  have run := run_replay? htaken
  have hphase : pump.phase = .done (.ok .natural) ∧ pump.blocks.length = 2 := by
    unfold naturalBlocks at hnatural
    split at hnatural
    case h_1 hphase => exact ⟨hphase, Option.some.inj hnatural⟩
    case h_2 => cases hnatural
  have hunbroken : pump.Unbroken := by
    unfold Unbroken
    rw [hphase.1]
    simp
  obtain ⟨hread, hwritten, -, -, -, hrunning, -, hend, -⟩ := h taken pump run
  exact ⟨_, taken, pump, hstart, run, labels_replay? htaken, hdecoded, hread,
    hconsumed.trans hdecoded.symm, hwritten, hphase.2, (hrunning hunbroken).2.1, hphase.1,
    hend hphase.1⟩

end Pump

end PepeAudio.Pipeline
