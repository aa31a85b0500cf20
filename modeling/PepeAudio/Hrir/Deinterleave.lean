import Mathlib.Tactic.Positivity
import PepeAudio.Hrir.Loader

/-!
# The samples of a direction

The loop of the loader takes an interleaved stream apart: it accepts finite samples in
complete rounds of the channels, and the response of a direction is read off the stream.
-/
namespace PepeAudio.Hrir

inductive Ear where
  | left
  | right
  deriving DecidableEq, Repr

def HrirPair.ear (pair : HrirPair) : Ear → List F32
  | .left => pair.leftEar
  | .right => pair.rightEar

def Ear.swap : Ear → Ear
  | .left => .right
  | .right => .left

/-- The direction on the other side. -/
def VirtualDirection.mirror : VirtualDirection → VirtualDirection
  | FrontLeft => FrontRight
  | FrontRight => FrontLeft
  | FrontCenter => FrontCenter
  | BackLeft => BackRight
  | BackRight => BackLeft
  | SideLeft => SideRight
  | SideRight => SideLeft

/-- The channel the layout table names for an ear of a direction. -/
def ChannelMapping.channel (layout : ChannelMapping) (direction : VirtualDirection) :
    Ear → Fin layout.channelCount
  | .left => (layout.mapping.get direction.index).1
  | .right => (layout.mapping.get direction.index).2

variable {WaveError : Type}

/-- What the reader yields for the type its header asks for. -/
def WavReader.stream (reader : WavReader WaveError) : List (Except WaveError F32) :=
  match reader.spec.sampleFormat with
  | .Int => reader.intSamples.map (Except.map normalized)
  | .Float => reader.floatSamples

/-- The formats the loader supports. -/
def WavSpec.Supported (spec : WavSpec) : Prop :=
  (spec.channels = 7 ∨ spec.channels = 14)
    ∧ (spec.sampleRate = 44100 ∨ spec.sampleRate = 48000)
    ∧ (spec.sampleFormat = .Int ∧ spec.bitsPerSample = 16
      ∨ spec.sampleFormat = .Float ∧ spec.bitsPerSample = 32)

/-- The stream is the finite `samples`, as many as the header declares. -/
structure WavReader.Yields (reader : WavReader WaveError) (samples : List F32) : Prop where
  stream_eq : reader.stream = samples.map .ok
  count : samples.length = reader.duration.toNat * reader.spec.channels.toNat
  finite : ∀ sample ∈ samples, isFinite sample

section Loop

variable {channelCount : ℕ} (hpos : 0 < channelCount)

theorem pushSamples_ok {β : Type} (convert : β → F32) (planes : Vector (List F32) channelCount)
    (sampleIndex : ℕ) (sample : β) (samples : List (Except WaveError β)) :
    pushSamples hpos convert planes sampleIndex (.ok sample :: samples)
      = (pushSample hpos planes sampleIndex (convert sample) >>= fun planes =>
          pushSamples hpos convert planes (sampleIndex + 1) samples) := rfl

theorem pushSamples_map {β : Type} (convert : β → F32)
    (planes : Vector (List F32) channelCount) (sampleIndex : ℕ)
    (samples : List (Except WaveError β)) :
    pushSamples hpos convert planes sampleIndex samples
      = pushSamples hpos id planes sampleIndex (samples.map (Except.map convert)) := by
  induction samples generalizing planes sampleIndex with
  | nil => rfl
  | cons sample samples ih =>
    cases sample with
    | error error => rfl
    | ok sample =>
      simp only [List.map_cons, Except.map, pushSamples_ok, ih]
      rfl

variable (WaveError) in
theorem pushSample_of_finite (planes : Vector (List F32) channelCount) (sampleIndex : ℕ)
    {sample : F32} (h : isFinite sample) :
    (pushSample hpos planes sampleIndex sample : LoadResult WaveError _)
      = .ok (pushPlane planes (sampleIndex % channelCount) (Nat.mod_lt _ hpos) sample) := by
  simp [pushSample, h]

variable (WaveError) in
/-- Finite samples are all pushed, and the planes stay the interleaved stream. -/
theorem pushSamples_of_finite (planes : Vector (List F32) channelCount) (pushed samples : List F32)
    (hplanes : Interleaved planes pushed) (hfinite : ∀ sample ∈ samples, isFinite sample) :
    ∃ planes', pushSamples hpos id planes pushed.length
        (samples.map .ok : List (Except WaveError F32)) = .ok planes'
      ∧ Interleaved planes' (pushed ++ samples) := by
  induction samples generalizing planes pushed with
  | nil => exact ⟨planes, rfl, by simpa using hplanes⟩
  | cons sample samples ih =>
    have hsample := hfinite sample List.mem_cons_self
    obtain ⟨planes', hloop, hplanes'⟩ := ih _ _ (hplanes.push hpos sample)
      fun other hother => hfinite other (List.mem_cons_of_mem _ hother)
    refine ⟨planes', ?_, by simpa using hplanes'⟩
    have hround := pushSample_of_finite WaveError hpos planes pushed.length hsample
    rw [List.length_append, List.length_singleton] at hloop
    rw [List.map_cons, pushSamples_ok, id, hround]
    exact hloop

/-- A loop that comes to its end has read finite samples only. -/
theorem finite_of_pushSamples {planes planes' : Vector (List F32) channelCount}
    {sampleIndex : ℕ} {stream : List (Except WaveError F32)}
    (h : pushSamples hpos id planes sampleIndex stream = .ok planes') :
    ∃ samples : List F32, stream = samples.map .ok ∧ ∀ sample ∈ samples, isFinite sample := by
  induction stream generalizing planes sampleIndex with
  | nil => exact ⟨[], rfl, by simp⟩
  | cons sample stream ih =>
    cases sample with
    | error error => contradiction
    | ok sample =>
      rw [pushSamples_ok] at h
      obtain ⟨planes₁, hpush, hloop⟩ := bind_eq_ok h
      obtain ⟨samples, rfl, hfinite⟩ := ih hloop
      have hsample : isFinite sample := by
        by_contra hinfinite
        simp [pushSample, hinfinite] at hpush
      refine ⟨sample :: samples, rfl, ?_⟩
      intro other hother
      rcases List.mem_cons.mp hother with rfl | hother
      · exact hsample
      · exact hfinite other hother

end Loop

variable (WaveError)

theorem validatePlaneLengths_iff (expected channel : ℕ) (planes : List (List F32)) :
    (validatePlaneLengths expected channel planes : LoadResult WaveError _) = .ok ()
      ↔ ∀ plane ∈ planes, plane.length = expected := by
  induction planes generalizing channel with
  | nil => simp [validatePlaneLengths]
  | cons plane planes ih =>
    by_cases h : plane.length = expected
    · simp [validatePlaneLengths, h, ih]
    · simp [validatePlaneLengths, h]

/-- The planes have the expected length exactly when the stream has as many full rounds. -/
theorem validatePlaneLengths_planes {channelCount : ℕ} (hpos : 0 < channelCount)
    {planes : Vector (List F32) channelCount} {samples : List F32}
    (h : Interleaved planes samples) (frameCount : ℕ) :
    (validatePlaneLengths frameCount 0 planes.toList : LoadResult WaveError _) = .ok ()
      ↔ samples.length = frameCount * channelCount := by
  rw [validatePlaneLengths_iff WaveError, ← h.lengths_iff hpos]
  simp [Vector.forall_mem_iff_forall_getElem]

variable {WaveError} in
theorem channelCount_of_validateChannels {channels : UInt16} {layout : ChannelMapping}
    (h : (validateChannels channels : LoadResult WaveError _) = .ok layout) :
    layout.channelCount = channels.toNat := by
  unfold validateChannels at h
  split at h
  · next hseven => cases h; rw [hseven]; rfl
  · split at h
    · next hfourteen => cases h; rw [hfourteen]; rfl
    · contradiction

theorem validateFrameCount_iff (duration : UInt32) (limits : LoadLimits) (frameCount : ℕ) :
    (validateFrameCount duration limits : LoadResult WaveError _) = .ok frameCount
      ↔ frameCount = duration.toNat ∧ 0 < duration.toNat
        ∧ duration.toNat ≤ limits.maxFrames := by
  have hfits : ¬ MAX_FRAME_COUNT < duration.toNat := by
    have := duration.toNat_lt
    unfold MAX_FRAME_COUNT
    omega
  unfold validateFrameCount
  rw [if_neg hfits]
  split
  · simp; omega
  · split
    · simp; omega
    · simp only [Except.ok.injEq]
      omega

/-- The first three checks let exactly the supported formats through. -/
theorem supported_iff (spec : WavSpec) :
    spec.Supported
      ↔ (∃ layout, (validateChannels spec.channels : LoadResult WaveError _) = .ok layout)
        ∧ (∃ rate, (validateSampleRate spec.sampleRate : LoadResult WaveError _) = .ok rate)
        ∧ (validateEncoding spec.sampleFormat spec.bitsPerSample : LoadResult WaveError _)
          = .ok () := by
  have hchannels :
      (∃ layout, (validateChannels spec.channels : LoadResult WaveError _) = .ok layout)
      ↔ spec.channels = 7 ∨ spec.channels = 14 := by
    unfold validateChannels
    split
    · simp [*]
    · split <;> simp [*]
  have hrate : (∃ rate, (validateSampleRate spec.sampleRate : LoadResult WaveError _) = .ok rate)
      ↔ spec.sampleRate = 44100 ∨ spec.sampleRate = 48000 := by
    unfold validateSampleRate
    split
    · simp [*]
    · split <;> simp [*]
  have hencoding : (validateEncoding spec.sampleFormat spec.bitsPerSample : LoadResult WaveError _)
      = .ok () ↔ spec.sampleFormat = .Int ∧ spec.bitsPerSample = 16
        ∨ spec.sampleFormat = .Float ∧ spec.bitsPerSample = 32 := by
    unfold validateEncoding
    split <;> split <;> simp [*]
  rw [hchannels, hrate, hencoding, WavSpec.Supported]

variable {WaveError}

/-- `decode` over the stream of floats. -/
theorem decode_eq (reader : WavReader WaveError) (limits : LoadLimits) :
    decode reader limits = (do
      let layout ← validateChannels reader.spec.channels
      let sampleRate ← validateSampleRate reader.spec.sampleRate
      validateEncoding reader.spec.sampleFormat reader.spec.bitsPerSample
      let frameCount ← validateFrameCount reader.duration limits
      let planes ← pushSamples layout.positive id (Vector.replicate layout.channelCount []) 0
        reader.stream
      validatePlaneLengths frameCount 0 planes.toList
      pure ⟨sampleRate, layout.sourceLayout, frameCount, layout.mapping.map fun (left, right) =>
        HrirPair.fromPlanes (planes.get left) (planes.get right)⟩) := by
  obtain ⟨⟨channels, sampleRate, bitsPerSample, sampleFormat⟩, duration, ints, floats⟩ := reader
  unfold decode WavReader.stream
  cases sampleFormat with
  | Int => simp only [pushSamples_map _ normalized]
  | Float => rfl

/-- What a loaded preset was made of. -/
structure Deinterleaved (reader : WavReader WaveError) (preset : HesuviPreset)
    (samples : List F32) : Prop where
  yields : reader.Yields samples
  planes : ∃ (layout : ChannelMapping) (planes : Vector (List F32) layout.channelCount),
    (validateChannels reader.spec.channels : LoadResult WaveError _) = .ok layout
      ∧ Interleaved planes samples
      ∧ preset.pairs = layout.mapping.map fun (left, right) =>
          HrirPair.fromPlanes (planes.get left) (planes.get right)

theorem deinterleaved_of_decode {reader : WavReader WaveError} {limits : LoadLimits}
    {preset : HesuviPreset} (h : decode reader limits = .ok preset) :
    (reader.spec.Supported ∧ 0 < reader.duration.toNat
      ∧ reader.duration.toNat ≤ limits.maxFrames)
      ∧ ∃ samples, Deinterleaved reader preset samples := by
  rw [decode_eq] at h
  obtain ⟨layout, hlayout, h⟩ := bind_eq_ok h
  obtain ⟨rate, hrate, h⟩ := bind_eq_ok h
  obtain ⟨⟨⟩, hencoding, h⟩ := bind_eq_ok h
  obtain ⟨frameCount, hframes, h⟩ := bind_eq_ok h
  obtain ⟨planes, hloop, h⟩ := bind_eq_ok h
  obtain ⟨⟨⟩, hlengths, h⟩ := bind_eq_ok h
  obtain rfl := Except.ok.inj h
  obtain ⟨rfl, hframesPos, hlimit⟩ := (validateFrameCount_iff WaveError _ _ _).mp hframes
  obtain ⟨samples, hstream, hfinite⟩ := finite_of_pushSamples layout.positive hloop
  obtain ⟨planes', hloop', hplanes⟩ := pushSamples_of_finite WaveError
    layout.positive (Vector.replicate layout.channelCount []) [] samples interleaved_nil hfinite
  rw [← hstream] at hloop'
  obtain rfl : planes = planes' := Except.ok.inj (hloop.symm.trans hloop')
  have hcount := (validatePlaneLengths_planes WaveError layout.positive hplanes _).mp hlengths
  rw [channelCount_of_validateChannels hlayout] at hcount
  exact ⟨⟨(supported_iff WaveError _).mpr ⟨⟨layout, hlayout⟩, ⟨rate, hrate⟩, hencoding⟩, hframesPos,
    hlimit⟩, samples, ⟨hstream, hcount, hfinite⟩, layout, planes, hlayout, hplanes, rfl⟩

theorem decode_of_yields {reader : WavReader WaveError} {limits : LoadLimits} {samples : List F32}
    (hsupported : reader.spec.Supported) (hframes : 0 < reader.duration.toNat)
    (hlimit : reader.duration.toNat ≤ limits.maxFrames) (h : reader.Yields samples) :
    ∃ preset, decode reader limits = .ok preset := by
  obtain ⟨⟨layout, hlayout⟩, ⟨rate, hrate⟩, hencoding⟩ :=
    (supported_iff WaveError _).mp hsupported
  obtain ⟨planes, hloop, hplanes⟩ := pushSamples_of_finite WaveError
    layout.positive (Vector.replicate layout.channelCount []) [] samples interleaved_nil h.finite
  have hcount := h.count
  rw [← channelCount_of_validateChannels hlayout] at hcount
  have hlengths := (validatePlaneLengths_planes WaveError layout.positive hplanes
    reader.duration.toNat).mpr hcount
  have hframeCount := (validateFrameCount_iff WaveError reader.duration limits
    reader.duration.toNat).mpr ⟨rfl, hframes, hlimit⟩
  rw [decode_eq, h.stream_eq, hlayout, hrate, hencoding, hframeCount]
  simp only [List.length_nil] at hloop
  simp [bind, Except.bind, hloop, hlengths, pure, Except.pure]

/-- On the two sides of a mirrored layout the ears change places. -/
theorem MAP_7_mirror (direction : VirtualDirection) :
    MAP_7.get direction.mirror.index = (MAP_7.get direction.index).swap := by
  cases direction <;> decide

theorem Deinterleaved.ear_eq {reader : WavReader WaveError} {preset : HesuviPreset}
    {samples : List F32} (h : Deinterleaved reader preset samples) {layout : ChannelMapping}
    (hlayout : (validateChannels reader.spec.channels : LoadResult WaveError _) = .ok layout) :
    ∃ planes : Vector (List F32) layout.channelCount, Interleaved planes samples
      ∧ ∀ direction ear,
        (preset.pair direction).ear ear = planes.get (layout.channel direction ear) := by
  obtain ⟨layout', planes, hlayout', hplanes, hpairs⟩ := h.planes
  obtain rfl : layout' = layout := Except.ok.inj (hlayout'.symm.trans hlayout)
  refine ⟨planes, hplanes, ?_⟩
  intro direction ear
  have hpair : preset.pair direction = HrirPair.fromPlanes
      (planes.get (layout'.mapping.get direction.index).1)
      (planes.get (layout'.mapping.get direction.index).2) := by
    rw [HesuviPreset.pair, hpairs]
    exact Vector.getElem_map _ direction.index.isLt
  rw [hpair]
  cases ear with
  | left => rfl
  | right => rfl

theorem WavReader.Yields.unique {reader : WavReader WaveError} {samples samples' : List F32}
    (h : reader.Yields samples) (h' : reader.Yields samples') : samples = samples' :=
  List.map_injective_iff.mpr (fun _ _ heq => Except.ok.inj heq)
    (h.stream_eq.symm.trans h'.stream_eq)

/-- A stream is loaded exactly if its format is supported, the declared number of frames is
within its limits and the stream is that many finite samples for each channel; the response
then consists of the samples of the channel the layout names. -/
theorem decode_exact (reader : WavReader WaveError) (limits : LoadLimits) :
    ((∃ preset, decode reader limits = .ok preset)
        ↔ reader.spec.Supported ∧ 0 < reader.duration.toNat
          ∧ reader.duration.toNat ≤ limits.maxFrames ∧ ∃ samples, reader.Yields samples)
      ∧ ∀ preset samples, decode reader limits = .ok preset → reader.Yields samples →
        (∀ layout, (validateChannels reader.spec.channels : LoadResult WaveError _) = .ok layout →
          ∀ direction ear,
            ((preset.pair direction).ear ear).length = reader.duration.toNat
              ∧ ∀ frame < reader.duration.toNat, ((preset.pair direction).ear ear)[frame]?
                = samples[frame * reader.spec.channels.toNat + layout.channel direction ear]?)
        ∧ (reader.spec.channels = 7 → ∀ direction ear,
          (preset.pair direction.mirror).ear ear = (preset.pair direction).ear ear.swap) := by
  constructor
  · constructor
    · rintro ⟨preset, hdecode⟩
      obtain ⟨⟨hsupported, hframes, hlimit⟩, samples, hde⟩ := deinterleaved_of_decode hdecode
      exact ⟨hsupported, hframes, hlimit, samples, hde.yields⟩
    · rintro ⟨hsupported, hframes, hlimit, samples, hyields⟩
      exact decode_of_yields hsupported hframes hlimit hyields
  · intro preset samples hdecode hyields
    obtain ⟨-, samples', hde⟩ := deinterleaved_of_decode hdecode
    obtain rfl := hde.yields.unique hyields
    constructor
    · intro layout hlayout direction ear
      obtain ⟨planes, hplanes, hears⟩ := hde.ear_eq hlayout
      have hcount := hyields.count
      rw [← channelCount_of_validateChannels hlayout] at hcount ⊢
      have hlengths := (hplanes.lengths_iff layout.positive _).mpr hcount
      have hlt := (layout.channel direction ear).isLt
      rw [hears]
      exact ⟨hlengths _ hlt, fun frame _ => hplanes _ hlt frame⟩
    · intro hseven direction ear
      have hlayout : (validateChannels reader.spec.channels : LoadResult WaveError _)
          = .ok ⟨.SevenChannelMirrored, 7, MAP_7, by decide⟩ := if_pos hseven
      obtain ⟨planes, hplanes, hears⟩ := hde.ear_eq hlayout
      have hmirror := MAP_7_mirror direction
      rw [hears, hears]
      cases ear <;> simp [ChannelMapping.channel, hmirror, Ear.swap]

/-- A file without frames agrees with its header and is rejected all the same. -/
theorem decode_zeroFrames :
    ¬ ((∃ preset, decode (⟨⟨7, 48000, 16, .Int⟩, 0, [], []⟩ : WavReader Unit) {} = .ok preset)
      ↔ ∃ samples, (⟨⟨7, 48000, 16, .Int⟩, 0, [], []⟩ : WavReader Unit).Yields samples) := by
  intro h
  obtain ⟨preset, hdecode⟩ := h.mpr ⟨[], rfl, rfl, by simp⟩
  have hrejected : decode (⟨⟨7, 48000, 16, .Int⟩, 0, [], []⟩ : WavReader Unit) {}
      = .error .zeroLength := by decide
  rw [hrejected] at hdecode
  contradiction

end PepeAudio.Hrir
