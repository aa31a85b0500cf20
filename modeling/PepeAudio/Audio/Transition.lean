import PepeAudio.Lib.Ramp

/-!
# Gains in transition

The output gain and the share of the wet path move on linear ramps. Two signals are exchanged
with weights of equal power, the cosine and the sine of a quarter turn. Samples, gains and weights
are numbers of an exact field, so nothing is rounded and every value is finite.
-/
namespace PepeAudio.Audio

inductive DspError (K : Type*) where
  | ResampleLengthOverflow
  | BlockLengthMismatch (input output : ℕ)
  | OddStereoBlock (samples : ℕ)
  | ZeroBlockCapacity
  | BlockTooLarge (actual maximum : ℕ)
  | InputSampleTooLarge (index : ℕ) (actual maximum : K)
  | InvalidGain (actual maximum : K)
  | InvalidStereoWidth (actual : K)
  | OrbitModeRequired
  | RendererModeMismatch
  | PresetTransitionInProgress

/-- The cosine and the sine of a quarter turn, by the part of it that is made. -/
structure QuarterTurn (K : Type*) [CommRing K] where
  cos : K → K
  sin : K → K
  cos_zero : cos 0 = 1
  sin_zero : sin 0 = 0
  cos_one : cos 1 = 0
  sin_one : sin 1 = 1
  power : ∀ x, cos x ^ 2 + sin x ^ 2 = 1

section Weights

variable {K : Type*} [Field K] [LinearOrder K] (turn : QuarterTurn K)

def equalPowerWeightsFinite (progress : K) : K × K :=
  let progress := max 0 (min progress 1)
  (turn.cos progress, turn.sin progress)

theorem equalPowerWeightsFinite_of_mem {progress : K} (h : progress ∈ Set.Icc (0 : K) 1) :
    equalPowerWeightsFinite turn progress = (turn.cos progress, turn.sin progress) := by
  simp only [equalPowerWeightsFinite, min_eq_left h.2, max_eq_right h.1]

theorem equalPowerWeightsFinite_power (progress : K) :
    (equalPowerWeightsFinite turn progress).1 ^ 2 +
      (equalPowerWeightsFinite turn progress).2 ^ 2 = 1 :=
  turn.power _

variable [IsStrictOrderedRing K]

theorem equalPowerWeightsFinite_zero : equalPowerWeightsFinite turn 0 = (1, 0) := by
  rw [equalPowerWeightsFinite_of_mem turn ⟨le_rfl, zero_le_one⟩, turn.cos_zero, turn.sin_zero]

theorem equalPowerWeightsFinite_one : equalPowerWeightsFinite turn 1 = (0, 1) := by
  rw [equalPowerWeightsFinite_of_mem turn ⟨zero_le_one, le_rfl⟩, turn.cos_one, turn.sin_one]

end Weights

section Gains

variable {K : Type*} [Field K] [LinearOrder K]

def MAX_LINEAR_GAIN : K := 4

/-- A gain that is neither negative nor too large. -/
structure LinearGain (K : Type*) [Field K] [LinearOrder K] where
  get : K
  get_mem : get ∈ Set.Icc 0 (MAX_LINEAR_GAIN : K)

def LinearGain.new (value : K) : Except (DspError K) (LinearGain K) :=
  if h : 0 ≤ value ∧ value ≤ MAX_LINEAR_GAIN then .ok ⟨value, h⟩
  else .error (.InvalidGain value MAX_LINEAR_GAIN)

def LinearGain.UNITY [IsStrictOrderedRing K] : LinearGain K :=
  ⟨1, zero_le_one, by unfold MAX_LINEAR_GAIN; linarith⟩

abbrev GainRamp (K : Type*) := Ramp K

namespace GainRamp

def new (initial : LinearGain K) : GainRamp K := Ramp.rest initial.get

def setTarget (target : LinearGain K) (frames : ℕ) (r : GainRamp K) : GainRamp K :=
  Ramp.setTarget target.get frames r

def nextFrameGain (r : GainRamp K) : K × GainRamp K := (r.current, r.advance)

end GainRamp

abbrev UnitRamp (K : Type*) := Ramp K

namespace UnitRamp

def new (initial : K) : UnitRamp K := Ramp.rest initial

def next (r : UnitRamp K) : K × UnitRamp K := (r.current, r.advance)

def isSettled (r : UnitRamp K) : Bool := r.remaining = 0

end UnitRamp

/-- The way from one signal to another. -/
structure EqualPowerFade (K : Type*) where
  progress : UnitRamp K

namespace EqualPowerFade

def new (frames : ℕ) : EqualPowerFade K := ⟨(UnitRamp.new 0).setTarget 1 frames⟩

def nextWeights (turn : QuarterTurn K) (fade : EqualPowerFade K) : (K × K) × EqualPowerFade K :=
  let (progress, ramp) := fade.progress.next
  (equalPowerWeightsFinite turn progress, ⟨ramp⟩)

def isComplete (fade : EqualPowerFade K) : Bool := fade.progress.isSettled

end EqualPowerFade

end Gains

end PepeAudio.Audio
