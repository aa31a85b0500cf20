import PepeAudio.Audio.Orbit
import PepeAudio.Audio.Partitioned

/-!
# Renderers

A renderer checks its blocks and runs the engine with the selection of each channel: the two
front directions, or the blends at the position of a pair on the horizon. Samples are elements of
an ordered field, of which all are finite.
-/
namespace PepeAudio.Audio

open Hrir (VirtualDirection)

section Signals

variable {K : Type*} [Field K] [LinearOrder K]

def MAX_ABS_INPUT_SAMPLE : K := (4 : ℕ)

def MAX_ABS_OUTPUT_SAMPLE : K := 1

/-- The samples from an index on. -/
def validateInput : ℕ → List K → Except (DspError K) Unit
  | _, [] => .ok ()
  | index, sample :: samples =>
    if |sample| > MAX_ABS_INPUT_SAMPLE then
      .error (.InputSampleTooLarge index |sample| MAX_ABS_INPUT_SAMPLE)
    else validateInput (index + 1) samples

def validateStereoBlocks (input : List K) (outputLength : ℕ) : Except (DspError K) ℕ :=
  if input.length ≠ outputLength then .error (.BlockLengthMismatch input.length outputLength)
  else if input.length % 2 ≠ 0 then .error (.OddStereoBlock input.length)
  else do
    validateInput 0 input
    .ok (input.length / 2)

def ensureFiniteOutput (sample : K) : K :=
  max (-MAX_ABS_OUTPUT_SAMPLE) (min sample MAX_ABS_OUTPUT_SAMPLE)

theorem validateInput_ok_iff (index : ℕ) (input : List K) :
    validateInput index input = .ok () ↔ ∀ sample ∈ input, |sample| ≤ MAX_ABS_INPUT_SAMPLE := by
  induction input generalizing index with
  | nil => simp [validateInput]
  | cons sample samples ih =>
    rw [validateInput]
    split_ifs with hlarge
    · simp [hlarge]
    · rw [ih]
      simp [not_lt.mp hlarge]

theorem validateStereoBlocks_of_mem {input : List K} (heven : input.length % 2 = 0)
    (h : ∀ sample ∈ input, |sample| ≤ MAX_ABS_INPUT_SAMPLE) :
    validateStereoBlocks input input.length = .ok (input.length / 2) := by
  unfold validateStereoBlocks
  rw [if_neg (not_not.mpr rfl), if_neg (not_not.mpr heven), (validateInput_ok_iff 0 input).mpr h]
  rfl

theorem validateStereoBlocks_pair {left right : K} (hleft : |left| ≤ MAX_ABS_INPUT_SAMPLE)
    (hright : |right| ≤ MAX_ABS_INPUT_SAMPLE) : validateStereoBlocks [left, right] 2 = .ok 1 := by
  have hmem : ∀ sample ∈ [left, right], |sample| ≤ MAX_ABS_INPUT_SAMPLE := by
    simp [hleft, hright]
  simpa using validateStereoBlocks_of_mem (by simp) hmem

/-- The samples of a block that has been accepted. -/
theorem mem_of_validateStereoBlocks {input : List K} {outputLength frames : ℕ}
    (h : validateStereoBlocks input outputLength = .ok frames) :
    ∀ sample ∈ input, |sample| ≤ MAX_ABS_INPUT_SAMPLE := by
  unfold validateStereoBlocks at h
  split_ifs at h
  rw [← validateInput_ok_iff 0]
  cases hinput : validateInput 0 input with
  | error error => rw [hinput] at h; cases h
  | ok _ => rfl

/-- An accepted block is an even number of samples. -/
theorem validateStereoBlocks_ok {input : List K} {outputLength frames : ℕ}
    (h : validateStereoBlocks input outputLength = .ok frames) :
    input.length % 2 = 0 ∧ frames = input.length / 2 ∧
      validateStereoBlocks input input.length = .ok frames := by
  unfold validateStereoBlocks at h ⊢
  split_ifs at h with hmismatch hodd
  simp only [ne_eq, not_not] at hmismatch hodd
  rw [if_neg (by simp), if_neg (by simp [hodd])]
  refine ⟨hodd, ?_, h⟩
  cases hinput : validateInput 0 input with
  | error error => rw [hinput] at h; cases h
  | ok _ =>
    rw [hinput] at h
    cases h
    rfl

end Signals

def Selection.ofBlend {K : Type*} (value : DirectionBlend K) : Selection K :=
  ⟨value.first, value.second, value.firstGain, value.secondGain⟩

section Definitions

variable {K S : Type*} [Field K] [LinearOrder K] [CommRing S] [Algebra K S]

inductive RenderMode (K : Type*) [Field K] [LinearOrder K] where
  | FixedFront
  | HorizontalOrbit (position : HorizontalStereoPair K)

structure FixedFrontRenderer (K S : Type*) where
  engine : PartitionedStereoEngine K S

structure HorizontalOrbitRenderer (K S : Type*) [Field K] [LinearOrder K] where
  engine : PartitionedStereoEngine K S
  position : HorizontalStereoPair K

inductive RendererState (K S : Type*) [Field K] [LinearOrder K] where
  | Fixed (renderer : FixedFrontRenderer K S)
  | Orbit (renderer : HorizontalOrbitRenderer K S)

namespace FixedFrontRenderer

variable {plans : FftPlans K S}

def new (preset : PreparedHrir plans) : FixedFrontRenderer K S := ⟨.new preset⟩

variable (plans)

def warmBlockValidated (input : List K) (renderer : FixedFrontRenderer K S) :
    Option (FixedFrontRenderer K S) := do
  let engine ← renderer.engine.warmValidated plans input
  some { renderer with engine }

/-- A block and the length of the buffer for what is rendered. -/
def renderBlock (input : List K) (outputLength : ℕ) (renderer : FixedFrontRenderer K S) :
    Option (Except (DspError K) (List K × FixedFrontRenderer K S)) :=
  match validateStereoBlocks input outputLength with
  | .error error => some (.error error)
  | .ok _ => do
    let (output, engine) ← renderer.engine.renderValidated plans input (.exact .FrontLeft)
      (.exact .FrontRight)
    some (.ok (output, { renderer with engine }))

def reset (renderer : FixedFrontRenderer K S) : FixedFrontRenderer K S :=
  { renderer with engine := renderer.engine.reset }

end FixedFrontRenderer

namespace HorizontalOrbitRenderer

variable {plans : FftPlans K S}

def new (preset : PreparedHrir plans) (position : HorizontalStereoPair K) :
    HorizontalOrbitRenderer K S := ⟨.new preset, position⟩

def setPosition (position : HorizontalStereoPair K) (renderer : HorizontalOrbitRenderer K S) :
    HorizontalOrbitRenderer K S :=
  { renderer with position }

variable (plans)

def warmBlockValidated (input : List K) (renderer : HorizontalOrbitRenderer K S) :
    Option (HorizontalOrbitRenderer K S) := do
  let engine ← renderer.engine.warmValidated plans input
  some { renderer with engine }

def renderBlock [FloorRing K] (turn : QuarterTurn K) (input : List K) (outputLength : ℕ)
    (renderer : HorizontalOrbitRenderer K S) :
    Option (Except (DspError K) (List K × HorizontalOrbitRenderer K S)) :=
  match validateStereoBlocks input outputLength with
  | .error error => some (.error error)
  | .ok _ => do
    let left := Selection.ofBlend (blendForAzimuth turn renderer.position.leftDegrees)
    let right := Selection.ofBlend (blendForAzimuth turn renderer.position.rightDegrees)
    let (output, engine) ← renderer.engine.renderValidated plans input left right
    some (.ok (output, { renderer with engine }))

def reset (renderer : HorizontalOrbitRenderer K S) : HorizontalOrbitRenderer K S :=
  { renderer with engine := renderer.engine.reset }

end HorizontalOrbitRenderer

namespace RendererState

variable {plans : FftPlans K S}

def new (preset : PreparedHrir plans) : RenderMode K → RendererState K S
  | .FixedFront => .Fixed (.new preset)
  | .HorizontalOrbit position => .Orbit (.new preset position)

def reset : RendererState K S → RendererState K S
  | .Fixed renderer => .Fixed renderer.reset
  | .Orbit renderer => .Orbit renderer.reset

def setOrbitPosition (position : HorizontalStereoPair K) :
    RendererState K S → Except (DspError K) (RendererState K S)
  | .Fixed _ => .error .OrbitModeRequired
  | .Orbit renderer => .ok (.Orbit (renderer.setPosition position))

def matchesMode : RendererState K S → RenderMode K → Bool
  | .Fixed _, .FixedFront => true
  | .Orbit _, .HorizontalOrbit _ => true
  | _, _ => false

variable (plans)

def warmBlockValidated (input : List K) : RendererState K S → Option (RendererState K S)
  | .Fixed renderer => (renderer.warmBlockValidated plans input).map .Fixed
  | .Orbit renderer => (renderer.warmBlockValidated plans input).map .Orbit

def renderBlock [FloorRing K] (turn : QuarterTurn K) (input : List K) (outputLength : ℕ) :
    RendererState K S → Option (Except (DspError K) (List K × RendererState K S))
  | .Fixed renderer => (renderer.renderBlock plans input outputLength).map
      (Except.map fun (output, renderer) => (output, .Fixed renderer))
  | .Orbit renderer => (renderer.renderBlock plans turn input outputLength).map
      (Except.map fun (output, renderer) => (output, .Orbit renderer))

end RendererState

/-- A renderer built outside the worker. -/
structure PreparedRenderer (K S : Type*) [Field K] [LinearOrder K] where
  mode : RenderMode K
  state : RendererState K S

def PreparedRenderer.new {plans : FftPlans K S} (preset : PreparedHrir plans)
    (mode : RenderMode K) : PreparedRenderer K S :=
  ⟨mode, .new preset mode⟩

end Definitions

end PepeAudio.Audio
