import PepeAudio.Audio.Transition
import PepeAudio.Hrir.Loader

/-!
# Directions on the horizon

Between two neighbouring anchors a source is heard from both, with weights of equal power. The
seven anchors leave seven sectors, of which the last wraps around behind the listener. Angles and
weights are taken in exact arithmetic.
-/
namespace PepeAudio.Audio

open Hrir (VirtualDirection)

instance : Fintype VirtualDirection where
  elems := {.FrontLeft, .FrontRight, .FrontCenter, .BackLeft, .BackRight, .SideLeft, .SideRight}
  complete direction := by cases direction <;> decide

section Definitions

variable {K : Type*} [Field K]

def REAR_WRAP_START_DEGREES : K := 150

def REAR_WRAP_END_DEGREES : K := 210

def SORTED_ANCHORS : List (K × VirtualDirection) :=
  [(-150, .BackRight), (-90, .SideRight), (-30, .FrontRight), (0, .FrontCenter), (30, .FrontLeft),
    (90, .SideLeft), (150, .BackLeft)]

structure DirectionBlend (K : Type*) where
  first : VirtualDirection
  second : VirtualDirection
  firstGain : K
  secondGain : K

/-- How loud a direction is. -/
def DirectionBlend.gain (blend : DirectionBlend K) (direction : VirtualDirection) : K :=
  (if blend.first = direction then blend.firstGain else 0) +
    if blend.second = direction then blend.secondGain else 0

variable [LinearOrder K]

section Blend

variable (turn : QuarterTurn K)

def makeBlend (first second : VirtualDirection) (progress : K) : DirectionBlend K :=
  let (firstGain, secondGain) := equalPowerWeightsFinite turn progress
  { first, second, firstGain, secondGain }

/-- The first window of the anchors that contains the azimuth. -/
def blendBetween (azimuth : K) : List (K × VirtualDirection) → Option (DirectionBlend K)
  | (firstAngle, first) :: (secondAngle, second) :: rest =>
    if firstAngle ≤ azimuth ∧ azimuth < secondAngle then
      some (makeBlend turn first second ((azimuth - firstAngle) / (secondAngle - firstAngle)))
    else blendBetween azimuth ((secondAngle, second) :: rest)
  | _ => none

end Blend

variable [FloorRing K]

/-- The remainder that is not negative. -/
def remEuclid (degrees divisor : K) : K := degrees - divisor * ⌊degrees / divisor⌋

def normalizeFiniteAzimuth (degrees : K) : K :=
  let normalized := remEuclid degrees 360
  if normalized > 180 then normalized - 360 else normalized

def blendForAzimuth (turn : QuarterTurn K) (degrees : K) : DirectionBlend K :=
  let azimuth := normalizeFiniteAzimuth degrees
  if ¬(-150 ≤ azimuth ∧ azimuth < 150) then
    let unwrapped := if azimuth < -150 then azimuth + 360 else azimuth
    makeBlend turn .BackLeft .BackRight
      ((unwrapped - REAR_WRAP_START_DEGREES) / (REAR_WRAP_END_DEGREES - REAR_WRAP_START_DEGREES))
  else
    (blendBetween turn azimuth SORTED_ANCHORS).getD (makeBlend turn .BackLeft .BackRight 0)

end Definitions

section Sectors

variable {K : Type*} [Field K]

/-- The arc between two neighbouring anchors. -/
structure Sector (K : Type*) where
  angle : K
  gap : K
  first : VirtualDirection
  second : VirtualDirection

/-- All sectors, counter-clockwise. -/
def sectors : List (Sector K) :=
  [⟨-150, 60, .BackRight, .SideRight⟩, ⟨-90, 60, .SideRight, .FrontRight⟩,
    ⟨-30, 30, .FrontRight, .FrontCenter⟩, ⟨0, 30, .FrontCenter, .FrontLeft⟩,
    ⟨30, 60, .FrontLeft, .SideLeft⟩, ⟨90, 60, .SideLeft, .BackLeft⟩,
    ⟨150, 60, .BackLeft, .BackRight⟩]

/-- An angle within a sector, after some turns. -/
def Sector.at (sector : Sector K) (progress : K) (turns : ℤ) : K :=
  sector.angle + progress * sector.gap + 360 * turns

theorem Sector.first_ne_second {sector : Sector K} (h : sector ∈ sectors) :
    sector.first ≠ sector.second := by
  simp only [sectors, List.mem_cons, List.not_mem_nil, or_false] at h
  rcases h with rfl | rfl | rfl | rfl | rfl | rfl | rfl <;> simp

/-- Where a sector ends, another begins with the same anchor. -/
theorem Sector.exists_next {sector : Sector K} (h : sector ∈ sectors) :
    ∃ next ∈ (sectors : List (Sector K)), next.first = sector.second ∧
      ∃ wrap : ℤ, next.angle + 360 * wrap = sector.angle + sector.gap := by
  simp only [sectors, List.mem_cons, List.not_mem_nil, or_false] at h ⊢
  rcases h with rfl | rfl | rfl | rfl | rfl | rfl | rfl
  · exact ⟨_, .inr (.inl rfl), rfl, 0, by ring_nf⟩
  · exact ⟨_, .inr (.inr (.inl rfl)), rfl, 0, by ring_nf⟩
  · exact ⟨_, .inr (.inr (.inr (.inl rfl))), rfl, 0, by ring_nf⟩
  · exact ⟨_, .inr (.inr (.inr (.inr (.inl rfl)))), rfl, 0, by ring_nf⟩
  · exact ⟨_, .inr (.inr (.inr (.inr (.inr (.inl rfl))))), rfl, 0, by ring_nf⟩
  · exact ⟨_, .inr (.inr (.inr (.inr (.inr (.inr rfl))))), rfl, 0, by ring_nf⟩
  · exact ⟨_, .inl rfl, rfl, 1, by ring_nf⟩

/-- Where a sector begins, another ends with the same anchor. -/
theorem Sector.exists_previous {sector : Sector K} (h : sector ∈ sectors) :
    ∃ previous ∈ (sectors : List (Sector K)), ∃ wrap : ℤ,
      previous.angle + previous.gap + 360 * wrap = sector.angle := by
  simp only [sectors, List.mem_cons, List.not_mem_nil, or_false] at h ⊢
  rcases h with rfl | rfl | rfl | rfl | rfl | rfl | rfl
  · exact ⟨_, .inr (.inr (.inr (.inr (.inr (.inr rfl))))), -1, by ring_nf⟩
  · exact ⟨_, .inl rfl, 0, by ring_nf⟩
  · exact ⟨_, .inr (.inl rfl), 0, by ring_nf⟩
  · exact ⟨_, .inr (.inr (.inl rfl)), 0, by ring_nf⟩
  · exact ⟨_, .inr (.inr (.inr (.inl rfl))), 0, by ring_nf⟩
  · exact ⟨_, .inr (.inr (.inr (.inr (.inl rfl)))), 0, by ring_nf⟩
  · exact ⟨_, .inr (.inr (.inr (.inr (.inr (.inl rfl))))), 0, by ring_nf⟩

variable [LinearOrder K] (turn : QuarterTurn K)

theorem blendBetween_of_le {azimuth firstAngle secondAngle : K} (first second : VirtualDirection)
    (rest : List (K × VirtualDirection)) (h : secondAngle ≤ azimuth) :
    blendBetween turn azimuth ((firstAngle, first) :: (secondAngle, second) :: rest) =
      blendBetween turn azimuth ((secondAngle, second) :: rest) :=
  if_neg fun hmem => not_lt_of_ge h hmem.2

theorem blendBetween_of_mem {azimuth firstAngle secondAngle : K} (first second : VirtualDirection)
    (rest : List (K × VirtualDirection)) (h : azimuth ∈ Set.Ico firstAngle secondAngle) :
    blendBetween turn azimuth ((firstAngle, first) :: (secondAngle, second) :: rest) =
      some (makeBlend turn first second ((azimuth - firstAngle) / (secondAngle - firstAngle))) :=
  if_pos h

/-- As a blend has two directions, its power is that of its weights. -/
theorem power_makeBlend {first second : VirtualDirection} (h : first ≠ second) (progress : K) :
    ∑ direction, (makeBlend turn first second progress).gain direction ^ 2 = 1 := by
  have hsquare (direction : VirtualDirection) :
      (makeBlend turn first second progress).gain direction ^ 2 =
        (if first = direction then (equalPowerWeightsFinite turn progress).1 ^ 2 else 0) +
          if second = direction then (equalPowerWeightsFinite turn progress).2 ^ 2 else 0 := by
    by_cases hfirst : first = direction
    · have hsecond : second ≠ direction := fun hsecond => h (hfirst.trans hsecond.symm)
      simp [makeBlend, DirectionBlend.gain, hfirst, hsecond]
    · by_cases hsecond : second = direction
      · simp [makeBlend, DirectionBlend.gain, hfirst, hsecond]
      · simp [makeBlend, DirectionBlend.gain, hfirst, hsecond]
  rw [Finset.sum_congr rfl fun direction _ => hsquare direction, Finset.sum_add_distrib,
    Finset.sum_ite_eq, Finset.sum_ite_eq, if_pos (Finset.mem_univ _), if_pos (Finset.mem_univ _)]
  exact equalPowerWeightsFinite_power turn progress

variable [IsStrictOrderedRing K]

theorem Sector.exists_progress {azimuth : K} {sector : Sector K} (hgap : 0 < sector.gap)
    (h : azimuth ∈ Set.Ico sector.angle (sector.angle + sector.gap)) :
    ∃ progress ∈ Set.Ico (0 : K) 1, azimuth = sector.angle + progress * sector.gap := by
  obtain ⟨hlo, hhi⟩ := h
  refine ⟨(azimuth - sector.angle) / sector.gap, ⟨?_, ?_⟩, ?_⟩
  · exact div_nonneg (sub_nonneg.mpr hlo) hgap.le
  · rw [div_lt_one hgap]
    linarith
  · rw [div_mul_cancel₀ _ hgap.ne', add_sub_cancel]

theorem Sector.gap_pos {sector : Sector K} (h : sector ∈ sectors) : 0 < sector.gap := by
  simp only [sectors, List.mem_cons, List.not_mem_nil, or_false] at h
  rcases h with rfl | rfl | rfl | rfl | rfl | rfl | rfl <;> norm_num

/-- From the first anchor all the way round, every angle lies in a sector. -/
theorem exists_sector_of_mem {azimuth : K} (h : azimuth ∈ Set.Ico (-150 : K) 210) :
    ∃ sector ∈ (sectors : List (Sector K)), 0 < sector.gap ∧
      azimuth ∈ Set.Ico sector.angle (sector.angle + sector.gap) := by
  obtain ⟨hlo, hhi⟩ := h
  simp only [sectors, List.mem_cons, List.not_mem_nil, or_false, exists_eq_or_imp,
    exists_eq_left, Set.mem_Ico]
  rcases lt_or_ge azimuth (-90) with h₁ | h₁
  · left
    constructor <;> [norm_num; constructor] <;> linarith
  rcases lt_or_ge azimuth (-30) with h₂ | h₂
  · right; left
    constructor <;> [norm_num; constructor] <;> linarith
  rcases lt_or_ge azimuth 0 with h₃ | h₃
  · right; right; left
    constructor <;> [norm_num; constructor] <;> linarith
  rcases lt_or_ge azimuth 30 with h₄ | h₄
  · right; right; right; left
    constructor <;> [norm_num; constructor] <;> linarith
  rcases lt_or_ge azimuth 90 with h₅ | h₅
  · right; right; right; right; left
    constructor <;> [norm_num; constructor] <;> linarith
  rcases lt_or_ge azimuth 150 with h₆ | h₆
  · right; right; right; right; right; left
    constructor <;> [norm_num; constructor] <;> linarith
  · right; right; right; right; right; right
    constructor <;> [norm_num; constructor] <;> linarith

/-- At the end of a sector only its second anchor is heard. -/
theorem gain_makeBlend_one (first second direction : VirtualDirection) :
    (makeBlend turn first second 1).gain direction = if second = direction then 1 else 0 := by
  simp [makeBlend, equalPowerWeightsFinite_one, DirectionBlend.gain]

theorem gain_makeBlend_zero (first second direction : VirtualDirection) :
    (makeBlend turn first second 0).gain direction = if first = direction then 1 else 0 := by
  simp [makeBlend, equalPowerWeightsFinite_zero, DirectionBlend.gain]

end Sectors

variable {K : Type*} [Field K] [LinearOrder K] [IsStrictOrderedRing K] [FloorRing K]

theorem remEuclid_mem {divisor : K} (h : 0 < divisor) (degrees : K) :
    remEuclid degrees divisor ∈ Set.Ico 0 divisor := by
  have hfloor := Int.floor_le (degrees / divisor)
  have hlt := Int.lt_floor_add_one (degrees / divisor)
  rw [le_div_iff₀ h] at hfloor
  rw [div_lt_iff₀ h] at hlt
  unfold remEuclid
  constructor <;> linarith

theorem remEuclid_add {divisor : K} (h : 0 < divisor) (degrees : K) (turns : ℤ) :
    remEuclid (degrees + divisor * turns) divisor = remEuclid degrees divisor := by
  have hdiv : (degrees + divisor * turns) / divisor = degrees / divisor + turns := by
    field_simp
  unfold remEuclid
  rw [hdiv, Int.floor_add_intCast]
  push_cast
  ring

/-- Whole turns do not matter. -/
theorem normalizeFiniteAzimuth_add (degrees : K) (turns : ℤ) :
    normalizeFiniteAzimuth (degrees + 360 * turns) = normalizeFiniteAzimuth degrees := by
  unfold normalizeFiniteAzimuth
  rw [remEuclid_add (by norm_num)]

theorem normalizeFiniteAzimuth_spec (degrees : K) :
    normalizeFiniteAzimuth degrees ∈ Set.Ioc (-180 : K) 180 ∧
      ∃ turns : ℤ, degrees = normalizeFiniteAzimuth degrees + 360 * turns := by
  obtain ⟨hlo, hhi⟩ := remEuclid_mem (by norm_num : (0 : K) < 360) degrees
  have hdegrees : degrees = remEuclid degrees 360 + 360 * ⌊degrees / 360⌋ := by
    unfold remEuclid
    ring
  unfold normalizeFiniteAzimuth
  simp only
  split_ifs with hhigh
  · refine ⟨⟨by linarith, by linarith⟩, ⌊degrees / 360⌋ + 1, ?_⟩
    push_cast
    linarith
  · exact ⟨⟨by linarith, by linarith⟩, ⌊degrees / 360⌋, hdegrees⟩

theorem normalizeFiniteAzimuth_of_mem {degrees : K} (h : degrees ∈ Set.Ioc (-180 : K) 180) :
    normalizeFiniteAzimuth degrees = degrees := by
  obtain ⟨⟨hlo, hhi⟩, turns, hturns⟩ := normalizeFiniteAzimuth_spec degrees
  obtain ⟨hlo', hhi'⟩ := h
  have habove : (turns : K) < 1 := by linarith
  have hbelow : (-1 : K) < turns := by linarith
  have hzero : turns = 0 := by
    have habove' : turns < 1 := by exact_mod_cast habove
    have hbelow' : -1 < turns := by exact_mod_cast hbelow
    omega
  rw [hzero] at hturns
  simpa using hturns.symm

/-- A pair of channels on the horizon, by the angle between them and that to their center. -/
structure HorizontalStereoPair (K : Type*) [Field K] [LinearOrder K] where
  centerDegrees : K
  widthDegrees : K
  center_mem : centerDegrees ∈ Set.Ioc (-180) 180
  width_mem : widthDegrees ∈ Set.Icc 0 180

namespace HorizontalStereoPair

def FRONT : HorizontalStereoPair K where
  centerDegrees := 0
  widthDegrees := 60
  center_mem := ⟨by norm_num, by norm_num⟩
  width_mem := ⟨by norm_num, by norm_num⟩

def new (centerDegrees widthDegrees : K) : Except (DspError K) (HorizontalStereoPair K) :=
  if h : 0 ≤ widthDegrees ∧ widthDegrees ≤ 180 then
    .ok ⟨normalizeFiniteAzimuth centerDegrees, widthDegrees,
      (normalizeFiniteAzimuth_spec centerDegrees).1, h⟩
  else .error (.InvalidStereoWidth widthDegrees)

def leftDegrees (pair : HorizontalStereoPair K) : K :=
  normalizeFiniteAzimuth (pair.centerDegrees + pair.widthDegrees * (1 / 2))

def rightDegrees (pair : HorizontalStereoPair K) : K :=
  normalizeFiniteAzimuth (pair.centerDegrees - pair.widthDegrees * (1 / 2))

end HorizontalStereoPair

/-- Every angle lies in a sector. -/
theorem exists_sector (degrees : K) :
    ∃ sector ∈ (sectors : List (Sector K)), ∃ progress ∈ Set.Ico (0 : K) 1, ∃ turns : ℤ,
      degrees = sector.at progress turns := by
  obtain ⟨⟨hlo, hhi⟩, turns, hturns⟩ := normalizeFiniteAzimuth_spec degrees
  rcases lt_or_ge (normalizeFiniteAzimuth degrees) (-150) with hrear | hfront
  · obtain ⟨sector, hsector, hgap, hmem⟩ := exists_sector_of_mem
      (⟨by linarith, by linarith⟩ : normalizeFiniteAzimuth degrees + 360 ∈ Set.Ico (-150 : K) 210)
    obtain ⟨progress, hprogress, hangle⟩ := Sector.exists_progress hgap hmem
    refine ⟨sector, hsector, progress, hprogress, turns - 1, ?_⟩
    unfold Sector.at
    rw [hturns, ← hangle]
    push_cast
    ring
  · obtain ⟨sector, hsector, hgap, hmem⟩ := exists_sector_of_mem
      (⟨hfront, by linarith⟩ : normalizeFiniteAzimuth degrees ∈ Set.Ico (-150 : K) 210)
    obtain ⟨progress, hprogress, hangle⟩ := Sector.exists_progress hgap hmem
    refine ⟨sector, hsector, progress, hprogress, turns, ?_⟩
    unfold Sector.at
    rw [← hangle]
    exact hturns

section Blended

variable (turn : QuarterTurn K)

theorem blendForAzimuth_add (degrees : K) (turns : ℤ) :
    blendForAzimuth turn (degrees + 360 * turns) = blendForAzimuth turn degrees := by
  simp only [blendForAzimuth, normalizeFiniteAzimuth_add]

/-- In front of the rear sector one of the windows is found. -/
theorem blendForAzimuth_window {azimuth : K} (h : azimuth ∈ Set.Ico (-150 : K) 150)
    {blend : DirectionBlend K} (hblend : blendBetween turn azimuth SORTED_ANCHORS = some blend) :
    blendForAzimuth turn azimuth = blend := by
  obtain ⟨hlo, hhi⟩ := h
  unfold blendForAzimuth
  rw [normalizeFiniteAzimuth_of_mem ⟨by linarith, by linarith⟩]
  simp only [hlo, hhi, and_self, not_true_eq_false, if_false, hblend, Option.getD_some]

/-- Behind the listener the angle may have been wrapped. -/
theorem blendForAzimuth_rear {azimuth : K} (h : azimuth ∈ Set.Ico (150 : K) 210) :
    blendForAzimuth turn azimuth =
      makeBlend turn .BackLeft .BackRight ((azimuth - 150) / (210 - 150)) := by
  obtain ⟨hlo, hhi⟩ := h
  rcases le_or_gt azimuth 180 with hleft | hright
  · unfold blendForAzimuth
    rw [normalizeFiniteAzimuth_of_mem ⟨by linarith, hleft⟩]
    simp only [not_lt_of_ge hlo, and_false, not_false_eq_true, if_true,
      not_lt_of_ge (by linarith : -150 ≤ azimuth), if_false, REAR_WRAP_START_DEGREES,
      REAR_WRAP_END_DEGREES]
  · have hwrapped : azimuth = (azimuth - 360) + 360 * ((1 : ℤ) : K) := by
      push_cast
      ring
    rw [hwrapped, blendForAzimuth_add]
    unfold blendForAzimuth
    rw [normalizeFiniteAzimuth_of_mem ⟨by linarith, by linarith⟩]
    simp only [not_le_of_gt (by linarith : azimuth - 360 < -150), false_and, not_false_eq_true,
      if_true, (by linarith : azimuth - 360 < -150), REAR_WRAP_START_DEGREES,
      REAR_WRAP_END_DEGREES]
    congr 3
    push_cast
    ring

/-- In a sector its two anchors are blended, by the part of the sector that is passed. -/
theorem blendForAzimuth_sector {sector : Sector K} (hsector : sector ∈ sectors) {progress : K}
    (hprogress : progress ∈ Set.Ico (0 : K) 1) (turns : ℤ) :
    blendForAzimuth turn (sector.at progress turns) =
      makeBlend turn sector.first sector.second progress := by
  obtain ⟨hlo, hhi⟩ := hprogress
  unfold Sector.at
  rw [blendForAzimuth_add]
  simp only [sectors, List.mem_cons, List.not_mem_nil, or_false] at hsector
  rcases hsector with rfl | rfl | rfl | rfl | rfl | rfl | rfl
  · apply blendForAzimuth_window turn ⟨by linarith, by linarith⟩
    rw [SORTED_ANCHORS, blendBetween_of_mem turn _ _ _ ⟨by linarith, by linarith⟩]
    ring_nf
  · apply blendForAzimuth_window turn ⟨by linarith, by linarith⟩
    rw [SORTED_ANCHORS, blendBetween_of_le turn _ _ _ (by linarith),
      blendBetween_of_mem turn _ _ _ ⟨by linarith, by linarith⟩]
    ring_nf
  · apply blendForAzimuth_window turn ⟨by linarith, by linarith⟩
    rw [SORTED_ANCHORS, blendBetween_of_le turn _ _ _ (by linarith),
      blendBetween_of_le turn _ _ _ (by linarith),
      blendBetween_of_mem turn _ _ _ ⟨by linarith, by linarith⟩]
    ring_nf
  · apply blendForAzimuth_window turn ⟨by linarith, by linarith⟩
    rw [SORTED_ANCHORS, blendBetween_of_le turn _ _ _ (by linarith),
      blendBetween_of_le turn _ _ _ (by linarith), blendBetween_of_le turn _ _ _ (by linarith),
      blendBetween_of_mem turn _ _ _ ⟨by linarith, by linarith⟩]
    ring_nf
  · apply blendForAzimuth_window turn ⟨by linarith, by linarith⟩
    rw [SORTED_ANCHORS, blendBetween_of_le turn _ _ _ (by linarith),
      blendBetween_of_le turn _ _ _ (by linarith), blendBetween_of_le turn _ _ _ (by linarith),
      blendBetween_of_le turn _ _ _ (by linarith),
      blendBetween_of_mem turn _ _ _ ⟨by linarith, by linarith⟩]
    ring_nf
  · apply blendForAzimuth_window turn ⟨by linarith, by linarith⟩
    rw [SORTED_ANCHORS, blendBetween_of_le turn _ _ _ (by linarith),
      blendBetween_of_le turn _ _ _ (by linarith), blendBetween_of_le turn _ _ _ (by linarith),
      blendBetween_of_le turn _ _ _ (by linarith), blendBetween_of_le turn _ _ _ (by linarith),
      blendBetween_of_mem turn _ _ _ ⟨by linarith, by linarith⟩]
    ring_nf
  · rw [blendForAzimuth_rear turn ⟨by linarith, by linarith⟩]
    ring_nf

/-- The gains of a sector hold up to its end, where the next one takes over. -/
theorem gain_sector {sector : Sector K} (hsector : sector ∈ sectors) {progress : K}
    (hprogress : progress ∈ Set.Icc (0 : K) 1) (turns : ℤ) (direction : VirtualDirection) :
    (blendForAzimuth turn (sector.at progress turns)).gain direction =
      (makeBlend turn sector.first sector.second progress).gain direction := by
  obtain ⟨hlo, hhi⟩ := hprogress
  rcases hhi.lt_or_eq with hlt | rfl
  · rw [blendForAzimuth_sector turn hsector ⟨hlo, hlt⟩]
  · obtain ⟨next, hnext, hfirst, wrap, hwrap⟩ := Sector.exists_next hsector
    have hangle : sector.at 1 turns = next.at 0 (turns + wrap) := by
      unfold Sector.at
      push_cast
      linarith
    rw [hangle, blendForAzimuth_sector turn hnext ⟨le_rfl, zero_lt_one⟩, gain_makeBlend_zero,
      gain_makeBlend_one, hfirst]

/-- Every angle is one of a sector, whose two anchors alone are heard; the power is the same all
around. -/
theorem blend_sectors (degrees : K) :
    (∃ sector ∈ sectors, ∃ progress ∈ Set.Ico (0 : K) 1, ∃ turns : ℤ,
      degrees = sector.at progress turns ∧
        blendForAzimuth turn degrees = makeBlend turn sector.first sector.second progress) ∧
      ∑ direction, (blendForAzimuth turn degrees).gain direction ^ 2 = 1 := by
  obtain ⟨sector, hsector, progress, hprogress, turns, rfl⟩ := exists_sector degrees
  have hblend := blendForAzimuth_sector turn hsector hprogress turns
  refine ⟨⟨sector, hsector, progress, hprogress, turns, rfl, hblend⟩, ?_⟩
  rw [hblend]
  exact power_makeBlend turn (Sector.first_ne_second hsector) progress

noncomputable def realTurn : QuarterTurn ℝ where
  cos x := Real.cos (x * (Real.pi / (2 : ℕ)))
  sin x := Real.sin (x * (Real.pi / (2 : ℕ)))
  cos_zero := by simp
  sin_zero := by simp
  cos_one := by simp
  sin_one := by simp
  power x := Real.cos_sq_add_sin_sq _

theorem blend_sectors_rear :
    (∃ sector ∈ sectors, ∃ progress ∈ Set.Ico (0 : ℝ) 1, ∃ turns : ℤ,
      -180 = sector.at progress turns ∧
        blendForAzimuth realTurn (-180) =
          makeBlend realTurn sector.first sector.second progress) ∧
      ∑ direction, (blendForAzimuth realTurn (-180)).gain direction ^ 2 = 1 :=
  blend_sectors realTurn (-180)

end Blended

end PepeAudio.Audio
