import PepeAudio.Audio.Orbit

/-!
# Sources that move

With the cosine and the sine themselves for weights, the share of every direction changes
continuously with the azimuth, at the anchors and behind the listener too.
-/
namespace PepeAudio.Audio

open Hrir (VirtualDirection)
open scoped Topology

theorem continuous_equalPowerWeightsFinite :
    Continuous fun progress => equalPowerWeightsFinite realTurn progress := by
  unfold equalPowerWeightsFinite realTurn
  fun_prop

theorem continuous_gain_makeBlend (first second direction : VirtualDirection) :
    Continuous fun progress => (makeBlend realTurn first second progress).gain direction := by
  have hweights := continuous_equalPowerWeightsFinite
  have hgain : (fun progress => (makeBlend realTurn first second progress).gain direction) =
      fun progress => (if first = direction then (equalPowerWeightsFinite realTurn progress).1
        else 0) + if second = direction then (equalPowerWeightsFinite realTurn progress).2 else 0 :=
    rfl
  rw [hgain]
  apply Continuous.add
  · split_ifs
    · exact hweights.fst
    · exact continuous_const
  · split_ifs
    · exact hweights.snd
    · exact continuous_const

/-- The angles of a sector after some turns, both ends included. -/
def Sector.arc (sector : Sector ℝ) (turns : ℤ) : Set ℝ :=
  Set.Icc (sector.at 0 turns) (sector.at 1 turns)

theorem continuousOn_arc {sector : Sector ℝ} (h : sector ∈ sectors) (turns : ℤ)
    (direction : VirtualDirection) :
    ContinuousOn (fun degrees => (blendForAzimuth realTurn degrees).gain direction)
      (sector.arc turns) := by
  have hgap := Sector.gap_pos h
  have hformula : Set.EqOn
      (fun degrees => (makeBlend realTurn sector.first sector.second
        ((degrees - sector.at 0 turns) / sector.gap)).gain direction)
      (fun degrees => (blendForAzimuth realTurn degrees).gain direction) (sector.arc turns) := by
    intro degrees hdegrees
    obtain ⟨hlo, hhi⟩ := hdegrees
    have hprogress : (degrees - sector.at 0 turns) / sector.gap ∈ Set.Icc (0 : ℝ) 1 := by
      constructor
      · exact div_nonneg (sub_nonneg.mpr hlo) hgap.le
      · rw [div_le_one hgap]
        unfold Sector.at at hhi ⊢
        linarith
    have hangle : degrees =
        sector.at ((degrees - sector.at 0 turns) / sector.gap) turns := by
      unfold Sector.at
      field_simp
      ring
    show _ = (blendForAzimuth realTurn degrees).gain direction
    conv_rhs => rw [hangle]
    exact (gain_sector realTurn h hprogress turns direction).symm
  refine ContinuousOn.congr ?_ hformula.symm
  apply Continuous.continuousOn
  exact (continuous_gain_makeBlend _ _ direction).comp (by fun_prop)

/-- To the right of an angle lies an arc that begins with it or before. -/
theorem exists_arc_right (degrees : ℝ) :
    ∃ sector ∈ sectors, ∃ turns, degrees ∈ Sector.arc sector turns ∧
      Sector.arc sector turns ∈ 𝓝[≥] degrees := by
  obtain ⟨sector, hsector, progress, ⟨hlo, hhi⟩, turns, rfl⟩ := exists_sector degrees
  have hgap := Sector.gap_pos hsector
  have hbegin : sector.at 0 turns ≤ sector.at progress turns := by
    unfold Sector.at
    nlinarith
  have hend : sector.at progress turns < sector.at 1 turns := by
    unfold Sector.at
    nlinarith
  exact ⟨sector, hsector, turns, ⟨hbegin, hend.le⟩,
    Filter.mem_of_superset (Icc_mem_nhdsGE hend) (Set.Icc_subset_Icc_left hbegin)⟩

/-- To the left of an angle lies an arc that ends with it or behind. -/
theorem exists_arc_left (degrees : ℝ) :
    ∃ sector ∈ sectors, ∃ turns, degrees ∈ Sector.arc sector turns ∧
      Sector.arc sector turns ∈ 𝓝[≤] degrees := by
  obtain ⟨sector, hsector, progress, ⟨hlo, hhi⟩, turns, rfl⟩ := exists_sector degrees
  have hgap := Sector.gap_pos hsector
  rcases hlo.eq_or_lt with rfl | hpos
  -- At an anchor it is the sector before.
  · obtain ⟨previous, hprevious, wrap, hwrap⟩ := Sector.exists_previous hsector
    have hgap' := Sector.gap_pos hprevious
    have hend : previous.at 1 (turns + wrap) = sector.at 0 turns := by
      unfold Sector.at
      push_cast
      linarith
    have hbegin : previous.at 0 (turns + wrap) < sector.at 0 turns := by
      rw [← hend]
      unfold Sector.at
      linarith
    exact ⟨previous, hprevious, turns + wrap, ⟨hbegin.le, hend.ge⟩,
      Filter.mem_of_superset (Icc_mem_nhdsLE hbegin) (Set.Icc_subset_Icc_right hend.ge)⟩
  · have hbegin : sector.at 0 turns < sector.at progress turns := by
      unfold Sector.at
      nlinarith
    have hend : sector.at progress turns ≤ sector.at 1 turns := by
      unfold Sector.at
      nlinarith
    exact ⟨sector, hsector, turns, ⟨hbegin.le, hend⟩,
      Filter.mem_of_superset (Icc_mem_nhdsLE hbegin) (Set.Icc_subset_Icc_right hend)⟩

/-- No direction's share jumps anywhere on the circle. -/
theorem gain_continuous (direction : VirtualDirection) :
    Continuous fun degrees => (blendForAzimuth realTurn degrees).gain direction := by
  rw [continuous_iff_continuousAt]
  intro degrees
  rw [continuousAt_iff_continuous_left_right]
  constructor
  · obtain ⟨sector, hsector, turns, hmem, hnear⟩ := exists_arc_left degrees
    exact (continuousOn_arc hsector turns direction degrees hmem).mono_of_mem_nhdsWithin hnear
  · obtain ⟨sector, hsector, turns, hmem, hnear⟩ := exists_arc_right degrees
    exact (continuousOn_arc hsector turns direction degrees hmem).mono_of_mem_nhdsWithin hnear

end PepeAudio.Audio
