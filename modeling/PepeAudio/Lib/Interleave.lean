import Mathlib.Algebra.Order.Ring.Nat
import Mathlib.Data.List.Basic

/-!
# Interleaved sequences

A sequence that cycles through `C` planes: its entry `f * C + c` is the entry `f` of plane `c`.
-/
namespace PepeAudio

variable {α : Type*} {C : ℕ}

/-- The planes hold the entries of the sequence, each every `C`-th one. -/
def Interleaved (planes : Vector (List α) C) (entries : List α) : Prop :=
  ∀ (c : ℕ) (hc : c < C) (f : ℕ), planes[c][f]? = entries[f * C + c]?

/-- `planes` with `a` at the end of plane `c`. -/
def pushPlane (planes : Vector (List α) C) (c : ℕ) (hc : c < C) (a : α) : Vector (List α) C :=
  planes.set c (planes[c] ++ [a])

theorem interleaved_nil : Interleaved (Vector.replicate C ([] : List α)) [] := by
  intro c hc f
  simp

/-- A plane is at most `f` long if the sequence ends before its entry `f`. -/
theorem Interleaved.length_le_iff {planes : Vector (List α) C} {entries : List α}
    (h : Interleaved planes entries) {c : ℕ} (hc : c < C) (f : ℕ) :
    planes[c].length ≤ f ↔ entries.length ≤ f * C + c := by
  rw [← List.getElem?_eq_none_iff, h c hc f, List.getElem?_eq_none_iff]

theorem column_inj {f g c d : ℕ} (hc : c < C) (hd : d < C) (h : f * C + c = g * C + d) :
    c = d := by
  have hmod : (f * C + c) % C = (g * C + d) % C := by rw [h]
  rwa [Nat.mul_comm f, Nat.mul_comm g, Nat.mul_add_mod, Nat.mul_add_mod, Nat.mod_eq_of_lt hc,
    Nat.mod_eq_of_lt hd] at hmod

/-- The plane of the next entry is as long as the number of complete rounds. -/
theorem Interleaved.length_next {planes : Vector (List α) C} {entries : List α}
    (h : Interleaved planes entries) (hlt : entries.length % C < C) :
    planes[entries.length % C].length = entries.length / C := by
  have hsplit : entries.length / C * C + entries.length % C = entries.length := by
    rw [Nat.mul_comm]
    exact Nat.div_add_mod _ _
  apply Nat.le_antisymm
  · exact (h.length_le_iff hlt _).mpr hsplit.ge
  · have hle := (h.length_le_iff hlt _).mp le_rfl
    by_contra hlen
    have hmul := Nat.mul_le_mul_right C (Nat.lt_of_not_le hlen)
    rw [Nat.succ_mul] at hmul
    omega

/-- The next entry goes to the end of the plane whose turn it is. -/
theorem Interleaved.push {planes : Vector (List α) C} {entries : List α}
    (h : Interleaved planes entries) (hpos : 0 < C) (a : α) :
    Interleaved (pushPlane planes (entries.length % C) (Nat.mod_lt _ hpos) a)
      (entries ++ [a]) := by
  have hlt := Nat.mod_lt entries.length hpos
  have hsplit : entries.length / C * C + entries.length % C = entries.length := by
    rw [Nat.mul_comm]
    exact Nat.div_add_mod _ _
  have hlen := h.length_next hlt
  intro c hc f
  by_cases hturn : entries.length % C = c
  · subst hturn
    simp only [pushPlane, Vector.getElem_set_self, List.getElem?_append, h _ hc, hlen]
    by_cases hf : f < entries.length / C
    · have hbefore : f * C + entries.length % C < entries.length := by
        have hmul := Nat.mul_le_mul_right C (Nat.succ_le_of_lt hf)
        rw [Nat.succ_mul] at hmul
        omega
      rw [if_pos hf, if_pos hbefore]
    · have hmul := Nat.mul_le_mul_right C (Nat.le_of_not_lt hf)
      rw [if_neg hf, if_neg (by omega)]
      by_cases hlast : f = entries.length / C
      · subst hlast
        rw [show entries.length / C * C + entries.length % C - entries.length = 0 by omega,
          Nat.sub_self]
      · have hmul' := Nat.mul_le_mul_right C
          (Nat.lt_of_le_of_ne (Nat.le_of_not_lt hf) (Ne.symm hlast))
        rw [Nat.succ_mul] at hmul'
        rw [List.getElem?_eq_none (by simp; omega), List.getElem?_eq_none (by simp; omega)]
  · have hother : f * C + c ≠ entries.length := fun heq =>
      hturn (column_inj hc hlt (heq.trans hsplit.symm)).symm
    simp only [pushPlane, Vector.getElem_set_ne _ _ hturn, h c hc f, List.getElem?_append]
    split
    · rfl
    · rw [List.getElem?_eq_none (by omega), List.getElem?_eq_none (by simp; omega)]

/-- All planes have one length exactly when the sequence stops after complete rounds. -/
theorem Interleaved.lengths_iff {planes : Vector (List α) C} {entries : List α}
    (h : Interleaved planes entries) (hpos : 0 < C) (frames : ℕ) :
    (∀ (c : ℕ) (hc : c < C), planes[c].length = frames) ↔ entries.length = frames * C := by
  constructor
  · intro hlengths
    have hupper := (h.length_le_iff hpos frames).mp (hlengths 0 hpos).le
    cases frames with
    | zero => omega
    | succ frames =>
      have hlast : C - 1 < C := by omega
      have hlower : ¬ planes[C - 1].length ≤ frames := by
        rw [hlengths (C - 1) hlast]
        omega
      rw [h.length_le_iff hlast] at hlower
      rw [Nat.succ_mul] at hupper ⊢
      omega
  · intro htotal c hc
    have hiff : ∀ f, planes[c].length ≤ f ↔ frames ≤ f := by
      intro f
      rw [h.length_le_iff hc, htotal]
      constructor
      · intro hle
        by_contra hlt
        have hmul := Nat.mul_le_mul_right C (Nat.lt_of_not_le hlt)
        rw [Nat.succ_mul] at hmul
        omega
      · intro hle
        have hmul := Nat.mul_le_mul_right C hle
        omega
    exact Nat.le_antisymm ((hiff _).mpr le_rfl) ((hiff _).mp le_rfl)

end PepeAudio
