import Mathlib.Data.List.Basic

/-!
# Frames between delimiters

A text that arrives in parts is cut at delimiters. Where the first delimiter ends does not depend
on what comes later, so the frames of the parts are the frames of the whole text.
-/
namespace PepeAudio

/-- The place of the first delimiter in a text, and its length. -/
structure Cutter (α : Type*) where
  find : List α → Option (ℕ × ℕ)
  bounds : ∀ {xs index length}, find xs = some (index, length) →
    0 < length ∧ index + length ≤ xs.length
  append : ∀ {xs cut} ys, find xs = some cut → find (xs ++ ys) = some cut
  completed : ∀ {xs ys index length}, find xs = none →
    find (xs ++ ys) = some (index, length) → xs.length < index + length

namespace Cutter

variable {α : Type*} (cutter : Cutter α)

/-- The frames of a text, each with the length of its delimiter, and what is left. -/
inductive Framed : List α → List (List α × ℕ) → List α → Prop
  | rest {xs : List α} (h : cutter.find xs = none) : Framed xs [] xs
  | frame {xs : List α} {index length : ℕ} {frames : List (List α × ℕ)} {left : List α}
      (h : cutter.find xs = some (index, length))
      (more : Framed (xs.drop (index + length)) frames left) :
      Framed xs ((xs.take index, length) :: frames) left

def framesWithin : ℕ → List α → List (List α × ℕ) × List α
  | 0, xs => ([], xs)
  | steps + 1, xs =>
    match cutter.find xs with
    | none => ([], xs)
    | some (index, length) =>
      let (frames, left) := framesWithin steps (xs.drop (index + length))
      ((xs.take index, length) :: frames, left)

def frames (xs : List α) : List (List α × ℕ) × List α := cutter.framesWithin xs.length xs

variable {cutter} {xs ys left left' : List α} {fs fs' : List (List α × ℕ)} {index length : ℕ}

theorem framed_framesWithin {steps : ℕ} (h : xs.length ≤ steps) :
    cutter.Framed xs (cutter.framesWithin steps xs).1 (cutter.framesWithin steps xs).2 := by
  induction steps generalizing xs with
  | zero =>
    refine .rest ?_
    cases hfind : cutter.find xs with
    | none => rfl
    | some cut =>
      have hbounds := cutter.bounds hfind
      omega
  | succ steps ih =>
    rw [framesWithin]
    cases hfind : cutter.find xs with
    | none => exact .rest hfind
    | some cut =>
      obtain ⟨index, length⟩ := cut
      have hbounds := cutter.bounds hfind
      exact .frame hfind (ih (by rw [List.length_drop]; omega))

theorem framed_frames (xs : List α) :
    cutter.Framed xs (cutter.frames xs).1 (cutter.frames xs).2 :=
      framed_framesWithin (Nat.le_refl _)

theorem Framed.unique (h : cutter.Framed xs fs left) (h' : cutter.Framed xs fs' left') :
    fs = fs' ∧ left = left' := by
  induction h generalizing fs' with
  | rest hnone =>
    cases h' with
    | rest => exact ⟨rfl, rfl⟩
    | frame hsome => rw [hnone] at hsome; contradiction
  | frame hsome _ ih =>
    cases h' with
    | rest hnone => rw [hnone] at hsome; contradiction
    | frame hsome' more' =>
      rw [hsome] at hsome'
      obtain ⟨rfl, rfl⟩ := Prod.mk.inj (Option.some.inj hsome')
      obtain ⟨rfl, rfl⟩ := ih more'
      exact ⟨rfl, rfl⟩

/-- The frames of a text and of what follows it, behind what the text leaves. -/
theorem Framed.append (h : cutter.Framed xs fs left) (h' : cutter.Framed (left ++ ys) fs' left') :
    cutter.Framed (xs ++ ys) (fs ++ fs') left' := by
  induction h with
  | rest hnone => exact h'
  | @frame xs index length frames left hsome _ ih =>
    have hbounds := cutter.bounds hsome
    have hmore := ih h'
    rw [← List.drop_append_of_le_length hbounds.2] at hmore
    have hframe := Framed.frame (cutter.append ys hsome) hmore
    rwa [List.take_append_of_le_length (by omega)] at hframe

/-- A text that goes on has the frames it has so far. -/
theorem Framed.split (h : cutter.Framed (xs ++ ys) fs left) :
    ∃ fs₁ left₁ fs₂, cutter.Framed xs fs₁ left₁ ∧ cutter.Framed (left₁ ++ ys) fs₂ left
      ∧ fs = fs₁ ++ fs₂ := by
  have hfirst : cutter.Framed xs (cutter.frames xs).1 (cutter.frames xs).2 := framed_frames xs
  generalize (cutter.frames xs).1 = fs₁, (cutter.frames xs).2 = left₁ at hfirst
  have hsecond : cutter.Framed (left₁ ++ ys) _ _ := framed_frames (left₁ ++ ys)
  obtain ⟨rfl, rfl⟩ := h.unique (hfirst.append hsecond)
  exact ⟨_, _, _, hfirst, hsecond, rfl⟩

theorem Framed.find_left (h : cutter.Framed xs fs left) : cutter.find left = none := by
  induction h with
  | rest hnone => exact hnone
  | frame _ _ ih => exact ih

/-- The first delimiter is found as soon as it is complete, and not before. -/
theorem find_take (h : cutter.find xs = some (index, length)) (k : ℕ) :
    cutter.find (xs.take k) = if index + length ≤ k then some (index, length) else none := by
  cases hfind : cutter.find (xs.take k) with
  | none =>
    have hlt := cutter.completed hfind ((congrArg _ (List.take_append_drop k xs)).trans h)
    have hbounds := cutter.bounds h
    rw [List.length_take] at hlt
    rw [if_neg (by omega)]
  | some cut =>
    have hwhole := cutter.append (xs.drop k) hfind
    rw [List.take_append_drop, h] at hwhole
    have hbounds := cutter.bounds (hfind.trans hwhole.symm)
    rw [List.length_take] at hbounds
    rw [if_pos (by omega), hwhole]

end Cutter

end PepeAudio
