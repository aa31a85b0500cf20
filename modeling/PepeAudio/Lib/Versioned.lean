import Mathlib.Algebra.GroupWithZero.Nat
import Mathlib.Data.List.Basic
import Mathlib.Order.Basic
import Mathlib.Order.Lattice.Nat

/-!
# Observations of a versioned value

A value that changes only together with its version can be identified by it:
whoever has seen the version has seen the value. `Consistent` is the invariant
behind this, with one rule for a further observation and one for a change.
-/
namespace PepeAudio

/-- The observations `seen` agree with each other, and with the value `view` at `version`. -/
structure Consistent {α : Type*} (version : ℕ) (view : α) (seen : List (ℕ × α)) : Prop where
  le : ∀ s ∈ seen, s.1 ≤ version
  current : ∀ s ∈ seen, s.1 = version → s.2 = view
  agree : ∀ s ∈ seen, ∀ s' ∈ seen, s.1 = s'.1 → s.2 = s'.2

namespace Consistent

variable {α : Type*} {version version' : ℕ} {view view' : α} {seen seen' : List (ℕ × α)}

theorem nil (version : ℕ) (view : α) : Consistent version view [] :=
  ⟨by simp, by simp, by simp⟩

/-- Observing the value once more adds nothing new. -/
theorem observe (h : Consistent version view seen)
    (hseen : ∀ s ∈ seen', s ∈ seen ∨ s = (version, view)) : Consistent version view seen' := by
  have hcurrent : ∀ s ∈ seen', s.1 = version → s.2 = view := by
    intro s hs heq
    rcases hseen s hs with hold | rfl
    · exact h.current s hold heq
    · rfl
  refine ⟨?_, hcurrent, ?_⟩
  · intro s hs
    rcases hseen s hs with hold | rfl
    · exact h.le s hold
    · exact Nat.le_refl _
  · intro s hs s' hs' heq
    rcases hseen s hs with hold | rfl
    · rcases hseen s' hs' with hold' | rfl
      · exact h.agree s hold s' hold' heq
      · exact h.current s hold heq
    · exact (hcurrent s' hs' heq.symm).symm

/-- A new value under a new version contradicts no observation. -/
theorem bump (h : Consistent version view seen) (hlt : version < version') :
    Consistent version' view' seen := by
  refine ⟨?_, ?_, h.agree⟩
  · intro s hs
    exact Nat.le_trans (h.le s hs) (Nat.le_of_lt hlt)
  · intro s hs heq
    have hle := h.le s hs
    omega

end Consistent

end PepeAudio
