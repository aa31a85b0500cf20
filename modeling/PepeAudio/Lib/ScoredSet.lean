import Mathlib.Data.List.Dedup
import Mathlib.Data.Set.Card
import Mathlib.Tactic.Common

/-!
# Sorted sets

Members with a score each, as a server keeps them to count and to expire what it
holds elsewhere. How the members are ordered is of no consequence here.
-/
namespace PepeAudio

structure ScoredSet (κ : Type*) where
  entries : List (κ × ℕ)
  nodup : (entries.map Prod.fst).Nodup

namespace ScoredSet

variable {κ : Type*}

instance : EmptyCollection (ScoredSet κ) := ⟨⟨[], List.nodup_nil⟩⟩

instance : Membership (κ × ℕ) (ScoredSet κ) := ⟨fun s entry => entry ∈ s.entries⟩

def card (s : ScoredSet κ) : ℕ := s.entries.length

/-- The entries of a sublist are a sorted set again. -/
def filter (p : κ × ℕ → Bool) (s : ScoredSet κ) : ScoredSet κ :=
  ⟨s.entries.filter p, s.nodup.sublist (List.filter_sublist.map Prod.fst)⟩

/-- Without the members whose score is at most `bound`. -/
def removeUpTo (bound : ℕ) (s : ScoredSet κ) : ScoredSet κ :=
  s.filter fun entry => bound < entry.2

variable {s : ScoredSet κ} {k k' : κ} {score score' bound : ℕ}

@[simp] theorem notMem_empty (entry : κ × ℕ) : entry ∉ (∅ : ScoredSet κ) := List.not_mem_nil

theorem mem_filter {p : κ × ℕ → Bool} {entry : κ × ℕ} :
    entry ∈ s.filter p ↔ entry ∈ s ∧ p entry = true := List.mem_filter

@[simp] theorem mem_removeUpTo :
    (k, score) ∈ s.removeUpTo bound ↔ (k, score) ∈ s ∧ bound < score := by
  rw [removeUpTo, mem_filter, decide_eq_true_eq]

theorem card_filter_le (p : κ × ℕ → Bool) (s : ScoredSet κ) : (s.filter p).card ≤ s.card :=
  List.length_filter_le _ _

theorem card_removeUpTo_le (bound : ℕ) (s : ScoredSet κ) : (s.removeUpTo bound).card ≤ s.card :=
  card_filter_le _ s

variable [DecidableEq κ]

def remove (k : κ) (s : ScoredSet κ) : ScoredSet κ := s.filter fun entry => entry.1 ≠ k

@[simp] theorem mem_remove : (k', score) ∈ s.remove k ↔ (k', score) ∈ s ∧ k' ≠ k := by
  rw [remove, mem_filter, decide_eq_true_eq]

theorem card_remove_le (k : κ) (s : ScoredSet κ) : (s.remove k).card ≤ s.card := card_filter_le _ s

/-- A member gets a score; the one it had before is forgotten. -/
def add (k : κ) (score : ℕ) (s : ScoredSet κ) : ScoredSet κ where
  entries := (k, score) :: (s.remove k).entries
  nodup := by
    rw [List.map_cons, List.nodup_cons]
    refine ⟨fun hmem => ?_, (s.remove k).nodup⟩
    obtain ⟨⟨k', score'⟩, hentry, hkey⟩ := List.mem_map.mp hmem
    exact (mem_remove.mp hentry).2 hkey

@[simp] theorem mem_add : (k', score') ∈ s.add k score ↔
    k' = k ∧ score' = score ∨ (k', score') ∈ s ∧ k' ≠ k := by
  show (k', score') ∈ (k, score) :: (s.remove k).entries ↔ _
  rw [List.mem_cons, Prod.mk.injEq]
  exact or_congr_right mem_remove

theorem card_add_le (k : κ) (score : ℕ) (s : ScoredSet κ) : (s.add k score).card ≤ s.card + 1 :=
  Nat.succ_le_succ (card_remove_le k s)

/-- A set of members is no larger than the sorted set. -/
theorem encard_le_card {A : Set κ} (h : ∀ a ∈ A, ∃ score, (a, score) ∈ s) :
    A.encard ≤ s.card := by
  have hsubset : A ⊆ ↑(s.entries.map Prod.fst).toFinset := by
    intro a ha
    obtain ⟨score, hentry⟩ := h a ha
    rw [Finset.mem_coe, List.mem_toFinset]
    exact List.mem_map_of_mem hentry
  refine (Set.encard_le_encard hsubset).trans ?_
  rw [Set.encard_coe_eq_coe_finsetCard]
  have hcard := (s.entries.map Prod.fst).toFinset_card_le
  rw [List.length_map] at hcard
  exact_mod_cast hcard

end ScoredSet

end PepeAudio
