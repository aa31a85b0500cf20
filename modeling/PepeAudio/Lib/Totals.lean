import Mathlib.Algebra.BigOperators.Group.List.Basic
import Mathlib.Algebra.GroupWithZero.Nat
import Mathlib.Data.List.AList
import Mathlib.Order.Lattice.Nat
import Mathlib.Tactic.Common

/-!
# Totals over collections

The total of a weight over the elements of a list, or over the values of a
finite map, and how replacing, adding or removing one element changes it.
-/
namespace PepeAudio

section List

variable {α : Type*} {f : α → ℕ} {l : List α} {i : ℕ} {a : α}

theorem sum_map_eraseIdx (h : l[i]? = some a) :
    ((l.eraseIdx i).map f).sum + f a = (l.map f).sum := by
  obtain ⟨hlt, rfl⟩ := List.getElem?_eq_some_iff.mp h
  have hperm := (List.getElem_cons_eraseIdx_perm hlt).map f
  have hsum := hperm.sum_eq
  simp only [List.map_cons, List.sum_cons] at hsum
  omega

theorem sum_map_set (h : l[i]? = some a) (b : α) :
    ((l.set i b).map f).sum + f a = (l.map f).sum + f b := by
  induction l generalizing i with
  | nil => simp at h
  | cons head tail ih =>
    cases i with
    | zero =>
      obtain rfl : head = a := by simpa using h
      simp only [List.set_cons_zero, List.map_cons, List.sum_cons]
      omega
    | succ i =>
      have htail := ih (by simpa using h)
      simp only [List.set_cons_succ, List.map_cons, List.sum_cons]
      omega

theorem le_sum_map (h : l[i]? = some a) : f a ≤ (l.map f).sum := by
  have herase := sum_map_eraseIdx (f := f) h
  omega

end List

section Map

variable {κ α : Type*} [DecidableEq κ] {f : α → ℕ} {map : AList fun _ : κ => α} {k : κ}
  {a : α}

/-- The total weight of the values of a map. -/
def totalWeight (f : α → ℕ) (map : AList fun _ : κ => α) : ℕ :=
  (map.entries.map fun entry => f entry.2).sum

omit [DecidableEq κ] in
@[simp] theorem totalWeight_empty : totalWeight f (∅ : AList fun _ : κ => α) = 0 := rfl

theorem sum_kerase (f : α → ℕ) (entries : List (Sigma fun _ : κ => α)) (k : κ) :
    ((entries.kerase k).map fun entry => f entry.2).sum +
        ((entries.dlookup k).map f).getD 0 =
      (entries.map fun entry => f entry.2).sum := by
  induction entries with
  | nil => simp
  | cons entry entries ih =>
    by_cases h : k = entry.1
    · have hlookup : (entry :: entries).dlookup k = some entry.2 :=
        h ▸ List.dlookup_cons_eq entries entry.1 entry.2
      rw [List.kerase_cons_eq h, hlookup]
      simp only [List.map_cons, List.sum_cons, Option.map_some, Option.getD_some]
      omega
    · rw [List.kerase_cons_ne h, List.dlookup_cons_ne _ _ h]
      simp only [List.map_cons, List.sum_cons]
      omega

theorem totalWeight_erase (h : map.lookup k = some a) :
    totalWeight f (map.erase k) + f a = totalWeight f map := by
  have hsum := sum_kerase f map.entries k
  rw [show map.entries.dlookup k = some a from h] at hsum
  exact hsum

theorem totalWeight_insert (h : k ∉ map) (a : α) :
    totalWeight f (map.insert k a) = f a + totalWeight f map := by
  rw [totalWeight, AList.entries_insert_of_notMem h, List.map_cons, List.sum_cons]
  rfl

theorem length_entries_insert (h : k ∉ map) (a : α) :
    (AList.entries (map.insert k a)).length = map.entries.length + 1 := by
  rw [AList.entries_insert_of_notMem h, List.length_cons]

theorem length_entries_erase (h : map.lookup k = some a) :
    (AList.entries (map.erase k)).length + 1 = map.entries.length := by
  have hsum := totalWeight_erase (f := fun _ => 1) h
  simpa [totalWeight] using hsum

end Map

end PepeAudio
