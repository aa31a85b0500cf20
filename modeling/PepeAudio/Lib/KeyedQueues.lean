import PepeAudio.Lib.Totals

/-!
# Queues under keys

A finite map from keys to queues, read as a total one: a key without an entry
has the empty queue. `size` counts the elements of all queues; every change of
one queue changes it by the difference of that queue's lengths.
-/
namespace PepeAudio

/-- A queue for each of finitely many keys. -/
abbrev KeyedQueues (κ α : Type) : Type := AList fun _ : κ => List α

namespace KeyedQueues

variable {κ α : Type} [DecidableEq κ] {queues : KeyedQueues κ α} {k k' : κ} {queue : List α}

/-- The queue under a key. -/
def waiting (queues : KeyedQueues κ α) (k : κ) : List α := (queues.lookup k).getD []

/-- The number of elements in all queues. -/
def size (queues : KeyedQueues κ α) : ℕ := (queues.entries.map fun entry => entry.2.length).sum

@[simp] theorem waiting_empty : (∅ : KeyedQueues κ α).waiting k = [] := by
  simp [KeyedQueues.waiting]

@[simp] theorem waiting_insert : KeyedQueues.waiting (queues.insert k queue) k = queue := by
  simp [KeyedQueues.waiting]

theorem waiting_insert_ne (h : k' ≠ k) :
    KeyedQueues.waiting (queues.insert k queue) k' = queues.waiting k' := by
  simp [KeyedQueues.waiting, AList.lookup_insert_ne h]

@[simp] theorem waiting_erase : KeyedQueues.waiting (queues.erase k) k = [] := by
  simp [KeyedQueues.waiting]

theorem waiting_erase_ne (h : k' ≠ k) :
    KeyedQueues.waiting (queues.erase k) k' = queues.waiting k' := by
  simp [KeyedQueues.waiting, AList.lookup_erase_ne h]

/-- It makes no difference whether a key has an empty queue or none. -/
theorem waiting_erase_of_nil (h : queues.waiting k = []) (k' : κ) :
    KeyedQueues.waiting (queues.erase k) k' = queues.waiting k' := by
  by_cases hk : k' = k
  · rw [hk, waiting_erase, h]
  · exact waiting_erase_ne hk

theorem size_erase (queues : KeyedQueues κ α) (k : κ) :
    KeyedQueues.size (queues.erase k) + (queues.waiting k).length = queues.size := by
  have hsum := sum_kerase List.length queues.entries k
  have hlength : ((queues.lookup k).map List.length).getD 0 = (queues.waiting k).length := by
    rw [KeyedQueues.waiting]
    cases queues.lookup k <;> rfl
  rw [← hlength]
  exact hsum

theorem size_insert (queues : KeyedQueues κ α) (k : κ) (queue : List α) :
    KeyedQueues.size (queues.insert k queue) + (queues.waiting k).length =
      queues.size + queue.length := by
  have herase := queues.size_erase k
  have hinsert : KeyedQueues.size (queues.insert k queue) =
      queue.length + KeyedQueues.size (queues.erase k) := by
    exact List.sum_cons
  omega

/-- Where anything is queued, some key has a queue. -/
theorem exists_of_size_pos (h : 0 < queues.size) : ∃ k, queues.waiting k ≠ [] := by
  by_contra hempty
  have hzero : ∀ entry ∈ queues.entries, entry.2 = [] := by
    intro entry hentry
    by_contra hqueue
    refine hempty ⟨entry.1, ?_⟩
    have hlookup : queues.lookup entry.1 = some entry.2 := AList.mem_lookup_iff.mpr hentry
    simpa [KeyedQueues.waiting, hlookup] using hqueue
  have hsum : queues.size = 0 := by
    refine List.sum_eq_zero_iff_forall_eq_nat.mpr fun n hn => ?_
    obtain ⟨entry, hentry, rfl⟩ := List.mem_map.mp hn
    simp [hzero entry hentry]
  omega

end KeyedQueues

end PepeAudio
