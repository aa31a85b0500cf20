import PepeAudio.Core.Identifier
import Mathlib.Data.List.Perm.Basic

/-!
# Seeded shuffling of the queue

Indices are drawn as elements of `Fin`, so that every access is in range by its type.
-/
namespace PepeAudio

def NONZERO_SEED : UInt64 := 0x9e3779b97f4a7c15

/-- `u64::from_le_bytes` of the eight bytes from `start` on. -/
def Uuid.littleEndian (id : Uuid) (start : ℕ) : UInt64 :=
  (List.range 8).foldr (fun i value => value <<< 8 ||| (id.bytes[start + i]?.getD 0).toUInt64) 0

def seedFromUuid (id : Uuid) : UInt64 := id.littleEndian 0 ^^^ id.littleEndian 8

structure SplitMix64 where
  state : UInt64
  deriving DecidableEq, Repr

namespace SplitMix64

def new (seed : UInt64) : SplitMix64 := ⟨seed ^^^ NONZERO_SEED⟩

def next (random : SplitMix64) : UInt64 × SplitMix64 :=
  let state := random.state + NONZERO_SEED
  let value := (state ^^^ (state >>> 30)) * 0xbf58476d1ce4e5b9
  let value := (value ^^^ (value >>> 27)) * 0x94d049bb133111eb
  (value ^^^ (value >>> 31), ⟨state⟩)

/-- A draw below `upper`, by the remainder of the wide word. -/
def index (random : SplitMix64) (upper : ℕ) (hupper : 0 < upper) : Fin upper × SplitMix64 :=
  let (value, random) := random.next
  (⟨value.toNat % upper, Nat.mod_lt _ hupper⟩, random)

end SplitMix64

variable {α : Type*}

/-- The swaps for `upper`, `upper - 1`, ..., `2`. -/
def shuffleLoop {n : ℕ} (values : Vector α n) (random : SplitMix64) :
    (upper : ℕ) → upper ≤ n → Vector α n
  | 0, _ => values
  | 1, _ => values
  | upper + 2, h =>
    let (index, random) := random.index (upper + 2) (Nat.succ_pos _)
    have hindex : index.val < n := Nat.lt_of_lt_of_le index.isLt h
    shuffleLoop (values.swap (upper + 1) index.val) random (upper + 1) (by omega)

def shuffleQueue (queue : List α) (seed : UInt64) : List α :=
  (shuffleLoop (n := queue.length) ⟨queue.toArray, by simp⟩ (SplitMix64.new seed) queue.length
    le_rfl).toList

def insertShuffled (queue : List α) (value : α) (seed : UInt64) : List α :=
  let (index, _) := (SplitMix64.new seed).index (queue.length + 1) (Nat.succ_pos _)
  queue.insertIdx index.val value

theorem shuffleLoop_perm {n : ℕ} (values : Vector α n) (random : SplitMix64) (upper : ℕ)
    (h : upper ≤ n) : (shuffleLoop values random upper h).toList.Perm values.toList := by
  induction values, random, upper, h using shuffleLoop.induct with
  | case1 values random h => exact List.Perm.refl _
  | case2 values random h => exact List.Perm.refl _
  | case3 values random upper h index random' hdraw hindex ih =>
    rw [shuffleLoop]
    simp only [hdraw]
    exact ih.trans (Vector.swap_perm _ _).toList

theorem shuffleQueue_perm (queue : List α) (seed : UInt64) :
    (shuffleQueue queue seed).Perm queue := by
  unfold shuffleQueue
  have h := shuffleLoop_perm (n := queue.length) ⟨queue.toArray, by simp⟩ (SplitMix64.new seed)
    queue.length le_rfl
  simpa only [Vector.toList_mk] using h

/-- An insertion adds one element and keeps the others. -/
theorem insertShuffled_perm (queue : List α) (value : α) (seed : UInt64) :
    (insertShuffled queue value seed).Perm (value :: queue) := by
  unfold insertShuffled
  exact List.perm_insertIdx _ _ (Nat.le_of_lt_succ (Fin.isLt _))

/-- The queues the shuffle tests of the player pin down. -/
example : shuffleQueue [0, 1, 2, 3, 4, 5, 6, 7] 42 = [7, 4, 1, 2, 5, 6, 0, 3] := by decide +kernel

end PepeAudio
