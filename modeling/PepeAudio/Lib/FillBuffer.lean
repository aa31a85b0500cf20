import Mathlib.Data.List.Basic

/-!
# Buffers that are filled from the front

A buffer of a fixed capacity holds what has arrived in its front; what lies behind
is left over from before. Data is appended behind the front, and a front part that
has been used is removed by moving the rest down.
-/
namespace PepeAudio

structure FillBuffer (α : Type*) where
  cells : List α
  filled : ℕ
  filled_le : filled ≤ cells.length

namespace FillBuffer

variable {α : Type*}

def capacity (buffer : FillBuffer α) : ℕ := buffer.cells.length

/-- What has arrived and is not used yet. -/
def contents (buffer : FillBuffer α) : List α := buffer.cells.take buffer.filled

/-- The cells that new data may take. -/
def free (buffer : FillBuffer α) : ℕ := buffer.capacity - buffer.filled

def empty (fill : α) (capacity : ℕ) : FillBuffer α :=
  ⟨List.replicate capacity fill, 0, Nat.zero_le _⟩

def append (buffer : FillBuffer α) (data : List α) (_h : data.length ≤ buffer.free) :
    FillBuffer α where
  cells := buffer.cells.take buffer.filled ++ data ++
    buffer.cells.drop (buffer.filled + data.length)
  filled := buffer.filled + data.length
  filled_le := by
    have := buffer.filled_le
    simp only [List.length_append, List.length_take]
    omega

/-- Move `[count..filled]` to the front. -/
def consume (buffer : FillBuffer α) (count : ℕ) : FillBuffer α where
  cells := (buffer.cells.take buffer.filled).drop count ++ buffer.cells.drop (buffer.filled - count)
  filled := buffer.filled - count
  filled_le := by
    have := buffer.filled_le
    simp only [List.length_append, List.length_drop, List.length_take]
    omega

@[simp] theorem length_contents (buffer : FillBuffer α) :
    buffer.contents.length = buffer.filled := by
  rw [contents, List.length_take]
  exact Nat.min_eq_left buffer.filled_le

@[simp] theorem contents_empty (fill : α) (capacity : ℕ) :
    (empty fill capacity).contents = [] := by
  simp [contents, empty]

@[simp] theorem capacity_empty (fill : α) (capacity : ℕ) :
    (empty fill capacity).capacity = capacity := by
  simp [FillBuffer.capacity, empty]

@[simp] theorem contents_append {buffer : FillBuffer α} {data : List α}
    (h : data.length ≤ buffer.free) :
    (buffer.append data h).contents = buffer.contents ++ data := by
  have hfront : (buffer.cells.take buffer.filled ++ data).length =
      buffer.filled + data.length := by
    have := buffer.filled_le
    simp only [List.length_append, List.length_take]
    omega
  unfold contents append
  dsimp only
  rw [← hfront, List.take_left]

@[simp] theorem capacity_append {buffer : FillBuffer α} {data : List α}
    (h : data.length ≤ buffer.free) : (buffer.append data h).capacity = buffer.capacity := by
  have := buffer.filled_le
  unfold free capacity at h
  unfold capacity append
  simp only [List.length_append, List.length_take, List.length_drop]
  omega

@[simp] theorem filled_append {buffer : FillBuffer α} {data : List α}
    (h : data.length ≤ buffer.free) :
    (buffer.append data h).filled = buffer.filled + data.length := rfl

@[simp] theorem filled_consume (buffer : FillBuffer α) (count : ℕ) :
    (buffer.consume count).filled = buffer.filled - count := rfl

@[simp] theorem contents_consume (buffer : FillBuffer α) (count : ℕ) :
    (buffer.consume count).contents = buffer.contents.drop count := by
  have hrest : ((buffer.cells.take buffer.filled).drop count).length = buffer.filled - count := by
    have := buffer.filled_le
    simp only [List.length_drop, List.length_take]
    omega
  unfold contents consume
  dsimp only
  rw [← hrest, List.take_left]

theorem capacity_consume {buffer : FillBuffer α} {count : ℕ} (h : count ≤ buffer.filled) :
    (buffer.consume count).capacity = buffer.capacity := by
  have := buffer.filled_le
  unfold capacity consume
  simp only [List.length_append, List.length_drop, List.length_take]
  omega

end FillBuffer

end PepeAudio
