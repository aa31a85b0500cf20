import Mathlib.Algebra.GroupWithZero.Nat
import Mathlib.Data.List.TakeDrop
import Mathlib.Order.Lattice.Nat
import Mathlib.Tactic.Common

/-!
# Lists that arrive in pages

Someone reads a list up to a limit without having it at once: it comes in pages
whose sizes the other side chooses. `Gathered` is what has been read so far; it
depends on the part of the list that has been seen and not on the pages.
-/
namespace PepeAudio

universe u v

/-- The items that could be read, and how many could not. -/
structure Gathered (β : Type v) where
  items : List β
  skipped : ℕ
  processed : ℕ

namespace Gathered

variable {α : Type u} {β : Type v}

def empty : Gathered β := ⟨[], 0, 0⟩

/-- One item is read. -/
def push (read : α → Option β) (gathered : Gathered β) (item : α) : Gathered β :=
  match read item with
  | some value => ⟨gathered.items ++ [value], gathered.skipped, gathered.processed + 1⟩
  | none => ⟨gathered.items, gathered.skipped + 1, gathered.processed + 1⟩

def absorb (read : α → Option β) (gathered : Gathered β) (page : List α) : Gathered β :=
  page.foldl (push read) gathered

section Absorb

variable (read : α → Option β) (gathered : Gathered β)

@[simp] theorem absorb_nil : gathered.absorb read [] = gathered := rfl

theorem absorb_append (xs ys : List α) :
    gathered.absorb read (xs ++ ys) = (gathered.absorb read xs).absorb read ys :=
  List.foldl_append ..

@[simp] theorem processed_absorb (page : List α) :
    (gathered.absorb read page).processed = gathered.processed + page.length := by
  induction page generalizing gathered with
  | nil => simp [absorb]
  | cons item page ih =>
    have hpush : (gathered.push read item).processed = gathered.processed + 1 := by
      unfold push
      cases read item <;> simp
    have := ih (gathered.push read item)
    simp only [absorb, List.foldl_cons, List.length_cons] at this ⊢
    omega

/-- What is read, is read in order; the rest is counted. -/
theorem absorb_eq (page : List α) :
    gathered.absorb read page =
      ⟨gathered.items ++ page.filterMap read,
        gathered.skipped + page.countP fun item => (read item).isNone,
        gathered.processed + page.length⟩ := by
  induction page generalizing gathered with
  | nil => simp
  | cons item page ih =>
    have hcons : gathered.absorb read (item :: page) = (gathered.push read item).absorb read page :=
      rfl
    rw [hcons, ih]
    cases hread : read item with
    | none => simp [push, hread, Nat.add_assoc, Nat.add_comm 1]
    | some value => simp [push, hread, Nat.add_assoc, Nat.add_comm 1]

end Absorb

/-- Every item is read or skipped. -/
def Counted (gathered : Gathered β) : Prop :=
  gathered.items.length + gathered.skipped = gathered.processed

theorem empty_counted : (empty : Gathered β).Counted := rfl

theorem Counted.absorb {gathered : Gathered β} (h : gathered.Counted) (read : α → Option β)
    (page : List α) : (gathered.absorb read page).Counted := by
  induction page generalizing gathered with
  | nil => exact h
  | cons item page ih =>
    apply ih
    unfold Counted push at *
    cases read item with
    | none => simp only; omega
    | some value => simp only [List.length_append, List.length_singleton]; omega

/-- What a reader of the whole list gathers within a limit. -/
def upTo (read : α → Option β) (limit : ℕ) (list : List α) : Gathered β :=
  empty.absorb read (list.take limit)

theorem upTo_eq (read : α → Option β) (limit : ℕ) (list : List α) :
    upTo read limit list =
      ⟨(list.take limit).filterMap read,
        (list.take limit).countP fun item => (read item).isNone, min limit list.length⟩ := by
  simp [upTo, absorb_eq, empty]

@[simp] theorem processed_upTo (read : α → Option β) (limit : ℕ) (list : List α) :
    (upTo read limit list).processed = min limit list.length := by
  simp [upTo_eq]

/-- Beyond the end of the list limits do not differ. -/
theorem upTo_congr (read : α → Option β) {limit limit' : ℕ} {list : List α}
    (h : min limit list.length = min limit' list.length) :
    upTo read limit list = upTo read limit' list := by
  unfold upTo
  rw [List.take_eq_take_iff.mpr h]

end Gathered

/-- A page of the list from a position on; `more` says that the list goes on after it, and only the
empty list has an empty page. -/
structure PageOf {α : Type u} (list : List α) (position : ℕ) (page : List α) (more : Bool) :
    Prop where
  part : ∃ rest, list.drop position = page ++ rest
  ne_nil : position < list.length → page ≠ []
  more_iff : more = true ↔ position + page.length < list.length

namespace PageOf

variable {α : Type u} {β : Type v} {list page : List α} {position limit : ℕ} {more : Bool}

theorem length_le (h : PageOf list position page more) (hposition : position ≤ list.length) :
    position + page.length ≤ list.length := by
  obtain ⟨rest, hrest⟩ := h.part
  have := congrArg List.length hrest
  simp only [List.length_drop, List.length_append] at this
  omega

/-- A prefix of the list, and a prefix of the page that follows it. -/
theorem take_append (h : PageOf list position page more) (count : ℕ) :
    list.take position ++ page.take count = list.take (position + min count page.length) := by
  obtain ⟨rest, hrest⟩ := h.part
  have hpage : page.take count = (page ++ rest).take (min count page.length) := by
    rw [List.take_append_of_le_length (min_le_right ..), ← List.take_take]
    simp
  rw [hpage, ← hrest, List.take_add]

/-- Reading a page within the limit goes on from the prefix that has been read. -/
theorem absorb_upTo (h : PageOf list position page more) (hposition : position ≤ list.length)
    (hlimit : position ≤ limit) (read : α → Option β) :
    (Gathered.upTo read position list).absorb read
        (page.take (limit - (Gathered.upTo read position list).processed)) =
      Gathered.upTo read (min limit (position + page.length)) list := by
  have hcount : position + min (limit - position) page.length =
      min limit (position + page.length) := by omega
  rw [Gathered.processed_upTo, min_eq_left hposition, ← hcount]
  unfold Gathered.upTo
  rw [← h.take_append, Gathered.absorb_append]

theorem processed_absorb_upTo (h : PageOf list position page more)
    (hposition : position ≤ list.length) (hlimit : position ≤ limit) (read : α → Option β) :
    ((Gathered.upTo read position list).absorb read
        (page.take (limit - (Gathered.upTo read position list).processed))).processed =
      min limit (position + page.length) := by
  have hle := h.length_le hposition
  rw [h.absorb_upTo hposition hlimit, Gathered.processed_upTo]
  omega

/-- Where the reading ends, at the limit or at the end of the list. -/
theorem upTo_end (h : PageOf list position page more) (hposition : position ≤ list.length)
    (hend : limit ≤ position + page.length ∨ more = false) (read : α → Option β) :
    Gathered.upTo read (min limit (position + page.length)) list =
      Gathered.upTo read limit list := by
  apply Gathered.upTo_congr
  have hle := h.length_le hposition
  have hmore := h.more_iff
  rcases hend with hreached | hlast
  · omega
  · rw [hlast] at hmore
    simp only [Bool.false_eq_true, false_iff] at hmore
    omega

/-- There the rest of the page and the link tell whether the list goes beyond the limit. -/
theorem truncated_iff (h : PageOf list position page more) (hposition : position ≤ list.length)
    (hlimit : position ≤ limit) (hend : limit ≤ position + page.length ∨ more = false) :
    (limit - position < page.length ∨ limit ≤ position + page.length ∧ more = true) ↔
      limit < list.length := by
  have hle := h.length_le hposition
  have hmore := h.more_iff
  cases more with
  | false =>
    simp only [Bool.false_eq_true, false_iff, and_false, or_false] at hmore ⊢
    omega
  | true =>
    simp only [Bool.true_eq_false, or_false, true_iff, and_true] at hend hmore ⊢
    omega

end PageOf

end PepeAudio
