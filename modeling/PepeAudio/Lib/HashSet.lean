import Mathlib.Algebra.GroupWithZero.Nat
import Mathlib.Data.List.AList
import Mathlib.Data.List.Dedup
import Mathlib.Order.Lattice.Nat

/-!
# Hash sets, and loops that write to hash collections

A hash set is a list without repetitions, in the order in which it is iterated.
A loop that writes one key after the other is described by what a lookup finds
afterwards, whatever the order was.
-/
namespace PepeAudio

/-- The elements of a hash set, in its order of iteration. -/
structure HashSet (α : Type*) where
  elems : List α
  nodup : elems.Nodup

namespace HashSet

variable {α : Type*}

instance : Membership α (HashSet α) := ⟨fun s a => a ∈ s.elems⟩

instance : EmptyCollection (HashSet α) := ⟨⟨[], List.nodup_nil⟩⟩

instance [DecidableEq α] (a : α) (s : HashSet α) : Decidable (a ∈ s) :=
  inferInstanceAs (Decidable (a ∈ s.elems))

@[simp] theorem mem_elems {a : α} {s : HashSet α} : a ∈ s.elems ↔ a ∈ s := Iff.rfl

@[simp] theorem notMem_empty (a : α) : a ∉ (∅ : HashSet α) := List.not_mem_nil

def isEmpty (s : HashSet α) : Bool := s.elems.isEmpty

theorem isEmpty_iff {s : HashSet α} : s.isEmpty = true ↔ ∀ a, a ∉ s := by
  rw [isEmpty, List.isEmpty_iff, List.eq_nil_iff_forall_not_mem]
  rfl

def filter (p : α → Bool) (s : HashSet α) : HashSet α := ⟨s.elems.filter p, s.nodup.filter p⟩

@[simp] theorem mem_filter {p : α → Bool} {s : HashSet α} {a : α} :
    a ∈ s.filter p ↔ a ∈ s ∧ p a = true := List.mem_filter

def singleton (a : α) : HashSet α := ⟨[a], List.nodup_singleton a⟩

@[simp] theorem mem_singleton {a b : α} : b ∈ singleton a ↔ b = a := List.mem_singleton

variable [DecidableEq α]

def insert (a : α) (s : HashSet α) : HashSet α := ⟨s.elems.insert a, s.nodup.insert⟩

@[simp] theorem mem_insert {a b : α} {s : HashSet α} : b ∈ s.insert a ↔ b = a ∨ b ∈ s :=
  List.mem_insert_iff

def remove (a : α) (s : HashSet α) : HashSet α := ⟨s.elems.erase a, s.nodup.erase a⟩

@[simp] theorem mem_remove {a b : α} {s : HashSet α} : b ∈ s.remove a ↔ b ≠ a ∧ b ∈ s :=
  s.nodup.mem_erase_iff

def union (s t : HashSet α) : HashSet α := ⟨s.elems ∪ t.elems, t.nodup.union s.elems⟩

@[simp] theorem mem_union {s t : HashSet α} {a : α} : a ∈ s.union t ↔ a ∈ s ∨ a ∈ t :=
  List.mem_union_iff

/-- What an iterator collects into. -/
def collect (items : List α) : HashSet α := ⟨items.dedup, items.nodup_dedup⟩

@[simp] theorem mem_collect {items : List α} {a : α} : a ∈ collect items ↔ a ∈ items :=
  List.mem_dedup

/-- A loop that inserts. -/
def insertAll (items : List α) (s : HashSet α) : HashSet α := items.foldl (fun s a => s.insert a) s

theorem mem_insertAll {items : List α} {s : HashSet α} {a : α} :
    a ∈ s.insertAll items ↔ a ∈ items ∨ a ∈ s := by
  induction items generalizing s with
  | nil => simp [insertAll]
  | cons item items ih =>
    have hrest := @ih (s.insert item)
    rw [insertAll] at hrest ⊢
    rw [List.foldl_cons, hrest, mem_insert, List.mem_cons]
    tauto

/-- A loop that removes. -/
def removeAll (items : List α) (s : HashSet α) : HashSet α := items.foldl (fun s a => s.remove a) s

theorem mem_removeAll {items : List α} {s : HashSet α} {a : α} :
    a ∈ s.removeAll items ↔ a ∉ items ∧ a ∈ s := by
  induction items generalizing s with
  | nil => simp [removeAll]
  | cons item items ih =>
    have hrest := @ih (s.remove item)
    rw [removeAll] at hrest ⊢
    rw [List.foldl_cons, hrest, mem_remove, List.mem_cons]
    tauto

end HashSet

section Maps

variable {κ α : Type*} [DecidableEq κ]

/-- A loop that gives every key of a list the same value. -/
def insertKeys (keys : List κ) (value : α) (map : AList fun _ : κ => α) : AList fun _ : κ => α :=
  keys.foldl (fun map key => map.insert key value) map

theorem lookup_insertKeys {keys : List κ} {value : α} {map : AList fun _ : κ => α} (key : κ) :
    (insertKeys keys value map).lookup key =
      if key ∈ keys then some value else map.lookup key := by
  induction keys generalizing map with
  | nil => simp [insertKeys]
  | cons first keys ih =>
    have hrest := @ih (map.insert first value)
    rw [insertKeys] at hrest ⊢
    rw [List.foldl_cons, hrest]
    by_cases hfirst : key = first
    · subst hfirst
      simp
    · simp [hfirst, AList.lookup_insert_ne hfirst]

end Maps

end PepeAudio
