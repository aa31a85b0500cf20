import Mathlib.Data.List.InsertIdx
import Mathlib.Data.List.Nodup
import Mathlib.Data.List.Perm.Basic

/-!
# Moving one element of a list

Taking an element out and putting it in elsewhere. The other elements keep their
order, and what follows the element at its new place is known.
-/
namespace PepeAudio

/-- The list with the element at one position removed and reinserted at another. -/
def reinserted {α : Type*} (l : List α) (source destination : ℕ) : List α :=
  match l[source]? with
  | some a => (l.eraseIdx source).insertIdx destination a
  | none => l

section Lists

variable {α : Type*} {l : List α} {i j k : ℕ}

theorem reinserted_of_lt (hi : i < l.length) :
    reinserted l i j = (l.eraseIdx i).insertIdx j l[i] := by
  simp [reinserted, hi]

theorem reinserted_self (hi : i < l.length) : reinserted l i i = l := by
  rw [reinserted_of_lt hi, List.insertIdx_eraseIdx_getElem]

/-- What comes after the moved element is what came after its new position before. -/
theorem getElem?_reinserted_succ (hi : i < l.length) :
    (reinserted l i j)[j + 1]? = if j < i then l[j]? else l[j + 1]? := by
  rw [reinserted_of_lt hi, List.getElem?_insertIdx_of_gt (Nat.lt_succ_self j),
    List.getElem?_eraseIdx]
  rfl

theorem insertIdx_eq_append {a : α} (h : j ≤ l.length) :
    l.insertIdx j a = l.take j ++ a :: l.drop j := by
  induction l generalizing j with
  | nil =>
    obtain rfl := Nat.le_zero.mp h
    rfl
  | cons b l ih =>
    cases j with
    | zero => rfl
    | succ j =>
      rw [List.insertIdx_succ_cons, ih (Nat.le_of_succ_le_succ h)]
      rfl

theorem reinserted_eq_append (hi : i < l.length) (hj : j < l.length) :
    reinserted l i j = (l.eraseIdx i).take j ++ l[i] :: (l.eraseIdx i).drop j := by
  have hlength := List.length_eraseIdx_of_lt hi
  rw [reinserted_of_lt hi, insertIdx_eq_append (by omega)]

/-- An element taken out and put in again permutes the list. -/
theorem insertIdx_eraseIdx_perm {a : α} (hi : l[i]? = some a)
    (hj : j ≤ (l.eraseIdx i).length) : ((l.eraseIdx i).insertIdx j a).Perm l := by
  obtain ⟨hlt, ha⟩ := List.getElem?_eq_some_iff.mp hi
  have hback := List.getElem_cons_eraseIdx_perm hlt
  rw [ha] at hback
  exact (List.perm_insertIdx _ _ hj).trans hback

theorem reinserted_perm (hi : i < l.length) (hj : j < l.length) : (reinserted l i j).Perm l := by
  have hlength := List.length_eraseIdx_of_lt hi
  rw [reinserted_of_lt hi]
  exact insertIdx_eraseIdx_perm (List.getElem?_eq_getElem hi) (by omega)

/-- Whatever does not see the moved element sees the list as it was. -/
theorem filter_reinserted (hi : i < l.length) (hj : j < l.length) {p : α → Bool}
    (hp : p l[i] = false) : (reinserted l i j).filter p = l.filter p := by
  have hneg : ¬ p l[i] = true := by simp [hp]
  have hsplit : l.filter p = (l.take i).filter p ++ (l.drop (i + 1)).filter p := by
    conv_lhs => rw [← List.take_append_drop i l, List.drop_eq_getElem_cons hi]
    rw [List.filter_append, List.filter_cons_of_neg hneg]
  rw [reinserted_eq_append hi hj, List.filter_append, List.filter_cons_of_neg hneg,
    ← List.filter_append, List.take_append_drop, List.eraseIdx_eq_take_drop_succ,
    List.filter_append, hsplit]

/-- Moving to another place changes a list without repetitions. -/
theorem reinserted_ne (hl : l.Nodup) (hi : i < l.length) (hj : j < l.length) (hne : i ≠ j) :
    reinserted l i j ≠ l := by
  have hlength := List.length_eraseIdx_of_lt hi
  have hmoved : (reinserted l i j)[j]? = some l[i] := by
    rw [reinserted_of_lt hi, List.getElem?_insertIdx_self, if_pos (by omega)]
  intro hsame
  rw [hsame, List.getElem?_eq_getElem hj] at hmoved
  exact hne (hl.getElem_inj_iff.mp (Option.some.inj hmoved)).symm

/-- The place in front of the element at `k`, once the one at `i` is gone. -/
theorem reinserted_before (hi : i < l.length) (hk : k < l.length) (hki : k ≠ i) :
    ∃ front rest, reinserted l i (if i < k then k - 1 else k) = front ++ l[i] :: l[k] :: rest := by
  have hlength := List.length_eraseIdx_of_lt hi
  have hplace : (if i < k then k - 1 else k) < (l.eraseIdx i).length := by
    split_ifs <;> omega
  have hnext : (l.eraseIdx i)[if i < k then k - 1 else k] = l[k] := by
    rw [List.getElem_eraseIdx]
    split_ifs <;> first | rfl | omega | congr 1; omega
  rw [reinserted_eq_append hi (by omega), List.drop_eq_getElem_cons hplace, hnext]
  exact ⟨_, _, rfl⟩

theorem reinserted_last (hi : i < l.length) :
    ∃ front, reinserted l i (l.length - 1) = front ++ [l[i]] := by
  have hlength := List.length_eraseIdx_of_lt hi
  rw [reinserted_eq_append hi (by omega), List.drop_eq_nil_of_le (by omega)]
  exact ⟨_, rfl⟩

end Lists

end PepeAudio
