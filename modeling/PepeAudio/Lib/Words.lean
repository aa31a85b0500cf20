import Mathlib.Data.List.Infix
import Mathlib.Tactic.Common

/-!
# Words between separators

A text is split at separators into words that are not empty. Words that are joined by
a separator are found again by splitting, and each of them can be searched for in the
joined text.
-/
namespace PepeAudio

namespace Words

variable {α : Type*} (isSeparator : α → Bool)

def split (cs : List α) : List (List α) := (cs.splitOnP isSeparator).filter (!·.isEmpty)

variable {isSeparator} {cs ds : List α} {words : List (List α)} {word : List α} {separator : α}

@[simp] theorem split_nil : split isSeparator [] = [] := rfl

theorem split_append_cons (h : isSeparator separator = true) :
    split isSeparator (cs ++ separator :: ds) = split isSeparator cs ++ split isSeparator ds := by
  rw [split, List.splitOnP_append_cons _ _ h, List.filter_append, split, split]

theorem split_of_forall (hne : cs ≠ []) (h : ∀ c ∈ cs, isSeparator c = false) :
    split isSeparator cs = [cs] := by
  rw [split, List.splitOnP_eq_singleton h]
  simp [hne]

/-- The words that splitting can give. -/
def Valid (isSeparator : α → Bool) (words : List (List α)) : Prop :=
  ∀ word ∈ words, word ≠ [] ∧ ∀ c ∈ word, isSeparator c = false

theorem not_separator_of_mem_splitOnP (cs : List α) :
    ∀ part ∈ cs.splitOnP isSeparator, ∀ c ∈ part, isSeparator c = false := by
  induction cs with
  | nil => simp
  | cons c cs ih =>
    rw [List.splitOnP_cons_eq_if_modifyHead]
    split_ifs with hc
    · simpa using ih
    · obtain ⟨first, parts, hparts⟩ :=
        List.exists_cons_of_ne_nil (List.splitOnP_ne_nil isSeparator cs)
      rw [hparts] at ih ⊢
      simp only [List.modifyHead_cons, List.forall_mem_cons] at ih ⊢
      exact ⟨⟨by simpa using hc, ih.1⟩, ih.2⟩

variable (isSeparator) in
theorem valid_split (cs : List α) : Valid isSeparator (split isSeparator cs) := by
  intro word hmem
  obtain ⟨hpart, hne⟩ := List.mem_filter.mp hmem
  exact ⟨by simpa using hne, not_separator_of_mem_splitOnP cs word hpart⟩

/-- Splitting finds the words that were joined. -/
theorem split_intercalate (hseparator : isSeparator separator = true)
    (h : Valid isSeparator words) :
    split isSeparator ([separator].intercalate words) = words := by
  induction words with
  | nil => rfl
  | cons word words ih =>
    obtain ⟨hne, hplain⟩ := h word List.mem_cons_self
    have htail := ih fun other hmem => h other (List.mem_cons_of_mem _ hmem)
    by_cases hlast : words = []
    · subst hlast
      rw [List.intercalate_singleton, split_of_forall hne hplain]
    · rw [List.intercalate_cons_of_ne_nil hlast, List.append_assoc, List.singleton_append,
        split_append_cons hseparator, split_of_forall hne hplain, htail, List.singleton_append]

theorem infix_intercalate (separator : α) (h : word ∈ words) :
    word <:+: [separator].intercalate words := by
  induction words with
  | nil => simp at h
  | cons first words ih =>
    by_cases hlast : words = []
    · subst hlast
      obtain rfl : word = first := by simpa using h
      rw [List.intercalate_singleton]
    · rw [List.intercalate_cons_of_ne_nil hlast]
      rcases List.mem_cons.mp h with rfl | hmem
      · exact ⟨[], [separator] ++ [separator].intercalate words, by simp⟩
      · exact (ih hmem).trans (List.suffix_append _ _).isInfix

/-- A word stands between separators when the text is put between separators. -/
theorem padded_infix_intercalate (separator : α) (h : word ∈ words) :
    separator :: word ++ [separator] <:+:
      separator :: [separator].intercalate words ++ [separator] := by
  induction words with
  | nil => simp at h
  | cons first words ih =>
    by_cases hlast : words = []
    · subst hlast
      obtain rfl : word = first := by simpa using h
      rw [List.intercalate_singleton]
    · rw [List.intercalate_cons_of_ne_nil hlast]
      rcases List.mem_cons.mp h with rfl | hmem
      · exact ⟨[], [separator].intercalate words ++ [separator], by simp⟩
      · obtain ⟨before, after, heq⟩ := ih hmem
        refine ⟨separator :: first ++ before, after, ?_⟩
        rw [List.append_assoc, List.append_assoc, ← List.append_assoc before, heq]
        simp

end Words

end PepeAudio
