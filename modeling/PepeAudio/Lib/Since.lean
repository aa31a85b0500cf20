import Mathlib.Data.List.Basic

/-!
# Histories: what has happened since

Over a history of events, oldest first: an event of one kind has happened since
the last one of another kind, and every event was justified by those before it.
-/
namespace PepeAudio

variable {α : Type*} {P Q : α → Prop} {history later : List α}

/-- A `P` has happened, and no `Q` after it. -/
def Since (P Q : α → Prop) (history : List α) : Prop :=
  ∃ before event after, history = before ++ event :: after ∧ P event ∧ ∀ e ∈ after, ¬ Q e

theorem Since.append (h : Since P Q history) (hlater : ∀ e ∈ later, ¬ Q e) :
    Since P Q (history ++ later) := by
  obtain ⟨before, event, after, rfl, hevent, hafter⟩ := h
  refine ⟨before, event, after ++ later, by simp, hevent, ?_⟩
  intro e he
  rcases List.mem_append.mp he with he | he
  · exact hafter e he
  · exact hlater e he

/-- Events of the first kind only: it is enough that one of them is there. -/
theorem since_of_mem {event : α} (hmem : event ∈ later) (hevent : P event)
    (hlater : ∀ e ∈ later, ¬ Q e) : Since P Q (history ++ later) := by
  obtain ⟨before, after, rfl⟩ := List.append_of_mem hmem
  refine ⟨history ++ before, event, after, by simp, hevent, ?_⟩
  intro e he
  exact hlater e (by simp [he])

/-- The last event began it, or it began before and the last event did not end it. -/
theorem since_snoc {e : α} (h : Since P Q (history ++ [e])) :
    P e ∨ Since P Q history ∧ ¬ Q e := by
  obtain ⟨before, event, after, hsplit, hevent, hafter⟩ := h
  rcases List.eq_nil_or_concat after with rfl | ⟨after', last, rfl⟩
  · obtain ⟨-, hlast⟩ := List.append_inj' hsplit rfl
    obtain rfl := List.singleton_inj.mp hlast
    exact .inl hevent
  · rw [List.concat_eq_append, ← List.cons_append, ← List.append_assoc] at hsplit
    obtain ⟨rfl, hlast⟩ := List.append_inj' hsplit rfl
    obtain rfl := List.singleton_inj.mp hlast
    exact .inr ⟨⟨before, event, after', rfl, hevent, fun e he => hafter e (by simp [he])⟩,
      hafter e (by simp)⟩

/-- Every event stands to the history before it as `J` says. -/
def Justified (J : List α → α → Prop) (history : List α) : Prop :=
  ∀ before event after, history = before ++ event :: after → J before event

theorem Justified.nil (J : List α → α → Prop) : Justified J [] := by
  intro before event after h
  simp at h

theorem Justified.append {J : List α → α → Prop} (h : Justified J history)
    (hlater : ∀ before event after, later = before ++ event :: after →
      J (history ++ before) event) : Justified J (history ++ later) := by
  intro before event after hsplit
  rcases List.append_eq_append_iff.mp hsplit with ⟨middle, rfl, hlast⟩ | ⟨middle, hfirst, hlast⟩
  · exact hlater middle event after hlast
  · cases middle with
    | nil =>
      rw [List.append_nil] at hfirst
      have hhere := hlater [] event after (by simpa using hlast.symm)
      rwa [List.append_nil, hfirst] at hhere
    | cons first rest =>
      rw [List.cons_append, List.cons.injEq] at hlast
      obtain ⟨rfl, -⟩ := hlast
      exact h before event rest hfirst

end PepeAudio
