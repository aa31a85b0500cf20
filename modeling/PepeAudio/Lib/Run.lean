import Mathlib.Algebra.GroupWithZero.Nat
import Mathlib.Data.List.Basic
import Mathlib.Data.List.Pairwise
import Mathlib.Order.Basic
import Mathlib.Order.Lattice.Nat

/-!
# Finite runs of labelled transition systems

A run records every transition it has taken, with the state before and after
it, so that a property of a whole history is a property of one list. Invariants,
relations between an earlier and a later state, and properties of two different
transitions of one run are each derived here once from a fact about one step.
-/
namespace PepeAudio

/-- One transition as a run records it. -/
structure Taken (σ ℓ : Type*) where
  before : σ
  label : ℓ
  after : σ

/-- `Run next start taken s` says that the transitions `taken`, oldest first,
lead from `start` to `s`. -/
inductive Run {σ ℓ : Type*} (next : σ → ℓ → σ → Prop) (start : σ) :
    List (Taken σ ℓ) → σ → Prop
  | nil : Run next start [] start
  | snoc {taken : List (Taken σ ℓ)} {s s' : σ} {l : ℓ} :
      Run next start taken s → next s l s' → Run next start (taken ++ [⟨s, l, s'⟩]) s'

namespace Run

variable {σ ℓ : Type*} {next : σ → ℓ → σ → Prop} {start s : σ} {taken : List (Taken σ ℓ)}

/-- Induction with a side condition on the transitions taken so far. -/
theorem invariant_of {C : Taken σ ℓ → Prop} {I : List (Taken σ ℓ) → σ → Prop}
    (run : Run next start taken s) (h0 : I [] start)
    (hstep : ∀ taken s l s', Run next start taken s → I taken s → next s l s' →
      C ⟨s, l, s'⟩ → I (taken ++ [⟨s, l, s'⟩]) s')
    (hok : ∀ t ∈ taken, C t) : I taken s := by
  induction run with
  | nil => exact h0
  | snoc run step ih =>
    have hbefore := ih fun t ht => hok t (List.mem_append_left _ ht)
    exact hstep _ _ _ _ run hbefore step (hok _ (by simp))

/-- A property of the history and the state that every step preserves. -/
theorem history {I : List (Taken σ ℓ) → σ → Prop} (run : Run next start taken s)
    (h0 : I [] start)
    (hstep : ∀ taken s l s', Run next start taken s → I taken s → next s l s' →
      I (taken ++ [⟨s, l, s'⟩]) s') : I taken s :=
  run.invariant_of (C := fun _ => True) h0
    (fun taken s l s' hr hi hn _ => hstep taken s l s' hr hi hn) (fun _ _ => trivial)

/-- A state property that holds initially and that every step preserves. -/
theorem invariant {I : σ → Prop} (run : Run next start taken s) (h0 : I start)
    (hstep : ∀ s l s', I s → next s l s' → I s') : I s :=
  run.history (I := fun _ s => I s) h0 fun _ s l s' _ hi hn => hstep s l s' hi hn

/-- Every recorded transition is one the system can take, from a state it reached. -/
theorem taken_next (run : Run next start taken s) {t : Taken σ ℓ} (ht : t ∈ taken) :
    (∃ earlier, Run next start earlier t.before) ∧ next t.before t.label t.after := by
  induction run with
  | nil => simp at ht
  | snoc run step ih =>
    rcases List.mem_append.mp ht with h | h
    · exact ih h
    · obtain rfl := List.mem_singleton.mp h
      exact ⟨⟨_, run⟩, step⟩

/-- Every transition continues the run made of those before it. -/
theorem split {earlier later : List (Taken σ ℓ)} {t : Taken σ ℓ}
    (run : Run next start (earlier ++ t :: later) s) :
    Run next start earlier t.before ∧ next t.before t.label t.after := by
  generalize hsplit : earlier ++ t :: later = taken at run
  induction run generalizing later with
  | nil => simp at hsplit
  | snoc run step ih =>
    rcases List.eq_nil_or_concat later with rfl | ⟨later', last, rfl⟩
    · obtain ⟨rfl, hlast⟩ := List.append_inj' hsplit rfl
      obtain rfl := List.singleton_inj.mp hlast
      exact ⟨run, step⟩
    · rw [List.concat_eq_append, ← List.cons_append, ← List.append_assoc] at hsplit
      obtain ⟨hinit, -⟩ := List.append_inj' hsplit rfl
      exact ih hinit

/-- A preorder that every step follows relates each earlier state to the last one. -/
theorem related {R : σ → σ → Prop} (run : Run next start taken s) (hrefl : ∀ s, R s s)
    (htrans : ∀ a b c, R a b → R b c → R a c)
    (hstep : ∀ s l s', (∃ earlier, Run next start earlier s) → next s l s' → R s s') :
    R start s ∧ ∀ t ∈ taken, R t.before s ∧ R t.after s := by
  induction run with
  | nil => exact ⟨hrefl _, by simp⟩
  | snoc run step ih =>
    have hlast := hstep _ _ _ ⟨_, run⟩ step
    refine ⟨htrans _ _ _ ih.1 hlast, fun t ht => ?_⟩
    rcases List.mem_append.mp ht with h | h
    · have hearlier := ih.2 t h
      exact ⟨htrans _ _ _ hearlier.1 hlast, htrans _ _ _ hearlier.2 hlast⟩
    · obtain rfl := List.mem_singleton.mp h
      exact ⟨hlast, hrefl _⟩

/-- Two different transitions of one run are linked by every preorder the steps
follow, from the state after the earlier one to the state before the later one. -/
theorem pairwise {R : σ → σ → Prop} (run : Run next start taken s) (hrefl : ∀ s, R s s)
    (htrans : ∀ a b c, R a b → R b c → R a c)
    (hstep : ∀ s l s', (∃ earlier, Run next start earlier s) → next s l s' → R s s') :
    taken.Pairwise fun t t' => R t.after t'.before := by
  induction run with
  | nil => exact List.Pairwise.nil
  | snoc run step ih =>
    rw [List.pairwise_append]
    refine ⟨ih, List.pairwise_singleton _ _, fun t ht t' ht' => ?_⟩
    obtain rfl := List.mem_singleton.mp ht'
    exact ((run.related hrefl htrans hstep).2 t ht).2

/-- A property of all states of a run: those its transitions left, and the last one. -/
def Throughout (I : σ → Prop) (taken : List (Taken σ ℓ)) (s : σ) : Prop :=
  (∀ t ∈ taken, I t.before) ∧ I s

/-- The steps under which a property holds throughout: exactly those that keep an invariant `J`
behind it, when every other step leads out of it. -/
theorem throughout_iff {I J : σ → Prop} {C : Taken σ ℓ → Prop} (run : Run next start taken s)
    (h0 : J start) (himp : ∀ taken s, Run next start taken s → J s → I s)
    (hkeep : ∀ taken s l s', Run next start taken s → J s → next s l s' → C ⟨s, l, s'⟩ → J s')
    (hleave : ∀ taken s l s', Run next start taken s → next s l s' → I s' → C ⟨s, l, s'⟩) :
    Throughout I taken s ↔ ∀ t ∈ taken, C t := by
  constructor
  · intro hthroughout
    induction run with
    | nil => simp
    | @snoc taken s s' l run step ih =>
      obtain ⟨hbefore, hlast⟩ := hthroughout
      have hearlier := ih ⟨fun t ht => hbefore t (List.mem_append_left _ ht),
        hbefore ⟨s, l, s'⟩ (List.mem_append_right _ List.mem_cons_self)⟩
      intro t ht
      rcases List.mem_append.mp ht with ht | ht
      · exact hearlier t ht
      · obtain rfl := List.mem_singleton.mp ht
        exact hleave taken s l s' run step hlast
  · intro hok
    have hboth : Throughout I taken s ∧ J s := by
      refine run.invariant_of (I := fun taken s => Throughout I taken s ∧ J s)
        ⟨⟨by simp, himp [] start .nil h0⟩, h0⟩ ?_ hok
      rintro taken s l s' run ⟨⟨hbefore, hlast⟩, hinvariant⟩ step hcondition
      have hafter := hkeep taken s l s' run hinvariant step hcondition
      refine ⟨⟨fun t ht => ?_, himp _ s' (.snoc run step) hafter⟩, hafter⟩
      rcases List.mem_append.mp ht with ht | ht
      · exact hbefore t ht
      · obtain rfl := List.mem_singleton.mp ht
        exact hlast
    exact hboth.1

end Run

/-- Execute a deterministic system on a list of inputs, recording every step. -/
def record {σ ι ο : Type*} (step : σ → ι → ο × σ) : σ → List ι → List (Taken σ (ι × ο)) × σ
  | s, [] => ([], s)
  | s, i :: is =>
    let (o, s') := step s i
    let rest := record step s' is
    (⟨s, (i, o), s'⟩ :: rest.1, rest.2)

/-- Execute a deterministic system without outputs, recording every step. -/
def replay {σ ι : Type*} (step : σ → ι → σ) : σ → List ι → List (Taken σ ι) × σ
  | s, [] => ([], s)
  | s, i :: is =>
    let rest := replay step (step s i) is
    (⟨s, i, step s i⟩ :: rest.1, rest.2)

/-- The transition relation of a deterministic system with inputs and outputs. -/
def Follows {σ ι ο : Type*} (step : σ → ι → ο × σ) (s : σ) (l : ι × ο) (s' : σ) : Prop :=
  step s l.1 = (l.2, s')

theorem Follows.eq {σ ι ο : Type*} {step : σ → ι → ο × σ} {s s' : σ} {l : ι × ο}
    (h : Follows step s l s') : l = (l.1, (step s l.1).1) ∧ s' = (step s l.1).2 := by
  have hstep : step s l.1 = (l.2, s') := h
  rw [hstep]
  exact ⟨rfl, rfl⟩

theorem Run.cons {σ ℓ : Type*} {next : σ → ℓ → σ → Prop} {start s s' : σ} {l : ℓ}
    {taken : List (Taken σ ℓ)} (hfirst : next start l s) (run : Run next s taken s') :
    Run next start (⟨start, l, s⟩ :: taken) s' := by
  induction run with
  | nil => exact Run.snoc Run.nil hfirst
  | snoc _ step ih => exact Run.snoc ih step

theorem run_record {σ ι ο : Type*} (step : σ → ι → ο × σ) (s : σ) (is : List ι) :
    Run (Follows step) s (record step s is).1 (record step s is).2 := by
  induction is generalizing s with
  | nil => exact Run.nil
  | cons i is ih => exact Run.cons (l := (i, (step s i).1)) rfl (ih _)

theorem run_replay {σ ι : Type*} (step : σ → ι → σ) (s : σ) (is : List ι) :
    Run (fun s i s' => step s i = s') s (replay step s is).1 (replay step s is).2 := by
  induction is generalizing s with
  | nil => exact Run.nil
  | cons i is ih => exact Run.cons rfl (ih _)

/-- Replay labels as long as the system can take them. -/
def replay? {σ ι : Type*} (step : σ → ι → Option σ) : σ → List ι → Option (List (Taken σ ι) × σ)
  | s, [] => some ([], s)
  | s, i :: is =>
    (step s i).bind fun s' => (replay? step s' is).map fun rest => (⟨s, i, s'⟩ :: rest.1, rest.2)

theorem run_replay? {σ ι : Type*} {step : σ → ι → Option σ} {s s' : σ} {is : List ι}
    {taken : List (Taken σ ι)} (h : replay? step s is = some (taken, s')) :
    Run (fun s i s' => step s i = some s') s taken s' := by
  induction is generalizing s taken with
  | nil =>
    obtain ⟨rfl, rfl⟩ := Prod.mk.inj (Option.some.inj h)
    exact Run.nil
  | cons i is ih =>
    obtain ⟨next, hnext, h⟩ := Option.bind_eq_some_iff.mp h
    obtain ⟨⟨rest, last⟩, hrest, hsame⟩ := Option.map_eq_some_iff.mp h
    obtain ⟨rfl, rfl⟩ := Prod.mk.inj hsame
    exact Run.cons hnext (ih hrest)

theorem labels_replay? {σ ι : Type*} {step : σ → ι → Option σ} {s s' : σ} {is : List ι}
    {taken : List (Taken σ ι)} (h : replay? step s is = some (taken, s')) :
    taken.map Taken.label = is := by
  induction is generalizing s taken with
  | nil =>
    obtain ⟨rfl, -⟩ := Prod.mk.inj (Option.some.inj h)
    rfl
  | cons i is ih =>
    obtain ⟨next, -, h⟩ := Option.bind_eq_some_iff.mp h
    obtain ⟨⟨rest, last⟩, hrest, hsame⟩ := Option.map_eq_some_iff.mp h
    obtain ⟨rfl, rfl⟩ := Prod.mk.inj hsame
    exact congrArg (i :: ·) (ih hrest)

end PepeAudio
