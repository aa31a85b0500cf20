import PepeAudio.Lib.Run
import Mathlib.Data.List.Count
import Mathlib.Logic.Function.Basic

/-!
# Fixed-window limits

Time is cut into windows of one length, and each key may be admitted a limited
number of times in a window. A system keeps such a limit when it counts, for the
window it is in, at least what it has admitted, admits only below the limit, and starts a
window at any count. Then no window of its history exceeds the limit.
-/
namespace PepeAudio

inductive WindowEvent (κ : Type*) where
  | admitted (key : κ)
  | passed
  deriving DecidableEq, Repr

/-- The time and what has been used of the window it is in. -/
structure WindowView (κ : Type*) where
  now : ℕ
  used : κ → ℕ

namespace WindowView

variable {κ : Type*} [DecidableEq κ] {length limit : ℕ}

inductive Next (length limit : ℕ) : WindowView κ → WindowEvent κ → WindowView κ → Prop
  | admitted {view view' : WindowView κ} (key : κ) (hnow : view'.now = view.now)
      (hfree : view.used key < limit)
      (hused : view'.used = Function.update view.used key (view.used key + 1)) :
      Next length limit view (.admitted key) view'
  | passed {view view' : WindowView κ} (hnow : view.now ≤ view'.now)
      (hkept : view'.now / length = view.now / length → ∀ key, view.used key ≤ view'.used key) :
      Next length limit view .passed view'

theorem Next.now_le {view view' : WindowView κ} {event : WindowEvent κ}
    (h : Next length limit view event view') : view.now ≤ view'.now := by
  cases h with
  | admitted key hnow hfree hused => omega
  | passed hnow hkept => exact hnow

section System

variable {σ ℓ : Type*} {next : σ → ℓ → σ → Prop} {start s : σ} {taken : List (Taken σ ℓ)}
variable (length limit) (view : σ → WindowView κ) (event : ℓ → WindowEvent κ)

/-- The transitions that let a key through in a window. -/
def admittedIn (key : κ) (window : ℕ) (taken : List (Taken σ ℓ)) : List (Taken σ ℓ) :=
  taken.filter fun t => event t.label = .admitted key ∧ (view t.before).now / length = window

/-- What the history has admitted is within the limit, and in the present window within what
counts as used. -/
structure Limited (taken : List (Taken σ ℓ)) (s : σ) : Prop where
  limit : ∀ key window, (admittedIn length view event key window taken).length ≤ limit
  used : ∀ key, (admittedIn length view event key ((view s).now / length) taken).length ≤
    (view s).used key
  future : ∀ key window, (view s).now / length < window →
    admittedIn length view event key window taken = []

variable {length limit view event}

theorem admittedIn_snoc (key : κ) (window : ℕ) (t : Taken σ ℓ) :
    admittedIn length view event key window (taken ++ [t]) =
      admittedIn length view event key window taken ++
        if event t.label = .admitted key ∧ (view t.before).now / length = window then [t]
        else [] := by
  unfold admittedIn
  rw [List.filter_append]
  by_cases h : event t.label = .admitted key ∧ (view t.before).now / length = window
  · simp [h]
  · simp [h]

theorem Limited.snoc {l : ℓ} {s' : σ} (h : Limited length limit view event taken s)
    (hstep : Next length limit (view s) (event l) (view s')) :
    Limited length limit view event (taken ++ [⟨s, l, s'⟩]) s' := by
  have hwindow : (view s).now / length ≤ (view s').now / length :=
    Nat.div_le_div_right hstep.now_le
  generalize hevent : event l = happened at hstep
  cases hstep with
  | admitted key hnow hfree hused =>
    have hadded : ∀ key' window, (admittedIn length view event key' window
        (taken ++ [⟨s, l, s'⟩])).length =
        (admittedIn length view event key' window taken).length +
          if key' = key ∧ (view s).now / length = window then 1 else 0 := by
      intro key' window
      rw [admittedIn_snoc, List.length_append]
      by_cases hkey : key' = key ∧ (view s).now / length = window
      · obtain ⟨rfl, hsame⟩ := hkey
        simp [hevent, hsame]
      · have hother : ¬ (event l = .admitted key' ∧ (view s).now / length = window) := by
          rintro ⟨hadmitted, hsame⟩
          rw [hevent] at hadmitted
          exact hkey ⟨(WindowEvent.admitted.inj hadmitted).symm, hsame⟩
        simp [hkey, hother]
    constructor
    · intro key' window
      have hbefore := h.limit key' window
      rw [hadded]
      by_cases hkey : key' = key ∧ (view s).now / length = window
      · obtain ⟨rfl, rfl⟩ := hkey
        have hcount := h.used key'
        rw [if_pos ⟨rfl, rfl⟩]
        omega
      · rw [if_neg hkey]
        omega
    · intro key'
      have hcount := h.used key'
      rw [hadded, hused, hnow]
      by_cases hkey : key' = key
      · subst hkey
        rw [Function.update_self, if_pos ⟨rfl, rfl⟩]
        omega
      · rw [Function.update_of_ne hkey, if_neg fun hboth => hkey hboth.1]
        omega
    · intro key' window hlater
      rw [hnow] at hlater
      have hempty := h.future key' window hlater
      have hsame : ¬ (key' = key ∧ (view s).now / length = window) := by
        rintro ⟨-, heq⟩
        omega
      refine List.eq_nil_of_length_eq_zero ?_
      rw [hadded, hempty, if_neg hsame]
      rfl
  | passed hnow hkept =>
    have hsame : ∀ key window, admittedIn length view event key window (taken ++ [⟨s, l, s'⟩]) =
        admittedIn length view event key window taken := by
      intro key window
      rw [admittedIn_snoc]
      simp [hevent]
    constructor
    · intro key window
      rw [hsame]
      exact h.limit key window
    · intro key
      rw [hsame]
      by_cases hstill : (view s').now / length = (view s).now / length
      · rw [hstill]
        exact Nat.le_trans (h.used key) (hkept hstill key)
      · rw [h.future key _ (by omega)]
        exact Nat.zero_le _
    · intro key window hlater
      rw [hsame]
      exact h.future key window (by omega)

/-- No key is admitted more often in a window than the limit says. -/
theorem limited (hkeeps : ∀ s l s', (∃ earlier, Run next start earlier s) → next s l s' →
      Next length limit (view s) (event l) (view s'))
    (run : Run next start taken s) : Limited length limit view event taken s := by
  refine run.history (I := fun taken s => Limited length limit view event taken s) ?_ ?_
  · constructor
    · intro key window
      exact Nat.zero_le _
    · intro key
      exact Nat.zero_le _
    · intro key window hlater
      rfl
  · intro taken s l s' run hlimited hnext
    exact hlimited.snoc (hkeeps s l s' ⟨taken, run⟩ hnext)

end System

end WindowView

end PepeAudio
