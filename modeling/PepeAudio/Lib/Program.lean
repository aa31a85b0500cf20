import Mathlib.Algebra.GroupWithZero.Nat
import Mathlib.Order.Lattice.Nat
import Mathlib.Tactic.Common

/-!
# Postconditions of stateful programs with failures

`EStateM` keeps the state a failing program has reached, as an early return from
a function with a mutable receiver does. `Ends x s ok err` says how `x` started
in `s` ends: in `ok` with a value or in `err` with a failure. The rules below
compute it along the program text.
-/
namespace PepeAudio

universe u

/-- A pure program that returns has returned from each of its steps. -/
theorem bind_eq_ok {ε α β : Type u} {x : Except ε α} {f : α → Except ε β} {b : β}
    (h : x >>= f = .ok b) : ∃ a, x = .ok a ∧ f a = .ok b := by
  cases x with
  | error error => contradiction
  | ok a => exact ⟨a, rfl, h⟩

/-- The outcome of `x` from `s` satisfies `ok` when it returns and `err` when it fails. -/
def Ends {ε σ α : Type u} (x : EStateM ε σ α) (s : σ) (ok : α → σ → Prop)
    (err : ε → σ → Prop) : Prop :=
  match x s with
  | .ok a s' => ok a s'
  | .error e s' => err e s'

section Rules

variable {ε σ α β : Type u} {s : σ} {ok : α → σ → Prop} {err : ε → σ → Prop}

@[simp] theorem ends_pure (a : α) : Ends (pure a) s ok err ↔ ok a s := Iff.rfl

@[simp] theorem ends_throw (e : ε) : Ends (throw e : EStateM ε σ α) s ok err ↔ err e s := Iff.rfl

@[simp] theorem ends_get {ok : σ → σ → Prop} :
    Ends (get : EStateM ε σ σ) s ok err ↔ ok s s := Iff.rfl

@[simp] theorem ends_set (s' : σ) {ok : PUnit → σ → Prop} :
    Ends (set s' : EStateM ε σ PUnit) s ok err ↔ ok ⟨⟩ s' := Iff.rfl

@[simp] theorem ends_modify (f : σ → σ) {ok : PUnit → σ → Prop} :
    Ends (modify f : EStateM ε σ PUnit) s ok err ↔ ok ⟨⟩ (f s) := Iff.rfl

@[simp] theorem ends_bind (x : EStateM ε σ β) (f : β → EStateM ε σ α) :
    Ends (x >>= f) s ok err ↔ Ends x s (fun b s' => Ends (f b) s' ok err) err := by
  simp only [Ends, bind, EStateM.bind]
  cases x s <;> rfl

@[simp] theorem ends_map (x : EStateM ε σ β) (f : β → α) :
    Ends (f <$> x) s ok err ↔ Ends x s (fun b s' => ok (f b) s') err := by
  simp only [Ends, Functor.map, EStateM.map]
  cases x s <;> rfl

theorem ends_ite (c : Prop) [Decidable c] (x y : EStateM ε σ α) :
    Ends (if c then x else y) s ok err ↔ if c then Ends x s ok err else Ends y s ok err := by
  split <;> rfl

/-- Weaken both postconditions. -/
theorem Ends.imp {ok' : α → σ → Prop} {err' : ε → σ → Prop} {x : EStateM ε σ α}
    (h : Ends x s ok err) (hok : ∀ a s', ok a s' → ok' a s')
    (herr : ∀ e s', err e s' → err' e s') : Ends x s ok' err' := by
  unfold Ends at *
  cases hx : x s with
  | ok a s' => rw [hx] at h; exact hok a s' h
  | error e s' => rw [hx] at h; exact herr e s' h

/-- Read the postcondition of a program off its computed result. -/
theorem Ends.of_ok {x : EStateM ε σ α} {a : α} {s' : σ} (h : Ends x s ok err)
    (hx : x s = .ok a s') : ok a s' := by
  simpa only [Ends, hx] using h

theorem Ends.of_error {x : EStateM ε σ α} {e : ε} {s' : σ} (h : Ends x s ok err)
    (hx : x s = .error e s') : err e s' := by
  simpa only [Ends, hx] using h

end Rules

end PepeAudio
