import PepeAudio.Lib.Run
import Mathlib.Algebra.Order.Monoid.Unbundled.WithTop

/-!
# Max-registers with a disposable body

A register remembers the highest rank it has accepted, and may forget the value
that carried it. It accepts an offer exactly when the offer's rank is higher. A
system keeps such a register when each of its steps shows on it as one of the
events below.
-/
namespace PepeAudio

inductive RegisterEvent (β : Type*) where
  | accepted (value : β)
  | refused (value : β)
  | dropped
  | passed
  deriving DecidableEq, Repr

structure MaxRegister (ρ β : Type*) where
  mark : WithBot ρ
  body : Option β

namespace MaxRegister

variable {ρ β : Type*} [LinearOrder ρ] (rank : β → ρ)

/-- One event on a register. Between events its body may be lost. -/
inductive Next : MaxRegister ρ β → RegisterEvent β → MaxRegister ρ β → Prop
  | accepted {register : MaxRegister ρ β} (value : β) (hnewer : register.mark < rank value) :
      Next register (.accepted value) ⟨rank value, some value⟩
  | refused {register : MaxRegister ρ β} (value : β) (hold : rank value ≤ register.mark) :
      Next register (.refused value) register
  | dropped {register : MaxRegister ρ β} : Next register .dropped ⟨register.mark, none⟩
  | kept {register : MaxRegister ρ β} : Next register .passed register
  | lost {register : MaxRegister ρ β} : Next register .passed ⟨register.mark, none⟩

variable {rank} {register register' : MaxRegister ρ β}

theorem Next.mark_le {event : RegisterEvent β} (h : Next rank register event register') :
    register.mark ≤ register'.mark := by
  cases h with
  | accepted value hnewer => exact le_of_lt hnewer
  | refused value hold => exact le_rfl
  | dropped => exact le_rfl
  | kept => exact le_rfl
  | lost => exact le_rfl

theorem Next.accepted_newer {value : β} (h : Next rank register (.accepted value) register') :
    register.mark < rank value := by
  cases h with
  | accepted _ hnewer => exact hnewer

theorem Next.accepted_mark {value : β} (h : Next rank register (.accepted value) register') :
    register'.mark = rank value := by
  cases h with
  | accepted _ _ => rfl

/-- Only what is accepted moves the mark. -/
theorem Next.mark_eq {event : RegisterEvent β} (h : Next rank register event register')
    (hevent : ∀ value, event ≠ .accepted value) : register'.mark = register.mark := by
  cases h with
  | accepted value hnewer => exact absurd rfl (hevent value)
  | refused value hold => rfl
  | dropped => rfl
  | kept => rfl
  | lost => rfl

/-- The body, if it is there, carries the mark. -/
def Coherent (rank : β → ρ) (register : MaxRegister ρ β) : Prop :=
  ∀ value, register.body = some value → register.mark = rank value

theorem Next.coherent {event : RegisterEvent β} (h : Next rank register event register')
    (hcoherent : register.Coherent rank) : register'.Coherent rank := by
  cases h with
  | accepted value hnewer =>
    intro other hother
    obtain rfl : value = other := Option.some.inj hother
    rfl
  | refused value hold => exact hcoherent
  | dropped =>
    intro value hvalue
    contradiction
  | kept => exact hcoherent
  | lost =>
    intro value hvalue
    contradiction

section System

variable {σ ℓ : Type*} {next : σ → ℓ → σ → Prop} {start s : σ} {taken : List (Taken σ ℓ)}
variable {view : σ → MaxRegister ρ β} {event : ℓ → RegisterEvent β}
variable (hkeeps : ∀ s l s', (∃ earlier, Run next start earlier s) → next s l s' →
  Next rank (view s) (event l) (view s'))
include hkeeps

/-- The mark never decreases. -/
theorem mark_mono (run : Run next start taken s) {t : Taken σ ℓ} (ht : t ∈ taken) :
    (view t.before).mark ≤ (view t.after).mark ∧ (view t.after).mark ≤ (view s).mark := by
  have hrelated := run.related (R := fun s s' => (view s).mark ≤ (view s').mark)
    (fun _ => le_rfl) (fun _ _ _ h h' => h.trans h')
    (fun s l s' hreached hnext => (hkeeps s l s' hreached hnext).mark_le)
  obtain ⟨hreached, hnext⟩ := run.taken_next ht
  exact ⟨(hkeeps _ _ _ hreached hnext).mark_le, (hrelated.2 t ht).2⟩

theorem mark_pairwise (run : Run next start taken s) :
    taken.Pairwise fun t t' => (view t.after).mark ≤ (view t'.before).mark :=
  run.pairwise (R := fun s s' => (view s).mark ≤ (view s').mark)
    (fun _ => le_rfl) (fun _ _ _ h h' => h.trans h')
    (fun s l s' hreached hnext => (hkeeps s l s' hreached hnext).mark_le)

theorem coherent (run : Run next start taken s) (h0 : (view start).Coherent rank) :
    (view s).Coherent rank := by
  refine run.history (I := fun _ s => (view s).Coherent rank) h0 ?_
  intro taken s l s' run hcoherent hnext
  exact (hkeeps s l s' ⟨taken, run⟩ hnext).coherent hcoherent

/-- A mark that the register did not start with was accepted. -/
theorem mark_accepted (run : Run next start taken s) (h0 : (view start).mark = ⊥) {r : ρ}
    (hmark : (view s).mark = r) :
    ∃ t ∈ taken, ∃ value, event t.label = .accepted value ∧ rank value = r := by
  induction run with
  | nil =>
    rw [h0] at hmark
    exact absurd hmark.symm (WithBot.coe_ne_bot)
  | @snoc taken s s' l run hnext ih =>
    have hkept : (view s).mark = r → ∃ t ∈ taken ++ [⟨s, l, s'⟩], ∃ value,
        event t.label = .accepted value ∧ rank value = r := by
      intro hbefore
      obtain ⟨t, ht, haccepted⟩ := ih hbefore
      exact ⟨t, List.mem_append_left _ ht, haccepted⟩
    have hstep := hkeeps s l s' ⟨taken, run⟩ hnext
    cases hevent : event l with
    | accepted value =>
      rw [hevent] at hstep
      rw [hstep.accepted_mark] at hmark
      have hlast : ⟨s, l, s'⟩ ∈ taken ++ [⟨s, l, s'⟩] := List.mem_append_right _ (by simp)
      exact ⟨_, hlast, value, hevent, WithBot.coe_inj.mp hmark⟩
    | refused value =>
      rw [hevent] at hstep
      exact hkept (hstep.mark_eq (by simp) ▸ hmark)
    | dropped =>
      rw [hevent] at hstep
      exact hkept (hstep.mark_eq (by simp) ▸ hmark)
    | passed =>
      rw [hevent] at hstep
      exact hkept (hstep.mark_eq (by simp) ▸ hmark)

/-- What is accepted later than some state is newer than the mark of that state. -/
theorem accepted_after (run : Run next start taken s) :
    taken.Pairwise fun t t' => ∀ value, event t'.label = .accepted value →
      (view t.after).mark < rank value := by
  refine List.pairwise_iff_forall_sublist.mpr ?_
  intro t t' hsub value haccepted
  have hle := List.pairwise_iff_forall_sublist.mp (mark_pairwise hkeeps run) hsub
  have hmem : t' ∈ taken := hsub.subset (by simp)
  obtain ⟨hreached, hnext⟩ := run.taken_next hmem
  have hnewer := hkeeps _ _ _ hreached hnext
  rw [haccepted] at hnewer
  exact lt_of_le_of_lt hle hnewer.accepted_newer

/-- The ranks accepted along a run strictly increase. -/
theorem accepted_increasing (run : Run next start taken s) :
    taken.Pairwise fun t t' => ∀ value value', event t.label = .accepted value →
      event t'.label = .accepted value' → rank value < rank value' := by
  refine List.pairwise_iff_forall_sublist.mpr ?_
  intro t t' hsub value value' hfirst hsecond
  have hlt := List.pairwise_iff_forall_sublist.mp (accepted_after hkeeps run) hsub value' hsecond
  have hmem : t ∈ taken := hsub.subset (by simp)
  obtain ⟨hreached, hnext⟩ := run.taken_next hmem
  have haccepted := hkeeps _ _ _ hreached hnext
  rw [hfirst] at haccepted
  rw [haccepted.accepted_mark] at hlt
  exact WithBot.coe_lt_coe.mp hlt

end System

end MaxRegister

end PepeAudio
