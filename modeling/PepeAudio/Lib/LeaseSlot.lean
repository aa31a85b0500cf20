import PepeAudio.Lib.ExpiringMap
import PepeAudio.Lib.Run

/-!
# Leases on one slot

A slot is free, leased to a token until a time, or done until a time. Whoever
finds it free may lease it; only the token that leases it may complete or
release it. A system keeps such a slot when each of its steps shows on the slot
as one of these events, and then what its history tells about leases is what the
slot holds.
-/
namespace PepeAudio

/-- What happens to a slot, in the words of the replies its users get. -/
inductive LeaseEvent (τ : Type*) where
  | acquired (token : τ) (duration : ℕ)
  | completed (token : τ) (retention : ℕ)
  | released (token : τ)
  | passed
  deriving DecidableEq, Repr

/-- The event ends the lease of a token. -/
def LeaseEvent.Ends {τ : Type*} (token : τ) : LeaseEvent τ → Prop
  | .completed token' _ => token' = token
  | .released token' => token' = token
  | .acquired _ _ | .passed => False

/-- A slot at a time. The entry is a leasing token, or nothing when the work is done. -/
structure LeaseSlot (τ : Type*) where
  now : ℕ
  entry : Option (Expiring (Option τ))

namespace LeaseSlot

variable {τ : Type*} {slot slot' : LeaseSlot τ} {token : τ}

/-- What the slot holds that has not expired at a time. -/
def readAt (slot : LeaseSlot τ) (now : ℕ) : Option (Option τ) :=
  match slot.entry with
  | some entry => if now < entry.expiresAt then some entry.value else none
  | none => none

/-- One event on a slot. -/
inductive Next : LeaseSlot τ → LeaseEvent τ → LeaseSlot τ → Prop
  | acquired {slot : LeaseSlot τ} (token : τ) (duration : ℕ) (hfree : slot.readAt slot.now = none) :
      Next slot (.acquired token duration) ⟨slot.now, some ⟨some token, slot.now + duration⟩⟩
  | completed {slot : LeaseSlot τ} (token : τ) (retention : ℕ)
      (hheld : slot.readAt slot.now = some (some token)) :
      Next slot (.completed token retention) ⟨slot.now, some ⟨none, slot.now + retention⟩⟩
  | released {slot : LeaseSlot τ} (token : τ) (hheld : slot.readAt slot.now = some (some token)) :
      Next slot (.released token) ⟨slot.now, none⟩
  | passed {slot : LeaseSlot τ} (now : ℕ) (hnow : slot.now ≤ now) :
      Next slot .passed ⟨now, slot.entry⟩

theorem Next.now_le {event : LeaseEvent τ} (h : Next slot event slot') : slot.now ≤ slot'.now := by
  cases h with
  | passed now hnow => exact hnow
  | _ => exact Nat.le_refl _

/-- Whoever ends a lease holds it. -/
theorem Next.of_ends {event : LeaseEvent τ} (h : Next slot event slot') (hends : event.Ends token) :
    slot.readAt slot.now = some (some token) := by
  cases h with
  | acquired token' duration hfree => exact hends.elim
  | completed token' retention hheld =>
    obtain rfl : token' = token := hends
    exact hheld
  | released token' hheld =>
    obtain rfl : token' = token := hends
    exact hheld
  | passed now hnow => exact hends.elim

theorem Next.acquired_free {duration : ℕ} (h : Next slot (.acquired token duration) slot') :
    slot.readAt slot.now = none := by
  cases h with
  | acquired _ _ hfree => exact hfree

theorem Next.completed_entry {retention : ℕ} (h : Next slot (.completed token retention) slot') :
    slot'.entry = some ⟨none, slot.now + retention⟩ := by
  cases h with
  | completed _ _ _ => rfl

/-- Reading nothing now, one reads nothing later. -/
theorem readAt_none {now now' : ℕ} (h : slot.readAt now = none) (hle : now ≤ now') :
    slot.readAt now' = none := by
  unfold readAt at *
  cases hentry : slot.entry with
  | none => rfl
  | some entry =>
    rw [hentry] at h
    dsimp only at h ⊢
    by_cases hlive : now' < entry.expiresAt
    · rw [if_pos (by omega)] at h
      contradiction
    · rw [if_neg hlive]

/-- What one reads later, one reads now. -/
theorem readAt_earlier {now now' : ℕ} {value : Option τ} (h : slot.readAt now' = some value)
    (hle : now ≤ now') : slot.readAt now = some value := by
  unfold readAt at *
  cases hentry : slot.entry with
  | none =>
    rw [hentry] at h
    contradiction
  | some entry =>
    rw [hentry] at h
    dsimp only at h ⊢
    by_cases hlive : now' < entry.expiresAt
    · rw [if_pos hlive] at h
      rw [if_pos (by omega)]
      exact h
    · rw [if_neg hlive] at h
      contradiction

theorem readAt_entry (now now' expiresAt : ℕ) (value : Option τ) :
    (⟨now, some ⟨value, expiresAt⟩⟩ : LeaseSlot τ).readAt now' =
      if now' < expiresAt then some value else none := rfl

section System

variable {σ ℓ : Type*} {next : σ → ℓ → σ → Prop} {start s : σ} {taken : List (Taken σ ℓ)}
variable (view : σ → LeaseSlot τ) (event : ℓ → LeaseEvent τ)

/-- By its history, a token holds a lease at a time: it has acquired one, not ended it since,
and the time granted is not over. -/
def Held (taken : List (Taken σ ℓ)) (now : ℕ) (token : τ) : Prop :=
  ∃ earlier t later duration, taken = earlier ++ t :: later ∧
    event t.label = .acquired token duration ∧ now < (view t.before).now + duration ∧
    ∀ t' ∈ later, ¬ (event t'.label).Ends token

variable {view} {event}

@[simp] theorem not_held_nil (now : ℕ) (token : τ) :
    ¬ Held view event ([] : List (Taken σ ℓ)) now token := by
  rintro ⟨earlier, t, later, duration, hsplit, -⟩
  simp at hsplit

/-- One more transition: it grants the lease, or leaves an earlier one alone. -/
theorem held_snoc {t : Taken σ ℓ} {now : ℕ} : Held view event (taken ++ [t]) now token ↔
    (∃ duration, event t.label = .acquired token duration ∧ now < (view t.before).now + duration) ∨
      (Held view event taken now token ∧ ¬ (event t.label).Ends token) := by
  constructor
  · rintro ⟨earlier, t', later, duration, hsplit, hevent, hlive, hkept⟩
    rcases List.eq_nil_or_concat later with rfl | ⟨later', last, rfl⟩
    · obtain ⟨-, hlast⟩ := List.append_inj' hsplit rfl
      obtain rfl : t = t' := by simpa using hlast
      exact .inl ⟨duration, hevent, hlive⟩
    · rw [List.concat_eq_append, ← List.cons_append, ← List.append_assoc] at hsplit
      obtain ⟨hinit, hlast⟩ := List.append_inj' hsplit rfl
      obtain rfl : t = last := by simpa using hlast
      refine .inr ⟨⟨earlier, t', later', duration, hinit, hevent, hlive, ?_⟩, ?_⟩
      · intro t'' ht''
        exact hkept t'' (by simp [ht''])
      · exact hkept t (by simp)
  · rintro (⟨duration, hevent, hlive⟩ | ⟨⟨earlier, t', later, duration, rfl, hevent, hlive, hkept⟩,
      hends⟩)
    · exact ⟨taken, t, [], duration, rfl, hevent, hlive, by simp⟩
    · refine ⟨earlier, t', later ++ [t], duration, by simp, hevent, hlive, ?_⟩
      intro t'' ht''
      rcases List.mem_append.mp ht'' with hold | hlast
      · exact hkept t'' hold
      · obtain rfl := List.mem_singleton.mp hlast
        exact hends

variable (hkeeps : ∀ s l s', next s l s' → Next (view s) (event l) (view s'))
include hkeeps

/-- The leases of the history are those of the slot, now and, if nothing happens, later. -/
theorem held_iff (run : Run next start taken s) (h0 : (view start).entry = none) {now : ℕ}
    (hnow : (view s).now ≤ now) :
    Held view event taken now token ↔ (view s).readAt now = some (some token) := by
  induction run generalizing now token with
  | nil => simp [readAt, h0]
  | @snoc taken s s' l run step ih =>
    rw [held_snoc]
    have hstep := hkeeps s l s' step
    have hbefore := Nat.le_trans hstep.now_le hnow
    rw [ih hbefore]
    dsimp only
    generalize hview : view s = slot at *
    generalize view s' = slot' at *
    generalize event l = happened at *
    cases hstep with
    | acquired token' duration hfree =>
      have hnone : slot.readAt now = none := readAt_none hfree hbefore
      rw [readAt_entry, hnone]
      by_cases hlive : now < slot.now + duration
      · simp [hlive, LeaseEvent.Ends]
      · simp only [hlive, LeaseEvent.acquired.injEq, if_false]
        constructor
        · rintro (⟨_, ⟨-, rfl⟩, hlive'⟩ | ⟨h, -⟩)
          · exact absurd hlive' hlive
          · contradiction
        · intro h
          contradiction
    | completed token' retention hheld =>
      rw [readAt_entry]
      constructor
      · rintro (⟨_, h, -⟩ | ⟨h, hends⟩)
        · contradiction
        · have hsame := readAt_earlier h hbefore
          rw [hheld] at hsame
          exact absurd (Option.some.inj (Option.some.inj hsame)) hends
      · intro h
        by_cases hlive : now < slot.now + retention
        · simp [hlive] at h
        · simp [hlive] at h
    | released token' hheld =>
      constructor
      · rintro (⟨_, h, -⟩ | ⟨h, hends⟩)
        · contradiction
        · have hsame := readAt_earlier h hbefore
          rw [hheld] at hsame
          exact absurd (Option.some.inj (Option.some.inj hsame)) hends
      · intro h
        contradiction
    | passed now' hnow' =>
      constructor
      · rintro (⟨_, h, -⟩ | ⟨h, -⟩)
        · contradiction
        · exact h
      · intro h
        exact .inr ⟨h, id⟩

/-- Two tokens never hold leases at one time. -/
theorem held_unique (run : Run next start taken s) (h0 : (view start).entry = none)
    {token' : τ} (h : Held view event taken (view s).now token)
    (h' : Held view event taken (view s).now token') : token = token' := by
  rw [held_iff hkeeps run h0 (Nat.le_refl _)] at h h'
  exact Option.some.inj (Option.some.inj (h.symm.trans h'))

/-- Who ends a lease holds it. -/
theorem held_of_ends (run : Run next start taken s) (h0 : (view start).entry = none) {l : ℓ}
    {s' : σ} (step : next s l s') (hends : (event l).Ends token) :
    Held view event taken (view s).now token := by
  rw [held_iff hkeeps run h0 (Nat.le_refl _)]
  exact (hkeeps s l s' step).of_ends hends

omit hkeeps in
/-- A slot that is done stays done until its time is over. -/
theorem done_kept {happened : LeaseEvent τ} {expiresAt : ℕ} (h : Next slot happened slot')
    (hdone : slot.entry = some ⟨none, expiresAt⟩) (hlive : slot'.now < expiresAt) :
    slot'.entry = some ⟨none, expiresAt⟩ := by
  have hread : slot.readAt slot.now = some none := by
    have hle := h.now_le
    unfold readAt
    rw [hdone]
    exact if_pos (Nat.lt_of_le_of_lt hle hlive)
  cases h with
  | acquired token duration hfree =>
    rw [hread] at hfree
    contradiction
  | completed token retention hheld =>
    rw [hread] at hheld
    simp at hheld
  | released token hheld =>
    rw [hread] at hheld
    simp at hheld
  | passed now hnow => exact hdone

/-- Between a completion and a later acquisition lies the whole retention. -/
theorem acquired_after_completed (run : Run next start taken s) :
    taken.Pairwise fun t t' => ∀ token retention token' duration,
      event t.label = .completed token retention → event t'.label = .acquired token' duration →
      (view t.before).now + retention ≤ (view t'.before).now := by
  have hpairs := run.pairwise
    (R := fun s s' => (view s).now ≤ (view s').now ∧ ∀ expiresAt,
      (view s).entry = some ⟨none, expiresAt⟩ → (view s').now < expiresAt →
      (view s').entry = some ⟨none, expiresAt⟩)
    (fun s => ⟨Nat.le_refl _, fun _ h _ => h⟩)
    (fun a b c hab hbc => ⟨Nat.le_trans hab.1 hbc.1, fun expiresAt h hlive =>
      hbc.2 expiresAt (hab.2 expiresAt h (Nat.lt_of_le_of_lt hbc.1 hlive)) hlive⟩)
    (fun s l s' _ step => ⟨(hkeeps s l s' step).now_le, fun expiresAt h hlive =>
      done_kept (hkeeps s l s' step) h hlive⟩)
  refine (List.pairwise_iff_forall_sublist.mpr ?_)
  intro t t' hsub token retention token' duration hcompleted hacquired
  have hkept := List.pairwise_iff_forall_sublist.mp hpairs hsub
  have hmem : t ∈ taken ∧ t' ∈ taken := ⟨hsub.subset (by simp), hsub.subset (by simp)⟩
  have hfirst := hkeeps _ _ _ (run.taken_next hmem.1).2
  have hsecond := hkeeps _ _ _ (run.taken_next hmem.2).2
  rw [hcompleted] at hfirst
  rw [hacquired] at hsecond
  by_contra hearly
  have hdone := hkept.2 _ hfirst.completed_entry (by omega)
  have hfree := hsecond.acquired_free
  unfold readAt at hfree
  rw [hdone] at hfree
  dsimp only at hfree
  rw [if_pos (by omega)] at hfree
  contradiction

end System

end LeaseSlot

end PepeAudio
