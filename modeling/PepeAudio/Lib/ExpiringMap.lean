import Mathlib.Logic.Function.Basic
import Mathlib.Tactic.Common

/-!
# Maps whose entries expire

A key-value store with a time to live on every entry. An entry whose time has
come reads as absent. `Retains` relates an earlier and a later state of one
store: entries of a kept sort that have not expired are still there.
-/
namespace PepeAudio

/-- A value that is readable before `expiresAt`. -/
structure Expiring (α : Type*) where
  value : α
  expiresAt : ℕ

abbrev ExpiringMap (κ α : Type*) := κ → Option (Expiring α)

namespace ExpiringMap

variable {κ α : Type*} {m m' m'' : ExpiringMap κ α} {now now' expiresAt : ℕ} {k : κ} {value : α}

/-- The value under a key at a time. -/
def get (m : ExpiringMap κ α) (now : ℕ) (k : κ) : Option α :=
  match m k with
  | some entry => if now < entry.expiresAt then some entry.value else none
  | none => none

theorem get_eq_some : m.get now k = some value ↔
    ∃ expiresAt, m k = some ⟨value, expiresAt⟩ ∧ now < expiresAt := by
  unfold get
  constructor
  · intro h
    split at h
    · rename_i entry hentry
      split at h
      · rename_i hlive
        obtain rfl := Option.some.inj h
        exact ⟨entry.expiresAt, hentry, hlive⟩
      · contradiction
    · contradiction
  · rintro ⟨expiresAt, hentry, hlive⟩
    simp [hentry, hlive]

variable [DecidableEq κ]

def set (m : ExpiringMap κ α) (k : κ) (value : α) (expiresAt : ℕ) : ExpiringMap κ α :=
  Function.update m k (some ⟨value, expiresAt⟩)

def erase (m : ExpiringMap κ α) (k : κ) : ExpiringMap κ α := Function.update m k none

/-- Give the entry under a key, if there is one, a new time to expire. -/
def expire (m : ExpiringMap κ α) (now : ℕ) (k : κ) (expiresAt : ℕ) : ExpiringMap κ α :=
  match m.get now k with
  | some value => m.set k value expiresAt
  | none => m

@[simp] theorem set_self : m.set k value expiresAt k = some ⟨value, expiresAt⟩ := by
  simp [set]

theorem set_of_ne {k' : κ} (h : k' ≠ k) : m.set k value expiresAt k' = m k' := by
  simp [set, h]

theorem set_eq_some {k' : κ} {entry : Expiring α} :
    m.set k value expiresAt k' = some entry ↔
      k' = k ∧ entry = ⟨value, expiresAt⟩ ∨ k' ≠ k ∧ m k' = some entry := by
  by_cases hkey : k' = k
  · subst hkey
    simp [eq_comm]
  · simp [set_of_ne hkey, hkey]

theorem erase_eq_some {k' : κ} {entry : Expiring α} :
    m.erase k k' = some entry ↔ k' ≠ k ∧ m k' = some entry := by
  by_cases hkey : k' = k
  · subst hkey
    simp [erase]
  · simp [erase, hkey]

theorem erase_of_ne {k' : κ} (h : k' ≠ k) : m.erase k k' = m k' := by
  simp [erase, h]

omit [DecidableEq κ] in
theorem get_congr {k' : κ} (h : m k = m' k') : m.get now k = m'.get now k' := by
  unfold get
  rw [h]

theorem get_set_self (h : now < expiresAt) : (m.set k value expiresAt).get now k = some value :=
  get_eq_some.mpr ⟨expiresAt, set_self, h⟩

theorem get_set_of_ne {k' : κ} (h : k' ≠ k) : (m.set k value expiresAt).get now k' = m.get now k' :=
  get_congr (set_of_ne h)

theorem get_erase_self : (m.erase k).get now k = none := by
  simp [get, erase]

theorem get_erase_of_ne {k' : κ} (h : k' ≠ k) : (m.erase k).get now k' = m.get now k' :=
  get_congr (by simp [erase, h])

omit [DecidableEq κ] in
/-- With time an entry stays readable or expires. -/
theorem get_later (h : now ≤ now') (k : κ) : m.get now' k = m.get now k ∨ m.get now' k = none := by
  unfold get
  cases m k with
  | none => exact .inl rfl
  | some entry =>
    dsimp only
    by_cases hlive : now' < entry.expiresAt
    · rw [if_pos hlive, if_pos (by omega)]
      exact .inl rfl
    · rw [if_neg hlive]
      exact .inr rfl

theorem expire_eq (h : m.get now k = some value) :
    m.expire now k expiresAt = m.set k value expiresAt := by
  unfold expire
  rw [h]

omit [DecidableEq κ]

/-- The entries of the kept sort that have not expired at `now` are in `m'` as they were in
`m`, and expire no earlier. -/
def Retains (keep : α → Prop) (m : ExpiringMap κ α) (now : ℕ) (m' : ExpiringMap κ α) : Prop :=
  ∀ k value expiresAt, m k = some ⟨value, expiresAt⟩ → keep value → now < expiresAt →
    ∃ expiresAt', expiresAt ≤ expiresAt' ∧ m' k = some ⟨value, expiresAt'⟩

theorem Retains.refl (keep : α → Prop) (m : ExpiringMap κ α) (now : ℕ) : Retains keep m now m :=
  fun _ _ expiresAt hentry _ _ => ⟨expiresAt, Nat.le_refl _, hentry⟩

theorem Retains.trans {keep : α → Prop} (h : Retains keep m now m')
    (h' : Retains keep m' now' m'') (hle : now ≤ now') : Retains keep m now' m'' := by
  intro k value expiresAt hentry hkeep hlive
  obtain ⟨later, hlater, hentry'⟩ := h k value expiresAt hentry hkeep (by omega)
  obtain ⟨latest, hlatest, hentry''⟩ := h' k value later hentry' hkeep (by omega)
  exact ⟨latest, Nat.le_trans hlater hlatest, hentry''⟩

variable [DecidableEq κ]

/-- A key under which nothing of the kept sort is readable may be overwritten. -/
theorem retains_set {keep : α → Prop} (h : ∀ old, m.get now k = some old → ¬ keep old)
    (value : α) (expiresAt : ℕ) : Retains keep m now (m.set k value expiresAt) := by
  intro k' old oldExpiry hentry hkeep hlive
  by_cases hkey : k' = k
  · subst hkey
    exact absurd hkeep (h old (get_eq_some.mpr ⟨oldExpiry, hentry, hlive⟩))
  · exact ⟨oldExpiry, Nat.le_refl _, by rw [set_of_ne hkey, hentry]⟩

/-- A value may be written again, to expire no earlier than before. -/
theorem retains_renew {keep : α → Prop} (h : m.get now k = some value)
    (hexpiry : keep value → ∀ old, m k = some ⟨value, old⟩ → old ≤ expiresAt) :
    Retains keep m now (m.set k value expiresAt) := by
  intro k' old oldExpiry hentry hkeep hlive
  by_cases hkey : k' = k
  · subst hkey
    obtain ⟨_, hsame, -⟩ := get_eq_some.mp h
    have hvalue : value = old :=
      congrArg Expiring.value (Option.some.inj (hsame.symm.trans hentry))
    subst hvalue
    exact ⟨expiresAt, hexpiry hkeep _ hentry, set_self⟩
  · exact ⟨oldExpiry, Nat.le_refl _, by rw [set_of_ne hkey, hentry]⟩

end ExpiringMap

end PepeAudio
