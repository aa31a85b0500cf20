import Mathlib.Algebra.GroupWithZero.Nat
import Mathlib.Data.Nat.Notation
import Mathlib.Order.Lattice.Nat
import Mathlib.Tactic.Common

/-!
# Numbers in a radix up to sixteen

Reading a number digit by digit below a bound, as the parsers of machine integers do, and
that it reads what `Nat.toDigits` writes.
-/
namespace PepeAudio

def digitValue (c : Char) : Option ℕ :=
  if '0' ≤ c ∧ c ≤ '9' then some (c.toNat - '0'.toNat)
  else if 'a' ≤ c ∧ c ≤ 'z' then some (c.toNat - 'a'.toNat + 10)
  else if 'A' ≤ c ∧ c ≤ 'Z' then some (c.toNat - 'A'.toNat + 10)
  else none

/-- `char::to_digit`. -/
def toDigit (radix : ℕ) (c : Char) : Option ℕ := (digitValue c).filter (· < radix)

/-- The number `value` continued by the digits, as long as it stays below `bound`. -/
def accumulateDigits (radix bound : ℕ) : List Char → ℕ → Option ℕ
  | [], value => some value
  | c :: cs, value => do
    let digit ← toDigit radix c
    if value * radix + digit < bound then
      accumulateDigits radix bound cs (value * radix + digit)
    else none

/-- `from_str_radix` of an unsigned integer below `bound`. -/
def fromStrRadix (radix bound : ℕ) : List Char → Option ℕ
  | [] => none
  | ['+'] => none
  | '+' :: digits => accumulateDigits radix bound digits 0
  | digits => accumulateDigits radix bound digits 0

variable {radix bound n : ℕ}

theorem digitValue_digitChar {digit : ℕ} (h : digit < 16) :
    digitValue digit.digitChar = some digit := by
  have hall : ∀ digit < 16, digitValue digit.digitChar = some digit := by decide
  exact hall digit h

theorem toDigit_digitChar {digit : ℕ} (hradix : radix ≤ 16) (h : digit < radix) :
    toDigit radix digit.digitChar = some digit := by
  simp [toDigit, digitValue_digitChar (Nat.lt_of_lt_of_le h hradix), h]

theorem isAlphanum_digitChar {digit : ℕ} (h : digit < 16) :
    digit.digitChar.isAlphanum = true := by
  have hall : ∀ digit < 16, digit.digitChar.isAlphanum = true := by decide
  exact hall digit h

/-- The digits a number is written with. -/
theorem mem_toDigits (hlow : 1 < radix) (n : ℕ) :
    ∀ c ∈ Nat.toDigits radix n, ∃ digit < radix, c = digit.digitChar := by
  induction n using Nat.strongRecOn with
  | _ n ih =>
    rw [Nat.toDigits_eq_if hlow]
    split
    · next hlt =>
      intro c hc
      exact ⟨n, hlt, List.mem_singleton.mp hc⟩
    · next hge =>
      intro c hc
      rcases List.mem_append.mp hc with hc | hc
      · exact ih (n / radix) (Nat.div_lt_self (by omega) hlow) c hc
      · exact ⟨n % radix, Nat.mod_lt _ (by omega), List.mem_singleton.mp hc⟩

theorem isAlphanum_of_mem_toDigits (hlow : 1 < radix) (hradix : radix ≤ 16) {c : Char}
    (h : c ∈ Nat.toDigits radix n) : c.isAlphanum = true := by
  obtain ⟨digit, hdigit, rfl⟩ := mem_toDigits hlow n c h
  exact isAlphanum_digitChar (Nat.lt_of_lt_of_le hdigit hradix)

theorem accumulateDigits_append (cs ds : List Char) (value : ℕ) :
    accumulateDigits radix bound (cs ++ ds) value
      = (accumulateDigits radix bound cs value).bind (accumulateDigits radix bound ds) := by
  induction cs generalizing value with
  | nil => rfl
  | cons c cs ih =>
    cases hdigit : toDigit radix c with
    | none => simp [accumulateDigits, hdigit]
    | some digit =>
      by_cases hbound : value * radix + digit < bound
      · simp [accumulateDigits, hdigit, hbound, ih]
      · simp [accumulateDigits, hdigit, hbound]

/-- A number below the bound is read from its digits. -/
theorem accumulateDigits_toDigits (hlow : 1 < radix) (hradix : radix ≤ 16) (hn : n < bound) :
    accumulateDigits radix bound (Nat.toDigits radix n) 0 = some n := by
  induction n using Nat.strongRecOn with
  | _ n ih =>
    rw [Nat.toDigits_eq_if hlow]
    split
    · next hlt =>
      simp [accumulateDigits, toDigit_digitChar hradix hlt, hn]
    · next hge =>
      have hsmaller : n / radix < n := Nat.div_lt_self (by omega) hlow
      have hlast : n % radix < radix := Nat.mod_lt _ (by omega)
      have hsplit : n / radix * radix + n % radix = n := by
        rw [Nat.mul_comm]
        exact Nat.div_add_mod _ _
      rw [accumulateDigits_append, ih _ hsmaller (by omega)]
      simp [accumulateDigits, toDigit_digitChar hradix hlast, hsplit, hn]

/-- What `Nat.toDigits` writes is read back. -/
theorem fromStrRadix_toDigits (hlow : 1 < radix) (hradix : radix ≤ 16) (hn : n < bound) :
    fromStrRadix radix bound (Nat.toDigits radix n) = some n := by
  have hread := accumulateDigits_toDigits hlow hradix hn
  have hplus : '+' ∉ Nat.toDigits radix n := by
    intro hmem
    have := isAlphanum_of_mem_toDigits hlow hradix hmem
    contradiction
  have hne : Nat.toDigits radix n ≠ [] := Nat.toDigits_ne_nil
  generalize Nat.toDigits radix n = digits at hread hplus hne ⊢
  unfold fromStrRadix
  split
  · contradiction
  · simp at hplus
  · simp at hplus
  · exact hread

end PepeAudio
