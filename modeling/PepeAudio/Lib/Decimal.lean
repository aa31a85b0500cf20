import Mathlib.Algebra.GroupWithZero.Nat
import Mathlib.Data.String.Basic
import Mathlib.Order.Lattice.Nat
import Mathlib.Tactic.Common

/-!
# Decimal keys of fixed width

A number written with leading zeros to a fixed width. As long as it fits, the
text has that width, reads back as the number, and two such texts compare as
strings the way the numbers compare.
-/
namespace PepeAudio

/-- The decimal digits of a number, with zeros in front up to a width. -/
def zeroPadded (width n : ℕ) : String := String.ofList ((Nat.toDigits 10 n).leftpad width '0')

theorem ofDigitChars_cons_zero (c : Char) (cs : List Char) :
    Nat.ofDigitChars 10 (c :: cs) 0 =
      10 ^ cs.length * (c.toNat - '0'.toNat) + Nat.ofDigitChars 10 cs 0 := by
  rw [Nat.ofDigitChars_cons, Nat.ofDigitChars_eq_ofDigitChars_zero]
  simp

theorem isDigit_toNat {c : Char} (h : c.isDigit = true) : 48 ≤ c.toNat ∧ c.toNat ≤ 57 :=
  Char.isDigit_iff_toNat.mp h

theorem ofDigitChars_lt {cs : List Char} (h : ∀ c ∈ cs, c.isDigit = true) :
    Nat.ofDigitChars 10 cs 0 < 10 ^ cs.length := by
  induction cs with
  | nil => simp
  | cons c cs ih =>
    have hhead := isDigit_toNat (h c (by simp))
    have htail := ih fun c' hc' => h c' (by simp [hc'])
    have hdigit : c.toNat - '0'.toNat ≤ 9 := by
      show c.toNat - 48 ≤ 9
      omega
    have hmul := Nat.mul_le_mul_left (10 ^ cs.length) hdigit
    rw [ofDigitChars_cons_zero, List.length_cons, Nat.pow_succ]
    omega

/-- Digit lists of one length are ordered as the numbers they denote. -/
theorem lt_iff_ofDigitChars_lt {cs cs' : List Char} (hlength : cs.length = cs'.length)
    (h : ∀ c ∈ cs, c.isDigit = true) (h' : ∀ c ∈ cs', c.isDigit = true) :
    cs < cs' ↔ Nat.ofDigitChars 10 cs 0 < Nat.ofDigitChars 10 cs' 0 := by
  induction cs generalizing cs' with
  | nil =>
    have hnil : cs' = [] := List.eq_nil_of_length_eq_zero hlength.symm
    subst hnil
    simp
  | cons c cs ih =>
    cases cs' with
    | nil => contradiction
    | cons c' cs' =>
      have hlength' : cs.length = cs'.length := by simpa using hlength
      have htails := ih hlength' (fun d hd => h d (by simp [hd])) fun d hd => h' d (by simp [hd])
      have hdigit := isDigit_toNat (h c (by simp))
      have hdigit' := isDigit_toNat (h' c' (by simp))
      have hlow := ofDigitChars_lt fun d hd => h d (List.mem_cons_of_mem c hd)
      have hlow' := ofDigitChars_lt fun d hd => h' d (List.mem_cons_of_mem c' hd)
      have hzero : '0'.toNat = 48 := rfl
      rw [List.cons_lt_cons_iff, htails, ofDigitChars_cons_zero, ofDigitChars_cons_zero, hlength',
        hzero]
      rw [hlength'] at hlow
      rcases Nat.lt_trichotomy c.toNat c'.toNat with hlt | heq | hgt
      · have hchar : c < c' := Char.lt_def.mpr (UInt32.lt_iff_toNat_lt.mpr hlt)
        have hstep : c.toNat - 48 + 1 ≤ c'.toNat - 48 := by omega
        have hmul := Nat.mul_le_mul_left (10 ^ cs'.length) hstep
        rw [Nat.mul_add, Nat.mul_one] at hmul
        exact iff_of_true (.inl hchar) (by omega)
      · have hchar : c = c' := Char.toNat_inj.mp heq
        subst hchar
        simp
      · have hchar : ¬ c < c' := by
          intro hlt
          have := UInt32.lt_iff_toNat_lt.mp (Char.lt_def.mp hlt)
          have hval : c.val.toNat < c'.val.toNat := this
          have hgt' : c'.val.toNat < c.val.toNat := hgt
          omega
        have hne : c ≠ c' := by
          intro heq
          subst heq
          omega
        have hstep : c'.toNat - 48 + 1 ≤ c.toNat - 48 := by omega
        have hmul := Nat.mul_le_mul_left (10 ^ cs'.length) hstep
        rw [Nat.mul_add, Nat.mul_one] at hmul
        refine iff_of_false ?_ (by omega)
        rintro (hlt | ⟨heq, -⟩)
        · exact hchar hlt
        · exact hne heq

theorem utf8ByteSize_ofList {cs : List Char} (h : ∀ c ∈ cs, c.isDigit = true) :
    (String.ofList cs).utf8ByteSize = cs.length := by
  induction cs with
  | nil => rfl
  | cons c cs ih =>
    have hdigit := isDigit_toNat (h c (by simp))
    have hsize : c.utf8Size = 1 := by
      refine Char.utf8Size_eq_one_iff.mpr ?_
      exact UInt32.le_iff_toNat_le.mpr (show c.toNat ≤ 127 by omega)
    have htail := ih fun d hd => h d (List.mem_cons_of_mem c hd)
    rw [String.ofList_cons, String.utf8ByteSize_append, String.utf8ByteSize_singleton, htail, hsize,
      List.length_cons]
    omega

variable {width m n : ℕ}

theorem zeroPadded_digits {c : Char} (h : c ∈ (zeroPadded width n).toList) : c.isDigit = true := by
  simp only [zeroPadded, List.leftpad, String.toList_ofList, List.mem_append,
    List.mem_replicate] at h
  rcases h with ⟨-, rfl⟩ | h
  · rfl
  · exact Nat.isDigit_of_mem_toDigits (by decide) (by decide) h

theorem ofDigitChars_zeroPadded : Nat.ofDigitChars 10 (zeroPadded width n).toList 0 = n := by
  simp [zeroPadded, List.leftpad, Nat.ofDigitChars_append]

theorem length_zeroPadded (hwidth : 0 < width) (hfits : n < 10 ^ width) :
    (zeroPadded width n).toList.length = width := by
  have hlength := (Nat.length_toDigits_le_iff (b := 10) (by decide) hwidth).mpr hfits
  simp only [zeroPadded, List.leftpad, String.toList_ofList, List.length_append,
    List.length_replicate]
  omega

theorem utf8ByteSize_zeroPadded (hwidth : 0 < width) (hfits : n < 10 ^ width) :
    (zeroPadded width n).utf8ByteSize = width := by
  have hsize := utf8ByteSize_ofList fun c (hc : c ∈ (zeroPadded width n).toList) =>
    zeroPadded_digits hc
  rw [String.ofList_toList, length_zeroPadded hwidth hfits] at hsize
  exact hsize

/-- Texts of one width are ordered as their numbers. -/
theorem zeroPadded_lt_iff (hwidth : 0 < width) (hm : m < 10 ^ width) (hn : n < 10 ^ width) :
    zeroPadded width m < zeroPadded width n ↔ m < n := by
  have hlength : (zeroPadded width m).toList.length = (zeroPadded width n).toList.length := by
    rw [length_zeroPadded hwidth hm, length_zeroPadded hwidth hn]
  have horder := lt_iff_ofDigitChars_lt hlength (fun _ h => zeroPadded_digits h)
    fun _ h => zeroPadded_digits h
  rw [ofDigitChars_zeroPadded, ofDigitChars_zeroPadded] at horder
  exact String.lt_iff_toList_lt.trans horder

end PepeAudio
