import PepeAudio.Core.WireFormat
import Mathlib.Algebra.Order.BigOperators.Group.List
import Mathlib.Algebra.Order.Ring.Nat

/-!
# How long a text gets as JSON

An encoder of strings writes a character as it is, or escapes it. What is no control
character is at most doubled, which bounds a text by its bytes.
-/
namespace PepeAudio

/-- An encoder of strings that at most doubles what is no control character. -/
def AtMostDoubles (escaped : Char → ℕ) : Prop :=
  ∀ c, isControl c = false → escaped c ≤ 2 * c.utf8Size

theorem atMostDoubles_serde : AtMostDoubles serdeEscaped := by
  intro c hc
  refine serdeEscaped_le ?_
  simp only [isControl, Bool.or_eq_false_iff, decide_eq_false_iff_not] at hc
  omega

/-- A string without control characters. -/
def isPlainText (value : String) : Bool := !value.toList.any isControl

theorem isControl_eq_false {c : Char} (h : c.isAlphanum = true ∨ c = '-' ∨ c = '_') :
    isControl c = false := by
  rcases h with h | rfl | rfl
  · rw [isAlphanum_iff] at h
    simp only [isControl, Bool.or_eq_false_iff, Bool.and_eq_false_iff, decide_eq_false_iff_not]
    omega
  · decide
  · decide

variable {escaped : Char → ℕ}

theorem AtMostDoubles.quotedSize (h : AtMostDoubles escaped) {value : String} {bytes : ℕ}
    (hplain : isPlainText value = true) (hbytes : value.utf8ByteSize ≤ bytes) :
    quotedSize escaped value ≤ 2 + 2 * bytes := by
  have hle : PepeAudio.quotedSize escaped value ≤ 2 + 2 * value.utf8ByteSize := by
    refine quotedSize_le fun c hc => h c ?_
    simp only [isPlainText, Bool.not_eq_true', List.any_eq_false, Bool.not_eq_true] at hplain
    exact hplain c hc
  omega

theorem isPlainText_of_all {value : String} {p : Char → Bool}
    (h : value.toList.all p = true) (hp : ∀ c, p c = true → isControl c = false) :
    isPlainText value = true := by
  simp only [isPlainText, Bool.not_eq_true', List.any_eq_false, Bool.not_eq_true]
  intro c hc
  exact hp c (List.all_eq_true.mp h c hc)

theorem digits_toNat_le (n : UInt64) : (Nat.toDigits 10 n.toNat).length ≤ 20 :=
  digits_le (by decide) (n.toNat_lt.trans (by decide))

theorem AtMostDoubles.decimal_le (h : AtMostDoubles escaped) (n : UInt64) :
    PepeAudio.quotedSize escaped (decimal n) ≤ 42 := by
  have hlength := digits_toNat_le n
  have hdigit : ∀ size ∈ (Nat.toDigits 10 n.toNat).map escaped, size ≤ 2 := by
    intro size hsize
    obtain ⟨c, hc, rfl⟩ := List.mem_map.mp hsize
    have hisDigit : c.isDigit = true := Nat.isDigit_of_mem_toDigits (by decide) (by decide) hc
    have hone : c.utf8Size = 1 := by
      simp only [Char.isDigit, Bool.and_eq_true, decide_eq_true_eq] at hisDigit
      have hnine : '9'.val ≤ 0x7F := by decide
      have hle : c.val ≤ 0x7F := UInt32.le_trans hisDigit.2 hnine
      exact if_pos hle
    have hdouble := h c (isControl_eq_false (.inl (by simp [Char.isAlphanum, hisDigit])))
    omega
  have hsum := List.sum_le_card_nsmul _ 2 hdigit
  rw [List.length_map, nsmul_eq_mul, Nat.cast_id] at hsum
  unfold PepeAudio.quotedSize decimal
  rw [String.toList_ofList]
  omega

end PepeAudio
