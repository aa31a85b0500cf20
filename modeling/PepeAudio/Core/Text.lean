import Mathlib.Data.List.DropRight
import Mathlib.Tactic.Common

/-!
# Text checks shared by the public data types

Rust trims Unicode white space and counts UTF-8 bytes, while Lean's own trimming
is ASCII only; the two character classes are therefore spelled out here.
-/
namespace PepeAudio

/-- `char::is_whitespace`, the Unicode property `White_Space`. -/
def isWhitespace (c : Char) : Bool :=
  let n := c.toNat
  (9 ≤ n && n ≤ 13) || n == 0x20 || n == 0x85 || n == 0xA0 || n == 0x1680 ||
    (0x2000 ≤ n && n ≤ 0x200A) || n == 0x2028 || n == 0x2029 || n == 0x202F || n == 0x205F ||
    n == 0x3000

/-- `char::is_control`, the general category `Cc`. -/
def isControl (c : Char) : Bool :=
  let n := c.toNat
  n ≤ 0x1F || (0x7F ≤ n && n ≤ 0x9F)

/-- The characters `str::trim` keeps. -/
def trimChars (cs : List Char) : List Char :=
  (cs.dropWhile isWhitespace).rdropWhile isWhitespace

/-- `str::trim`. -/
def trim (value : String) : String := String.ofList (trimChars value.toList)

lemma dropWhile_rdropWhile_dropWhile {α : Type*} (p : α → Bool) (l : List α) :
    ((l.dropWhile p).rdropWhile p).dropWhile p = (l.dropWhile p).rdropWhile p := by
  rw [List.dropWhile_eq_self_iff]
  intro hpos
  have hkept : (l.dropWhile p).rdropWhile p <+: l.dropWhile p := List.rdropWhile_prefix p _
  have hlen : 0 < (l.dropWhile p).length := lt_of_lt_of_le hpos hkept.length_le
  rw [hkept.getElem hpos]
  simpa using List.dropWhile_get_zero_not p l hlen

theorem trimChars_trimChars (cs : List Char) : trimChars (trimChars cs) = trimChars cs := by
  unfold trimChars
  rw [dropWhile_rdropWhile_dropWhile, List.rdropWhile_idempotent]

@[simp] theorem trim_trim (value : String) : trim (trim value) = trim value := by
  simp [trim, trimChars_trimChars]

/-- Public display text: not blank, bounded in UTF-8 bytes and free of control characters. -/
def validateText (value : String) (maximumBytes : ℕ) : Bool :=
  !(trim value).isEmpty && value.utf8ByteSize ≤ maximumBytes && !value.toList.any isControl

end PepeAudio
