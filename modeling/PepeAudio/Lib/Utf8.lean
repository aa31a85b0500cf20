import Mathlib.Data.List.Basic
import Mathlib.Order.Basic

/-!
# Text and its bytes

A text is a list of characters; offsets into it count the bytes of its UTF-8 encoding. A slice
exists only between two offsets where characters begin or end, and an ASCII byte always lies
between two such offsets.
-/
namespace PepeAudio

def utf8 (cs : List Char) : List UInt8 := cs.flatMap String.utf8EncodeChar

/-- The text before and behind an offset, if a character begins or ends there. -/
def splitAtByte : List Char → ℕ → Option (List Char × List Char)
  | cs, 0 => some ([], cs)
  | [], _ + 1 => none
  | c :: cs, offset =>
    if c.utf8Size ≤ offset then
      (splitAtByte cs (offset - c.utf8Size)).map fun (front, behind) => (c :: front, behind)
    else none

/-- `str::get` on a range of offsets. -/
def slice (cs : List Char) (start stop : ℕ) : Option (List Char) := do
  let (front, _) ← splitAtByte cs stop
  let (_, between) ← splitAtByte front start
  some between

/-- The offset from which on a byte does not satisfy `p`. -/
def skipWhile (bytes : List UInt8) (p : UInt8 → Bool) (cursor : ℕ) : ℕ :=
  cursor + ((bytes.drop cursor).takeWhile p).length

/-- A character begins or ends at the offset. -/
def Boundary (cs : List Char) (offset : ℕ) : Prop :=
  ∃ front behind, cs = front ++ behind ∧ (utf8 front).length = offset

@[simp] theorem utf8_nil : utf8 [] = [] := rfl

theorem utf8_cons (c : Char) (cs : List Char) :
    utf8 (c :: cs) = String.utf8EncodeChar c ++ utf8 cs := by
  simp [utf8]

@[simp] theorem utf8_append (cs ds : List Char) : utf8 (cs ++ ds) = utf8 cs ++ utf8 ds := by
  simp [utf8]

theorem utf8EncodeChar_of_ascii {c : Char} (h : c.toNat < 0x80) :
    String.utf8EncodeChar c = [UInt8.ofNat c.toNat] := by
  have hsize : c.utf8Size = 1 :=
    Char.utf8Size_eq_one_iff.mpr (UInt32.le_iff_toNat_le.mpr (Nat.le_of_lt_succ h))
  rw [String.utf8EncodeChar_eq_singleton hsize]
  rfl

theorem toNat_or_le (x k : UInt8) : k.toNat ≤ (x ||| k).toNat := by
  rw [UInt8.toNat_or]
  exact Nat.right_le_or

/-- The bytes of other characters are not ASCII. -/
theorem not_ascii_of_mem {c : Char} (h : ¬ c.toNat < 0x80) :
    ∀ b ∈ String.utf8EncodeChar c, 0x80 ≤ b.toNat := by
  have hone : c.utf8Size ≠ 1 := by
    intro hsize
    have hle := UInt32.le_iff_toNat_le.mp (Char.utf8Size_eq_one_iff.mp hsize)
    exact h (Nat.lt_succ_of_le hle)
  have hpos := c.utf8Size_pos
  have hfour := c.utf8Size_le_four
  have hsizes : c.utf8Size = 2 ∨ c.utf8Size = 3 ∨ c.utf8Size = 4 := by omega
  intro b hb
  rcases hsizes with hsize | hsize | hsize
  · rw [String.utf8EncodeChar_eq_cons_cons hsize] at hb
    simp only [List.mem_cons, List.not_mem_nil, or_false] at hb
    rcases hb with rfl | rfl
    · exact Nat.le_trans (by decide) (toNat_or_le _ 0xc0)
    · exact toNat_or_le _ 0x80
  · rw [String.utf8EncodeChar_eq_cons_cons_cons hsize] at hb
    simp only [List.mem_cons, List.not_mem_nil, or_false] at hb
    rcases hb with rfl | rfl | rfl
    · exact Nat.le_trans (by decide) (toNat_or_le _ 0xe0)
    · exact toNat_or_le _ 0x80
    · exact toNat_or_le _ 0x80
  · rw [String.utf8EncodeChar_eq_cons_cons_cons_cons hsize] at hb
    simp only [List.mem_cons, List.not_mem_nil, or_false] at hb
    rcases hb with rfl | rfl | rfl | rfl
    · exact Nat.le_trans (by decide) (toNat_or_le _ 0xf0)
    · exact toNat_or_le _ 0x80
    · exact toNat_or_le _ 0x80
    · exact toNat_or_le _ 0x80

theorem length_utf8_cons (c : Char) (cs : List Char) :
    (utf8 (c :: cs)).length = c.utf8Size + (utf8 cs).length := by
  simp [utf8_cons]

theorem utf8_cons_of_ascii {c : Char} (h : c.toNat < 0x80) (cs : List Char) :
    utf8 (c :: cs) = UInt8.ofNat c.toNat :: utf8 cs := by
  rw [utf8_cons, utf8EncodeChar_of_ascii h]
  rfl

theorem length_utf8_of_ascii {cs : List Char} (h : ∀ c ∈ cs, c.toNat < 0x80) :
    (utf8 cs).length = cs.length := by
  induction cs with
  | nil => rfl
  | cons c cs ih =>
    have hrest := ih fun d hd => h d (List.mem_cons_of_mem _ hd)
    rw [utf8_cons_of_ascii (h c List.mem_cons_self), List.length_cons, hrest, List.length_cons]

theorem splitAtByte_append (front behind : List Char) :
    splitAtByte (front ++ behind) (utf8 front).length = some (front, behind) := by
  induction front with
  | nil => cases behind <;> rfl
  | cons c front ih =>
    have hpos := c.utf8Size_pos
    have hlength := length_utf8_cons c front
    obtain ⟨offset, hoffset⟩ : ∃ offset, (utf8 (c :: front)).length = offset + 1 :=
      ⟨(utf8 (c :: front)).length - 1, by omega⟩
    rw [List.cons_append, hoffset, splitAtByte, if_pos (by omega),
      show offset + 1 - c.utf8Size = (utf8 front).length by omega, ih]
    · rfl
    · omega

/-- Every slice between two boundaries exists. -/
theorem slice_append (front between behind : List Char) :
    slice (front ++ between ++ behind) (utf8 front).length (utf8 (front ++ between)).length
      = some between := by
  have hfront := splitAtByte_append (front ++ between) behind
  have hbetween := splitAtByte_append front between
  simp only [slice, hfront, Option.bind_eq_bind, Option.bind_some, hbetween]

theorem boundary_append (front behind : List Char) :
    Boundary (front ++ behind) (utf8 front).length :=
  ⟨front, behind, rfl, rfl⟩

theorem boundary_length (cs : List Char) : Boundary cs (utf8 cs).length :=
  ⟨cs, [], by simp, rfl⟩

theorem boundary_zero (cs : List Char) : Boundary cs 0 := ⟨[], cs, rfl, rfl⟩

/-- Two texts with a common beginning and end agree where they begin alike. -/
theorem append_split {front behind front' behind' : List Char}
    (h : front ++ behind = front' ++ behind')
    (hle : (utf8 front).length ≤ (utf8 front').length) :
    ∃ between, front' = front ++ between ∧ behind = between ++ behind' := by
  induction front generalizing front' with
  | nil => exact ⟨front', rfl, h⟩
  | cons c front ih =>
    cases front' with
    | nil =>
      have hpos := c.utf8Size_pos
      rw [length_utf8_cons, utf8_nil, List.length_nil] at hle
      omega
    | cons d front' =>
      obtain ⟨rfl, htail⟩ := List.cons.inj h
      rw [length_utf8_cons, length_utf8_cons] at hle
      obtain ⟨between, rfl, rfl⟩ := ih htail (by omega)
      exact ⟨between, rfl, rfl⟩

/-- A slice between two boundaries in order exists and is a part of the text. -/
theorem slice_of_boundary {cs : List Char} {start stop : ℕ} (hstart : Boundary cs start)
    (hstop : Boundary cs stop) (hle : start ≤ stop) :
    ∃ front between behind, cs = front ++ between ++ behind
      ∧ (utf8 front).length = start ∧ (utf8 (front ++ between)).length = stop
      ∧ slice cs start stop = some between := by
  obtain ⟨front, behind, rfl, rfl⟩ := hstart
  obtain ⟨front', behind', hsplit, rfl⟩ := hstop
  obtain ⟨between, rfl, rfl⟩ := append_split hsplit hle
  refine ⟨front, between, behind', by simp, rfl, rfl, ?_⟩
  rw [← List.append_assoc]
  exact slice_append front between behind'

/-- An ASCII byte is a character of its own. -/
theorem ascii_char {cs : List Char} {offset : ℕ} {b : UInt8} (h : (utf8 cs)[offset]? = some b)
    (hb : b.toNat < 0x80) :
    ∃ front c behind, cs = front ++ c :: behind ∧ (utf8 front).length = offset
      ∧ c.toNat = b.toNat := by
  induction cs generalizing offset with
  | nil => simp at h
  | cons d cs ih =>
    rw [utf8_cons, List.getElem?_append] at h
    split at h
    · next hlt =>
      by_cases hd : d.toNat < 0x80
      · rw [utf8EncodeChar_of_ascii hd] at h hlt
        obtain rfl : offset = 0 := by simpa using hlt
        obtain rfl := Option.some.inj h
        refine ⟨[], d, cs, rfl, rfl, ?_⟩
        rw [UInt8.toNat_ofNat', Nat.mod_eq_of_lt (by omega)]
      · have hmem := List.mem_of_getElem? h
        have := not_ascii_of_mem hd b hmem
        omega
    · next hge =>
      obtain ⟨front, c, behind, rfl, hoffset, hc⟩ := ih h
      refine ⟨d :: front, c, behind, rfl, ?_, hc⟩
      rw [utf8_cons, List.length_append]
      omega

/-- Characters begin at an ASCII byte and behind it. -/
theorem boundary_of_ascii {cs : List Char} {offset : ℕ} {b : UInt8}
    (h : (utf8 cs)[offset]? = some b) (hb : b.toNat < 0x80) :
    Boundary cs offset ∧ Boundary cs (offset + 1) := by
  obtain ⟨front, c, behind, rfl, rfl, hc⟩ := ascii_char h hb
  refine ⟨boundary_append front _, ⟨front ++ [c], behind, by simp, ?_⟩⟩
  have hascii : c.toNat < 0x80 := by omega
  simp [utf8_cons_of_ascii hascii]

theorem le_skipWhile (bytes : List UInt8) (p : UInt8 → Bool) (cursor : ℕ) :
    cursor ≤ skipWhile bytes p cursor := by
  simp [skipWhile]

theorem getElem?_takeWhile {p : UInt8 → Bool} {bytes : List UInt8} {i : ℕ}
    (h : i < (bytes.takeWhile p).length) : ∃ b, bytes[i]? = some b ∧ p b = true := by
  induction bytes generalizing i with
  | nil => simp at h
  | cons b bytes ih =>
    cases hb : p b with
    | false => simp [hb] at h
    | true =>
      cases i with
      | zero => exact ⟨b, rfl, hb⟩
      | succ i => exact ih (by simpa [hb] using h)

/-- The bytes that are skipped satisfy the predicate. -/
theorem of_skipWhile {bytes : List UInt8} {p : UInt8 → Bool} {cursor offset : ℕ}
    (hle : cursor ≤ offset) (hlt : offset < skipWhile bytes p cursor) :
    ∃ b, bytes[offset]? = some b ∧ p b = true := by
  have hindex : offset - cursor < ((bytes.drop cursor).takeWhile p).length := by
    unfold skipWhile at hlt
    omega
  have hget := getElem?_takeWhile hindex
  rwa [List.getElem?_drop, Nat.add_sub_cancel' hle] at hget

theorem skipWhile_le (bytes : List UInt8) (p : UInt8 → Bool) {cursor : ℕ}
    (h : cursor ≤ bytes.length) : skipWhile bytes p cursor ≤ bytes.length := by
  have hle := (List.takeWhile_prefix p (l := bytes.drop cursor)).length_le
  rw [List.length_drop] at hle
  unfold skipWhile
  omega

theorem not_takeWhile {p : UInt8 → Bool} {bytes : List UInt8} {b : UInt8}
    (h : bytes[(bytes.takeWhile p).length]? = some b) : p b = false := by
  induction bytes with
  | nil => simp at h
  | cons first bytes ih =>
    cases hfirst : p first with
    | false =>
      obtain rfl : first = b := by simpa [hfirst] using h
      exact hfirst
    | true => exact ih (by simpa [hfirst] using h)

/-- A scan that does not reach the end stops at a byte that does not satisfy the predicate. -/
theorem not_skipWhile {bytes : List UInt8} {p : UInt8 → Bool} {cursor : ℕ} {b : UInt8}
    (h : bytes[skipWhile bytes p cursor]? = some b) : p b = false := by
  rw [skipWhile, ← List.getElem?_drop] at h
  exact not_takeWhile h

/-- A scan for an ASCII byte ends where a character begins, or at the end. -/
theorem boundary_skipWhile {cs : List Char} {b : UInt8} {cursor : ℕ} (hb : b.toNat < 0x80)
    (hcursor : cursor ≤ (utf8 cs).length) :
    Boundary cs (skipWhile (utf8 cs) (· != b) cursor) := by
  have hle := skipWhile_le (utf8 cs) (· != b) hcursor
  by_cases hlt : skipWhile (utf8 cs) (· != b) cursor < (utf8 cs).length
  · have hat := List.getElem?_eq_getElem hlt
    obtain hstop := not_skipWhile hat
    simp only [bne_eq_false_iff_eq] at hstop
    rw [hstop] at hat
    exact (boundary_of_ascii hat hb).1
  · rw [Nat.le_antisymm hle (Nat.le_of_not_lt hlt)]
    exact boundary_length cs

/-- A scan skips the characters all of whose bytes it skips, up to one whose first byte ends
it. -/
theorem skipWhile_append {p : UInt8 → Bool} (front : List Char) {cs behind : List Char}
    (hcs : ∀ b ∈ utf8 cs, p b = true) (hbehind : ∀ b ∈ (utf8 behind).head?, p b = false) :
    skipWhile (utf8 (front ++ (cs ++ behind))) p (utf8 front).length
      = (utf8 (front ++ cs)).length := by
  have hstop : (utf8 behind).takeWhile p = [] := by
    cases hbytes : utf8 behind with
    | nil => rfl
    | cons b bytes =>
      have hb := hbehind b (by simp [hbytes])
      simp [hb]
  simp [skipWhile, List.takeWhile_append_of_pos hcs, hstop]

end PepeAudio
