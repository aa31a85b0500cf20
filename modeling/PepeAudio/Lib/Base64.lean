import Mathlib.Data.Nat.Notation
import Mathlib.Tactic.Common

/-!
# Base64 without padding

The URL-safe alphabet. A final group of one or two bytes is written with two or three
characters whose unused bits are zero; the decoder rejects any other bits there, so that
every text it accepts is the one the encoder writes.
-/
namespace PepeAudio

/-- An exact codec of bytes as ASCII characters of known number, none of them a dot. -/
structure Base64Codec where
  encode : List UInt8 → List Char
  decode : List Char → Option (List UInt8)
  decode_encode : ∀ bytes, decode (encode bytes) = some bytes
  encode_of_decode : ∀ text bytes, decode text = some bytes → encode bytes = text
  length_encode : ∀ bytes, (encode bytes).length = (4 * bytes.length + 2) / 3
  ascii_encode : ∀ bytes, ∀ c ∈ encode bytes, c.toNat < 0x80 ∧ c ≠ '.'

namespace Base64

def sextetChar (n : ℕ) : Char :=
  if n < 26 then Char.ofNat ('A'.toNat + n)
  else if n < 52 then Char.ofNat ('a'.toNat + (n - 26))
  else if n < 62 then Char.ofNat ('0'.toNat + (n - 52))
  else if n = 62 then '-'
  else '_'

def sextet (c : Char) : Option ℕ :=
  if 'A' ≤ c ∧ c ≤ 'Z' then some (c.toNat - 'A'.toNat)
  else if 'a' ≤ c ∧ c ≤ 'z' then some (c.toNat - 'a'.toNat + 26)
  else if '0' ≤ c ∧ c ≤ '9' then some (c.toNat - '0'.toNat + 52)
  else if c = '-' then some 62
  else if c = '_' then some 63
  else none

/-- The three bytes of four sextets. -/
def firstByte (w x : ℕ) : UInt8 := UInt8.ofNat (w * 4 + x / 16)
def secondByte (x y : ℕ) : UInt8 := UInt8.ofNat (x % 16 * 16 + y / 4)
def thirdByte (y z : ℕ) : UInt8 := UInt8.ofNat (y % 4 * 64 + z)

def encode : List UInt8 → List Char
  | [] => []
  | [a] => [sextetChar (a.toNat / 4), sextetChar (a.toNat % 4 * 16)]
  | [a, b] =>
    [sextetChar (a.toNat / 4), sextetChar (a.toNat % 4 * 16 + b.toNat / 16),
      sextetChar (b.toNat % 16 * 4)]
  | a :: b :: c :: bytes =>
    sextetChar (a.toNat / 4) :: sextetChar (a.toNat % 4 * 16 + b.toNat / 16) ::
      sextetChar (b.toNat % 16 * 4 + c.toNat / 64) :: sextetChar (c.toNat % 64) :: encode bytes

def decode : List Char → Option (List UInt8)
  | [] => some []
  | [_] => none
  | [w, x] => do
    let w ← sextet w
    let x ← sextet x
    if x % 16 = 0 then some [firstByte w x] else none
  | [w, x, y] => do
    let w ← sextet w
    let x ← sextet x
    let y ← sextet y
    if y % 4 = 0 then some [firstByte w x, secondByte x y] else none
  | w :: x :: y :: z :: text => do
    let w ← sextet w
    let x ← sextet x
    let y ← sextet y
    let z ← sextet z
    let bytes ← decode text
    some (firstByte w x :: secondByte x y :: thirdByte y z :: bytes)

theorem sextet_sextetChar {n : ℕ} (h : n < 64) : sextet (sextetChar n) = some n := by
  have hall : ∀ n < 64, sextet (sextetChar n) = some n := by decide
  exact hall n h

theorem sextetChar_ascii (n : ℕ) : (sextetChar n).toNat < 0x80 ∧ sextetChar n ≠ '.' := by
  have hall : ∀ n < 64, (sextetChar n).toNat < 0x80 ∧ sextetChar n ≠ '.' := by decide
  by_cases h : n < 64
  · exact hall n h
  · have hlast : sextetChar n = '_' := by
      unfold sextetChar
      rw [if_neg (by omega), if_neg (by omega), if_neg (by omega), if_neg (by omega)]
    rw [hlast]
    decide

theorem char_le_iff (a b : Char) : a ≤ b ↔ a.toNat ≤ b.toNat := by
  rw [Char.le_def, UInt32.le_iff_toNat_le]
  rfl

/-- The character of a sextet is the one it was read from. -/
theorem sextet_some {c : Char} {n : ℕ} (h : sextet c = some n) : sextetChar n = c ∧ n < 64 := by
  have hA : 'A'.toNat = 65 := rfl
  have hZ : 'Z'.toNat = 90 := rfl
  have ha : 'a'.toNat = 97 := rfl
  have hz : 'z'.toNat = 122 := rfl
  have h0 : '0'.toNat = 48 := rfl
  have h9 : '9'.toNat = 57 := rfl
  simp only [sextet, char_le_iff, hA, hZ, ha, hz, h0, h9] at h
  split at h
  · next hupper =>
    obtain rfl := Option.some.inj h
    refine ⟨?_, by omega⟩
    rw [sextetChar, if_pos (by omega), hA, Nat.add_sub_cancel' hupper.1, Char.ofNat_toNat]
  · split at h
    · next hlower =>
      obtain rfl := Option.some.inj h
      refine ⟨?_, by omega⟩
      rw [sextetChar, if_neg (by omega), if_pos (by omega), ha, Nat.add_sub_cancel,
        Nat.add_sub_cancel' hlower.1, Char.ofNat_toNat]
    · split at h
      · next hdigit =>
        obtain rfl := Option.some.inj h
        refine ⟨?_, by omega⟩
        rw [sextetChar, if_neg (by omega), if_neg (by omega), if_pos (by omega), h0,
          Nat.add_sub_cancel, Nat.add_sub_cancel' hdigit.1, Char.ofNat_toNat]
      · split at h
        · next hdash =>
          obtain rfl := Option.some.inj h
          exact ⟨hdash.symm, by omega⟩
        · split at h
          · next hline =>
            obtain rfl := Option.some.inj h
            exact ⟨hline.symm, by omega⟩
          · contradiction

theorem toNat_firstByte {w x : ℕ} (hw : w < 64) (hx : x < 64) :
    (firstByte w x).toNat = w * 4 + x / 16 := by
  rw [firstByte, UInt8.toNat_ofNat']
  omega

theorem toNat_secondByte {x y : ℕ} (hy : y < 64) :
    (secondByte x y).toNat = x % 16 * 16 + y / 4 := by
  rw [secondByte, UInt8.toNat_ofNat']
  omega

theorem toNat_thirdByte {y z : ℕ} (hz : z < 64) : (thirdByte y z).toNat = y % 4 * 64 + z := by
  rw [thirdByte, UInt8.toNat_ofNat']
  omega

theorem firstByte_eq {a : UInt8} {x : ℕ} (hx : x / 16 = a.toNat % 4) :
    firstByte (a.toNat / 4) x = a := by
  have ha := a.toNat_lt
  rw [firstByte, hx, show a.toNat / 4 * 4 + a.toNat % 4 = a.toNat by omega, UInt8.ofNat_toNat]

theorem secondByte_eq {b : UInt8} {x y : ℕ} (hx : x % 16 = b.toNat / 16)
    (hy : y / 4 = b.toNat % 16) : secondByte x y = b := by
  rw [secondByte, hx, hy, show b.toNat / 16 * 16 + b.toNat % 16 = b.toNat by omega,
    UInt8.ofNat_toNat]

theorem thirdByte_eq {c : UInt8} {y : ℕ} (hy : y % 4 = c.toNat / 64) :
    thirdByte y (c.toNat % 64) = c := by
  rw [thirdByte, hy, show c.toNat / 64 * 64 + c.toNat % 64 = c.toNat by omega,
    UInt8.ofNat_toNat]

theorem decode_encode (bytes : List UInt8) : decode (encode bytes) = some bytes := by
  induction bytes using encode.induct with
  | case1 => rfl
  | case2 a =>
    have ha := a.toNat_lt
    have hw := sextet_sextetChar (n := a.toNat / 4) (by omega)
    have hx := sextet_sextetChar (n := a.toNat % 4 * 16) (by omega)
    simp [encode, decode, hw, hx, firstByte_eq (a := a) (x := a.toNat % 4 * 16) (by omega)]
  | case3 a b =>
    have ha := a.toNat_lt
    have hb := b.toNat_lt
    have hw := sextet_sextetChar (n := a.toNat / 4) (by omega)
    have hx := sextet_sextetChar (n := a.toNat % 4 * 16 + b.toNat / 16) (by omega)
    have hy := sextet_sextetChar (n := b.toNat % 16 * 4) (by omega)
    simp [encode, decode, hw, hx, hy,
      firstByte_eq (a := a) (x := a.toNat % 4 * 16 + b.toNat / 16) (by omega),
      secondByte_eq (b := b) (x := a.toNat % 4 * 16 + b.toNat / 16) (y := b.toNat % 16 * 4)
        (by omega) (by omega)]
  | case4 a b c bytes ih =>
    have ha := a.toNat_lt
    have hb := b.toNat_lt
    have hc := c.toNat_lt
    have hw := sextet_sextetChar (n := a.toNat / 4) (by omega)
    have hx := sextet_sextetChar (n := a.toNat % 4 * 16 + b.toNat / 16) (by omega)
    have hy := sextet_sextetChar (n := b.toNat % 16 * 4 + c.toNat / 64) (by omega)
    have hz := sextet_sextetChar (n := c.toNat % 64) (by omega)
    simp [encode, decode, hw, hx, hy, hz, ih,
      firstByte_eq (a := a) (x := a.toNat % 4 * 16 + b.toNat / 16) (by omega),
      secondByte_eq (b := b) (x := a.toNat % 4 * 16 + b.toNat / 16)
        (y := b.toNat % 16 * 4 + c.toNat / 64) (by omega) (by omega),
      thirdByte_eq (c := c) (y := b.toNat % 16 * 4 + c.toNat / 64) (by omega)]

/-- Every text that is read is the one written for its bytes. -/
theorem encode_of_decode (text : List Char) (bytes : List UInt8) (h : decode text = some bytes) :
    encode bytes = text := by
  induction text using decode.induct generalizing bytes with
  | case1 =>
    obtain rfl : [] = bytes := Option.some.inj h
    rfl
  | case2 c => contradiction
  | case3 w x =>
    simp only [decode, bind, Option.bind_eq_some_iff, Option.ite_none_right_eq_some] at h
    obtain ⟨i, hi, j, hj, hzero, h⟩ := h
    obtain rfl := Option.some.inj h
    obtain ⟨rfl, hi64⟩ := sextet_some hi
    obtain ⟨rfl, hj64⟩ := sextet_some hj
    simp only [encode, toNat_firstByte hi64 hj64]
    rw [show (i * 4 + j / 16) / 4 = i by omega, show (i * 4 + j / 16) % 4 * 16 = j by omega]
  | case4 w x y =>
    simp only [decode, bind, Option.bind_eq_some_iff, Option.ite_none_right_eq_some] at h
    obtain ⟨i, hi, j, hj, k, hk, hzero, h⟩ := h
    obtain rfl := Option.some.inj h
    obtain ⟨rfl, hi64⟩ := sextet_some hi
    obtain ⟨rfl, hj64⟩ := sextet_some hj
    obtain ⟨rfl, hk64⟩ := sextet_some hk
    simp only [encode, toNat_firstByte hi64 hj64, toNat_secondByte hk64]
    rw [show (i * 4 + j / 16) / 4 = i by omega,
      show (i * 4 + j / 16) % 4 * 16 + (j % 16 * 16 + k / 4) / 16 = j by omega,
      show (j % 16 * 16 + k / 4) % 16 * 4 = k by omega]
  | case5 w x y z text ih =>
    simp only [decode, bind, Option.bind_eq_some_iff] at h
    obtain ⟨i, hi, j, hj, k, hk, l, hl, bytes', hbytes, h⟩ := h
    obtain rfl := Option.some.inj h
    obtain ⟨rfl, hi64⟩ := sextet_some hi
    obtain ⟨rfl, hj64⟩ := sextet_some hj
    obtain ⟨rfl, hk64⟩ := sextet_some hk
    obtain ⟨rfl, hl64⟩ := sextet_some hl
    simp only [encode, toNat_firstByte hi64 hj64, toNat_secondByte hk64, toNat_thirdByte hl64,
      ih _ hbytes]
    rw [show (i * 4 + j / 16) / 4 = i by omega,
      show (i * 4 + j / 16) % 4 * 16 + (j % 16 * 16 + k / 4) / 16 = j by omega,
      show (j % 16 * 16 + k / 4) % 16 * 4 + (k % 4 * 64 + l) / 64 = k by omega,
      show (k % 4 * 64 + l) % 64 = l by omega]

theorem length_encode (bytes : List UInt8) :
    (encode bytes).length = (4 * bytes.length + 2) / 3 := by
  induction bytes using encode.induct with
  | case1 => rfl
  | case2 a => simp [encode]
  | case3 a b => simp [encode]
  | case4 a b c bytes ih =>
    simp only [encode, List.length_cons, ih]
    omega

theorem ascii_encode (bytes : List UInt8) : ∀ c ∈ encode bytes, c.toNat < 0x80 ∧ c ≠ '.' := by
  induction bytes using encode.induct with
  | case1 => simp [encode]
  | case2 a => simp [encode, sextetChar_ascii]
  | case3 a b => simp [encode, sextetChar_ascii]
  | case4 a b c bytes ih => simpa [encode, sextetChar_ascii] using ih

/-- The URL-safe codec without padding. -/
def urlSafeNoPad : Base64Codec where
  encode := encode
  decode := decode
  decode_encode := decode_encode
  encode_of_decode := encode_of_decode
  length_encode := length_encode
  ascii_encode := ascii_encode

end Base64

end PepeAudio
