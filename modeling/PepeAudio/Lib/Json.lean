import Mathlib.Algebra.GroupWithZero.Nat
import Mathlib.Order.Lattice.Nat
import Mathlib.Tactic.Common

/-!
# JSON values

A text is represented by the value it denotes and by its length, which depends
on how its encoder escapes strings. Numbers keep the way they are written,
because decoders of integers tell digits from an exponent.
-/
namespace PepeAudio

/-- A number that is written with digits alone, or as a mantissa and a power of ten. -/
inductive JsonNumber where
  | natural (n : ℕ)
  | scientific (mantissa exponent : ℕ)
  deriving DecidableEq, Repr

inductive Json where
  | null
  | bool (value : Bool)
  | number (value : JsonNumber)
  | string (value : String)
  | array (items : List Json)
  | object (fields : List (String × Json))
  deriving Repr

/-- A text: the value it denotes and its length in bytes. -/
structure JsonText where
  value : Json
  bytes : ℕ

def digits (n : ℕ) : ℕ := (Nat.toDigits 10 n).length

def JsonNumber.size : JsonNumber → ℕ
  | .natural n => digits n
  | .scientific mantissa exponent => digits mantissa + 4 + digits exponent

/-- The length of a quoted string, from the lengths of its escaped characters. -/
def quotedSize (escaped : Char → ℕ) (value : String) : ℕ :=
  2 + (value.toList.map escaped).sum

mutual

def Json.size (escaped : Char → ℕ) : Json → ℕ
  | .null => 4
  | .bool value => if value then 4 else 5
  | .number value => value.size
  | .string value => quotedSize escaped value
  | .array items => 2 + itemsSize escaped items + (items.length - 1)
  | .object fields => 2 + fieldsSize escaped fields + (fields.length - 1)

def itemsSize (escaped : Char → ℕ) : List Json → ℕ
  | [] => 0
  | item :: items => item.size escaped + itemsSize escaped items

def fieldsSize (escaped : Char → ℕ) : List (String × Json) → ℕ
  | [] => 0
  | (name, value) :: fields =>
    quotedSize escaped name + 1 + value.size escaped + fieldsSize escaped fields

end

/-- The length of a character as `serde_json` writes it in a string. -/
def serdeEscaped (c : Char) : ℕ :=
  if c = '"' || c = '\\' || c.toNat = 8 || c.toNat = 9 || c.toNat = 10 || c.toNat = 12 ||
      c.toNat = 13 then 2
  else if c.toNat < 0x20 then 6
  else c.utf8Size

/-- The text `serde_json::to_string` writes. -/
def Json.serde (json : Json) : JsonText := ⟨json, json.size serdeEscaped⟩

theorem serdeEscaped_le {c : Char} (h : 0x20 ≤ c.toNat) : serdeEscaped c ≤ 2 * c.utf8Size := by
  have hpos := c.utf8Size_pos
  unfold serdeEscaped
  split_ifs <;> omega

/-- A bound on the escapes of single characters bounds the string. -/
theorem quotedSize_le {escaped : Char → ℕ} {value : String}
    (h : ∀ c ∈ value.toList, escaped c ≤ 2 * c.utf8Size) :
    quotedSize escaped value ≤ 2 + 2 * value.utf8ByteSize := by
  have hsum : ∀ cs : List Char, (∀ c ∈ cs, escaped c ≤ 2 * c.utf8Size) →
      (cs.map escaped).sum ≤ 2 * (String.ofList cs).utf8ByteSize := by
    intro cs hcs
    induction cs with
    | nil => simp
    | cons c cs ih =>
      have hhead := hcs c List.mem_cons_self
      have htail := ih fun d hd => hcs d (List.mem_cons_of_mem c hd)
      rw [List.map_cons, List.sum_cons, String.ofList_cons, String.utf8ByteSize_append,
        String.utf8ByteSize_singleton]
      omega
  have hvalue := hsum value.toList h
  rw [String.ofList_toList] at hvalue
  unfold quotedSize
  omega

/-- Items of bounded size make a bounded array. -/
theorem itemsSize_le {escaped : Char → ℕ} {items : List Json} {bound : ℕ}
    (h : ∀ item ∈ items, item.size escaped ≤ bound) :
    itemsSize escaped items ≤ items.length * bound := by
  induction items with
  | nil => simp [itemsSize]
  | cons item items ih =>
    have hhead := h item List.mem_cons_self
    have htail := ih fun other hother => h other (List.mem_cons_of_mem item hother)
    rw [itemsSize, List.length_cons, Nat.succ_mul]
    omega

theorem digits_le {n width : ℕ} (hwidth : 0 < width) (h : n < 10 ^ width) : digits n ≤ width :=
  (Nat.length_toDigits_le_iff (by decide) hwidth).mpr h

/-- The value of a field, if there is one. A repeated field is refused. -/
def field (name : String) (fields : List (String × Json)) : Except Unit (Option Json) :=
  match fields.filter fun entry => entry.1 = name with
  | [] => .ok none
  | [(_, value)] => .ok (some value)
  | _ => .error ()

def requiredField (name : String) (fields : List (String × Json)) : Except Unit Json :=
  match field name fields with
  | .ok (some value) => .ok value
  | _ => .error ()

def Json.asString : Json → Except Unit String
  | .string value => .ok value
  | _ => .error ()

def Json.asBool : Json → Except Unit Bool
  | .bool value => .ok value
  | _ => .error ()

/-- An integer is written with digits alone. -/
def Json.asNatBelow (bound : ℕ) : Json → Except Unit ℕ
  | .number (.natural n) => if n < bound then .ok n else .error ()
  | _ => .error ()

def Json.asArray : Json → Except Unit (List Json)
  | .array items => .ok items
  | _ => .error ()

def Json.asObject : Json → Except Unit (List (String × Json))
  | .object fields => .ok fields
  | _ => .error ()

/-- A missing or null field is an absent value. -/
def optional {α : Type} (read : Json → Except Unit α) : Option Json → Except Unit (Option α)
  | none => .ok none
  | some .null => .ok none
  | some json => (read json).map some

/-- `str::parse::<u64>`. -/
def parseU64 (text : String) : Except Unit UInt64 :=
  let cs := match text.toList with
    | '+' :: cs => cs
    | cs => cs
  if cs.isEmpty || !cs.all Char.isDigit then .error ()
  else if Nat.ofDigitChars 10 cs 0 < UInt64.size then
    .ok (UInt64.ofNat (Nat.ofDigitChars 10 cs 0))
  else .error ()

/-- The digits a number is displayed with. -/
def decimal (n : UInt64) : String := String.ofList (Nat.toDigits 10 n.toNat)

theorem parseU64_decimal (n : UInt64) : parseU64 (decimal n) = .ok n := by
  have hdigits : ∀ c ∈ Nat.toDigits 10 n.toNat, c.isDigit = true :=
    fun c hc => Nat.isDigit_of_mem_toDigits (by decide) (by decide) hc
  have hne : Nat.toDigits 10 n.toNat ≠ [] := Nat.toDigits_ne_nil
  have hplus : ∀ cs, Nat.toDigits 10 n.toNat ≠ '+' :: cs := by
    intro cs hcs
    have hplus := hdigits '+' (by rw [hcs]; exact List.mem_cons_self)
    revert hplus
    decide
  unfold parseU64 decimal
  rw [String.toList_ofList]
  split
  · rename_i cs hcs
    exact absurd hcs (hplus cs)
  · rw [if_neg (by simpa [hne] using hdigits), Nat.ofDigitChars_ten_toDigits,
      if_pos n.toNat_lt, UInt64.ofNat_toNat]

end PepeAudio
