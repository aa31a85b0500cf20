import PepeAudio.Lib.Json
import Mathlib.Algebra.Order.Ring.Rat
import Mathlib.Data.Nat.Size
import Mathlib.Tactic.NormNum

/-!
# Values that a script reads from JSON

`JSON.parse` turns every number into a double, of which the whole numbers below
2^53 are exact, and leaves everything else as it is written.
-/
namespace PepeAudio

inductive JsNumber where
  | finite (value : ℚ)
  | infinite (negative : Bool)
  deriving DecidableEq, Repr

inductive JsValue where
  | null
  | boolean (value : Bool)
  | number (value : JsNumber)
  | string (value : String)
  | array (items : List JsValue)
  | object (fields : List (String × JsValue))
  deriving Repr

/-- The double nearest to a whole number, and of two such the even one. -/
def roundDouble (n : ℕ) : ℕ :=
  let ulp := 2 ^ (n.size - 53)
  let below := n / ulp
  let rest := n % ulp
  (if ulp < 2 * rest ∨ (2 * rest = ulp ∧ below % 2 = 1) then below + 1 else below) * ulp

theorem roundDouble_eq {n : ℕ} (h : n < 2 ^ 53) : roundDouble n = n := by
  have hsize : n.size ≤ 53 := Nat.size_le.mpr h
  have hulp : n.size - 53 = 0 := by omega
  simp [roundDouble, hulp, Nat.mod_one]

/-- A whole number that does not round to a finite double is infinite. -/
def JsNumber.ofNat (n : ℕ) : JsNumber :=
  if n < 2 ^ 1024 - 2 ^ 970 then .finite (roundDouble n) else .infinite false

def JsonNumber.toJs : JsonNumber → JsNumber
  | .natural n => JsNumber.ofNat n
  | .scientific mantissa exponent => JsNumber.ofNat (mantissa * 10 ^ exponent)

theorem JsNumber.ofNat_eq {n : ℕ} (h : n < 2 ^ 53) : JsNumber.ofNat n = .finite n := by
  have hfinite : n < 2 ^ 1024 - 2 ^ 970 := h.trans (by decide +kernel)
  rw [JsNumber.ofNat, if_pos hfinite, roundDouble_eq h]

/-- `Number.isSafeInteger` of a number that is not negative. -/
def JsNumber.isWhole : JsNumber → Bool
  | .finite value => value.den = 1 && 0 ≤ value.num && value.num < 2 ^ 53
  | .infinite _ => false

theorem JsNumber.isWhole_natCast (n : ℕ) : (JsNumber.finite n).isWhole = true ↔ n < 2 ^ 53 := by
  simp only [isWhole, Rat.den_natCast, Rat.num_natCast, Bool.and_eq_true, decide_eq_true_eq]
  norm_num

mutual

def Json.toJs : Json → JsValue
  | .null => .null
  | .bool value => .boolean value
  | .number value => .number value.toJs
  | .string value => .string value
  | .array items => .array (itemsToJs items)
  | .object fields => .object (fieldsToJs fields)

def itemsToJs : List Json → List JsValue
  | [] => []
  | item :: items => item.toJs :: itemsToJs items

def fieldsToJs : List (String × Json) → List (String × JsValue)
  | [] => []
  | (name, value) :: fields => (name, value.toJs) :: fieldsToJs fields

end

theorem itemsToJs_eq_map (items : List Json) : itemsToJs items = items.map Json.toJs := by
  induction items with
  | nil => rfl
  | cons item items ih => rw [itemsToJs, ih, List.map_cons]

namespace JsValue

/-- A property of an object: the last field of the name, or `undefined`. -/
def property (name : String) : List (String × JsValue) → Option JsValue
  | [] => none
  | (key, value) :: fields =>
    match property name fields with
    | some later => some later
    | none => if key = name then some value else none

/-- A spread object with one property given anew: it keeps its place. -/
def withProperty (name : String) (value : JsValue) :
    List (String × JsValue) → List (String × JsValue)
  | [] => [(name, value)]
  | (key, old) :: fields =>
    if key = name then (name, value) :: fields.filter fun field => field.1 ≠ name
    else (key, old) :: withProperty name value fields

theorem property_eq_none {name : String} {fields : List (String × JsValue)}
    (h : name ∉ fields.map Prod.fst) : property name fields = none := by
  induction fields with
  | nil => rfl
  | cons field fields ih =>
    obtain ⟨key, value⟩ := field
    simp only [List.map_cons, List.mem_cons, not_or] at h
    simp [property, ih h.2, Ne.symm h.1]

/-- Among distinct names, a field is read by its name. -/
theorem property_of_mem {name : String} {value : JsValue} {fields : List (String × JsValue)}
    (hdistinct : (fields.map Prod.fst).Nodup) (h : (name, value) ∈ fields) :
    property name fields = some value := by
  induction fields with
  | nil => simp at h
  | cons field fields ih =>
    obtain ⟨key, old⟩ := field
    rw [List.map_cons, List.nodup_cons] at hdistinct
    rcases List.mem_cons.mp h with heq | hmem
    · cases heq
      simp [property, property_eq_none hdistinct.1]
    · simp [property, ih hdistinct.2 hmem]

theorem property_at {name : String} {value : JsValue} {fields : List (String × JsValue)}
    (hdistinct : (fields.map Prod.fst).Nodup) (position : ℕ)
    (h : fields[position]? = some (name, value)) : property name fields = some value :=
  property_of_mem hdistinct (List.mem_of_getElem? h)

/-- Giving a property the value it has changes nothing. -/
theorem withProperty_eq_self {name : String} {value : JsValue} {fields : List (String × JsValue)}
    (hdistinct : (fields.map Prod.fst).Nodup) (h : property name fields = some value) :
    withProperty name value fields = fields := by
  induction fields with
  | nil => simp [property] at h
  | cons field fields ih =>
    obtain ⟨key, old⟩ := field
    rw [List.map_cons, List.nodup_cons] at hdistinct
    by_cases hkey : key = name
    · subst hkey
      have hold : old = value := by simpa [property, property_eq_none hdistinct.1] using h
      have hfilter : (fields.filter fun field => field.1 ≠ key) = fields := by
        rw [List.filter_eq_self]
        intro field hmem
        have hne : field.1 ≠ key := fun heq =>
          hdistinct.1 (List.mem_map.mpr ⟨field, hmem, heq⟩)
        simpa using hne
      rw [withProperty, if_pos rfl, hold, hfilter]
    · have hlater : property name fields = some value := by
        cases hfound : property name fields with
        | none => simp [property, hfound, hkey] at h
        | some later => simpa [property, hfound] using h
      rw [withProperty, if_neg hkey, ih hdistinct.2 hlater]

/-- `String.prototype.length`, in UTF-16 code units. -/
def utf16Length (value : String) : ℕ :=
  (value.toList.map fun c => if c.toNat < 0x10000 then 1 else 2).sum

theorem utf16Length_le (value : String) : utf16Length value ≤ value.utf8ByteSize := by
  have hchar : ∀ c : Char, (if c.toNat < 0x10000 then 1 else 2) ≤ c.utf8Size := by
    intro c
    have hpos := c.utf8Size_pos
    split
    · omega
    · rename_i hlarge
      have hval : ∀ bound : UInt32, bound.toNat < 0x10000 → ¬c.val ≤ bound := by
        intro bound hbound hle
        have hle' := UInt32.le_iff_toNat_le.mp hle
        have heq : c.val.toNat = c.toNat := rfl
        omega
      rw [Char.utf8Size, if_neg (hval _ (by decide)), if_neg (hval _ (by decide)),
        if_neg (hval _ (by decide))]
      omega
  have hsum : ∀ cs : List Char, (cs.map fun c => if c.toNat < 0x10000 then 1 else 2).sum ≤
      (String.ofList cs).utf8ByteSize := by
    intro cs
    induction cs with
    | nil => simp
    | cons c cs ih =>
      have hhead := hchar c
      rw [List.map_cons, List.sum_cons, String.ofList_cons, String.utf8ByteSize_append,
        String.utf8ByteSize_singleton]
      omega
  have hvalue := hsum value.toList
  rw [String.ofList_toList] at hvalue
  exact hvalue

theorem utf16Length_pos {value : String} (h : value ≠ "") : 0 < utf16Length value := by
  obtain ⟨c, cs, hcs⟩ := List.exists_cons_of_ne_nil (mt String.toList_eq_nil_iff.mp h)
  rw [utf16Length, hcs, List.map_cons, List.sum_cons]
  split <;> omega

/-- A string of ASCII characters has as many code units as characters. -/
theorem utf16Length_eq_length {value : String} (h : ∀ c ∈ value.toList, c.toNat < 0x80) :
    utf16Length value = value.toList.length := by
  have hone : ∀ c ∈ value.toList, (if c.toNat < 0x10000 then 1 else 2) = 1 := by
    intro c hc
    rw [if_pos ((h c hc).trans (by decide))]
  unfold utf16Length
  rw [List.map_congr_left hone, List.map_const', List.sum_replicate_nat, Nat.mul_one]

end JsValue

end PepeAudio
