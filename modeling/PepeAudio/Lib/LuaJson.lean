import PepeAudio.Lib.Json

/-!
# JSON in a server script

Lua has one kind of table. The JSON library of the server turns arrays and
objects into tables and back: a table with the keys from one on becomes an
array, any other one an object, and so does the empty table. Numbers are doubles
and are written with fourteen significant digits.
-/
namespace PepeAudio

/-- The quotient nearest to `n / d`, an even one if two are equally near. -/
def roundHalfEven (n d : ℕ) : ℕ :=
  if 2 * (n % d) < d || (2 * (n % d) = d && n / d % 2 = 0) then n / d else n / d + 1

/-- The double nearest to a natural number. -/
def toDouble (n : ℕ) : ℕ :=
  if n < 2 ^ 53 then n else roundHalfEven n (2 ^ (n.log2 - 52)) * 2 ^ (n.log2 - 52)

/-- The number as it is written with fourteen significant digits. -/
def toFourteenDigits (n : ℕ) : JsonNumber :=
  if n < 10 ^ 14 then .natural n
  else .scientific (roundHalfEven n (10 ^ (digits n - 14))) (digits n - 14)

theorem toDouble_of_lt {n : ℕ} (h : n < 2 ^ 53) : toDouble n = n := if_pos h

theorem le_toDouble {n : ℕ} (h : 2 ^ 53 ≤ n) : 2 ^ 53 ≤ toDouble n := by
  have hn : n ≠ 0 := by omega
  have hlog : 53 ≤ n.log2 := (Nat.le_log2 hn).mpr h
  have hpow : 2 ^ n.log2 ≤ n := Nat.log2_self_le hn
  have hsplit : 2 ^ n.log2 = 2 ^ 52 * 2 ^ (n.log2 - 52) := by
    rw [← Nat.pow_add]
    congr 1
    omega
  have hquotient : 2 ^ 52 ≤ n / 2 ^ (n.log2 - 52) := by
    rw [Nat.le_div_iff_mul_le (Nat.two_pow_pos _)]
    omega
  have hround : 2 ^ 52 ≤ roundHalfEven n (2 ^ (n.log2 - 52)) := by
    unfold roundHalfEven
    split_ifs <;> omega
  have htwo : 2 ≤ 2 ^ (n.log2 - 52) := by
    calc 2 = 2 ^ 1 := rfl
      _ ≤ 2 ^ (n.log2 - 52) := Nat.pow_le_pow_right (by decide) (by omega)
  unfold toDouble
  rw [if_neg (by omega)]
  calc 2 ^ 53 = 2 ^ 52 * 2 := rfl
    _ ≤ roundHalfEven n (2 ^ (n.log2 - 52)) * 2 ^ (n.log2 - 52) := Nat.mul_le_mul hround htwo

/-- Rounding to a double does not cross fourteen digits. -/
theorem toDouble_lt_iff {n : ℕ} : toDouble n < 10 ^ 14 ↔ n < 10 ^ 14 := by
  by_cases h : n < 2 ^ 53
  · rw [toDouble_of_lt h]
  · have hle := le_toDouble (Nat.le_of_not_lt h)
    constructor <;> intro hlt <;> omega

theorem toFourteenDigits_of_lt {n : ℕ} (h : n < 10 ^ 14) : toFourteenDigits n = .natural n :=
  if_pos h

/-- A larger number is no integer to its reader. -/
theorem natural_of_toFourteenDigits {n m : ℕ} (h : toFourteenDigits n = .natural m) :
    m = n ∧ n < 10 ^ 14 := by
  unfold toFourteenDigits at h
  split_ifs at h with hlt
  exact ⟨(JsonNumber.natural.inj h).symm, hlt⟩

inductive LuaValue where
  | null
  | bool (value : Bool)
  | number (value : ℕ)
  | string (value : String)
  /-- A table with the keys from one on; the empty table is one. -/
  | sequence (items : List LuaValue)
  /-- A table with text keys. -/
  | record (fields : List (String × LuaValue))

def JsonNumber.toLua : JsonNumber → ℕ
  | .natural n => toDouble n
  | .scientific mantissa exponent => toDouble (mantissa * 10 ^ exponent)

mutual

def Json.toLua : Json → LuaValue
  | .null => .null
  | .bool value => .bool value
  | .number value => .number value.toLua
  | .string value => .string value
  | .array items => .sequence (itemsToLua items)
  | .object [] => .sequence []
  | .object (entry :: fields) => .record (fieldsToLua (entry :: fields))

def itemsToLua : List Json → List LuaValue
  | [] => []
  | item :: items => item.toLua :: itemsToLua items

def fieldsToLua : List (String × Json) → List (String × LuaValue)
  | [] => []
  | (name, value) :: fields => (name, value.toLua) :: fieldsToLua fields

end

mutual

def LuaValue.toJson : LuaValue → Json
  | .null => .null
  | .bool value => .bool value
  | .number value => .number (toFourteenDigits value)
  | .string value => .string value
  | .sequence [] => .object []
  | .sequence (item :: items) => .array (itemsToJson (item :: items))
  | .record fields => .object (fieldsToJson fields)

def itemsToJson : List LuaValue → List Json
  | [] => []
  | item :: items => item.toJson :: itemsToJson items

def fieldsToJson : List (String × LuaValue) → List (String × Json)
  | [] => []
  | (name, value) :: fields => (name, value.toJson) :: fieldsToJson fields

end

/-- The length of a character as the library writes it in a string. -/
def cjsonEscaped (c : Char) : ℕ :=
  if c = '"' || c = '\\' || c = '/' || c.toNat = 8 || c.toNat = 9 || c.toNat = 10 ||
      c.toNat = 12 || c.toNat = 13 then 2
  else if c.toNat < 0x20 || c.toNat = 0x7F then 6
  else c.utf8Size

/-- The text `cjson.encode` writes. -/
def LuaValue.cjson (value : LuaValue) : JsonText :=
  ⟨value.toJson, value.toJson.size cjsonEscaped⟩

theorem cjsonEscaped_le {c : Char} (h : 0x20 ≤ c.toNat) (hdelete : c.toNat ≠ 0x7F) :
    cjsonEscaped c ≤ 2 * c.utf8Size := by
  have hpos := c.utf8Size_pos
  unfold cjsonEscaped
  split_ifs <;> simp_all <;> omega

/-- The field of a table; `none` stands for `nil`. -/
def luaField (name : String) (fields : List (String × LuaValue)) : Option LuaValue :=
  (fields.find? fun entry => entry.1 = name).map Prod.snd

/-- `tonumber`: a text of digits is a number too. -/
def LuaValue.tonumber : LuaValue → Option ℕ
  | .number value => some value
  | .string value => value.toNat?.map toDouble
  | _ => none

/-- Assign a field of a table. -/
def setLuaField (name : String) (value : LuaValue) :
    List (String × LuaValue) → List (String × LuaValue)
  | [] => [(name, value)]
  | entry :: fields =>
    if entry.1 = name then (name, value) :: fields else entry :: setLuaField name value fields

mutual

/-- No array is empty, no object is, and every number has at most fourteen digits. -/
def Json.Plain : Json → Prop
  | .null | .bool _ | .string _ => True
  | .number (.natural n) => n < 10 ^ 14
  | .number (.scientific _ _) => False
  | .array items => items ≠ [] ∧ PlainItems items
  | .object fields => PlainFields fields

def PlainItems : List Json → Prop
  | [] => True
  | item :: items => item.Plain ∧ PlainItems items

def PlainFields : List (String × Json) → Prop
  | [] => True
  | (_, value) :: fields => value.Plain ∧ PlainFields fields

end

mutual

theorem Json.toJson_toLua : ∀ json : Json, json.Plain → json.toLua.toJson = json
  | .null, _ => rfl
  | .bool _, _ => rfl
  | .string _, _ => rfl
  | .number (.natural n), h => by
    have hn : n < 10 ^ 14 := h
    show Json.number (toFourteenDigits (toDouble n)) = _
    rw [toDouble_of_lt (by omega), toFourteenDigits_of_lt hn]
  | .array [], h => absurd rfl h.1
  | .array (item :: items), h => by
    have hitems := itemsToJson_itemsToLua (item :: items) h.2
    exact congrArg Json.array hitems
  | .object [], _ => rfl
  | .object (entry :: fields), h => by
    have hfields := fieldsToJson_fieldsToLua (entry :: fields) h
    exact congrArg Json.object hfields

theorem itemsToJson_itemsToLua : ∀ items : List Json, PlainItems items →
    itemsToJson (itemsToLua items) = items
  | [], _ => rfl
  | item :: items, h => by
    show item.toLua.toJson :: itemsToJson (itemsToLua items) = _
    rw [Json.toJson_toLua item h.1, itemsToJson_itemsToLua items h.2]

theorem fieldsToJson_fieldsToLua : ∀ fields : List (String × Json), PlainFields fields →
    fieldsToJson (fieldsToLua fields) = fields
  | [], _ => rfl
  | (name, value) :: fields, h => by
    show (name, value.toLua.toJson) :: fieldsToJson (fieldsToLua fields) = _
    rw [Json.toJson_toLua value h.1, fieldsToJson_fieldsToLua fields h.2]

end

/-- An empty array comes back as an empty object. -/
theorem toJson_toLua_empty : (Json.array []).toLua.toJson = .object [] := rfl

theorem filter_setLuaField {name other : String} (hne : other ≠ name) (value : LuaValue)
    (fields : List (String × LuaValue)) :
    (fieldsToJson (setLuaField other value fields)).filter (fun entry => entry.1 = name) =
      (fieldsToJson fields).filter (fun entry => entry.1 = name) := by
  induction fields with
  | nil => simp [setLuaField, fieldsToJson, hne]
  | cons entry fields ih =>
    obtain ⟨first, held⟩ := entry
    by_cases hfirst : first = other
    · subst hfirst
      simp [setLuaField, fieldsToJson, hne]
    · simp only [setLuaField, hfirst, if_false, fieldsToJson, List.filter_cons, ih]

/-- A field keeps its value when another one is assigned. -/
theorem requiredField_setLuaField {name other : String} (hne : other ≠ name) (value : LuaValue)
    (fields : List (String × LuaValue)) :
    requiredField name (fieldsToJson (setLuaField other value fields)) =
      requiredField name (fieldsToJson fields) := by
  unfold requiredField field
  rw [filter_setLuaField hne]

/-- An assigned field has the value it was assigned. -/
theorem requiredField_setLuaField_self {name : String} {value : LuaValue}
    {fields : List (String × LuaValue)} {found : Json}
    (h : requiredField name (fieldsToJson (setLuaField name value fields)) = .ok found) :
    found = value.toJson := by
  have hfirst : ∃ rest, (fieldsToJson (setLuaField name value fields)).filter
      (fun entry => entry.1 = name) = (name, value.toJson) :: rest := by
    clear h
    induction fields with
    | nil => exact ⟨[], by simp [setLuaField, fieldsToJson]⟩
    | cons entry fields ih =>
      obtain ⟨rest, hrest⟩ := ih
      obtain ⟨first, held⟩ := entry
      by_cases hname : first = name
      · subst hname
        exact ⟨_, by simp [setLuaField, fieldsToJson]; rfl⟩
      · refine ⟨rest, ?_⟩
        simp only [setLuaField, hname, if_false, fieldsToJson, List.filter_cons]
        simpa [hname] using hrest
  obtain ⟨rest, hrest⟩ := hfirst
  unfold requiredField field at h
  rw [hrest] at h
  cases rest with
  | nil => exact (Except.ok.inj h).symm
  | cons => contradiction

theorem filter_fieldsToLua (name : String) (fields : List (String × Json)) :
    (fieldsToJson (fieldsToLua fields)).filter (fun entry => entry.1 = name) =
      (fields.filter fun entry => entry.1 = name).map fun entry =>
        (entry.1, entry.2.toLua.toJson) := by
  induction fields with
  | nil => rfl
  | cons entry fields ih =>
    obtain ⟨first, value⟩ := entry
    by_cases hfirst : first = name
    · simp [fieldsToLua, fieldsToJson, hfirst, ih]
    · simp [fieldsToLua, fieldsToJson, hfirst, ih]

/-- A field of a text that is decoded and encoded again. -/
theorem requiredField_fieldsToLua {name : String} {fields : List (String × Json)} {value : Json}
    (h : requiredField name fields = .ok value) :
    requiredField name (fieldsToJson (fieldsToLua fields)) = .ok value.toLua.toJson := by
  unfold requiredField field at h ⊢
  rw [filter_fieldsToLua]
  cases hfound : fields.filter fun entry => entry.1 = name with
  | nil => simp [hfound] at h
  | cons entry rest =>
    cases rest with
    | nil =>
      rw [hfound] at h
      obtain rfl := Except.ok.inj h
      rfl
    | cons other rest => simp [hfound] at h

end PepeAudio
