import PepeAudio.Catalog.ClientTracks
import PepeAudio.Lib.Radix
import PepeAudio.Lib.Utf8

/-!
# Scanning public pages

The scanners of the public Spotify pages. A cursor counts bytes; a slice outside of the
text or through a character is a panic, and a loop that outlives its fuel has diverged.
-/
namespace PepeAudio.Catalog.PublicScan

inductive Fault where
  | panic
  | diverged
  deriving DecidableEq, Repr

abbrev Scanned (α : Type) : Type := Except Fault α

def MAX_META_TAG_BYTES : ℕ := 4096

/-- The byte of an ASCII character. -/
def byte (c : Char) : UInt8 := UInt8.ofNat c.toNat

/-- `u8::to_ascii_lowercase`. -/
def lowerByte (b : UInt8) : UInt8 := if 65 ≤ b.toNat ∧ b.toNat ≤ 90 then b + 32 else b

/-- `eq_ignore_ascii_case`. -/
def equalsIgnoreCase (a b : List UInt8) : Bool := a.map lowerByte == b.map lowerByte

/-- `u8::is_ascii_whitespace`. -/
def isAsciiWhitespace (b : UInt8) : Bool :=
  b == 9 || b == 10 || b == 12 || b == 13 || b == 32

def isNameByte (b : UInt8) : Bool :=
  (48 ≤ b.toNat && b.toNat ≤ 57) || (65 ≤ b.toNat && b.toNat ≤ 90) ||
    (97 ≤ b.toNat && b.toNat ≤ 122) || b == byte '-' || b == byte '_' || b == byte ':'

/-- `windows(needle.len()).position(..)`. -/
def position (needle : List UInt8) : List UInt8 → Option ℕ
  | [] => none
  | b :: bytes =>
    if equalsIgnoreCase ((b :: bytes).take needle.length) needle then some 0
    else (position needle bytes).map (· + 1)

def findAsciiCaseInsensitive (haystack needle : List UInt8) (start : ℕ) : Option ℕ :=
  if start ≤ haystack.length then (position needle (haystack.drop start)).map (start + ·)
  else none

/-- The loop of `find_tag_end`, with the quote that is open. -/
def tagEnd : Option UInt8 → List UInt8 → Option ℕ
  | _, [] => none
  | none, b :: bytes =>
    if b = byte '\'' ∨ b = byte '"' then (tagEnd (some b) bytes).map (· + 1)
    else if b = byte '>' then some 0
    else (tagEnd none bytes).map (· + 1)
  | some quote, b :: bytes =>
    if quote = b then (tagEnd none bytes).map (· + 1)
    else (tagEnd (some quote) bytes).map (· + 1)

def findTagEnd (bytes : List UInt8) (start : ℕ) : Option ℕ :=
  let boundary := min bytes.length (start + MAX_META_TAG_BYTES)
  if start ≤ boundary then (tagEnd none ((bytes.take boundary).drop start)).map (start + ·)
  else none

/-- The loop of `attribute`. -/
def attributeFrom (tag wanted : List Char) : ℕ → ℕ → Scanned (Option (List Char))
  | 0, _ => .error .diverged
  | fuel + 1, cursor =>
    let bytes := utf8 tag
    if cursor < bytes.length then
      let cursor := skipWhile bytes (fun b => isAsciiWhitespace b || b == byte '/') cursor
      match bytes[cursor]? with
      | none => .ok none
      | some b =>
        if b = byte '>' then .ok none
        else
          let nameStart := cursor
          let cursor := skipWhile bytes isNameByte cursor
          if cursor = nameStart then attributeFrom tag wanted fuel (cursor + 1)
          else match slice tag nameStart cursor with
            | none => .error .panic
            | some name =>
              let cursor := skipWhile bytes isAsciiWhitespace cursor
              if bytes[cursor]? ≠ some (byte '=') then attributeFrom tag wanted fuel cursor
              else
                let cursor := skipWhile bytes isAsciiWhitespace (cursor + 1)
                match bytes[cursor]? with
                | none => .ok none
                | some quote =>
                  if quote ≠ byte '\'' ∧ quote ≠ byte '"' then .ok none
                  else
                    let valueStart := cursor + 1
                    let cursor := skipWhile bytes (· != quote) valueStart
                    match slice tag valueStart cursor with
                    | none => .ok none
                    | some value =>
                      if equalsIgnoreCase (utf8 name) (utf8 wanted) then .ok (some value)
                      else attributeFrom tag wanted fuel (cursor + 1)
    else .ok none

/-- The scan starts behind `<meta`, whatever the tag. -/
def attributeValue (tag wanted : List Char) : Scanned (Option (List Char)) :=
  attributeFrom tag wanted ((utf8 tag).length + 1) 5

/-- `char::from_u32`. -/
def charFromU32 (n : ℕ) : Option Char := if n.isValidChar then some (Char.ofNat n) else none

/-- The text of an entity behind its first bytes, as a number. -/
def numericEntity (entity : List Char) (start radix : ℕ) : Scanned (Option Char) :=
  match slice entity start (utf8 entity).length with
  | none => .error .panic
  | some digits => .ok ((fromStrRadix radix (2 ^ 32) digits).bind charFromU32)

def htmlEntity (entity : List Char) : Scanned (Option Char) :=
  match entity with
  | ['a', 'm', 'p'] => .ok (some '&')
  | ['a', 'p', 'o', 's'] => .ok (some '\'')
  | ['#', '3', '9'] => .ok (some '\'')
  | ['q', 'u', 'o', 't'] => .ok (some '"')
  | ['l', 't'] => .ok (some '<')
  | ['g', 't'] => .ok (some '>')
  | ['n', 'b', 's', 'p'] => .ok (some ' ')
  | '#' :: 'x' :: _ => numericEntity entity 2 16
  | '#' :: 'X' :: _ => numericEntity entity 2 16
  | '#' :: _ => numericEntity entity 1 10
  | _ => .ok none

/-- The character of an entity at the cursor and the offset behind it. -/
def entityAt (value : List Char) (cursor : ℕ) : Scanned (Option (Char × ℕ)) :=
  let bytes := utf8 value
  let searchEnd := min bytes.length (cursor + 13)
  match bytes[cursor]? with
  | none => .error .panic
  | some b =>
    if b = byte '&' then
      if searchEnd < cursor + 1 then .error .panic
      else match ((bytes.take searchEnd).drop (cursor + 1)).findIdx? (· == byte ';') with
        | none => .ok none
        | some relativeEnd =>
          match slice value (cursor + 1) (cursor + 1 + relativeEnd) with
          | none => .error .panic
          | some entity => do
            let character ← htmlEntity entity
            pure (character.map fun character => (character, cursor + 1 + relativeEnd + 1))
    else .ok none

/-- The character that is decoded at the cursor and the offset behind it. -/
def nextCharacter (value : List Char) (cursor : ℕ) : Scanned (Option (Char × ℕ)) := do
  match ← entityAt value cursor with
  | some decoded => pure (some decoded)
  | none =>
    match slice value cursor (utf8 value).length with
    | none => .error .panic
    | some rest => pure (rest.head?.map fun character => (character, cursor + character.utf8Size))

def pushBounded (output : List Char) (character : Char) (maximumBytes : ℕ) :
    Option (List Char) :=
  if (utf8 output).length + character.utf8Size ≤ maximumBytes then some (output ++ [character])
  else none

/-- The loop of `decode_html_entities`. -/
def decodeFrom (value : List Char) (maximumBytes : ℕ) :
    ℕ → ℕ → List Char → Scanned (Option (List Char))
  | 0, _, _ => .error .diverged
  | fuel + 1, cursor, decoded =>
    if cursor < (utf8 value).length then do
      match ← nextCharacter value cursor with
      | none => pure none
      | some (character, next) =>
        match pushBounded decoded character maximumBytes with
        | none => pure none
        | some decoded => decodeFrom value maximumBytes fuel next decoded
    else .ok (some decoded)

def decodeHtmlEntities (value : List Char) (maximumBytes : ℕ) : Scanned (Option (List Char)) :=
  decodeFrom value maximumBytes ((utf8 value).length + 1) 0 []

/-- Whether a tag is the one of a property. -/
def matchesProperty (tag property : List Char) : Scanned Bool := do
  let named ← match ← attributeValue tag "property".toList with
    | some value => pure (some value)
    | none => attributeValue tag "name".toList
  pure (named.any fun value => equalsIgnoreCase (utf8 value) (utf8 property))

/-- The loop of `meta_value`. -/
def metaValueFrom (document property : List Char) (maximumBytes : ℕ) :
    ℕ → ℕ → Scanned (Option String)
  | 0, _ => .error .diverged
  | fuel + 1, cursor =>
    let bytes := utf8 document
    match findAsciiCaseInsensitive bytes (utf8 "<meta".toList) cursor with
    | none => .ok none
    | some start =>
      match findTagEnd bytes start with
      | none => .ok none
      | some tagEnd =>
        match slice document start (tagEnd + 1) with
        | none => .error .panic
        | some tag => do
          let matched ← matchesProperty tag property
          let content ← if matched then attributeValue tag "content".toList else pure none
          match content with
          | some content =>
            let decoded ← decodeHtmlEntities content maximumBytes
            pure (decoded.bind fun decoded => cleanText (String.ofList decoded) maximumBytes)
          | none => metaValueFrom document property maximumBytes fuel (tagEnd + 1)

def metaValue (document property : String) (maximumBytes : ℕ) : Scanned (Option String) :=
  metaValueFrom document.toList property.toList maximumBytes ((utf8 document.toList).length + 1) 0

/-- The loop of `initial_state`. -/
def initialStateFrom (document : List Char) : ℕ → ℕ → Scanned (Option String)
  | 0, _ => .error .diverged
  | fuel + 1, cursor =>
    let bytes := utf8 document
    match findAsciiCaseInsensitive bytes (utf8 "<script".toList) cursor with
    | none => .ok none
    | some start =>
      match findTagEnd bytes start with
      | none => .ok none
      | some tagEnd =>
        match slice document start (tagEnd + 1) with
        | none => .ok none
        | some tag => do
          let id ← attributeValue tag "id".toList
          let type ← if id = some "initialState".toList then attributeValue tag "type".toList
            else pure none
          if type.any fun value => equalsIgnoreCase (utf8 value) (utf8 "text/plain".toList) then
            match findAsciiCaseInsensitive bytes (utf8 "</script>".toList) (tagEnd + 1) with
            | none => pure none
            | some contentEnd =>
              pure ((slice document (tagEnd + 1) contentEnd).map fun content =>
                trim (String.ofList content))
          else initialStateFrom document fuel (tagEnd + 1)

def initialState (document : String) : Scanned (Option String) :=
  initialStateFrom document.toList ((utf8 document.toList).length + 1) 0

end PepeAudio.Catalog.PublicScan
