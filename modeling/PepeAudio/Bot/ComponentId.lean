import PepeAudio.Core.Identifier
import PepeAudio.Lib.Base64
import PepeAudio.Lib.Program
import PepeAudio.Lib.Radix
import PepeAudio.Lib.Url

/-!
# Component ids

The action, the guild and the revision of a component, signed with a keyed tag. The hash is
any function of the key and the signed bytes, the tag is written by any exact codec.
-/
namespace PepeAudio

def COMPONENT_PREFIX : String := "pa1"
def TAG_BYTES : ℕ := 10

inductive ComponentAction where
  | playPause
  | previous
  | skip
  | stop
  | repeat
  | shuffle
  | spatial
  | volume
  | hrir
  deriving DecidableEq, Repr

namespace ComponentAction

def code : ComponentAction → String
  | playPause => "p"
  | previous => "b"
  | skip => "n"
  | stop => "x"
  | .repeat => "r"
  | shuffle => "s"
  | spatial => "a"
  | volume => "v"
  | hrir => "h"

def parse (value : String) : Option ComponentAction :=
  match value with
  | "p" => some playPause
  | "b" => some previous
  | "n" => some skip
  | "x" => some stop
  | "r" => some .repeat
  | "s" => some shuffle
  | "a" => some spatial
  | "v" => some volume
  | "h" => some hrir
  | _ => none

end ComponentAction

structure DecodedComponentId where
  action : ComponentAction
  guildId : GuildId
  revision : StateRevision
  deriving DecidableEq, Repr

inductive ComponentIdError where
  | weakKey
  | tooLong
  | malformed
  | unsupportedVersion
  | unknownAction
  | badSignature
  deriving DecidableEq, Repr

/-- A codec has a key of at least 32 bytes. -/
structure ComponentIdCodec where
  key : List UInt8
  strong : 32 ≤ key.length
  deriving DecidableEq, Repr

/-- `HMAC-SHA256`, as a function of the key and the message. -/
abbrev KeyedHash := List UInt8 → List UInt8 → Vector UInt8 32

/-- `{:x}`. -/
def lowerHex (n : UInt64) : String := String.ofList (Nat.toDigits 16 n.toNat)

/-- `u64::from_str_radix(text, 16)`. -/
def parseHex (text : String) : Option UInt64 :=
  (fromStrRadix 16 (2 ^ 64) text.toList).map UInt64.ofNat

/-- `rsplitn(2, separator)`: the text before the last separator and the text behind it. -/
def rsplitOnce (separator : Char) (value : String) : Option (String × String) :=
  match value.toList.reverse.span (· != separator) with
  | (_, []) => none
  | (last, _ :: front) => some (String.ofList front.reverse, String.ofList last.reverse)

/-- `verify_truncated_left`. -/
def verifyTruncatedLeft (full : Vector UInt8 32) (tag : List UInt8) : Bool :=
  tag.length != 0 && tag.length ≤ 32 && full.toList.take tag.length == tag

/-- `ok_or`. -/
def okOr {ε α : Type} (value : Option α) (error : ε) : Except ε α :=
  match value with
  | some value => .ok value
  | none => .error error

namespace ComponentIdCodec

def new (key : List UInt8) : Except ComponentIdError ComponentIdCodec :=
  if h : key.length < 32 then .error .weakKey else .ok ⟨key, Nat.le_of_not_lt h⟩

/-- The fields before the tag. -/
def body (action : ComponentAction) (guildId : GuildId) (revision : StateRevision) : String :=
  COMPONENT_PREFIX ++ "." ++ action.code ++ "." ++ lowerHex guildId.value.get ++ "."
    ++ lowerHex revision.get

/-- The fields of a verified body. -/
def decodeFields (body : String) : Except ComponentIdError DecodedComponentId :=
  match (body.toList.splitOn '.').map String.ofList with
  | [version, action, guild, revision] =>
    if version ≠ COMPONENT_PREFIX then .error .unsupportedVersion
    else do
      let action ← okOr (ComponentAction.parse action) .unknownAction
      let guild ← okOr (parseHex guild) .malformed
      let guildId ← (Snowflake.new .guild guild).mapError fun _ => .malformed
      let revision ← okOr (parseHex revision) .malformed
      pure ⟨action, guildId, ⟨revision⟩⟩
  | _ => .error .malformed

variable (hash : KeyedHash) (base64 : Base64Codec) (codec : ComponentIdCodec)

def tag (value : List UInt8) : List UInt8 := (hash codec.key value).toList.take TAG_BYTES

/-- The text of the tag of a body. -/
def signature (body : String) : String :=
  String.ofList (base64.encode (codec.tag hash body.toByteArray.toList))

def encode (action : ComponentAction) (guildId : GuildId) (revision : StateRevision) : String :=
  let body := body action guildId revision
  body ++ "." ++ codec.signature hash base64 body

def decode (value : String) : Except ComponentIdError DecodedComponentId :=
  if value.utf8ByteSize > 100 then .error .tooLong
  else do
    let (body, tag) ← okOr (rsplitOnce '.' value) .malformed
    let decodedTag ← okOr (base64.decode tag.toList) .malformed
    if decodedTag.length ≠ TAG_BYTES then .error .malformed
    else if !verifyTruncatedLeft (hash codec.key body.toByteArray.toList) decodedTag then
      .error .badSignature
    else decodeFields body

end ComponentIdCodec

end PepeAudio
