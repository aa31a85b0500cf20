import PepeAudio.Lib.Decimal
import PepeAudio.Web.MediaPage

/-!
# Player snapshots in the browser

`parsePlayerSnapshotWire` checks every field of a snapshot that came over the
wire, and rebuilds its tracks. The checks of one value are here with the values
of the server that pass them.
-/
namespace PepeAudio

namespace Client

open JsValue

def invalidSnapshot : String := "Player snapshot is invalid"

def whole : Option JsValue → Option ℕ
  | some (.number (.finite value)) =>
    if (JsNumber.finite value).isWhole then some value.num.toNat else none
  | _ => none

def boolean : Option JsValue → Bool
  | some (.boolean _) => true
  | _ => false

def isNull : Option JsValue → Bool
  | some .null => true
  | _ => false

def boundedText (limit : ℕ) : Option JsValue → Bool
  | some (.string text) => 0 < utf16Length text && utf16Length text ≤ limit
  | _ => false

/-- `/^[1-9][0-9]{0,19}$/` -/
def isDecimalId (cs : List Char) : Bool :=
  match cs with
  | first :: rest => first.isDigit && first ≠ '0' && rest.length ≤ 19 && rest.all Char.isDigit
  | [] => false

def snowflakeText (text : String) : Bool :=
  isDecimalId text.toList &&
    (utf16Length text < 20 || !("18446744073709551615".toList < text.toList : Bool))

def snowflake : Option JsValue → Bool
  | some (.string text) => snowflakeText text
  | _ => false

/-- `/^[0-9a-f]{8}(?:-[0-9a-f]{4}){3}-[0-9a-f]{12}$/i` -/
def uuidText (text : String) : Bool :=
  let groups := text.toList.splitOn '-'
  groups.map List.length = [8, 4, 4, 4, 12] && groups.all fun group => group.all Char.isHexDigit

def uuid : Option JsValue → Bool
  | some (.string text) => uuidText text
  | _ => false

def playerStates : List String := ["disconnected", "idle_connected", "loading", "playing", "paused"]

def repeatModes : List String := ["off", "track", "queue"]

def oneOf (names : List String) : Option JsValue → Bool
  | some (.string name) => name ∈ names
  | _ => false

def optionalText (value : Option JsValue) (limit : ℕ) : Except String JsValue :=
  match value with
  | none | some .null => .ok .null
  | some _ =>
    match boundedUtf8Text value limit with
    | some text => .ok (.string text)
    | none => .error invalidSnapshot

def trackProvenance (library : UrlLibrary) (value : Option JsValue) : Except String JsValue := do
  let candidate ← record invalidSnapshot value
  let origin ← match property "origin" candidate with
    | none | some .null => .ok .null
    | origin => (parsePublicMediaPage library origin).map fun page => page.toJson.toJs
  let playback ← parsePublicMediaPage library (property "playback" candidate)
  need invalidSnapshot (playback.provider = .youTube || playback.provider = .soundCloud)
  return .object [("origin", origin), ("playback", playback.toJson.toJs)]

/-- Missing attribution is no attribution. -/
def optionalProvenance (library : UrlLibrary) : Option JsValue → Except String JsValue
  | none | some .null => .ok .null
  | provenance => trackProvenance library provenance

def track (library : UrlLibrary) (value : Option JsValue) : Except String JsValue := do
  let candidate ← record invalidSnapshot value
  need invalidSnapshot (uuid (property "track_id" candidate) &&
    (boundedUtf8Text (property "title" candidate) 512).isSome)
  let artist ← optionalText (property "artist" candidate) 256
  let album ← optionalText (property "album" candidate) 512
  let provenance ← optionalProvenance library (property "provenance" candidate)
  let requester := property "requester_user_id" candidate
  let duration := property "duration_ms" candidate
  let position := property "position_ms" candidate
  need invalidSnapshot (isNull requester || snowflake requester)
  need invalidSnapshot (isNull duration || (whole duration).isSome)
  need invalidSnapshot ((whole position).isSome && boolean (property "seekable" candidate))
  need invalidSnapshot (isNull duration || (whole position).getD 0 ≤ (whole duration).getD 0)
  return .object (withProperty "provenance" provenance (withProperty "album" album
    (withProperty "artist" artist candidate)))

def optionalTrack (library : UrlLibrary) (value : Option JsValue) :
    Except String (Option JsValue) :=
  if isNull value then .ok none else (track library value).map some

/-- The identity of a track that has been checked. -/
def trackId : JsValue → Option String
  | .object fields =>
    match property "track_id" fields with
    | some (.string id) => some id
    | _ => none
  | _ => none

def isString (expected : String) : Option JsValue → Bool
  | some (.string text) => text = expected
  | _ => false

def parsePlayerSnapshotWire (library : UrlLibrary) (value : Option JsValue)
    (expectedGuildId : String) : Except String JsValue := do
  let snapshot ← record invalidSnapshot value
  let read := fun name => property name snapshot
  need invalidSnapshot (isString expectedGuildId (read "guild_id") && snowflake (read "guild_id"))
  need invalidSnapshot (isNull (read "voice_channel_id") || snowflake (read "voice_channel_id"))
  need invalidSnapshot ((whole (read "revision")).isSome && (whole (read "queued_tracks")).isSome)
  need invalidSnapshot (oneOf playerStates (read "state") && oneOf repeatModes (read "repeat_mode"))
  match read "upcoming_tracks" with
  | some (.array items) =>
    need invalidSnapshot (items.length ≤ 100)
    need invalidSnapshot ((whole (read "volume")).any (· ≤ 100) &&
      (whole (read "observed_at")).isSome)
    need invalidSnapshot (boolean (read "has_previous_track") && boolean (read "shuffle_enabled"))
    need invalidSnapshot (boolean (read "spatial_audio_enabled"))
    need invalidSnapshot (isNull (read "hrir_preset") || boundedText 128 (read "hrir_preset"))
    let current ← optionalTrack library (read "current_track")
    let upcoming ← items.mapM fun item => track library (some item)
    need invalidSnapshot (whole (read "queued_tracks") = some upcoming.length)
    let trackIds := upcoming.map trackId
    need invalidSnapshot (trackIds.dedup.length = upcoming.length &&
      !current.any fun current => trackId current ∈ trackIds)
    return .object (withProperty "upcoming_tracks" (.array upcoming)
      (withProperty "current_track" (current.getD .null) snapshot))
  | _ => .error invalidSnapshot

end Client

end PepeAudio
