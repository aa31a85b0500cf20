import PepeAudio.Core.MediaPage
import PepeAudio.Lib.Json

/-!
# The public types as JSON

How identifiers and player snapshots are written. Identifiers are decimal
strings, so that a script reads them without loss, and a UUID is written in five
groups of hexadecimal digits.
-/
namespace PepeAudio

def optionalText : Option String → Json
  | none => .null
  | some value => .string value

/-- Identifiers are written as decimal strings. -/
def Snowflake.toJson {kind : SnowflakeKind} (id : Snowflake kind) : Json :=
  .string (decimal id.value.get)

def Snowflake.fromJson (kind : SnowflakeKind) (json : Json) : Except Unit (Snowflake kind) := do
  let text ← json.asString
  let value ← parseU64 text
  (Snowflake.new kind value).mapError fun _ => ()

theorem optional_optionalText (value : Option String) :
    optional Json.asString (some (optionalText value)) = .ok value := by
  cases value with
  | none => rfl
  | some value => rfl

theorem Snowflake.fromJson_toJson {kind : SnowflakeKind} (id : Snowflake kind) :
    Snowflake.fromJson kind id.toJson = .ok id := by
  have hparse := parseU64_decimal id.value.get
  have hne : id.value.get ≠ 0 := id.value.ne_zero
  unfold Snowflake.fromJson Snowflake.toJson
  simp [Json.asString, hparse, Snowflake.new, hne, bind, Except.bind, Except.mapError]

namespace Uuid

/-- The two digits of a byte. -/
def byteHex (byte : UInt8) : List Char :=
  [Nat.digitChar (byte.toNat / 16), Nat.digitChar (byte.toNat % 16)]

def groups (id : Uuid) : List (List Char) :=
  let bytes := id.bytes.toList
  [(bytes.take 4).flatMap byteHex, ((bytes.drop 4).take 2).flatMap byteHex,
    ((bytes.drop 6).take 2).flatMap byteHex, ((bytes.drop 8).take 2).flatMap byteHex,
    (bytes.drop 10).flatMap byteHex]

/-- The hyphenated form. -/
def text (id : Uuid) : String := String.ofList (['-'].intercalate id.groups)

end Uuid

def PlayerState.name : PlayerState → String
  | .disconnected => "disconnected"
  | .idleConnected => "idle_connected"
  | .loading => "loading"
  | .playing => "playing"
  | .paused => "paused"

def RepeatMode.name : RepeatMode → String
  | .off => "off"
  | .track => "track"
  | .queue => "queue"

def MediaProvider.name : MediaProvider → String
  | .spotify => "spotify"
  | .appleMusic => "apple_music"
  | .youTube => "youtube"
  | .soundCloud => "soundcloud"

def natural (n : UInt64) : Json := .number (.natural n.toNat)

def PublicMediaPage.toJson (page : PublicMediaPage) : Json :=
  .object [("provider", .string page.provider.name), ("url", .string page.url)]

def TrackProvenance.toJson (provenance : TrackProvenance) : Json :=
  .object [("origin", provenance.origin.elim .null PublicMediaPage.toJson),
    ("playback", provenance.playback.toJson)]

def TrackSnapshot.toJson (track : TrackSnapshot) : Json :=
  .object [("track_id", .string track.trackId.text), ("title", .string track.title),
    ("artist", optionalText track.artist), ("album", optionalText track.album),
    ("provenance", track.provenance.elim .null TrackProvenance.toJson),
    ("requester_user_id", track.requesterUserId.elim .null Snowflake.toJson),
    ("duration_ms", track.durationMs.elim .null natural), ("position_ms", natural track.positionMs),
    ("seekable", .bool track.seekable)]

def PlayerSnapshot.toJson (snapshot : PlayerSnapshot) : Json :=
  .object [("guild_id", snapshot.guildId.toJson),
    ("voice_channel_id", snapshot.voiceChannelId.elim .null Snowflake.toJson),
    ("revision", natural snapshot.revision.get), ("state", .string snapshot.state.name),
    ("current_track", snapshot.currentTrack.elim .null TrackSnapshot.toJson),
    ("queued_tracks", .number (.natural snapshot.queuedTracks.toNat)),
    ("upcoming_tracks", .array (snapshot.upcomingTracks.map TrackSnapshot.toJson)),
    ("has_previous_track", .bool snapshot.hasPreviousTrack),
    ("volume", .number (.natural snapshot.volume.percent.toNat)),
    ("repeat_mode", .string snapshot.repeatMode.name),
    ("shuffle_enabled", .bool snapshot.shuffleEnabled),
    ("hrir_preset", snapshot.hrirPreset.elim .null fun preset => .string preset.value),
    ("spatial_audio_enabled", .bool snapshot.spatialAudioEnabled),
    ("observed_at", natural snapshot.observedAt.get)]

namespace Uuid

theorem digitChar_hex {n : ℕ} (h : n < 16) :
    (Nat.digitChar n).isHexDigit = true ∧ Nat.digitChar n ≠ '-' := by
  revert h
  revert n
  decide

theorem mem_byteHex {byte : UInt8} {c : Char} (h : c ∈ byteHex byte) :
    c.isHexDigit = true ∧ c ≠ '-' := by
  have hbyte := byte.toNat_lt
  have hcases : c = Nat.digitChar (byte.toNat / 16) ∨ c = Nat.digitChar (byte.toNat % 16) := by
    simpa [byteHex] using h
  rcases hcases with rfl | rfl
  · exact digitChar_hex (by omega)
  · exact digitChar_hex (by omega)

theorem mem_groups {id : Uuid} {group : List Char} (h : group ∈ id.groups) {c : Char}
    (hc : c ∈ group) : c.isHexDigit = true ∧ c ≠ '-' := by
  have hflat : ∀ bytes : List UInt8, group = bytes.flatMap byteHex →
      c.isHexDigit = true ∧ c ≠ '-' := by
    rintro bytes rfl
    obtain ⟨byte, -, hbyte⟩ := List.mem_flatMap.mp hc
    exact mem_byteHex hbyte
  simp only [groups, List.mem_cons, List.not_mem_nil, or_false] at h
  rcases h with h | h | h | h | h <;> exact hflat _ h

theorem splitOn_text (id : Uuid) : id.text.toList.splitOn '-' = id.groups := by
  rw [text, String.toList_ofList]
  apply List.splitOn_intercalate
  · intro group hgroup hmem
    exact (mem_groups hgroup hmem).2 rfl
  · simp [groups]

theorem length_flatMap_byteHex (bytes : List UInt8) :
    (bytes.flatMap byteHex).length = 2 * bytes.length := by
  induction bytes with
  | nil => rfl
  | cons byte bytes ih =>
    simp only [List.flatMap_cons, List.length_append, List.length_cons, ih, byteHex,
      List.length_nil]
    omega

theorem length_groups (id : Uuid) : id.groups.map List.length = [8, 4, 4, 4, 12] := by
  have hlength : id.bytes.toList.length = 16 := id.bytes.length_toList
  simp only [groups, List.map_cons, List.map_nil, length_flatMap_byteHex, List.length_take,
    List.length_drop, hlength]
  rfl

theorem byteHex_injective : Function.Injective byteHex := by
  intro byte byte' h
  have hbyte := byte.toNat_lt
  have hbyte' := byte'.toNat_lt
  have hdigit : ∀ m < 16, ∀ n < 16, Nat.digitChar m = Nat.digitChar n → m = n := by decide
  simp only [byteHex, List.cons.injEq, and_true] at h
  have hhigh := hdigit _ (by omega) _ (by omega) h.1
  have hlow := hdigit _ (by omega) _ (by omega) h.2
  exact UInt8.toNat_inj.mp (by omega)

theorem flatMap_byteHex_injective : Function.Injective fun bytes : List UInt8 =>
    bytes.flatMap byteHex := by
  intro bytes bytes' h
  induction bytes generalizing bytes' with
  | nil =>
    cases bytes' with
    | nil => rfl
    | cons byte' bytes' => simp [byteHex] at h
  | cons byte bytes ih =>
    cases bytes' with
    | nil => simp [byteHex] at h
    | cons byte' bytes' =>
      have happend := List.append_inj h rfl
      rw [byteHex_injective happend.1, ih happend.2]

theorem flatten_groups (id : Uuid) : id.groups.flatten = id.bytes.toList.flatMap byteHex := by
  have hcut : ∀ (bytes : List UInt8) (start : ℕ),
      (bytes.drop start).flatMap byteHex =
        ((bytes.drop start).take 2).flatMap byteHex ++
        (bytes.drop (start + 2)).flatMap byteHex := by
    intro bytes start
    rw [← List.flatMap_append, ← List.drop_drop, List.take_append_drop]
  have hfirst : ∀ bytes : List UInt8, bytes.flatMap byteHex =
      (bytes.take 4).flatMap byteHex ++ (bytes.drop 4).flatMap byteHex := by
    intro bytes
    rw [← List.flatMap_append, List.take_append_drop]
  rw [hfirst, hcut _ 4, hcut _ 6, hcut _ 8]
  simp [groups]

/-- Distinct identities have distinct texts. -/
theorem text_injective : Function.Injective text := by
  intro id id' h
  have hgroups : id.groups = id'.groups := by rw [← splitOn_text, h, splitOn_text]
  have hflat : id.groups.flatten = id'.groups.flatten := by rw [hgroups]
  rw [flatten_groups, flatten_groups] at hflat
  have hlist := flatMap_byteHex_injective hflat
  cases id
  cases id'
  exact congrArg Uuid.mk (Vector.toList_inj.mp hlist)

end Uuid

end PepeAudio
