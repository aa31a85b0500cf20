import PepeAudio.Core.Player

/-!
# Tracks, limits and the player model

The model is the state one guild's actor owns. Instants are nanoseconds of the
monotonic clock; the playback position of an advancing track is computed from
the instant it is read at and never stored back.
-/
namespace PepeAudio

/-- Capacities and the idle timeout, with what the constructor checks of them. -/
structure PlayerConfig where
  commandCapacity : ℕ
  eventCapacity : ℕ
  maxQueuedTracks : ℕ
  /-- In nanoseconds. -/
  idleTimeout : ℕ
  commandCapacity_pos : 0 < commandCapacity
  eventCapacity_pos : 0 < eventCapacity
  maxQueuedTracks_pos : 0 < maxQueuedTracks
  maxQueuedTracks_le : maxQueuedTracks ≤ MAX_SNAPSHOT_QUEUE_ITEMS
  idleTimeout_pos : 0 < idleTimeout

inductive PlayerConfigError where
  | zeroCapacity (name : String)
  | capacityTooLarge (name : String) (maximum : ℕ)
  | zeroIdleTimeout
  deriving DecidableEq, Repr

def PlayerConfig.new (commandCapacity eventCapacity maxQueuedTracks idleTimeout : ℕ) :
    Except PlayerConfigError PlayerConfig :=
  if hmax : MAX_SNAPSHOT_QUEUE_ITEMS < maxQueuedTracks then
    .error (.capacityTooLarge "max_queued_tracks" MAX_SNAPSHOT_QUEUE_ITEMS)
  else if hcommand : commandCapacity = 0 then .error (.zeroCapacity "command_capacity")
  else if hevent : eventCapacity = 0 then .error (.zeroCapacity "event_capacity")
  else if hqueue : maxQueuedTracks = 0 then .error (.zeroCapacity "max_queued_tracks")
  else if hidle : idleTimeout = 0 then .error .zeroIdleTimeout
  else .ok ⟨commandCapacity, eventCapacity, maxQueuedTracks, idleTimeout,
    Nat.pos_of_ne_zero hcommand, Nat.pos_of_ne_zero hevent, Nat.pos_of_ne_zero hqueue,
    Nat.le_of_not_lt hmax, Nat.pos_of_ne_zero hidle⟩

/-- Display text that has passed the public text check. -/
structure DisplayText (maximumBytes : ℕ) where
  text : String
  valid : validateText text maximumBytes = true
  deriving DecidableEq, Repr

inductive TrackMetadataField where
  | artist
  | album
  deriving DecidableEq, Repr

inductive TrackMetadataError where
  | empty (field : TrackMetadataField)
  | tooLong (field : TrackMetadataField)
  | controlCharacter (field : TrackMetadataField)
  deriving DecidableEq, Repr

/-- Trimmed, non-empty, bounded text without control characters. -/
def validatedText (field : TrackMetadataField) (value : String) (maximumBytes : ℕ) :
    Except TrackMetadataError (DisplayText maximumBytes) :=
  let value := trim value
  if hempty : value.isEmpty then .error (.empty field)
  else if hlong : maximumBytes < value.utf8ByteSize then .error (.tooLong field)
  else if hcontrol : value.toList.any isControl then .error (.controlCharacter field)
  else .ok ⟨value, by
    have hlen : value.utf8ByteSize ≤ maximumBytes := Nat.le_of_not_lt hlong
    have htrim : trim value = value := trim_trim _
    simp only [validateText, htrim, hlen, decide_true, Bool.and_true]
    simpa using And.intro hempty hcontrol⟩

structure QueueTrackMetadata where
  artist : Option (DisplayText MAX_TRACK_ARTIST_BYTES)
  album : Option (DisplayText MAX_TRACK_ALBUM_BYTES)
  provenance : Option TrackProvenance
  deriving DecidableEq, Repr

namespace QueueTrackMetadata

def default : QueueTrackMetadata := ⟨none, none, none⟩

def withArtist (metadata : QueueTrackMetadata) (value : String) :
    Except TrackMetadataError QueueTrackMetadata :=
  (validatedText .artist value MAX_TRACK_ARTIST_BYTES).map fun artist =>
    { metadata with artist := some artist }

def withAlbum (metadata : QueueTrackMetadata) (value : String) :
    Except TrackMetadataError QueueTrackMetadata :=
  (validatedText .album value MAX_TRACK_ALBUM_BYTES).map fun album =>
    { metadata with album := some album }

def withProvenance (metadata : QueueTrackMetadata) (value : TrackProvenance) :
    QueueTrackMetadata :=
  { metadata with provenance := some value }

end QueueTrackMetadata

/-- An opaque media locator; its lease guard takes no part in equality. -/
structure PlaybackSource where
  locator : String
  deriving DecidableEq, Repr

structure QueueTrack where
  trackId : Uuid
  title : String
  requesterUserId : Option UserId
  durationMs : Option UInt64
  seekable : Bool
  source : PlaybackSource
  metadata : QueueTrackMetadata
  deriving DecidableEq, Repr

namespace QueueTrack

def hasValidPublicTitle (track : QueueTrack) : Bool :=
  !(trim track.title).isEmpty && track.title.utf8ByteSize ≤ MAX_TRACK_TITLE_BYTES &&
    !track.title.toList.any isControl

def snapshot (track : QueueTrack) (positionMs : UInt64) : TrackSnapshot where
  trackId := track.trackId
  title := track.title
  artist := track.metadata.artist.map DisplayText.text
  album := track.metadata.album.map DisplayText.text
  provenance := track.metadata.provenance
  requesterUserId := track.requesterUserId
  durationMs := track.durationMs
  positionMs := positionMs
  seekable := track.seekable

/-- The title is the only thing a queue track can get wrong besides its position. -/
theorem validateTrack_snapshot {track : QueueTrack} (htitle : track.hasValidPublicTitle = true)
    {positionMs : UInt64} (hposition : ∀ duration ∈ track.durationMs, positionMs ≤ duration) :
    validateTrack (track.snapshot positionMs) = .ok () := by
  rw [validateTrack_eq_ok]
  refine ⟨htitle, ?_, ?_, hposition⟩
  · intro value hvalue
    obtain ⟨artist, -, rfl⟩ := Option.map_eq_some_iff.mp hvalue
    exact artist.valid
  · intro value hvalue
    obtain ⟨album, -, rfl⟩ := Option.map_eq_some_iff.mp hvalue
    exact album.valid

end QueueTrack

/-- What a handler reads off the clocks at one moment. -/
structure Reading where
  unix : UnixTimeMillis
  instant : ℕ
  deriving DecidableEq, Repr

/-- The track being played, with the timing of its position. -/
structure ActiveTrack where
  track : QueueTrack
  generation : PlaybackGeneration
  positionMs : UInt64
  advancingSince : Option ℕ
  deriving DecidableEq, Repr

structure PlaybackIdentity where
  trackId : Uuid
  generation : PlaybackGeneration
  deriving DecidableEq, Repr

namespace ActiveTrack

def playing (track : QueueTrack) (generation : PlaybackGeneration) (now : ℕ) : ActiveTrack :=
  ⟨track, generation, 0, some now⟩

def identity (active : ActiveTrack) : PlaybackIdentity :=
  ⟨active.track.trackId, active.generation⟩

def currentPositionMs (active : ActiveTrack) (now : ℕ) : UInt64 :=
  let elapsed := match active.advancingSince with
    | none => 0
    | some started => saturatingOfNat ((now - started) / 1000000)
  let position := saturatingAdd active.positionMs elapsed
  match active.track.durationMs with
  | none => position
  | some duration => if position ≤ duration then position else duration

def pause (active : ActiveTrack) (now : ℕ) : ActiveTrack :=
  { active with positionMs := active.currentPositionMs now, advancingSince := none }

def resume (active : ActiveTrack) (now : ℕ) : ActiveTrack :=
  { active with advancingSince := some now }

def seek (active : ActiveTrack) (positionMs : UInt64) (advancing : Bool)
    (generation : PlaybackGeneration) (now : ℕ) : ActiveTrack :=
  { active with
    positionMs := positionMs
    advancingSince := if advancing then some now else none
    generation := generation }

def snapshot (active : ActiveTrack) (now : ℕ) : TrackSnapshot :=
  active.track.snapshot (active.currentPositionMs now)

theorem currentPositionMs_le {active : ActiveTrack} {now : ℕ} {duration : UInt64}
    (h : duration ∈ active.track.durationMs) : active.currentPositionMs now ≤ duration := by
  have hcap : ∀ position : UInt64,
      (if position ≤ duration then position else duration) ≤ duration := by
    intro position
    split_ifs with hle
    · exact hle
    · exact UInt64.le_refl duration
  unfold currentPositionMs
  rw [Option.mem_def.mp h]
  exact hcap _

end ActiveTrack

structure PlayerModel where
  guildId : GuildId
  voiceChannelId : Option ChannelId
  revision : StateRevision
  state : PlayerState
  current : Option ActiveTrack
  /-- Upcoming tracks, the next one first. -/
  queue : List QueueTrack
  /-- Played tracks, the most recent one last. -/
  history : List QueueTrack
  volume : Volume
  repeatMode : RepeatMode
  shuffleEnabled : Bool
  hrirPreset : Option HrirPresetId
  spatialAudioEnabled : Bool
  deriving DecidableEq, Repr

namespace PlayerModel

def new (guildId : GuildId) (initialRevision : StateRevision) : PlayerModel where
  guildId := guildId
  voiceChannelId := none
  revision := initialRevision
  state := .disconnected
  current := none
  queue := []
  history := []
  volume := Volume.DEFAULT
  repeatMode := .off
  shuffleEnabled := false
  hrirPreset := none
  spatialAudioEnabled := false

def isIdleConnected (model : PlayerModel) : Bool :=
  model.voiceChannelId.isSome && model.state = .idleConnected && model.current.isNone &&
    model.queue.isEmpty

def containsTrack (model : PlayerModel) (trackId : Uuid) : Bool :=
  (model.current.any fun active => active.track.trackId = trackId) ||
    model.queue.any fun track => track.trackId = trackId

def snapshot (model : PlayerModel) (reading : Reading) : PlayerSnapshot where
  guildId := model.guildId
  voiceChannelId := model.voiceChannelId
  revision := model.revision
  state := model.state
  currentTrack := model.current.map fun active => active.snapshot reading.instant
  queuedTracks := UInt32.ofNat (min model.queue.length (UInt32.size - 1))
  upcomingTracks := model.queue.map fun track => track.snapshot 0
  hasPreviousTrack := !model.history.isEmpty
  volume := model.volume
  repeatMode := model.repeatMode
  shuffleEnabled := model.shuffleEnabled
  hrirPreset := model.hrirPreset
  spatialAudioEnabled := model.spatialAudioEnabled
  observedAt := reading.unix

/-- The current track, if any, and the upcoming ones, in playback order. -/
def tracks (model : PlayerModel) : List QueueTrack :=
  (model.current.map ActiveTrack.track).toList ++ model.queue

theorem tracks_of_current {model : PlayerModel} {active : ActiveTrack}
    (h : model.current = some active) : model.tracks = active.track :: model.queue := by
  simp [tracks, h]

theorem tracks_of_none {model : PlayerModel} (h : model.current = none) :
    model.tracks = model.queue := by
  simp [tracks, h]

theorem containsTrack_iff {model : PlayerModel} {trackId : Uuid} :
    model.containsTrack trackId = true ↔ trackId ∈ model.tracks.map QueueTrack.trackId := by
  have hqueue : (model.queue.any fun track => track.trackId = trackId) = true ↔
      trackId ∈ model.queue.map QueueTrack.trackId := by simp
  unfold containsTrack tracks
  rw [Bool.or_eq_true, hqueue, List.map_append, List.mem_append]
  refine or_congr_left ?_
  cases model.current with
  | none => simp
  | some active => simp [eq_comm]

end PlayerModel

end PepeAudio
