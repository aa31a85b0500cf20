import PepeAudio.Core.Identifier
import Mathlib.Data.List.Nodup

/-!
# Public player snapshots

The snapshot is the only view of a player that leaves its actor.
`validatePublicShape` is the check its consumers make; the last section states
it as a property of the tracks and their identities.
-/
namespace PepeAudio

def MAX_TRACK_TITLE_BYTES : ℕ := 512
def MAX_TRACK_ARTIST_BYTES : ℕ := 256
def MAX_TRACK_ALBUM_BYTES : ℕ := 512
def MAX_SNAPSHOT_QUEUE_ITEMS : ℕ := 100

inductive MediaProvider where
  | spotify
  | appleMusic
  | youTube
  | soundCloud
  deriving DecidableEq, Repr

/-- A stable public page of a provider. -/
structure PublicMediaPage where
  provider : MediaProvider
  url : String
  deriving DecidableEq, Repr

structure TrackProvenance where
  origin : Option PublicMediaPage
  playback : PublicMediaPage
  deriving DecidableEq, Repr

inductive PlayerState where
  | disconnected
  | idleConnected
  | loading
  | playing
  | paused
  deriving DecidableEq, Repr

inductive RepeatMode where
  | off
  | track
  | queue
  deriving DecidableEq, Repr

structure TrackSnapshot where
  trackId : Uuid
  title : String
  artist : Option String
  album : Option String
  provenance : Option TrackProvenance
  requesterUserId : Option UserId
  durationMs : Option UInt64
  positionMs : UInt64
  seekable : Bool
  deriving DecidableEq, Repr

structure PlayerSnapshot where
  guildId : GuildId
  voiceChannelId : Option ChannelId
  revision : StateRevision
  state : PlayerState
  currentTrack : Option TrackSnapshot
  queuedTracks : UInt32
  upcomingTracks : List TrackSnapshot
  hasPreviousTrack : Bool
  volume : Volume
  repeatMode : RepeatMode
  shuffleEnabled : Bool
  hrirPreset : Option HrirPresetId
  spatialAudioEnabled : Bool
  observedAt : UnixTimeMillis
  deriving DecidableEq, Repr

inductive PlayerSnapshotValidationError where
  | queueTooLarge
  | queueCountMismatch
  | duplicateTrackId
  | invalidTitle
  | invalidArtist
  | invalidAlbum
  | invalidPosition
  deriving DecidableEq, Repr

def validateTrack (track : TrackSnapshot) : Except PlayerSnapshotValidationError Unit :=
  if !validateText track.title MAX_TRACK_TITLE_BYTES then .error .invalidTitle
  else if track.artist.any fun value => !validateText value MAX_TRACK_ARTIST_BYTES then
    .error .invalidArtist
  else if track.album.any fun value => !validateText value MAX_TRACK_ALBUM_BYTES then
    .error .invalidAlbum
  else if track.durationMs.any fun duration => duration < track.positionMs then
    .error .invalidPosition
  else .ok ()

/-- The loop over the current and the upcoming tracks with the identities seen so far. -/
def validateTracks : List TrackSnapshot → List Uuid → Except PlayerSnapshotValidationError Unit
  | [], _ => .ok ()
  | track :: tracks, identities =>
    match validateTrack track with
    | .error error => .error error
    | .ok () =>
      if track.trackId ∈ identities then .error .duplicateTrackId
      else validateTracks tracks (track.trackId :: identities)

def PlayerSnapshot.validatePublicShape (snapshot : PlayerSnapshot) :
    Except PlayerSnapshotValidationError Unit :=
  if MAX_SNAPSHOT_QUEUE_ITEMS < snapshot.upcomingTracks.length then .error .queueTooLarge
  else if snapshot.queuedTracks.toNat ≠ snapshot.upcomingTracks.length then
    .error .queueCountMismatch
  else validateTracks (snapshot.currentTrack.toList ++ snapshot.upcomingTracks) []

theorem validateTrack_eq_ok {track : TrackSnapshot} :
    validateTrack track = .ok () ↔
      validateText track.title MAX_TRACK_TITLE_BYTES = true ∧
      (∀ value ∈ track.artist, validateText value MAX_TRACK_ARTIST_BYTES = true) ∧
      (∀ value ∈ track.album, validateText value MAX_TRACK_ALBUM_BYTES = true) ∧
      ∀ duration ∈ track.durationMs, track.positionMs ≤ duration := by
  unfold validateTrack
  cases track.artist <;> cases track.album <;> cases track.durationMs <;>
    simp <;> grind

theorem validateTracks_eq_ok {tracks : List TrackSnapshot} {identities : List Uuid} :
    validateTracks tracks identities = .ok () ↔
      (∀ track ∈ tracks, validateTrack track = .ok ()) ∧
      (tracks.map TrackSnapshot.trackId).Nodup ∧
      ∀ track ∈ tracks, track.trackId ∉ identities := by
  induction tracks generalizing identities with
  | nil => simp [validateTracks]
  | cons track tracks ih =>
    rw [validateTracks]
    cases htrack : validateTrack track with
    | error error => simp [htrack]
    | ok _ =>
      by_cases hseen : track.trackId ∈ identities
      · simp [hseen]
      · simp only [hseen, if_false, ih, List.map_cons, List.nodup_cons, List.mem_cons,
          List.mem_map, not_or, not_exists, not_and]
        constructor
        · rintro ⟨hvalid, hnodup, hfresh⟩
          refine ⟨?_, ⟨fun other ho he => (hfresh other ho).1 he, hnodup⟩, ?_⟩
          · rintro other (rfl | ho)
            · exact htrack
            · exact hvalid other ho
          · rintro other (rfl | ho)
            · exact hseen
            · exact (hfresh other ho).2
        · rintro ⟨hvalid, ⟨hnew, hnodup⟩, hfresh⟩
          exact ⟨fun other ho => hvalid other (Or.inr ho), hnodup,
            fun other ho => ⟨fun he => hnew other ho he, hfresh other (Or.inr ho)⟩⟩

theorem PlayerSnapshot.validatePublicShape_eq_ok {snapshot : PlayerSnapshot} :
    snapshot.validatePublicShape = .ok () ↔
      snapshot.upcomingTracks.length ≤ MAX_SNAPSHOT_QUEUE_ITEMS ∧
      snapshot.queuedTracks.toNat = snapshot.upcomingTracks.length ∧
      (∀ track ∈ snapshot.currentTrack.toList ++ snapshot.upcomingTracks,
        validateTrack track = .ok ()) ∧
      ((snapshot.currentTrack.toList ++ snapshot.upcomingTracks).map
        TrackSnapshot.trackId).Nodup := by
  unfold validatePublicShape
  by_cases hlarge : MAX_SNAPSHOT_QUEUE_ITEMS < snapshot.upcomingTracks.length
  · simp [hlarge, Nat.not_le.mpr hlarge]
  · by_cases hcount : snapshot.queuedTracks.toNat = snapshot.upcomingTracks.length
    · have hbound := Nat.le_of_not_lt hlarge
      simp [hlarge, hcount, hbound, validateTracks_eq_ok]
    · simp [hlarge, hcount]

end PepeAudio
