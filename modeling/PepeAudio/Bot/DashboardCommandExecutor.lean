import PepeAudio.Player.Runtime
import PepeAudio.Worker.CommandLoop

/-!
# The dashboard's command executor

`enqueue_media` runs beside everything else that reaches the player. An
execution stands at one of its awaits: it waits for one of its surroundings or
for the player to handle one of its requests, and whatever else the player
handles comes in between.
-/
namespace PepeAudio

inductive ResolveError where
  | notConfigured
  | unsupportedUrl
  | unsupportedAttachment
  | siteExtractorsDisabled
  | crossServiceMatchingDisabled
  | catalogProviderUnavailable
  | spotifyPlaylistRequiresUserAuthorization
  | spotifyAlbumRequiresCredentials
  | appleMusicPlaylistRequiresDeveloperCredentials
  | playlistTooLarge
  | unsupportedStream
  | noSearchMatch
  | busy
  | timedOut
  | trackLimitExceeded
  | capacityExceeded
  | failed (message : String)
  deriving DecidableEq, Repr

def mediaResultCode : ResolveError → CommandResultCode
  | .noSearchMatch => .mediaNotFound
  | .busy | .timedOut | .capacityExceeded => .mediaBusy
  | .unsupportedUrl | .unsupportedAttachment | .siteExtractorsDisabled
  | .crossServiceMatchingDisabled | .catalogProviderUnavailable
  | .spotifyPlaylistRequiresUserAuthorization | .spotifyAlbumRequiresCredentials
  | .appleMusicPlaylistRequiresDeveloperCredentials | .playlistTooLarge | .unsupportedStream
  | .trackLimitExceeded => .mediaUnsupported
  | .notConfigured | .failed _ => .mediaFailed

structure ResolvedMediaBatch where
  tracks : List QueueTrack
  deriving DecidableEq, Repr

/-- What a media resolver says about itself. -/
structure MediaResolver where
  queueCapacity : UInt64
  maximumPlaylistItems : UInt64

/-- The number of items that fit into the queue, if any does. -/
def availableBatchItems (media : MediaResolver) (snapshot : PlayerSnapshot) : Option ℕ :=
  let queued := snapshot.queuedTracks.toNat
  let available :=
    if snapshot.currentTrack.isNone then
      min (media.queueCapacity.toNat + 1) (UInt64.size - 1) - queued
    else media.queueCapacity.toNat - queued
  let maximum := min available media.maximumPlaylistItems.toNat
  if maximum = 0 then none else some maximum

/-- Where an execution waits. -/
inductive Execution where
  /-- For the player of the guild. -/
  | received
  /-- For its first snapshot. -/
  | opened
  /-- For the media. -/
  | validated (maximumItems : ℕ)
  /-- For the authorization. -/
  | resolved (batch : ResolvedMediaBatch)
  /-- For the snapshot that the expected revision is compared with. -/
  | authorized (batch : ResolvedMediaBatch) (channel : ChannelId)
  | connecting (batch : ResolvedMediaBatch) (channel : ChannelId) (revision : StateRevision)
  /-- For the snapshot whose revision the batch is enqueued with. -/
  | connected (batch : ResolvedMediaBatch)
  | enqueueing (batch : ResolvedMediaBatch) (revision : StateRevision)
  /-- For the cleanup of a batch that was not committed. -/
  | discarding (batch : ResolvedMediaBatch) (error : CommandExecutionError)
  | finished (result : Except CommandExecutionError PlayerSnapshot)
  deriving DecidableEq

inductive ExecutorEvent where
  /-- The player takes an input that is not the execution's. -/
  | other (input : Input)
  | opened (success : Bool)
  | resolved (outcome : Except ResolveError ResolvedMediaBatch)
  | authorized (authorization : CommandAuthorization) (channel : Option ChannelId)
  /-- The player handles the request that the execution waits for. -/
  | handled (now : UnixTimeMillis)
  | discarded (success : Bool)
  deriving DecidableEq

/-- `PlayerHandle::snapshot`. -/
def snapshotResult : Reply → Except PlayerError PlayerSnapshot
  | .snapshot snapshot => .ok snapshot
  | _ => .error .actorStopped

/-- `PlayerHandle::mutate`. -/
def mutationResult : Reply → Except PlayerError PlayerSnapshot
  | .mutation result => result
  | _ => .error .actorStopped

namespace Execution

/-- The request that an execution waits for. -/
def request : Execution → Option PlayerRequest
  | opened => some .snapshot
  | authorized _ _ => some .snapshot
  | connecting _ channel revision => some (.connect channel revision)
  | connected _ => some .snapshot
  | enqueueing batch revision => some (.enqueueBatch batch.tracks revision)
  | _ => none

/-- What an execution does with the reply to its request. -/
def answered (media : MediaResolver) (envelope : CommandEnvelope) (now : UnixTimeMillis)
    (reply : Reply) : Execution → Execution
  | opened =>
    match snapshotResult reply with
    | .error error => finished (.error (.player error))
    | .ok before =>
      match envelope.validateAgainst before now with
      | .error error => finished (.error (.player (.invalidCommand error)))
      | .ok () =>
        match availableBatchItems media before with
        | none => finished (.error (.rejected .queueFull))
        | some maximumItems => validated maximumItems
  | authorized batch channel =>
    match snapshotResult reply with
    | .error error => discarding batch (.player error)
    | .ok snapshot =>
      if snapshot.revision ≠ envelope.expectedRevision then
        discarding batch (.player
          (.revisionConflict envelope.expectedRevision.get snapshot.revision.get))
      else
        match snapshot.voiceChannelId with
        | none => connecting batch channel snapshot.revision
        | some occupied =>
          if occupied = channel then connected batch
          else discarding batch (.player (.voiceChannelMismatch occupied channel))
  | connecting batch _ _ =>
    match mutationResult reply with
    | .error error => discarding batch (.player error)
    | .ok _ => connected batch
  | connected batch =>
    match snapshotResult reply with
    | .error error => discarding batch (.player error)
    | .ok snapshot => enqueueing batch snapshot.revision
  | enqueueing batch _ =>
    match mutationResult reply with
    | .error error => discarding batch (.player error)
    | .ok snapshot => finished (.ok snapshot)
  | execution => execution

/-- What an execution does with an answer of its surroundings. -/
def advance (envelope : CommandEnvelope) : Execution → ExecutorEvent → Execution
  | received, .opened success =>
    if envelope.actorUserId.isNone then finished (.error (.rejected .notAuthorized))
    else if success then opened
    else finished (.error .retryable)
  | validated _, .resolved outcome =>
    match outcome with
    | .error error => finished (.error (.rejected (mediaResultCode error)))
    | .ok batch => resolved batch
  | resolved batch, .authorized authorization channel =>
    match authorization, channel with
    | .denied, _ => discarding batch (.rejected .notAuthorized)
    | .retryableFailure, _ => discarding batch .retryable
    | .allowed, none => discarding batch (.rejected .notAuthorized)
    | .allowed, some channel => authorized batch channel
  | discarding _ error, .discarded _ => finished (.error error)
  | execution, _ => execution

end Execution

/-- A player with one execution beside everything else it is asked for. -/
structure Dashboard (P S : Type) where
  player : Player P S
  execution : Execution

namespace Dashboard

variable {P S : Type} [PlaybackPort P] [SnapshotPublisher S]

def start (setup : PlayerSetup P S) : Dashboard P S := ⟨setup.player, .received⟩

def step (media : MediaResolver) (envelope : CommandEnvelope) (dashboard : Dashboard P S) :
    ExecutorEvent → Dashboard P S
  | .other input => { dashboard with player := (dashboard.player.step input).2 }
  | .handled now =>
    match dashboard.execution.request with
    | none => dashboard
    | some request =>
      let turn := dashboard.player.step (.request request)
      ⟨turn.2, dashboard.execution.answered media envelope now turn.1⟩
  | event => { dashboard with execution := dashboard.execution.advance envelope event }

/-- The runs of a new player with one execution of an envelope. -/
def Runs (media : MediaResolver) (envelope : CommandEnvelope) (setup : PlayerSetup P S)
    (taken : List (Taken (Dashboard P S) ExecutorEvent)) (dashboard : Dashboard P S) : Prop :=
  Run (fun before event after => step media envelope before event = after) (start setup) taken
    dashboard

end Dashboard

end PepeAudio
