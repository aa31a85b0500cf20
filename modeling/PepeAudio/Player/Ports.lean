import PepeAudio.Core.Command
import PepeAudio.Player.Model

/-!
# Errors, events and ports of the player actor

The playback adapter and the snapshot publisher are type parameters of the
actor. Both are called through one function of the operation, because what the
actor does around a call does not depend on which operation it is.
-/
namespace PepeAudio

inductive SideEffect where
  | connect
  | play
  | pause
  | resume
  | stop
  | seek
  | setVolume
  | setHrir
  | setSpatialAudio
  | disconnect
  deriving DecidableEq, Repr

inductive PlayerError where
  | actorStopped
  | revisionConflict (expected actual : UInt64)
  | notConnected
  | voiceChannelMismatch (connected requested : ChannelId)
  | queueFull (capacity : ℕ)
  | duplicateTrack (trackId : Uuid)
  | invalidTrack (field : String)
  | invalidCommand (error : CommandValidationError)
  | sideEffect (operation : SideEffect) (message : String)
  | revisionExhausted (revision : StateRevision)
  | idleGenerationExhausted
  | taskFailed (message : String)
  deriving DecidableEq, Repr

/-- Why a handler stops early: an error for the caller, or a panic that ends the task. -/
inductive Failure where
  | error (error : PlayerError)
  | panic (message : String)
  deriving DecidableEq, Repr

inductive PlaybackEndReason where
  | natural
  | workerFailed
  | songbirdEnded
  | songbirdError
  deriving DecidableEq, Repr

def PlaybackEndReason.isNatural : PlaybackEndReason → Bool
  | .natural => true
  | _ => false

structure ShutdownReport where
  disconnectError : Option String
  finalRevision : StateRevision
  deriving DecidableEq, Repr

inductive PlayerEvent where
  | stateChanged (snapshot : PlayerSnapshot)
  | idleTimerArmed (generation : IdleGeneration) (timeout : ℕ)
  | idleTimerCancelled (generation : IdleGeneration)
  | staleIdleTimerIgnored (expired current : IdleGeneration)
  | idleDisconnected (generation : IdleGeneration)
  | snapshotPublicationFailed (revision : StateRevision) (message : String)
  | backgroundSideEffectFailed (operation : SideEffect) (message : String)
  | shutdown (report : ShutdownReport)
  deriving DecidableEq, Repr

/-- An operation of the playback adapter with its arguments. -/
inductive PlaybackCall where
  | connect (channelId : ChannelId)
  | play (track : QueueTrack) (generation : PlaybackGeneration)
  | pause
  | resume
  | stop
  | seek (positionMs : UInt64) (generation : PlaybackGeneration)
  | setVolume (volume : Volume)
  | setHrir (preset : HrirPresetId)
  | setSpatialAudio (enabled : Bool)
  | disconnect
  deriving DecidableEq, Repr

/-- Voice and decoder operations of an adapter with state `P`. A call either succeeds or fails
with the text of its error, and may change the adapter either way. -/
class PlaybackPort (P : Type) where
  call : PlaybackCall → P → Except String Unit × P

/-- Ordered publication hook for authoritative snapshots. -/
class SnapshotPublisher (S : Type) where
  publish : PlayerSnapshot → S → Except String Unit × S

/-- A call the actor made and whether it succeeded. -/
structure CallRecord where
  call : PlaybackCall
  succeeded : Bool
  deriving DecidableEq, Repr

/-- The generation a call hands to the adapter, for the calls that start playback. -/
def PlaybackCall.generation : PlaybackCall → Option PlaybackGeneration
  | .play _ generation => some generation
  | .seek _ generation => some generation
  | _ => none

inductive PlayerRequest where
  | connect (channelId : ChannelId) (expectedRevision : StateRevision)
  | enqueue (track : QueueTrack) (expectedRevision : StateRevision)
  | enqueueBatch (tracks : List QueueTrack) (expectedRevision : StateRevision)
  | apply (envelope : CommandEnvelope)
  | playbackEnded (identity : PlaybackIdentity) (reason : PlaybackEndReason)
  | reconcileVoiceChannel (channelId : Option ChannelId)
  | snapshot
  | shutdown
  deriving DecidableEq, Repr

end PepeAudio
