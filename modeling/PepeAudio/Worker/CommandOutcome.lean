import PepeAudio.Core.CommandResult
import PepeAudio.Player.Ports

/-!
# From the outcome of an execution to a terminal result
-/
namespace PepeAudio

inductive CommandExecutionError where
  | player (error : PlayerError)
  | rejected (code : CommandResultCode)
  | retryable
  deriving DecidableEq, Repr

namespace CommandOutcome

def applied (commandId : Uuid) (guildId snapshotGuildId : GuildId) (revision : StateRevision) :
    CommandResult :=
  if snapshotGuildId = guildId then CommandResult.applied commandId guildId revision
  else CommandResult.rejected commandId guildId .invalidPlayerState none

def validationRejection : CommandValidationError → CommandResultCode × Option StateRevision
  | .revisionConflict _ actual => (.revisionConflict, some actual)
  | .deadlineExpired _ _ => (.deadlineExpired, none)
  | .noCurrentTrack _ => (.noCurrentTrack, none)
  | .noPreviousTrack => (.noPreviousTrack, none)
  | .queuedTrackNotFound _ => (.queuedTrackNotFound, none)
  | .trackNotSeekable => (.trackNotSeekable, none)
  | .seekPastEnd _ _ => (.seekPastEnd, none)
  | .invalidMediaInput => (.invalidMediaInput, none)
  | .guildMismatch _ _ | .unavailableInState _ _ => (.invalidPlayerState, none)

/-- The code of a rejection; a failure that may pass has none. -/
def rejection : PlayerError → Option (CommandResultCode × Option StateRevision)
  | .revisionConflict _ actual => some (.revisionConflict, some ⟨actual⟩)
  | .notConnected => some (.notConnected, none)
  | .voiceChannelMismatch _ _ => some (.voiceChannelMismatch, none)
  | .queueFull _ => some (.queueFull, none)
  | .duplicateTrack _ => some (.duplicateTrack, none)
  | .invalidCommand error => some (validationRejection error)
  | .revisionExhausted _ | .idleGenerationExhausted => some (.stateExhausted, none)
  | .actorStopped | .invalidTrack _ | .sideEffect _ _ | .taskFailed _ => none

def rejected (commandId : Uuid) (guildId : GuildId) (error : PlayerError) :
    Option CommandResult :=
  (rejection error).map fun code => CommandResult.rejected commandId guildId code.1 code.2

/-- The terminal result of an execution, if it has one. -/
def terminal (envelope : CommandEnvelope) :
    Except CommandExecutionError PlayerSnapshot → Option CommandResult
  | .ok snapshot =>
    some (applied envelope.commandId envelope.guildId snapshot.guildId snapshot.revision)
  | .error (.player error) => rejected envelope.commandId envelope.guildId error
  | .error (.rejected code) =>
    some (CommandResult.rejected envelope.commandId envelope.guildId code none)
  | .error .retryable => none

end CommandOutcome

end PepeAudio
