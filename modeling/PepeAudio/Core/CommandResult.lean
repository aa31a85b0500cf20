import PepeAudio.Core.Identifier

/-!
# Results of commands
-/
namespace PepeAudio

/-- Stable terminal reason exposed to command submitters. -/
inductive CommandResultCode where
  | notAuthorized
  | revisionConflict
  | deadlineExpired
  | invalidPlayerState
  | noCurrentTrack
  | noPreviousTrack
  | queuedTrackNotFound
  | trackNotSeekable
  | seekPastEnd
  | notConnected
  | voiceChannelMismatch
  | queueFull
  | duplicateTrack
  | invalidMediaInput
  | mediaNotFound
  | mediaUnsupported
  | mediaBusy
  | mediaFailed
  | stateExhausted
  | idempotencyReplayed
  | resultExpired
  deriving DecidableEq, Repr

inductive CommandResultStatus where
  | pending
  | applied (resultingRevision : StateRevision)
  | denied (code : CommandResultCode)
  | rejected (code : CommandResultCode) (currentRevision : Option StateRevision)
  deriving DecidableEq, Repr

/-- Guild-scoped status for one command transport attempt. -/
structure CommandResult where
  commandId : Uuid
  guildId : GuildId
  status : CommandResultStatus
  deriving DecidableEq, Repr

namespace CommandResult

def pending (commandId : Uuid) (guildId : GuildId) : CommandResult :=
  ⟨commandId, guildId, .pending⟩

def applied (commandId : Uuid) (guildId : GuildId) (resultingRevision : StateRevision) :
    CommandResult :=
  ⟨commandId, guildId, .applied resultingRevision⟩

def denied (commandId : Uuid) (guildId : GuildId) (code : CommandResultCode) : CommandResult :=
  ⟨commandId, guildId, .denied code⟩

def rejected (commandId : Uuid) (guildId : GuildId) (code : CommandResultCode)
    (currentRevision : Option StateRevision) : CommandResult :=
  ⟨commandId, guildId, .rejected code currentRevision⟩

def isTerminal (result : CommandResult) : Bool := result.status ≠ .pending

end CommandResult

end PepeAudio
