import PepeAudio.Core.Player

/-!
# Player commands and their validation against a snapshot
-/
namespace PepeAudio

/-- A player mutation understood by a guild's owning audio worker. -/
inductive PlayerCommand where
  | enqueueMedia (input : String)
  | play
  | pause
  | stop
  | skip
  | previous
  | removeQueued (trackId : Uuid)
  | moveQueued (trackId : Uuid) (beforeTrackId : Option Uuid)
  | seek (positionMs : UInt64)
  | setVolume (volume : Volume)
  | setRepeat (mode : RepeatMode)
  | setShuffle (enabled : Bool)
  | setHrir (preset : HrirPresetId)
  | setSpatialAudio (enabled : Bool)
  | disconnect
  deriving DecidableEq, Repr

inductive CommandValidationError where
  | invalidMediaInput
  | guildMismatch (commandGuildId snapshotGuildId : GuildId)
  | deadlineExpired (deadline now : UnixTimeMillis)
  | revisionConflict (expected actual : StateRevision)
  | unavailableInState (command : String) (state : PlayerState)
  | noCurrentTrack (command : String)
  | noPreviousTrack
  | queuedTrackNotFound (trackId : Uuid)
  | trackNotSeekable
  | seekPastEnd (requestedMs durationMs : UInt64)
  deriving DecidableEq, Repr

/-- Whether a snapshot lists the track among its upcoming ones. -/
def PlayerSnapshot.hasUpcoming (snapshot : PlayerSnapshot) (trackId : Uuid) : Bool :=
  snapshot.upcomingTracks.any fun track => track.trackId = trackId

def PlayerCommand.validateAgainst (snapshot : PlayerSnapshot) :
    PlayerCommand → Except CommandValidationError Unit
  | .enqueueMedia input =>
    if (trim input).isEmpty || 4096 < input.utf8ByteSize || input.toList.any isControl then
      .error .invalidMediaInput
    else .ok ()
  | .play =>
    if snapshot.state ≠ .paused then .error (.unavailableInState "play" snapshot.state)
    else .ok ()
  | .pause =>
    if snapshot.state ≠ .playing then .error (.unavailableInState "pause" snapshot.state)
    else .ok ()
  | .stop =>
    if snapshot.state = .disconnected then .error (.unavailableInState "stop" snapshot.state)
    else .ok ()
  | .skip =>
    if snapshot.currentTrack.isNone then .error (.noCurrentTrack "skip") else .ok ()
  | .previous =>
    if !snapshot.hasPreviousTrack then .error .noPreviousTrack else .ok ()
  | .removeQueued trackId =>
    if !snapshot.hasUpcoming trackId then .error (.queuedTrackNotFound trackId) else .ok ()
  | .moveQueued trackId beforeTrackId =>
    if !snapshot.hasUpcoming trackId then .error (.queuedTrackNotFound trackId)
    else match beforeTrackId with
      | some before =>
        if !snapshot.hasUpcoming before then .error (.queuedTrackNotFound before) else .ok ()
      | none => .ok ()
  | .seek positionMs =>
    match snapshot.currentTrack with
    | none => .error (.noCurrentTrack "seek")
    | some track =>
      if !track.seekable then .error .trackNotSeekable
      else match track.durationMs with
        | some durationMs =>
          if durationMs < positionMs then .error (.seekPastEnd positionMs durationMs) else .ok ()
        | none => .ok ()
  | .setVolume _ | .setRepeat _ | .setShuffle _ | .setHrir _ | .setSpatialAudio _
  | .disconnect => .ok ()

/-- A command with routing and concurrency metadata. -/
structure CommandEnvelope where
  commandId : Uuid
  idempotencyKey : Uuid
  guildId : GuildId
  actorUserId : Option UserId
  expectedRevision : StateRevision
  deadline : UnixTimeMillis
  command : PlayerCommand
  deriving DecidableEq, Repr

/-- A command paired with the stream entry needed for acknowledgement. -/
structure ReceivedCommand where
  entryId : String
  envelope : CommandEnvelope
  deriving DecidableEq, Repr

def CommandEnvelope.validateAgainst (envelope : CommandEnvelope) (snapshot : PlayerSnapshot)
    (now : UnixTimeMillis) : Except CommandValidationError Unit :=
  if envelope.guildId ≠ snapshot.guildId then
    .error (.guildMismatch envelope.guildId snapshot.guildId)
  else if envelope.deadline.get ≤ now.get then .error (.deadlineExpired envelope.deadline now)
  else if envelope.expectedRevision ≠ snapshot.revision then
    .error (.revisionConflict envelope.expectedRevision snapshot.revision)
  else envelope.command.validateAgainst snapshot

/-- An accepted envelope names the revision it was validated against and a command that is
available there. -/
theorem CommandEnvelope.validateAgainst_eq_ok {envelope : CommandEnvelope}
    {snapshot : PlayerSnapshot} {now : UnixTimeMillis}
    (h : envelope.validateAgainst snapshot now = .ok ()) :
    envelope.expectedRevision = snapshot.revision ∧
      envelope.command.validateAgainst snapshot = .ok () := by
  unfold validateAgainst at h
  split_ifs at h with hguild hdeadline hrevision
  exact ⟨not_not.mp hrevision, h⟩

end PepeAudio
