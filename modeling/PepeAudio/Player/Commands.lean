import PepeAudio.Player.PlaybackEnd
import PepeAudio.Player.Queue
import PepeAudio.Player.VoiceState

/-!
# Player commands

`applyCommand` answers a remembered key with the current snapshot, validates the
envelope against the snapshot of the moment and remembers the key of every
command that succeeds. The handlers rely on that validation where they expect a
current track or a history.
-/
namespace PepeAudio.Actor

variable {P S : Type} [PlaybackPort P] [SnapshotPublisher S]

def IDEMPOTENCY_WINDOW : ℕ := 1024

def resume : ActorM P S PlayerSnapshot := do
  let nextRevision ← nextRevision
  sideEffect .resume .resume
  let model ← getModel
  let wasIdle := model.isIdleConnected
  match model.current with
  | none => panic "core validation requires a current track"
  | some active =>
    let now ← readClock
    modifyModel fun model =>
      { model with current := some (active.resume now.instant), state := .playing }
    finishChange wasIdle nextRevision

def pause : ActorM P S PlayerSnapshot := do
  let nextRevision ← nextRevision
  sideEffect .pause .pause
  let model ← getModel
  let wasIdle := model.isIdleConnected
  match model.current with
  | none => panic "core validation requires a current track"
  | some active =>
    let now ← readClock
    modifyModel fun model =>
      { model with current := some (active.pause now.instant), state := .paused }
    finishChange wasIdle nextRevision

def stop : ActorM P S PlayerSnapshot := do
  let model ← getModel
  if model.current.isNone && model.queue.isEmpty && model.history.isEmpty then currentSnapshot
  else
    let nextRevision ← nextRevision
    if model.current.isSome then sideEffect .stop .stop
    let wasIdle := model.isIdleConnected
    modifyModel fun model =>
      { model with current := none, queue := [], history := [], state := .idleConnected }
    finishChange wasIdle nextRevision

def skip : ActorM P S PlayerSnapshot := do
  let nextRevision ← nextRevision
  match (← getModel).queue with
  | replacement :: queue =>
    let generation ← nextPlaybackGeneration
    sideEffect .play (.play replacement generation)
    let wasIdle := (← getModel).isIdleConnected
    if let some active := (← getModel).current then rememberTrack active.track
    let now ← readClock
    modifyModel fun model =>
      { model with
        queue := queue
        current := some (ActiveTrack.playing replacement generation now.instant)
        state := .playing }
    finishChange wasIdle nextRevision
  | [] =>
    sideEffect .stop .stop
    let wasIdle := (← getModel).isIdleConnected
    if let some active := (← getModel).current then rememberTrack active.track
    modifyModel fun model => { model with current := none, state := .idleConnected }
    finishChange wasIdle nextRevision

/-- The queue after going back to `previous`: without it, and with the current track first. -/
def queueAfterPrevious (model : PlayerModel) (previous : QueueTrack) : List QueueTrack :=
  let queue := match queuePosition model.queue previous.trackId with
    | some index => model.queue.eraseIdx index
    | none => model.queue
  match model.current with
  | some active => active.track :: queue
  | none => queue

def previous : ActorM P S PlayerSnapshot := do
  let actor ← get
  match actor.model.history.getLast? with
  | none => panic "core validation requires history"
  | some previous =>
    let queuedPrevious := queuePosition actor.model.queue previous.trackId
    let resultingQueueLen :=
      actor.model.queue.length - queuedPrevious.isSome.toNat + actor.model.current.isSome.toNat
    if actor.config.maxQueuedTracks < resultingQueueLen then
      raise (.queueFull actor.config.maxQueuedTracks)
    else
      let nextRevision ← nextRevision
      let generation ← nextPlaybackGeneration
      sideEffect .play (.play previous generation)
      let wasIdle := actor.model.isIdleConnected
      let now ← readClock
      modifyModel fun model =>
        { model with
          history := model.history.dropLast
          queue := queueAfterPrevious model previous
          current := some (ActiveTrack.playing previous generation now.instant)
          state := .playing }
      finishChange wasIdle nextRevision

def seek (positionMs : UInt64) : ActorM P S PlayerSnapshot := do
  let nextRevision ← nextRevision
  let generation ← nextPlaybackGeneration
  sideEffect .seek (.seek positionMs generation)
  let model ← getModel
  let wasIdle := model.isIdleConnected
  let advancing : Bool := model.state = .playing
  match model.current with
  | none => panic "core validation requires current track"
  | some active =>
    let now ← readClock
    modifyModel fun model =>
      { model with current := some (active.seek positionMs advancing generation now.instant) }
    finishChange wasIdle nextRevision

def setVolume (volume : Volume) : ActorM P S PlayerSnapshot := do
  let model ← getModel
  if model.volume = volume then currentSnapshot
  else
    let nextRevision ← nextRevision
    if model.voiceChannelId.isSome then sideEffect .setVolume (.setVolume volume)
    let wasIdle := model.isIdleConnected
    modifyModel fun model => { model with volume := volume }
    finishChange wasIdle nextRevision

def setRepeat (mode : RepeatMode) : ActorM P S PlayerSnapshot := do
  let model ← getModel
  if model.repeatMode = mode then currentSnapshot
  else
    let nextRevision ← nextRevision
    let wasIdle := model.isIdleConnected
    modifyModel fun model => { model with repeatMode := mode }
    finishChange wasIdle nextRevision

def setShuffle (enabled : Bool) (idempotencyKey : Uuid) : ActorM P S PlayerSnapshot := do
  let model ← getModel
  if model.shuffleEnabled = enabled then currentSnapshot
  else
    let nextRevision ← nextRevision
    let wasIdle := model.isIdleConnected
    if enabled then
      modifyModel fun model =>
        { model with queue := shuffleQueue model.queue (seedFromUuid idempotencyKey) }
    modifyModel fun model => { model with shuffleEnabled := enabled }
    finishChange wasIdle nextRevision

def setHrir (preset : HrirPresetId) : ActorM P S PlayerSnapshot := do
  let model ← getModel
  if model.hrirPreset = some preset && model.spatialAudioEnabled then currentSnapshot
  else
    let nextRevision ← nextRevision
    if model.voiceChannelId.isSome then sideEffect .setHrir (.setHrir preset)
    let wasIdle := model.isIdleConnected
    modifyModel fun model =>
      { model with hrirPreset := some preset, spatialAudioEnabled := true }
    finishChange wasIdle nextRevision

def setSpatial (enabled : Bool) : ActorM P S PlayerSnapshot := do
  let model ← getModel
  if model.spatialAudioEnabled = enabled then currentSnapshot
  else
    let nextRevision ← nextRevision
    if model.voiceChannelId.isSome then sideEffect .setSpatialAudio (.setSpatialAudio enabled)
    let wasIdle := model.isIdleConnected
    modifyModel fun model => { model with spatialAudioEnabled := enabled }
    finishChange wasIdle nextRevision

def disconnect : ActorM P S PlayerSnapshot := do
  let model ← getModel
  if model.voiceChannelId.isNone then currentSnapshot
  else
    let nextRevision ← nextRevision
    sideEffect .disconnect .disconnect
    let wasIdle := model.isIdleConnected
    modifyModel clearDisconnected
    finishChange wasIdle nextRevision

def execute (command : PlayerCommand) (idempotencyKey : Uuid) : ActorM P S PlayerSnapshot :=
  match command with
  | .enqueueMedia _ => raise (.invalidTrack "media command route")
  | .play => resume
  | .pause => pause
  | .stop => stop
  | .skip => skip
  | .previous => previous
  | .removeQueued trackId => removeQueued trackId
  | .moveQueued trackId beforeTrackId => moveQueued trackId beforeTrackId
  | .seek positionMs => seek positionMs
  | .setVolume volume => setVolume volume
  | .setRepeat mode => setRepeat mode
  | .setShuffle enabled => setShuffle enabled idempotencyKey
  | .setHrir preset => setHrir preset
  | .setSpatialAudio enabled => setSpatial enabled
  | .disconnect => disconnect

/-- The remembered keys with one more; the oldest one leaves a full window. -/
def rememberIdempotency (recent : List Uuid) (key : Uuid) : List Uuid :=
  (if recent.length = IDEMPOTENCY_WINDOW then recent.tail else recent) ++ [key]

def applyCommand (envelope : CommandEnvelope) : ActorM P S PlayerSnapshot := do
  if envelope.idempotencyKey ∈ (← get).recentIdempotency then currentSnapshot
  else
    let snapshot ← currentSnapshot
    let now ← readClock
    match envelope.validateAgainst snapshot now.unix with
    | .error error => raise (.invalidCommand error)
    | .ok () =>
      let result ← execute envelope.command envelope.idempotencyKey
      modify fun actor =>
        { actor with
          recentIdempotency :=
            rememberIdempotency actor.recentIdempotency envelope.idempotencyKey }
      return result

end PepeAudio.Actor
