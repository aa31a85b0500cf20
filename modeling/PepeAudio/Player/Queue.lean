import PepeAudio.Player.Actor

/-!
# Connecting and the queue

Handlers for connecting to voice and for adding, removing and moving tracks.
-/
namespace PepeAudio.Actor

variable {P S : Type} [PlaybackPort P] [SnapshotPublisher S]

/-- Bring a freshly joined call to the settings of the model. -/
def initializeConnection : ActorM P S Unit := do
  let model ← getModel
  sideEffect .setVolume (.setVolume model.volume)
  if let some preset := model.hrirPreset then sideEffect .setHrir (.setHrir preset)
  sideEffect .setSpatialAudio (.setSpatialAudio model.spatialAudioEnabled)

def connect (channelId : ChannelId) (expectedRevision : StateRevision) :
    ActorM P S PlayerSnapshot := do
  checkRevision expectedRevision
  match (← getModel).voiceChannelId with
  | some connected =>
    if connected = channelId then currentSnapshot
    else raise (.voiceChannelMismatch connected channelId)
  | none =>
    let nextRevision ← nextRevision
    sideEffect .connect (.connect channelId)
    match ← attempt initializeConnection with
    | .error error =>
      let _ ← call .disconnect
      raise error
    | .ok () =>
      let wasIdle := (← getModel).isIdleConnected
      modifyModel fun model =>
        { model with voiceChannelId := some channelId, state := .idleConnected }
      finishChange wasIdle nextRevision

/-- The upcoming tracks with one more, appended or at its seeded place. -/
def insertUpcoming (shuffleEnabled : Bool) (queue : List QueueTrack) (track : QueueTrack) :
    List QueueTrack :=
  if shuffleEnabled then insertShuffled queue track (seedFromUuid track.trackId)
  else queue ++ [track]

def enqueue (track : QueueTrack) (expectedRevision : StateRevision) :
    ActorM P S PlayerSnapshot := do
  checkRevision expectedRevision
  let actor ← get
  if actor.model.voiceChannelId.isNone then raise .notConnected
  else if !track.hasValidPublicTitle then raise (.invalidTrack "title")
  else if actor.model.containsTrack track.trackId then raise (.duplicateTrack track.trackId)
  else if actor.model.current.isSome &&
      actor.config.maxQueuedTracks ≤ actor.model.queue.length then
    raise (.queueFull actor.config.maxQueuedTracks)
  else
    let nextRevision ← nextRevision
    let wasIdle := actor.model.isIdleConnected
    if actor.model.current.isNone then
      let generation ← nextPlaybackGeneration
      sideEffect .play (.play track generation)
      let now ← readClock
      modifyModel fun model =>
        { model with
          current := some (ActiveTrack.playing track generation now.instant)
          state := .playing }
    else
      modifyModel fun model =>
        { model with queue := insertUpcoming model.shuffleEnabled model.queue track }
    finishChange wasIdle nextRevision

/-- The checks of a batch, with the identities of the tracks already looked at. -/
def checkBatch (model : PlayerModel) : List QueueTrack → List Uuid → Except PlayerError Unit
  | [], _ => .ok ()
  | track :: tracks, identities =>
    if !track.hasValidPublicTitle then .error (.invalidTrack "title")
    else if model.containsTrack track.trackId || track.trackId ∈ identities then
      .error (.duplicateTrack track.trackId)
    else checkBatch model tracks (track.trackId :: identities)

def enqueueBatch (tracks : List QueueTrack) (expectedRevision : StateRevision) :
    ActorM P S PlayerSnapshot := do
  checkRevision expectedRevision
  let actor ← get
  if tracks.isEmpty then currentSnapshot
  else if actor.model.voiceChannelId.isNone then raise .notConnected
  else
    let startsImmediately := actor.model.current.isNone
    let additionalQueued := tracks.length - startsImmediately.toNat
    if actor.config.maxQueuedTracks < actor.model.queue.length + additionalQueued then
      raise (.queueFull actor.config.maxQueuedTracks)
    else
      match checkBatch actor.model tracks [] with
      | .error error => raise error
      | .ok () =>
        let nextRevision ← nextRevision
        let wasIdle := actor.model.isIdleConnected
        match startsImmediately, tracks with
        | true, first :: rest =>
          let generation ← nextPlaybackGeneration
          sideEffect .play (.play first generation)
          let now ← readClock
          modifyModel fun model =>
            { model with
              current := some (ActiveTrack.playing first generation now.instant)
              state := .playing }
          modifyModel fun model =>
            { model with queue := rest.foldl (insertUpcoming model.shuffleEnabled) model.queue }
        | _, _ =>
          modifyModel fun model =>
            { model with queue := tracks.foldl (insertUpcoming model.shuffleEnabled) model.queue }
        finishChange wasIdle nextRevision

/-- Where a track stands in the queue. -/
def queuePosition (queue : List QueueTrack) (trackId : Uuid) : Option ℕ :=
  queue.findIdx? fun track => track.trackId = trackId

def removeQueued (trackId : Uuid) : ActorM P S PlayerSnapshot := do
  match queuePosition (← getModel).queue trackId with
  | none => raise (.invalidCommand (.queuedTrackNotFound trackId))
  | some index =>
    let nextRevision ← nextRevision
    let wasIdle := (← getModel).isIdleConnected
    modifyModel fun model => { model with queue := model.queue.eraseIdx index }
    finishChange wasIdle nextRevision

/-- The place a moved track takes once it has been taken out of the queue. -/
def moveDestination (queue : List QueueTrack) (trackId : Uuid) (sourceIndex : ℕ) :
    Option Uuid → Except PlayerError ℕ
  | some beforeTrackId =>
    if beforeTrackId = trackId then .ok sourceIndex
    else match queuePosition queue beforeTrackId with
      | none => .error (.invalidCommand (.queuedTrackNotFound beforeTrackId))
      | some targetIndex =>
        .ok (if sourceIndex < targetIndex then targetIndex - 1 else targetIndex)
  | none => .ok (queue.length - 1)

def moveQueued (trackId : Uuid) (beforeTrackId : Option Uuid) : ActorM P S PlayerSnapshot := do
  let queue := (← getModel).queue
  match queuePosition queue trackId with
  | none => raise (.invalidCommand (.queuedTrackNotFound trackId))
  | some sourceIndex =>
    match moveDestination queue trackId sourceIndex beforeTrackId with
    | .error error => raise error
    | .ok destinationIndex =>
      if destinationIndex = sourceIndex then currentSnapshot
      else
        let nextRevision ← nextRevision
        let wasIdle := (← getModel).isIdleConnected
        match queue[sourceIndex]? with
        | none => panic "the queued source index was found above"
        | some moved =>
          let remaining := queue.eraseIdx sourceIndex
          if remaining.length < destinationIndex then panic "index out of bounds"
          else
            modifyModel fun model =>
              { model with queue := remaining.insertIdx destinationIndex moved }
            finishChange wasIdle nextRevision

end PepeAudio.Actor
