import PepeAudio.Player.Actor

/-!
# Voice states observed from outside
-/
namespace PepeAudio.Actor

variable {P S : Type} [PlaybackPort P] [SnapshotPublisher S]

/-- The model of a player that has left voice. -/
def clearDisconnected (model : PlayerModel) : PlayerModel :=
  { model with
    voiceChannelId := none
    current := none
    queue := []
    history := []
    state := .disconnected }

def disconnectBestEffort : ActorM P S Unit := do
  let _ ← background .disconnect .disconnect
  return

def connectObservedChannel (channel : ChannelId) : ActorM P S Bool := do
  if ← background .connect (.connect channel) then return true
  else
    disconnectBestEffort
    return false

def reconcileVoiceChannel (observedChannel : Option ChannelId) : ActorM P S PlayerSnapshot := do
  if (← getModel).voiceChannelId = observedChannel then currentSnapshot
  else
    let nextRevision ← nextRevision
    let wasIdle := (← getModel).isIdleConnected
    match observedChannel with
    | some channel =>
      if ← connectObservedChannel channel then
        modifyModel fun model =>
          { model with
            voiceChannelId := some channel
            state := if model.current.isNone then .idleConnected else model.state }
      else modifyModel clearDisconnected
    | none =>
      disconnectBestEffort
      modifyModel clearDisconnected
    finishChange wasIdle nextRevision

end PepeAudio.Actor
