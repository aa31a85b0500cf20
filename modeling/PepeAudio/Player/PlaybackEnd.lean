import PepeAudio.Player.Actor

/-!
# The end of a playback

A finished track is followed by the first candidate the adapter accepts. The
queue is taken out of the model while candidates are tried.
-/
namespace PepeAudio.Actor

variable {P S : Type} [PlaybackPort P] [SnapshotPublisher S]

/-- The history with one more track; the oldest one leaves when it is full. -/
def pushHistory (capacity : ℕ) (history : List QueueTrack) (track : QueueTrack) :
    List QueueTrack :=
  (if history.length = capacity then history.tail else history) ++ [track]

def rememberTrack (track : QueueTrack) : ActorM P S Unit :=
  modify fun actor =>
    { actor with model :=
      { actor.model with
        history := pushHistory actor.config.maxQueuedTracks actor.model.history track } }

def tryPlay (candidate : QueueTrack) : ActorM P S (Option PlaybackGeneration) := do
  match ← attempt nextPlaybackGeneration with
  | .error _ =>
    -- an exhausted counter is the only error of `next_playback_generation`
    send (.backgroundSideEffectFailed .play
      "the guild player task failed: playback generation is exhausted")
    return none
  | .ok generation =>
    if ← background .play (.play candidate generation) then return some generation
    else return none

/-- The first candidate that plays, with the candidates after it. -/
def firstPlayable : List QueueTrack → ActorM P S (Option ActiveTrack × List QueueTrack)
  | [] => return (none, [])
  | candidate :: candidates => do
    match ← tryPlay candidate with
    | some generation =>
      let now ← readClock
      return (some (ActiveTrack.playing candidate generation now.instant), candidates)
    | none => firstPlayable candidates

/-- Play the finished track again, or remember it and go on with the candidates. -/
def restartOrAdvance (finished : QueueTrack) (candidates : List QueueTrack) :
    ActorM P S (Option ActiveTrack × List QueueTrack) := do
  match ← tryPlay finished with
  | some generation =>
    let now ← readClock
    return (some (ActiveTrack.playing finished generation now.instant), candidates)
  | none =>
    rememberTrack finished
    firstPlayable candidates

def afterNaturalEnd (finished : QueueTrack) (candidates : List QueueTrack) :
    ActorM P S (Option ActiveTrack × List QueueTrack) := do
  match (← getModel).repeatMode with
  | .track => restartOrAdvance finished candidates
  | .queue =>
    if candidates.isEmpty then restartOrAdvance finished candidates
    else
      rememberTrack finished
      firstPlayable (candidates ++ [finished])
  | .off =>
    rememberTrack finished
    firstPlayable candidates

def playbackEnded (identity : PlaybackIdentity) (reason : PlaybackEndReason) :
    ActorM P S PlayerSnapshot := do
  match (← getModel).current with
  | none => currentSnapshot
  | some active =>
    if active.identity ≠ identity then currentSnapshot
    else
      let nextRevision ← nextRevision
      let wasIdle := (← getModel).isIdleConnected
      let candidates := (← getModel).queue
      modifyModel fun model => { model with current := none, queue := [] }
      let next ←
        if reason.isNatural then afterNaturalEnd active.track candidates
        else firstPlayable candidates
      modifyModel fun model =>
        { model with
          queue := next.2
          current := next.1
          state := if next.1.isSome then .playing else .idleConnected }
      finishChange wasIdle nextRevision

end PepeAudio.Actor
