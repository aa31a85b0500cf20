import PepeAudio.Lib.Program
import PepeAudio.Player.Shuffle
import PepeAudio.Player.Timer
import Mathlib.Data.Stream.Defs

/-!
# The actor and what its handlers are made of

A handler is a program over the actor that may stop with an error or a panic and
keeps every assignment made before. The clocks are a stream of readings, so that
nothing is assumed about how time passes between two of them.
-/
namespace PepeAudio

structure Actor (P S : Type) where
  model : PlayerModel
  playback : P
  publisher : S
  config : PlayerConfig
  idleTimer : IdleTimer
  /-- Everything sent to the event channel, oldest first. -/
  events : List PlayerEvent
  /-- The most recently remembered key last. -/
  recentIdempotency : List Uuid
  playbackGeneration : PlaybackGeneration
  /-- The clock readings still to come. -/
  clock : Stream' Reading
  /-- Every adapter call made so far, oldest first; no handler reads it. -/
  calls : List CallRecord
  /-- Every snapshot handed to the publisher so far, oldest first; no handler reads it. -/
  published : List PlayerSnapshot

abbrev ActorM (P S : Type) := EStateM Failure (Actor P S)

namespace Actor

variable {P S : Type}

def new (guildId : GuildId) (initialRevision : StateRevision) (playback : P) (publisher : S)
    (config : PlayerConfig) (clock : Stream' Reading) : Actor P S where
  model := PlayerModel.new guildId initialRevision
  playback := playback
  publisher := publisher
  config := config
  idleTimer := IdleTimer.new
  events := []
  recentIdempotency := []
  playbackGeneration := ⟨0⟩
  clock := clock
  calls := []
  published := []

def getModel : ActorM P S PlayerModel := return (← get).model

def modifyModel (f : PlayerModel → PlayerModel) : ActorM P S Unit :=
  modify fun actor => { actor with model := f actor.model }

def readClock : ActorM P S Reading := do
  let actor ← get
  set { actor with clock := actor.clock.tail }
  return actor.clock.head

def send (event : PlayerEvent) : ActorM P S Unit :=
  modify fun actor => { actor with events := actor.events ++ [event] }

def raise {α : Type} (error : PlayerError) : ActorM P S α := throw (.error error)

def panic {α : Type} (message : String) : ActorM P S α := throw (.panic message)

/-- Hand the error of a program back as a value; a panic still ends the task. -/
def attempt {α : Type} (program : ActorM P S α) : ActorM P S (Except PlayerError α) := fun actor =>
  match program actor with
  | .ok value actor => .ok (.ok value) actor
  | .error (.error error) actor => .ok (.error error) actor
  | .error (.panic message) actor => .error (.panic message) actor

section Adapter

variable [PlaybackPort P]

def call (operation : PlaybackCall) : ActorM P S (Except String Unit) := do
  let actor ← get
  let outcome := PlaybackPort.call operation actor.playback
  set { actor with
    playback := outcome.2
    calls := actor.calls ++ [CallRecord.mk operation outcome.1.isOk] }
  return outcome.1

/-- A call whose failure becomes the error of the request. -/
def sideEffect (effect : SideEffect) (operation : PlaybackCall) : ActorM P S Unit := do
  match ← call operation with
  | .ok () => return
  | .error message => raise (.sideEffect effect message)

/-- A call whose failure is only reported; says whether it succeeded. -/
def background (effect : SideEffect) (operation : PlaybackCall) : ActorM P S Bool := do
  match ← call operation with
  | .ok () => return true
  | .error message =>
    send (.backgroundSideEffectFailed effect message)
    return false

end Adapter

def currentSnapshot : ActorM P S PlayerSnapshot := do
  let reading ← readClock
  return (← getModel).snapshot reading

def checkRevision (expected : StateRevision) : ActorM P S Unit := do
  let revision := (← getModel).revision
  if expected = revision then return
  else raise (.revisionConflict expected.get revision.get)

def nextRevision : ActorM P S StateRevision := do
  let revision := (← getModel).revision
  match revision.checkedNext with
  | some next => return next
  | none => raise (.revisionExhausted revision)

def nextPlaybackGeneration : ActorM P S PlaybackGeneration := do
  let actor ← get
  match actor.playbackGeneration.next with
  | some generation =>
    set { actor with playbackGeneration := generation }
    return generation
  | none => raise (.taskFailed "playback generation is exhausted")

def armIdleTimer : ActorM P S Unit := do
  let actor ← get
  let outcome := actor.idleTimer.arm
  set { actor with idleTimer := outcome.2 }
  match outcome.1 with
  | .ok generation => send (.idleTimerArmed generation actor.config.idleTimeout)
  | .error error => raise error

def cancelIdleTimer : ActorM P S Unit := do
  let actor ← get
  let outcome := actor.idleTimer.cancel
  set { actor with idleTimer := outcome.2 }
  match outcome.1 with
  | .ok generation => send (.idleTimerCancelled generation)
  | .error error => raise error

def reconcileIdle (wasIdle : Bool) : ActorM P S Unit := do
  let actor ← get
  let isIdle := actor.model.isIdleConnected
  if !wasIdle && isIdle then armIdleTimer
  else if wasIdle && !isIdle && actor.idleTimer.active then cancelIdleTimer
  else return

section Publisher

variable [SnapshotPublisher S]

def publish (snapshot : PlayerSnapshot) : ActorM P S Unit := do
  send (.stateChanged snapshot)
  let actor ← get
  let outcome := SnapshotPublisher.publish snapshot actor.publisher
  set { actor with
    publisher := outcome.2
    published := actor.published ++ [snapshot] }
  match outcome.1 with
  | .ok () => return
  | .error message => send (.snapshotPublicationFailed snapshot.revision message)

def finishChange (wasIdle : Bool) (nextRevision : StateRevision) : ActorM P S PlayerSnapshot := do
  modifyModel fun model => { model with revision := nextRevision }
  reconcileIdle wasIdle
  let snapshot ← currentSnapshot
  publish snapshot
  return snapshot

end Publisher

end Actor

end PepeAudio
