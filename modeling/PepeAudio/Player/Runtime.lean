import PepeAudio.Lib.Run
import PepeAudio.Player.Commands

/-!
# The actor task

The task handles one request or one timer expiration at a time until it is shut
down. `step` is one turn of its loop; a run of the player is a run of `step`
under any inputs, so that stale and repeated expirations and end events are
inputs like any other.
-/
namespace PepeAudio

namespace Actor

variable {P S : Type} [PlaybackPort P] [SnapshotPublisher S]

/-- Returns `true` only after the current idle generation disconnected and
committed its terminal snapshot. -/
def handleIdleExpiration (expired : IdleGeneration) : ActorM P S Bool := do
  let actor ← get
  let current := actor.idleTimer.generation
  if expired ≠ current || !actor.model.isIdleConnected then
    send (.staleIdleTimerIgnored expired current)
    return false
  else
    set { actor with idleTimer := actor.idleTimer.markFired expired }
    match ← attempt nextRevision with
    | .error _ => return false
    | .ok nextRevision =>
      if ← background .disconnect .disconnect then
        let wasIdle := (← getModel).isIdleConnected
        modifyModel clearDisconnected
        match ← attempt (finishChange wasIdle nextRevision) with
        | .ok _ =>
          send (.idleDisconnected expired)
          return true
        | .error _ => return false
      else
        let _ ← attempt armIdleTimer
        return false

def DISCONNECT_ATTEMPTS : ℕ := 3

/-- The remaining attempts to leave voice, with the error of the last one. -/
def disconnectAttempts : ℕ → Option String → ActorM P S (Option String)
  | 0, lastError => do
    if let some message := lastError then
      send (.backgroundSideEffectFailed .disconnect message)
    return lastError
  | attempts + 1, _ => do
    match ← call .disconnect with
    | .ok () => return none
    | .error message => disconnectAttempts attempts (some message)

def disconnectForShutdown : ActorM P S (Option String) := do
  if (← getModel).voiceChannelId.isNone then return none
  else disconnectAttempts DISCONNECT_ATTEMPTS none

/-- Commit what is left of a player that has left voice. -/
def clearForShutdown : ActorM P S Unit := do
  let model ← getModel
  let needsChange : Bool := model.voiceChannelId.isSome || model.current.isSome ||
    !model.queue.isEmpty || model.state ≠ .disconnected
  if needsChange then
    match ← attempt nextRevision with
    | .ok nextRevision =>
      modifyModel clearDisconnected
      let _ ← attempt (finishChange model.isIdleConnected nextRevision)
    | .error _ => return

def gracefulShutdown : ActorM P S ShutdownReport := do
  match ← disconnectForShutdown with
  | some disconnectError => return ⟨some disconnectError, (← getModel).revision⟩
  | none =>
    if (← get).idleTimer.active then
      let _ ← attempt cancelIdleTimer
    clearForShutdown
    let report := ⟨none, (← getModel).revision⟩
    send (.shutdown report)
    return report

end Actor

/-- What the caller of a request receives. -/
inductive Reply where
  | mutation (result : Except PlayerError PlayerSnapshot)
  | snapshot (snapshot : PlayerSnapshot)
  | shutdown (report : ShutdownReport)
  | none
  deriving DecidableEq

/-- What the loop of the task waits for. -/
inductive Input where
  | request (request : PlayerRequest)
  | idleExpired (generation : IdleGeneration)
  | requestsClosed
  deriving DecidableEq

namespace Actor

variable {P S : Type} [PlaybackPort P] [SnapshotPublisher S]

def reply (handler : ActorM P S PlayerSnapshot) : ActorM P S Reply := do
  return .mutation (← attempt handler)

/-- The reply, and whether the task is to end. -/
def handleRequest : PlayerRequest → ActorM P S (Reply × Bool)
  | .connect channelId expectedRevision => do
    return (← reply (connect channelId expectedRevision), false)
  | .enqueue track expectedRevision => do
    return (← reply (enqueue track expectedRevision), false)
  | .enqueueBatch tracks expectedRevision => do
    return (← reply (enqueueBatch tracks expectedRevision), false)
  | .apply envelope => do
    return (← reply (applyCommand envelope), false)
  | .playbackEnded identity reason => do
    return (← reply (playbackEnded identity reason), false)
  | .reconcileVoiceChannel channelId => do
    return (← reply (reconcileVoiceChannel channelId), false)
  | .snapshot => do
    return (.snapshot (← currentSnapshot), false)
  | .shutdown => do
    let report ← gracefulShutdown
    return (.shutdown report, report.disconnectError.isNone)

/-- One turn of the task's loop. -/
def turn : Input → ActorM P S (Reply × Bool)
  | .request request => handleRequest request
  | .idleExpired generation => do
    if ← handleIdleExpiration generation then
      let _ ← gracefulShutdown
      return (.none, true)
    else return (.none, false)
  | .requestsClosed => do
    let _ ← gracefulShutdown
    return (.none, true)

end Actor

/-- Whether the task still runs, has returned, or was torn down by a panic. -/
inductive TaskStatus where
  | running
  | returned
  | panicked
  deriving DecidableEq, Repr

/-- The actor together with the task that runs it. -/
structure Player (P S : Type) where
  actor : Actor P S
  status : TaskStatus

namespace Player

variable {P S : Type} [PlaybackPort P] [SnapshotPublisher S]

/-- A new actor that has published its first snapshot. -/
def start (guildId : GuildId) (initialRevision : StateRevision) (playback : P) (publisher : S)
    (config : PlayerConfig) (clock : Stream' Reading) : Player P S :=
  let actor := Actor.new guildId initialRevision playback publisher config clock
  match (do let initial ← Actor.currentSnapshot; Actor.publish initial : ActorM P S Unit) actor with
  | .ok _ actor => ⟨actor, .running⟩
  | .error _ actor => ⟨actor, .panicked⟩

/-- One turn; a task that has ended takes no input any more. -/
def step (player : Player P S) (input : Input) : Reply × Player P S :=
  match player.status with
  | .running =>
    match Actor.turn input player.actor with
    | .ok (reply, ends) actor => (reply, ⟨actor, if ends then .returned else .running⟩)
    | .error _ actor => (.none, ⟨actor, .panicked⟩)
  | _ => (.none, player)

end Player

/-- The parameters a player is started with. -/
structure PlayerSetup (P S : Type) where
  guildId : GuildId
  initialRevision : StateRevision
  playback : P
  publisher : S
  config : PlayerConfig
  clock : Stream' Reading

namespace PlayerSetup

variable {P S : Type} [PlaybackPort P] [SnapshotPublisher S]

def player (setup : PlayerSetup P S) : Player P S :=
  Player.start setup.guildId setup.initialRevision setup.playback setup.publisher setup.config
    setup.clock

/-- The transitions of a player's run, each with its input and reply. -/
abbrev Runs (setup : PlayerSetup P S) (taken : List (Taken (Player P S) (Input × Reply)))
    (player : Player P S) : Prop :=
  Run (Follows Player.step) setup.player taken player

end PlayerSetup

/-- An adapter that accepts or refuses its next calls as written down, and accepts the rest. -/
structure ScriptedPlayback where
  script : List Bool
  deriving DecidableEq, Repr

instance : PlaybackPort ScriptedPlayback where
  call _ playback :=
    match playback.script with
    | [] => (.ok (), playback)
    | true :: script => (.ok (), ⟨script⟩)
    | false :: script => (.error "refused", ⟨script⟩)

instance : SnapshotPublisher Unit where
  publish _ publisher := (.ok (), publisher)

namespace PlayerSetup

/-- Room for ten upcoming tracks. -/
def tenTracks : PlayerConfig :=
  ⟨1, 1, 10, 1000, by decide, by decide, by decide, by decide, by decide⟩

/-- A player of guild 1 over a scripted adapter. -/
def scripted (script : List Bool) : PlayerSetup ScriptedPlayback Unit where
  guildId := ⟨.MIN⟩
  initialRevision := StateRevision.INITIAL
  playback := ⟨script⟩
  publisher := ()
  config := tenTracks
  clock := fun n => ⟨⟨n.toUInt64⟩, n⟩

/-- The state a scripted player reaches with some inputs. -/
def after (script : List Bool) (inputs : List Input) : Player ScriptedPlayback Unit :=
  (record Player.step (scripted script).player inputs).2

end PlayerSetup

/-- The tracks of a script differ in nothing but their identities. -/
def QueueTrack.scripted (n : ℕ) : QueueTrack :=
  ⟨Uuid.fromU128 n, "track", none, none, true, ⟨"source"⟩, QueueTrackMetadata.default⟩

def CommandEnvelope.scripted (key : ℕ) (expectedRevision : UInt64) (command : PlayerCommand) :
    CommandEnvelope :=
  ⟨Uuid.fromU128 key, Uuid.fromU128 key, ⟨.MIN⟩, none, ⟨expectedRevision⟩, ⟨1000000⟩,
    command⟩

end PepeAudio
