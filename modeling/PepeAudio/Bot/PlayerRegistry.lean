import PepeAudio.Bot.DashboardCommandExecutor
import PepeAudio.Bot.PlayerFactory
import PepeAudio.Worker.SnapshotRuntime

/-!
# The players of a guild

Calls of the registry for one guild run beside the actors that the factory has
spawned for it and beside the two workers of the guild. A call stands at one of
its awaits. An actor that has committed a change hands its snapshot to the
publishers before it answers, takes its next input or ends. Calls for one guild
find the same lock in the map as long as one of them holds it.
-/
namespace PepeAudio

/-- Who holds a handle of an actor. -/
inductive Handles where
  /-- Only the call that creates it. -/
  | creator
  | shared
  | dropped
  deriving DecidableEq

structure SpawnedActor (P S : Type) where
  player : Player P S
  /-- What it has still to hand to its publishers. -/
  publishing : List PlayerSnapshot
  /-- The index of its settings publisher. -/
  settingsPublisher : ℕ
  handles : Handles

namespace SpawnedActor

variable {P S : Type} [PlaybackPort P] [SnapshotPublisher S]

def spawn (setup : PlayerSetup P S) (settingsPublisher : ℕ) : SpawnedActor P S :=
  ⟨setup.player, setup.player.actor.published, settingsPublisher, .creator⟩

/-- One turn of an actor that waits for its next input; one that has ended gives no reply. -/
def turn (actor : SpawnedActor P S) (input : Input) : Reply × SpawnedActor P S :=
  let outcome := actor.player.step input
  (outcome.1,
    { actor with
      player := outcome.2
      publishing := outcome.2.actor.published.drop actor.player.actor.published.length })

/-- Whether whoever can reach the actor may give it an input. -/
def accepts (actor : SpawnedActor P S) : Input → Bool
  | .request _ => actor.handles = .shared
  | .idleExpired _ => true
  | .requestsClosed => actor.handles = .dropped

end SpawnedActor

/-- Where a call of the registry waits. -/
inductive OperationPhase where
  /-- For the lock, to get or create a player or to remove it. -/
  | waiting (removal : Bool)
  /-- For the snapshot that shows whether the player lives. -/
  | checking (actor : ℕ)
  /-- For the row of the guild. -/
  | loading
  /-- For the row that is made of the defaults. -/
  | defaulting
  | viewing (row : GuildSettings)
  | loaded (settings : InitialSettings)
  | watermarked (settings : InitialSettings) (durable : Option StateRevision)
  | numbered (settings : InitialSettings) (initialRevision : StateRevision)
  /-- The snapshot publisher is there. -/
  | prepared (settings : InitialSettings) (initialRevision : StateRevision)
  /-- For the new actor to handle a request; the commands are to follow. -/
  | asking (actor : ℕ) (request : PlayerRequest) (commands : List PlayerCommand)
  | answered (actor : ℕ) (reply : Reply) (commands : List PlayerCommand)
  /-- For the actor, taken out of the registry, to shut down. -/
  | stopping (actor : ℕ) (reply : Option Reply)
  deriving DecidableEq

namespace OperationPhase

def isWaiting : OperationPhase → Bool
  | waiting _ => true
  | _ => false

/-- The actor that is not in the registry because a call creates or removes it. -/
def inHand : OperationPhase → Option ℕ
  | asking actor _ _ | answered actor _ _ | stopping actor _ => some actor
  | _ => none

end OperationPhase

/-- A call, with the lock that it found in the map. -/
structure Operation where
  lock : ℕ
  phase : OperationPhase
  deriving DecidableEq

/-- What the factory makes a new actor of, besides its settings. -/
structure ActorResources (P S : Type) where
  playback : P
  publisher : S
  clock : Stream' Reading

/-- The guild and what the process runs with. -/
structure GuildEnvironment where
  guildId : GuildId
  encodedLength : PlayerSnapshot → ℕ
  ttl : ℕ
  limits : PlayerLimits
  catalog : HrirCatalog

inductive RegistryEvent (P S : Type) where
  | arrive (removal : Bool)
  /-- A call gets the lock. -/
  | enter (operation : ℕ)
  /-- The actor handles what a call has asked of it. -/
  | handle (operation : ℕ)
  /-- The reply arrives; the identities are those of the next envelope. -/
  | proceed (operation : ℕ) (commandId idempotencyKey : Uuid)
  | timeout (operation : ℕ)
  | readRow (operation : ℕ) (fails : Bool)
  | createRow (operation : ℕ) (fails : Bool)
  | view (operation : ℕ)
  | readDurable (operation : ℕ) (fails : Bool)
  | readVolatile (operation : ℕ)
  | prepare (operation : ℕ) (fails : Bool)
  | spawn (operation : ℕ) (resources : Option (ActorResources P S))
  /-- An actor takes an input that is not one of a call. -/
  | act (actor : ℕ) (input : Input)
  | publish (actor : ℕ)
  | persistSnapshot (event : SnapshotRuntimeEvent)
  | persistSettings (event : SettingsRuntimeEvent)

/-- The steps that the snapshot worker, the store and its other users take on their own. -/
def SnapshotRuntimeEvent.isPersistence : SnapshotRuntimeEvent → Bool
  | .observe _ | .execute _ | .reply _ | .fail _ _ | .peek _ | .retry _ | .land _ | .invalidate _
  | .elapse _ => true
  | _ => false

/-- The steps that the settings worker and the database take on their own. -/
def SettingsRuntimeEvent.isPersistence : SettingsRuntimeEvent → Bool
  | .turn _ | .changed _ | .execute _ | .reply _ | .fail _ | .retry _ | .land _ => true
  | _ => false

structure GuildPlayers (P S : Type) where
  snapshots : SnapshotRuntime
  settings : SettingsRuntime
  /-- Every actor the factory has spawned, the oldest first. -/
  actors : List (SpawnedActor P S)
  registered : Option ℕ
  operations : List Operation
  /-- The lock in the map; it is gone once no call holds it. -/
  lock : ℕ

namespace GuildPlayers

variable {P S : Type}

def start (snapshots : SnapshotRuntime) (settings : SettingsRuntime) : GuildPlayers P S :=
  ⟨snapshots, settings, [], none, [], 0⟩

/-- A call goes on. -/
def goOn (operation : ℕ) (phase : OperationPhase) (players : GuildPlayers P S) :
    GuildPlayers P S :=
  { players with operations := players.operations.modify operation ({ · with phase }) }

/-- A call returns, and leaves its lock. -/
def finish (operation : ℕ) (players : GuildPlayers P S) : GuildPlayers P S :=
  { players with operations := players.operations.eraseIdx operation }

def setActor (index : ℕ) (actor : SpawnedActor P S) (players : GuildPlayers P S) :
    GuildPlayers P S :=
  { players with actors := players.actors.set index actor }

/-- The publisher of an actor takes a snapshot. -/
def publishSnapshot (environment : GuildEnvironment) (snapshot : PlayerSnapshot)
    (runtime : SnapshotRuntime) : SnapshotRuntime :=
  let entered := (runtime.step environment.encodedLength environment.ttl
    (.publish environment.guildId snapshot)).2
  (entered.step environment.encodedLength environment.ttl (.send runtime.publishing.length)).2

def publishSettings (publisher : ℕ) (snapshot : PlayerSnapshot) (runtime : SettingsRuntime) :
    SettingsRuntime :=
  let offered := (runtime.step (.publish publisher snapshot)).2
  (offered.step (.queue publisher)).2

def arrive (removal : Bool) (players : GuildPlayers P S) : GuildPlayers P S :=
  let lock :=
    if players.operations.any (·.lock = players.lock) then players.lock else players.lock + 1
  { players with lock, operations := players.operations ++ [⟨lock, .waiting removal⟩] }

/-- Whether another call is past the same lock. -/
def isLocked (lock : ℕ) (players : GuildPlayers P S) : Bool :=
  players.operations.any fun operation => operation.lock = lock && !operation.phase.isWaiting

/-- A call that has got the lock looks the player up. -/
def enter (operation : ℕ) (removal : Bool) (players : GuildPlayers P S) : GuildPlayers P S :=
  match removal, players.registered with
  | true, none => players.finish operation
  | true, some actor => { players with registered := none }.goOn operation (.stopping actor none)
  | false, some actor => players.goOn operation (.checking actor)
  | false, none => players.goOn operation .loading

section Actors

variable [PlaybackPort P] [SnapshotPublisher S]

/-- The actor of an operation handles its request. -/
def handle (operation : ℕ) (phase : OperationPhase) (players : GuildPlayers P S) :
    GuildPlayers P S :=
  let ask (index : ℕ) (request : PlayerRequest)
      (next : Reply → GuildPlayers P S → GuildPlayers P S) : GuildPlayers P S :=
    match players.actors[index]? with
    | none => players
    | some actor =>
      if actor.publishing.isEmpty then
        let turn := actor.turn (.request request)
        next turn.1 (players.setActor index turn.2)
      else players
  match phase with
  | .checking actor => ask actor .snapshot fun reply players =>
      match snapshotResult reply with
      | .ok _ => players.finish operation
      | .error _ => { players with registered := none }.goOn operation .loading
  | .asking actor request commands => ask actor request fun reply players =>
      players.goOn operation (.answered actor reply commands)
  | .stopping actor none => ask actor .shutdown fun reply players =>
      players.goOn operation (.stopping actor (some reply))
  | _ => players

/-- What a new actor has answered to the request for a snapshot or to a command. -/
def creationResult : Reply → Except PlayerError PlayerSnapshot
  | .snapshot snapshot => .ok snapshot
  | reply => mutationResult reply

/-- The reply of an actor reaches the call. -/
def proceed (guildId : GuildId) (operation : ℕ) (commandId idempotencyKey : Uuid)
    (phase : OperationPhase) (players : GuildPlayers P S) : GuildPlayers P S :=
  match phase with
  | .answered index reply commands =>
    match players.actors[index]? with
    | none => players
    | some actor =>
      if !actor.publishing.isEmpty then players
      else
        match creationResult reply, commands with
        | .error _, _ =>
          (players.setActor index { actor with handles := .dropped }).finish operation
        | .ok _, [] =>
          ({ players with registered := some index }.setActor index
            { actor with handles := .shared }).finish operation
        | .ok snapshot, command :: commands =>
          players.goOn operation (.asking index
            (.apply (initialEnvelope guildId snapshot.revision commandId idempotencyKey command))
            commands)
  | .stopping index (some reply) =>
    match players.actors[index]? with
    | none => players
    | some actor =>
      if !actor.publishing.isEmpty then players
      else match reply with
        | .shutdown ⟨some _, _⟩ => { players with registered := some index }.finish operation
        | _ => players.finish operation
  | _ => players

/-- The time for an actor's reply is over. -/
def timeout (operation : ℕ) (phase : OperationPhase) (players : GuildPlayers P S) :
    GuildPlayers P S :=
  match phase with
  | .checking _ => players.finish operation
  | .stopping actor _ => { players with registered := some actor }.finish operation
  | _ => players

def readRow (environment : GuildEnvironment) (operation : ℕ) (fails : Bool)
    (players : GuildPlayers P S) : GuildPlayers P S :=
  match players.settings.table.getGuildSettings environment.guildId with
  | .error _ => players.finish operation
  | .ok row =>
    if fails || !environment.catalog.isInstalled environment.limits.defaultHrirPreset then
      players.finish operation
    else match row with
      | some row => players.goOn operation (.viewing row)
      | none => players.goOn operation .defaulting

def createRow (environment : GuildEnvironment) (operation : ℕ) (fails : Bool)
    (players : GuildPlayers P S) : GuildPlayers P S :=
  if fails then players.finish operation
  else
    let outcome := players.settings.table.createGuildSettings
      (environment.limits.guildSettings environment.guildId)
    match outcome.1 with
    | .error _ => players.finish operation
    | .ok row =>
      { players with settings := { players.settings with table := outcome.2 } }.goOn operation
        (.viewing row)

/-- The factory has its publishers, and spawns the actor. -/
def spawnActor (environment : GuildEnvironment) (operation : ℕ) (settings : InitialSettings)
    (initialRevision : StateRevision) (resources : ActorResources P S)
    (players : GuildPlayers P S) : GuildPlayers P S :=
  match PlayerConfig.new 64 128 environment.limits.maxQueueItems.toNat
      (settings.idleDisconnect * 1000000000) with
  | .error _ => players.finish operation
  | .ok config =>
    let outcome := players.settings.step (.publisher environment.guildId settings.persistent)
    let actor := SpawnedActor.spawn ⟨environment.guildId, initialRevision, resources.playback,
      resources.publisher, config, resources.clock⟩ players.settings.publishers.length
    { players with
      settings := outcome.2
      actors := players.actors ++ [actor] }.goOn operation
        (.asking players.actors.length .snapshot settings.commands)

/-- A call goes on by itself, or with an answer of its surroundings. -/
def advance (environment : GuildEnvironment) (players : GuildPlayers P S) (operation : ℕ)
    (phase : OperationPhase) : RegistryEvent P S → GuildPlayers P S
  | .handle _ => players.handle operation phase
  | .proceed _ commandId idempotencyKey =>
    players.proceed environment.guildId operation commandId idempotencyKey phase
  | .timeout _ => players.timeout operation phase
  | .readRow _ fails =>
    if phase = .loading then players.readRow environment operation fails else players
  | .createRow _ fails =>
    if phase = .defaulting then players.createRow environment operation fails else players
  | .view _ =>
    match phase with
    | .viewing row =>
      players.goOn operation (.loaded (initialSettings environment.limits environment.catalog row
        ((players.settings.workers environment.guildId).map SettingsWorker.mailbox)))
    | _ => players
  | .readDurable _ fails =>
    match phase with
    | .loaded settings =>
      match players.snapshots.store.getSnapshotRevision environment.guildId with
      | .error _ => players.finish operation
      | .ok durable =>
        if fails then players.finish operation
        else players.goOn operation (.watermarked settings durable)
    | _ => players
  | .readVolatile _ =>
    match phase with
    | .watermarked settings durable =>
      match nextActorRevision durable (players.snapshots.latestRevision environment.guildId) with
      | none => players.finish operation
      | some revision => players.goOn operation (.numbered settings revision)
    | _ => players
  | .prepare _ fails =>
    match phase with
    | .numbered settings revision =>
      if fails || !environment.catalog.isInstalled settings.hrirPreset then players.finish operation
      else
        { players with
          snapshots := (players.snapshots.step environment.encodedLength environment.ttl
            (.register environment.guildId)).2 }.goOn operation (.prepared settings revision)
    | _ => players
  | .spawn _ resources =>
    match phase, resources with
    | .prepared settings revision, some resources =>
      players.spawnActor environment operation settings revision resources
    | .prepared _ _, none => players.finish operation
    | _, _ => players
  | _ => players

def step (environment : GuildEnvironment) (players : GuildPlayers P S)
    (event : RegistryEvent P S) : GuildPlayers P S :=
  match event with
  | .arrive removal => players.arrive removal
  | .enter index =>
    match players.operations[index]? with
    | some ⟨lock, .waiting removal⟩ =>
      if players.isLocked lock then players else players.enter index removal
    | _ => players
  | .act index input =>
    match players.actors[index]? with
    | none => players
    | some actor =>
      if actor.publishing.isEmpty && actor.accepts input then
        players.setActor index (actor.turn input).2
      else players
  | .publish index =>
    match players.actors[index]? with
    | none => players
    | some actor =>
      match actor.publishing with
      | [] => players
      | snapshot :: publishing =>
        { players with
          snapshots := publishSnapshot environment snapshot players.snapshots
          settings := publishSettings actor.settingsPublisher snapshot players.settings }.setActor
            index { actor with publishing }
  | .persistSnapshot event =>
    if event.isPersistence then
      { players with
        snapshots :=
          (players.snapshots.step environment.encodedLength environment.ttl event).2 }
    else players
  | .persistSettings event =>
    if event.isPersistence then { players with settings := (players.settings.step event).2 }
    else players
  | .handle index | .proceed index _ _ | .timeout index | .readRow index _ | .createRow index _
  | .view index | .readDurable index _ | .readVolatile index | .prepare index _
  | .spawn index _ =>
    match players.operations[index]? with
    | some operation => players.advance environment index operation.phase event
    | none => players

/-- The runs of a process over a store of snapshots and a table of settings. -/
def Runs (environment : GuildEnvironment) (store : SnapshotStore) (table : GuildSettingsTable)
    (taken : List (Taken (GuildPlayers P S) (RegistryEvent P S))) (players : GuildPlayers P S) :
    Prop :=
  ∃ snapshots, SnapshotRuntime.start store environment.ttl = .ok snapshots ∧
    Run (fun before event after => before.step environment event = after)
      (start snapshots (.start table)) taken players

end Actors

end GuildPlayers

end PepeAudio
