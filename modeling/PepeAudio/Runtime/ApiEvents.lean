import PepeAudio.Lib.HashSet
import PepeAudio.Lib.Run
import PepeAudio.Storage.SnapshotStore

/-!
# The fan-out of live updates

A notification only says that a snapshot was accepted; the event loop reads the
snapshot from the store and sends it to every stream of the guild. After a
failure it subscribes again and reads the snapshots of all guilds that anybody
has ever asked for. Of a snapshot only the guild and the revision matter here.
-/
namespace PepeAudio

/-- A snapshot as the store returns it. -/
structure StoredSnapshot where
  guildId : GuildId
  revision : StateRevision
  deriving DecidableEq

/-- The receiver of a broadcast channel: how many events it has lost, and those it has not read. -/
structure BroadcastReceiver where
  skipped : ℕ
  unread : List StoredSnapshot
  deriving DecidableEq

/-- A channel keeps as many events as a power of two that is not below the capacity asked for. -/
def channelLength (capacity : ℕ) : ℕ := (max capacity 1).nextPowerOfTwo

def BroadcastReceiver.push (capacity : ℕ) (snapshot : StoredSnapshot)
    (receiver : BroadcastReceiver) : BroadcastReceiver :=
  let unread := receiver.unread ++ [snapshot]
  if channelLength capacity < unread.length then ⟨receiver.skipped + 1, unread.tail⟩
  else ⟨receiver.skipped, unread⟩

inductive SseEvent where
  | snapshot (revision : StateRevision)
  | player (revision : StateRevision)
  | resync (reason : String) (lastRevision : StateRevision) (skippedEvents : Option ℕ)
  deriving DecidableEq

structure StreamState where
  guildId : GuildId
  initial : Option SseEvent
  receiver : BroadcastReceiver
  lastRevision : StateRevision
  closeAfterEvent : Bool
  /-- Everything the stream has sent so far, oldest first; no poll reads it. -/
  sent : List SseEvent
  deriving DecidableEq

def playerStream (snapshot : StoredSnapshot) (receiver : BroadcastReceiver) : StreamState where
  guildId := snapshot.guildId
  initial := some (.snapshot snapshot.revision)
  receiver := receiver
  lastRevision := snapshot.revision
  closeAfterEvent := false
  sent := []

namespace StreamState

def resync (reason : String) (skippedEvents : Option ℕ) (state : StreamState) : StreamState :=
  { state with
    closeAfterEvent := true
    sent := state.sent ++ [.resync reason state.lastRevision skippedEvents] }

/-- What the loop of a stream does with an event. -/
def receive (snapshot : StoredSnapshot) (state : StreamState) : StreamState :=
  if snapshot.guildId ≠ state.guildId then state.resync "guild_mismatch" none
  else if snapshot.revision.toNat ≤ state.lastRevision.toNat then state
  else if state.lastRevision.checkedNext ≠ some snapshot.revision then
    state.resync "revision_gap" none
  else
    { state with
      lastRevision := snapshot.revision
      sent := state.sent ++ [.player snapshot.revision] }

/-- One step of a stream that is asked for its next event; `none` is its end. -/
def poll (state : StreamState) : Option StreamState :=
  if state.closeAfterEvent then none
  else match state.initial with
  | some event => some { state with initial := none, sent := state.sent ++ [event] }
  | none =>
    if 0 < state.receiver.skipped then
      some ({ state with receiver := { state.receiver with skipped := 0 } }.resync "bounded_lag"
        (some state.receiver.skipped))
    else match state.receiver.unread with
    | [] => some state
    | snapshot :: unread =>
      some ({ state with receiver := { state.receiver with unread } }.receive snapshot)

end StreamState

/-- How far a request for events has come. -/
inductive ClientPhase where
  /-- The guild is among the subscribed ones. -/
  | listed
  | subscribed (receiver : BroadcastReceiver)
  /-- The snapshot has been read. -/
  | fetched (snapshot : StoredSnapshot) (receiver : BroadcastReceiver)
  | streaming (state : StreamState)
  | closed
  deriving DecidableEq

structure EventsClient where
  guildId : GuildId
  phase : ClientPhase
  deriving DecidableEq

/-- What a client gets of a snapshot that is published. -/
def EventsClient.deliver (capacity : ℕ) (snapshot : StoredSnapshot) (client : EventsClient) :
    EventsClient :=
  if client.guildId ≠ snapshot.guildId then client
  else match client.phase with
  | .subscribed receiver => { client with phase := .subscribed (receiver.push capacity snapshot) }
  | .fetched initial receiver =>
    { client with phase := .fetched initial (receiver.push capacity snapshot) }
  | .streaming state =>
    { client with
      phase := .streaming { state with receiver := state.receiver.push capacity snapshot } }
  | .listed | .closed => client

/-- What the stream of a subscription yields. -/
inductive SubscriptionItem where
  | notification (event : SnapshotEvent)
  /-- An error, or the end. -/
  | failure
  deriving DecidableEq

/-- How a read of the store fails: because of what is stored, or because of the store. -/
inductive ReadError where
  | data
  | unavailable
  deriving DecidableEq

inductive LoopPhase where
  | listening
  /-- A notification was taken, and the snapshot is being read. -/
  | reading (event : SnapshotEvent)
  /-- The snapshot is about to be published. -/
  | publishing (snapshot : StoredSnapshot)
  /-- Waiting before the next attempt to subscribe. -/
  | retrying
  /-- Subscribed again, and about to look which guilds there are. -/
  | resubscribed
  | scanning (guilds : List GuildId)
  | scanned (snapshot : StoredSnapshot) (guilds : List GuildId)
  | stopped
  deriving DecidableEq

structure ApiBackend where
  /-- The snapshots in the store. -/
  stored : GuildId → StateRevision
  /-- Whether the subscription is up, and what it has delivered. -/
  up : Bool
  pending : List SubscriptionItem
  phase : LoopPhase
  subscriptionReady : Bool
  subscribedGuilds : HashSet GuildId
  clients : List EventsClient

inductive ApiEvent where
  /-- A snapshot is offered to the store. -/
  | write (guildId : GuildId) (revision : StateRevision)
  /-- The subscription fails. -/
  | fail
  | take
  | read (fails : Bool)
  | publish
  | resubscribe (succeeds : Bool)
  | copyGuilds
  | finishScan
  | shutdown
  | connect (guildId : GuildId)
  | subscribe (client : ℕ)
  | fetch (client : ℕ) (fails : Bool)
  | open (client : ℕ)
  | poll (client : ℕ)
  /-- The client goes away, or a guard around the stream ends it. -/
  | close (client : ℕ)
  deriving DecidableEq

namespace ApiBackend

def start (stored : GuildId → StateRevision) : ApiBackend :=
  ⟨stored, true, [], .listening, true, ∅, []⟩

/-- A read of the store, whose snapshots are all there and valid. -/
def getSnapshot (backend : ApiBackend) (guildId : GuildId) (fails : Bool) :
    Except ReadError (Option StoredSnapshot) :=
  if fails then .error .unavailable else .ok (some ⟨guildId, backend.stored guildId⟩)

def disconnected (backend : ApiBackend) : ApiBackend :=
  { backend with phase := .retrying, subscriptionReady := false }

/-- What the loop does with the snapshot it has read for a notification. -/
def handleNotification (backend : ApiBackend) (event : SnapshotEvent) :
    Except ReadError (Option StoredSnapshot) → ApiBackend
  | .ok (some snapshot) =>
    if event.revision.toNat ≤ snapshot.revision.toNat then
      { backend with phase := .publishing snapshot }
    else { backend with phase := .listening }
  | .ok none | .error .data => { backend with phase := .listening }
  | .error .unavailable => backend.disconnected

/-- What the recovery does with the snapshot it has read for a guild. -/
def handleScanned (backend : ApiBackend) (guildId : GuildId) (guilds : List GuildId) :
    Except ReadError (Option StoredSnapshot) → ApiBackend
  | .ok (some snapshot) =>
    if snapshot.guildId = guildId then { backend with phase := .scanned snapshot guilds }
    else { backend with phase := .scanning guilds }
  | .ok none | .error .data => { backend with phase := .scanning guilds }
  | .error .unavailable => { backend with phase := .retrying }

/-- `EventHub::publish`. -/
def publish (capacity : ℕ) (snapshot : StoredSnapshot) (backend : ApiBackend) : ApiBackend :=
  { backend with clients := backend.clients.map (EventsClient.deliver capacity snapshot) }

def setClient (backend : ApiBackend) (index : ℕ) (client : EventsClient) (phase : ClientPhase) :
    ApiBackend :=
  { backend with clients := backend.clients.set index { client with phase } }

/-- One step of the request of a client. -/
def clientStep (backend : ApiBackend) (index : ℕ) (client : EventsClient) :
    ApiEvent → ApiBackend
  | .subscribe _ =>
    match client.phase with
    | .listed => backend.setClient index client (.subscribed ⟨0, []⟩)
    | _ => backend
  | .fetch _ fails =>
    match client.phase with
    | .subscribed receiver =>
      match backend.getSnapshot client.guildId fails with
      | .ok (some snapshot) => backend.setClient index client (.fetched snapshot receiver)
      | .ok none =>
        backend.setClient index client (.fetched ⟨client.guildId, StateRevision.INITIAL⟩ receiver)
      | .error _ => backend.setClient index client .closed
    | _ => backend
  | .open _ =>
    match client.phase with
    | .fetched snapshot receiver =>
      backend.setClient index client (.streaming (playerStream snapshot receiver))
    | _ => backend
  | .poll _ =>
    match client.phase with
    | .streaming state =>
      match state.poll with
      | some state => backend.setClient index client (.streaming state)
      | none => backend.setClient index client .closed
    | _ => backend
  | .close _ => backend.setClient index client .closed
  | _ => backend

def step (capacity : ℕ) (backend : ApiBackend) (event : ApiEvent) : ApiBackend :=
  match event with
  | .write guildId revision =>
    if (backend.stored guildId).toNat < revision.toNat then
      let stored := Function.update backend.stored guildId revision
      if backend.up then
        { backend with
          stored
          pending := backend.pending ++ [.notification ⟨guildId, revision⟩] }
      else { backend with stored }
    else backend
  | .fail =>
    if backend.up then { backend with up := false, pending := backend.pending ++ [.failure] }
    else backend
  | .take =>
    match backend.phase, backend.pending with
    | .listening, .notification event :: pending =>
      { backend with pending, phase := .reading event }
    | .listening, .failure :: pending => disconnected { backend with pending }
    | _, _ => backend
  | .read fails =>
    match backend.phase with
    | .reading event => backend.handleNotification event (backend.getSnapshot event.guildId fails)
    | .scanning (guildId :: guilds) =>
      backend.handleScanned guildId guilds (backend.getSnapshot guildId fails)
    | _ => backend
  | .publish =>
    match backend.phase with
    | .publishing snapshot => { backend.publish capacity snapshot with phase := .listening }
    | .scanned snapshot guilds =>
      { backend.publish capacity snapshot with phase := .scanning guilds }
    | _ => backend
  | .resubscribe succeeds =>
    match backend.phase with
    | .retrying =>
      if succeeds then { backend with up := true, pending := [], phase := .resubscribed }
      else backend
    | _ => backend
  | .copyGuilds =>
    match backend.phase with
    | .resubscribed => { backend with phase := .scanning backend.subscribedGuilds.elems }
    | _ => backend
  | .finishScan =>
    match backend.phase with
    | .scanning [] => { backend with phase := .listening, subscriptionReady := true }
    | _ => backend
  | .shutdown =>
    match backend.phase with
    | .listening | .retrying => { backend with phase := .stopped, subscriptionReady := false }
    | _ => backend
  | .connect guildId =>
    { backend with
      subscribedGuilds := backend.subscribedGuilds.insert guildId
      clients := backend.clients ++ [⟨guildId, .listed⟩] }
  | .subscribe index | .fetch index _ | .open index | .poll index | .close index =>
    match backend.clients[index]? with
    | some client => backend.clientStep index client event
    | none => backend

end ApiBackend

end PepeAudio
