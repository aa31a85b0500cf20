import PepeAudio.Core.Player
import PepeAudio.Lib.Decimal
import PepeAudio.Lib.ExpiringMap
import PepeAudio.Lib.MaxRegister
import PepeAudio.Storage.Error

/-!
# The snapshot store

A guild has a disposable snapshot body and a durable revision watermark under
two keys. The watermark is text, and the script compares it as text. How long
the JSON of a snapshot gets is a parameter; the JSON itself reads back as the
snapshot it was made from, so that the body is the snapshot here.
-/
namespace PepeAudio

inductive SnapshotWrite where
  /-- The new snapshot was accepted and an event was published. -/
  | stored
  /-- The stored revision was equal to or newer than the attempted revision. -/
  | stale
  deriving DecidableEq, Repr

/-- The notification of an accepted snapshot. -/
structure SnapshotEvent where
  guildId : GuildId
  revision : StateRevision
  deriving DecidableEq, Repr

def MAX_PLAYER_SNAPSHOT_JSON_BYTES : ℕ := 1048576

def PlayerSnapshotValidationError.field : PlayerSnapshotValidationError → String
  | .queueTooLarge | .queueCountMismatch => "upcoming_tracks"
  | .duplicateTrackId => "track_id"
  | .invalidTitle => "title"
  | .invalidArtist => "artist"
  | .invalidAlbum => "album"
  | .invalidPosition => "position_ms"

def snapshotShapeError (error : PlayerSnapshotValidationError) : StorageError :=
  .corruptData "player_snapshot" error.field

def revisionSortKey (revision : StateRevision) : String := zeroPadded 20 revision.toNat

def parseRevisionSortKey (value : String) : Except StorageError StateRevision :=
  if value.utf8ByteSize ≠ 20 || !value.toList.all Char.isDigit then
    .error (.corruptData "player_snapshot_revision" "revision")
  else
    let number := Nat.ofDigitChars 10 value.toList 0
    if number < UInt64.size then .ok ⟨UInt64.ofNat number⟩
    else .error (.corruptData "player_snapshot_revision" "revision")

structure SnapshotStore where
  /-- The server's clock in milliseconds. -/
  now : ℕ
  bodies : ExpiringMap GuildId PlayerSnapshot
  revisions : GuildId → Option String
  /-- Everything published, oldest first. -/
  events : List SnapshotEvent

namespace SnapshotStore

def empty : SnapshotStore := ⟨0, fun _ => none, fun _ => none, []⟩

/-- `PUT_SNAPSHOT_SCRIPT`. -/
def putScript (snapshot : PlayerSnapshot) (ttl : ℕ) (store : SnapshotStore) :
    SnapshotWrite × SnapshotStore :=
  let key := revisionSortKey snapshot.revision
  let stored := { store with
    bodies := store.bodies.set snapshot.guildId snapshot (store.now + ttl)
    revisions := Function.update store.revisions snapshot.guildId (some key)
    events := store.events ++ [⟨snapshot.guildId, snapshot.revision⟩] }
  match store.revisions snapshot.guildId with
  | some current => if key ≤ current then (.stale, store) else (.stored, stored)
  | none => (.stored, stored)

variable (encodedLength : PlayerSnapshot → ℕ)

def putSnapshotIfNewer (snapshot : PlayerSnapshot) (ttl : ℕ) (store : SnapshotStore) :
    Except StorageError SnapshotWrite × SnapshotStore :=
  if UInt64.size ≤ ttl || ttl = 0 then (.error (.durationOutOfRange "snapshot TTL"), store)
  else match snapshot.validatePublicShape with
    | .error error => (.error (snapshotShapeError error), store)
    | .ok () =>
      if MAX_PLAYER_SNAPSHOT_JSON_BYTES < encodedLength snapshot then
        (.error (.capacityExceeded "player snapshot"), store)
      else
        let outcome := store.putScript snapshot ttl
        (.ok outcome.1, outcome.2)

def decodeSnapshot (guildId : GuildId) (snapshot : PlayerSnapshot) :
    Except StorageError PlayerSnapshot :=
  if MAX_PLAYER_SNAPSHOT_JSON_BYTES < encodedLength snapshot then
    .error (.corruptData "player_snapshot" "encoded_size")
  else if snapshot.guildId ≠ guildId then .error (.corruptData "player_snapshot" "guild_id")
  else match snapshot.validatePublicShape with
    | .error error => .error (snapshotShapeError error)
    | .ok () => .ok snapshot

/-- The script refuses a body that is too long before it is decoded. -/
def getSnapshot (guildId : GuildId) (store : SnapshotStore) :
    Except StorageError (Option PlayerSnapshot) :=
  match store.bodies.get store.now guildId with
  | none => .ok none
  | some snapshot =>
    if MAX_PLAYER_SNAPSHOT_JSON_BYTES < encodedLength snapshot then
      .error (.corruptData "player_snapshot" "encoded_size")
    else (decodeSnapshot encodedLength guildId snapshot).map some

def getSnapshotRevision (guildId : GuildId) (store : SnapshotStore) :
    Except StorageError (Option StateRevision) :=
  match store.revisions guildId with
  | none => .ok none
  | some value => (parseRevisionSortKey value).map some

/-- Only the body goes; the revision clock stays. -/
def invalidateSnapshot (guildId : GuildId) (store : SnapshotStore) :
    Except StorageError Unit × SnapshotStore :=
  (.ok (), { store with bodies := store.bodies.erase guildId })

end SnapshotStore

/-- One call of the snapshot store, or time passing. -/
inductive SnapshotCall where
  | put (snapshot : PlayerSnapshot) (ttl : ℕ)
  | get (guildId : GuildId)
  | getRevision (guildId : GuildId)
  | invalidate (guildId : GuildId)
  | elapse (milliseconds : ℕ)

inductive SnapshotReply where
  | written (reply : Except StorageError SnapshotWrite)
  | snapshot (reply : Except StorageError (Option PlayerSnapshot))
  | revision (reply : Except StorageError (Option StateRevision))
  | invalidated (reply : Except StorageError Unit)
  | elapsed

namespace SnapshotStore

variable (encodedLength : PlayerSnapshot → ℕ)

def serve (store : SnapshotStore) : SnapshotCall → SnapshotReply × SnapshotStore
  | .put snapshot ttl =>
    let outcome := store.putSnapshotIfNewer encodedLength snapshot ttl
    (.written outcome.1, outcome.2)
  | .get guildId => (.snapshot (store.getSnapshot encodedLength guildId), store)
  | .getRevision guildId => (.revision (store.getSnapshotRevision guildId), store)
  | .invalidate guildId =>
    let outcome := store.invalidateSnapshot guildId
    (.invalidated outcome.1, outcome.2)
  | .elapse milliseconds => (.elapsed, { store with now := store.now + milliseconds })

/-- The calls of any clients, in the order they are served. -/
def Serves (taken : List (Taken SnapshotStore (SnapshotCall × SnapshotReply)))
    (store : SnapshotStore) : Prop :=
  Run (Follows (serve encodedLength)) empty taken store

end SnapshotStore

end PepeAudio
