import PepeAudio.Lib.Run
import PepeAudio.Storage.CommandStore

/-!
# Admission of commands

One script admits a command, counts it for its actor and its guild in the
present window, and leaves a pending result and a stream entry. Its times stay
below 2^53, so that the numbers of the script are exact. The server refuses a
time to live that ends beyond a signed 64-bit millisecond time, and does not
undo what a script has written before it fails.
-/
namespace PepeAudio

/-- Shared admission policy for authenticated Web player commands. -/
structure PlayerCommandRateLimit where
  perActorPerGuild : ℕ
  perGuild : ℕ
  windowMs : ℕ

def PlayerCommandRateLimit.STANDARD : PlayerCommandRateLimit := ⟨20, 60, 60000⟩

def COMMAND_STREAM_CAPACITY : ℕ := 100000

/-- The shard of a guild. The remainder is below the number of shards, and fits. -/
def shardId (guildId : GuildId) (shardCount : UInt32) : UInt32 :=
  UInt32.ofNat ((guildId.value.get >>> 22).toNat % shardCount.toNat)

structure RateCounter where
  count : ℕ
  resetAtMs : ℕ
  deriving DecidableEq, Repr

/-- What the admission script reads and writes: the streams of the shards, the results, and the
counters of actors and guilds. -/
structure AdmissionStore where
  /-- The server's clock in milliseconds. -/
  now : ℕ
  streams : UInt32 → List ReceivedCommand
  results : ExpiringMap (GuildId × Uuid) CommandResult
  actorCounters : ExpiringMap (GuildId × UserId) RateCounter
  guildCounters : ExpiringMap GuildId RateCounter

inductive AdmissionResponse where
  | enqueued (entryId : String)
  | pendingConflict
  | streamCapacityExceeded
  | rateLimited (retrySeconds : ℕ)
  | alreadyPending
  /-- The script has failed on the way. -/
  | failed
  deriving DecidableEq, Repr

namespace AdmissionStore

def empty : AdmissionStore := ⟨0, fun _ => [], fun _ => none, fun _ => none, fun _ => none⟩

def windowEndMs (now windowMs : ℕ) : ℕ := (now / windowMs + 1) * windowMs

/-- `read_counter`: the count and the reset time of a counter, if it belongs to the present
window. -/
def readCounter {κ : Type} (counters : ExpiringMap κ RateCounter) (now windowMs : ℕ) (key : κ) :
    ℕ × ℕ :=
  match counters key with
  | some entry =>
    if entry.value.resetAtMs = windowEndMs now windowMs ∧ 0 < entry.expiresAt - now ∧
        entry.expiresAt - now ≤ windowMs then
      (entry.value.count, entry.value.resetAtMs)
    else (0, windowEndMs now windowMs)
  | none => (0, windowEndMs now windowMs)

/-- Seconds to wait until a time, rounded up, between 1 and 60. -/
def retrySeconds (retryAt now : ℕ) : ℕ :=
  let seconds := (retryAt - now + 999) / 1000
  if seconds < 1 then 1 else if 60 < seconds then 60 else seconds

/-- `ADMIT_AND_ENQUEUE_SCRIPT`. The server adds the entry under an id it chooses. -/
def admitAndEnqueue (policy : PlayerCommandRateLimit) (entryId : String) (shard : UInt32)
    (envelope : CommandEnvelope) (actor : UserId) (retention : ℕ) (store : AdmissionStore) :
    AdmissionResponse × AdmissionStore :=
  let pending := CommandResult.pending envelope.commandId envelope.guildId
  let key := (envelope.guildId, envelope.commandId)
  let actorKey := (envelope.guildId, actor)
  match store.results.get store.now key with
  | some current =>
    if current ≠ pending then (.pendingConflict, store) else (.alreadyPending, store)
  | none =>
    if COMMAND_STREAM_CAPACITY ≤ (store.streams shard).length then
      (.streamCapacityExceeded, store)
    else
      let (actorCount, actorResetAt) :=
        readCounter store.actorCounters store.now policy.windowMs actorKey
      let (guildCount, guildResetAt) :=
        readCounter store.guildCounters store.now policy.windowMs envelope.guildId
      let actorBlocked := policy.perActorPerGuild ≤ actorCount
      let guildBlocked := policy.perGuild ≤ guildCount
      if actorBlocked ∨ guildBlocked then
        let retryAt := if actorBlocked then actorResetAt else 0
        let retryAt := if guildBlocked ∧ retryAt < guildResetAt then guildResetAt else retryAt
        (.rateLimited (retrySeconds retryAt store.now), store)
      else
        let counted := { store with
          actorCounters := store.actorCounters.set actorKey ⟨actorCount + 1, actorResetAt⟩
            actorResetAt
          guildCounters := store.guildCounters.set envelope.guildId ⟨guildCount + 1, guildResetAt⟩
            guildResetAt }
        if 2 ^ 63 ≤ store.now + retention then (.failed, counted)
        else
          (.enqueued entryId, { counted with
            results := store.results.set key pending (store.now + retention)
            streams := Function.update store.streams shard
              (store.streams shard ++ [⟨entryId, envelope⟩]) })

def decodeResponse : AdmissionResponse → Except StorageError CommandEnqueue
  | .enqueued entryId =>
    if entryId.isEmpty then .error (.corruptData "command admission" "script_response")
    else .ok (.enqueued entryId)
  | .pendingConflict => .error (.corruptData "command result" "pending_conflict")
  | .streamCapacityExceeded => .error (.capacityExceeded "shard command stream")
  | .rateLimited seconds =>
    if 1 ≤ seconds ∧ seconds ≤ 60 then .error (.rateLimited "player command admission" seconds)
    else .error (.corruptData "command admission" "retry_after")
  | .alreadyPending => .ok .alreadyPending
  | .failed => .error .valkey

def enqueueCommand (entryId : String) (envelope : CommandEnvelope) (shardTotal : UInt32)
    (resultRetention : ℕ) (store : AdmissionStore) :
    Except StorageError CommandEnqueue × AdmissionStore :=
  if shardTotal = 0 then
    (.error (.invalidIdentifier "shard total" "must be non-zero"), store)
  else match envelope.actorUserId with
    | none =>
      (.error (.invalidIdentifier "command actor" "must identify an authenticated user"), store)
    | some actor =>
      if UInt64.size ≤ resultRetention then
        (.error (.durationOutOfRange "command result retention"), store)
      else if resultRetention = 0 then (.error (.durationOutOfRange "command admission"), store)
      else
        let outcome := store.admitAndEnqueue .STANDARD entryId
          (shardId envelope.guildId shardTotal) envelope actor resultRetention
        (decodeResponse outcome.1, outcome.2)

end AdmissionStore

/-- An attempt to enqueue, time passing, or the other users of streams and results, who leave the
counters alone. -/
inductive AdmissionCall where
  | enqueue (entryId : String) (envelope : CommandEnvelope) (shardTotal : UInt32)
      (resultRetention : ℕ)
  | others (streams : UInt32 → List ReceivedCommand)
      (results : ExpiringMap (GuildId × Uuid) CommandResult)
  | elapse (milliseconds : ℕ)

namespace AdmissionStore

/-- The reply to an attempt; nothing else is replied to. -/
def serve (store : AdmissionStore) : AdmissionCall →
    Option (Except StorageError CommandEnqueue) × AdmissionStore
  | .enqueue entryId envelope shardTotal resultRetention =>
    let outcome := store.enqueueCommand entryId envelope shardTotal resultRetention
    (some outcome.1, outcome.2)
  | .others streams results => (none, { store with streams := streams, results := results })
  | .elapse milliseconds => (none, { store with now := store.now + milliseconds })

def Serves (taken : List (Taken AdmissionStore
    (AdmissionCall × Option (Except StorageError CommandEnqueue)))) (store : AdmissionStore) :
    Prop :=
  Run (Follows serve) empty taken store

end AdmissionStore

end PepeAudio
