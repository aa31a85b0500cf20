import PepeAudio.Core.Command
import PepeAudio.Core.CommandResult
import PepeAudio.Lib.Counter
import PepeAudio.Lib.ExpiringMap
import PepeAudio.Storage.Error

/-!
# The command store

Results, idempotency leases and the stream of unacknowledged commands. Each
script runs atomically at the server's time. The encodings of results and
leases are injective, so that the scripts compare values here.
-/
namespace PepeAudio

inductive CommandResultWrite where
  | stored
  | unchanged
  | conflict
  deriving DecidableEq, Repr

/-- Result of atomically completing an idempotency lease and command result. -/
inductive CommandCompletion where
  | stored
  | unchanged
  | leaseLost
  | conflict
  deriving DecidableEq, Repr

inductive DedupeClaim where
  | acquired
  | inProgress
  | completed
  deriving DecidableEq, Repr

inductive CommandEnqueue where
  | enqueued (entryId : String)
  | alreadyPending
  deriving DecidableEq, Repr

/-- What the key of a logical mutation holds: the lease of a worker, or that it is done. -/
inductive LeaseValue where
  | lease (token : Uuid)
  | done
  deriving DecidableEq, Repr

structure CommandStore where
  /-- The server's clock in milliseconds. -/
  now : ℕ
  results : ExpiringMap (GuildId × Uuid) CommandResult
  dedupe : ExpiringMap (GuildId × Uuid) LeaseValue
  /-- The stream entries that are not acknowledged yet. -/
  stream : List ReceivedCommand

namespace CommandStore

def empty : CommandStore := ⟨0, fun _ => none, fun _ => none, []⟩

/-- Milliseconds that are positive and fit the server's word. -/
def durationMillis (milliseconds : ℕ) (operation : String) : Except StorageError ℕ :=
  if milliseconds = 0 || UInt64.size ≤ milliseconds then .error (.durationOutOfRange operation)
  else .ok milliseconds

def requireTerminal (result : CommandResult) : Except StorageError Unit :=
  if result.isTerminal then .ok ()
  else .error (.corruptData "command result" "terminal_status")

def getCommandResult (guildId : GuildId) (commandId : Uuid) (store : CommandStore) :
    Except StorageError (Option CommandResult) :=
  match store.results.get store.now (guildId, commandId) with
  | none => .ok none
  | some result =>
    if result.guildId ≠ guildId || result.commandId ≠ commandId then
      .error (.corruptData "command result" "identity")
    else .ok (some result)

/-- Whether the stored result may not be replaced by this one. -/
def conflicts (current result : CommandResult) : Bool :=
  current.commandId ≠ result.commandId || current.guildId ≠ result.guildId ||
    current.status ≠ .pending

/-- `STORE_TERMINAL_SCRIPT`. -/
def storeTerminal (result : CommandResult) (retention : ℕ) (store : CommandStore) :
    CommandResultWrite × CommandStore :=
  let key := (result.guildId, result.commandId)
  let stored := { store with results := store.results.set key result (store.now + retention) }
  match store.results.get store.now key with
  | none => (.stored, stored)
  | some current =>
    if current = result then
      (.unchanged,
        { store with results := store.results.expire store.now key (store.now + retention) })
    else if conflicts current result then (.conflict, store)
    else (.stored, stored)

def storeCommandResult (result : CommandResult) (retention : ℕ) (store : CommandStore) :
    Except StorageError CommandResultWrite × CommandStore :=
  match requireTerminal result, durationMillis retention "command result retention" with
  | .error error, _ => (.error error, store)
  | .ok _, .error error => (.error error, store)
  | .ok _, .ok milliseconds =>
    let outcome := store.storeTerminal result milliseconds
    (.ok outcome.1, outcome.2)

/-- `COMPLETE_WITH_RESULT_SCRIPT`. -/
def completeWithResult (idempotencyKey leaseToken : Uuid) (result : CommandResult)
    (idempotencyRetention resultRetention : ℕ) (store : CommandStore) :
    CommandCompletion × CommandStore :=
  let lease := (result.guildId, idempotencyKey)
  let key := (result.guildId, result.commandId)
  let done := { store with
    dedupe := store.dedupe.set lease .done (store.now + idempotencyRetention) }
  let stored := { done with results := store.results.set key result (store.now + resultRetention) }
  if store.dedupe.get store.now lease ≠ some (.lease leaseToken) then (.leaseLost, store)
  else match store.results.get store.now key with
    | none => (.stored, stored)
    | some current =>
      if current = result then
        (.unchanged,
          { done with
            results := store.results.expire store.now key (store.now + resultRetention) })
      else if conflicts current result then (.conflict, store)
      else (.stored, stored)

def completeCommand (idempotencyKey leaseToken : Uuid) (result : CommandResult)
    (idempotencyRetention resultRetention : ℕ) (store : CommandStore) :
    Except StorageError CommandCompletion × CommandStore :=
  match requireTerminal result,
    durationMillis idempotencyRetention "command idempotency completion retention",
    durationMillis resultRetention "command result retention" with
  | .error error, _, _ => (.error error, store)
  | .ok _, .error error, _ => (.error error, store)
  | .ok _, .ok _, .error error => (.error error, store)
  | .ok _, .ok idempotencyMilliseconds, .ok resultMilliseconds =>
    let outcome := store.completeWithResult idempotencyKey leaseToken result
      idempotencyMilliseconds resultMilliseconds
    (.ok outcome.1, outcome.2)

/-- `CLAIM_SCRIPT`. -/
def claimIdempotency (guildId : GuildId) (idempotencyKey leaseToken : Uuid) (leaseTtl : ℕ)
    (store : CommandStore) : Except StorageError DedupeClaim × CommandStore :=
  match durationMillis leaseTtl "idempotency lease" with
  | .error error => (.error error, store)
  | .ok milliseconds =>
    match store.dedupe.get store.now (guildId, idempotencyKey) with
    | none =>
      (.ok .acquired,
        { store with
          dedupe := store.dedupe.set (guildId, idempotencyKey) (.lease leaseToken)
            (store.now + milliseconds) })
    | some .done => (.ok .completed, store)
    | some (.lease _) => (.ok .inProgress, store)

/-- `COMPLETE_SCRIPT`. -/
def completeIdempotency (guildId : GuildId) (idempotencyKey leaseToken : Uuid) (retention : ℕ)
    (store : CommandStore) : Except StorageError Bool × CommandStore :=
  match durationMillis retention "idempotency retention" with
  | .error error => (.error error, store)
  | .ok milliseconds =>
    if store.dedupe.get store.now (guildId, idempotencyKey) ≠ some (.lease leaseToken) then
      (.ok false, store)
    else
      (.ok true,
        { store with
          dedupe := store.dedupe.set (guildId, idempotencyKey) .done (store.now + milliseconds) })

/-- `RELEASE_SCRIPT`. -/
def releaseIdempotency (guildId : GuildId) (idempotencyKey leaseToken : Uuid)
    (store : CommandStore) : Except StorageError Bool × CommandStore :=
  if store.dedupe.get store.now (guildId, idempotencyKey) ≠ some (.lease leaseToken) then
    (.ok false, store)
  else (.ok true, { store with dedupe := store.dedupe.erase (guildId, idempotencyKey) })

/-- Acknowledging takes the entry out of the stream. -/
def acknowledgeCommand (entryId : String) (store : CommandStore) :
    Except StorageError Bool × CommandStore :=
  (.ok (store.stream.any fun command => command.entryId = entryId),
    { store with stream := store.stream.filter fun command => command.entryId ≠ entryId })

/-- Admission of a command, after the limits on its stream and its submitter: a command without
a result gets a pending one and a stream entry under the id the server gives it. -/
def enqueueCommand (entryId : String) (envelope : CommandEnvelope) (retention : ℕ)
    (store : CommandStore) : Except StorageError CommandEnqueue × CommandStore :=
  let pending := CommandResult.pending envelope.commandId envelope.guildId
  let key := (envelope.guildId, envelope.commandId)
  if UInt64.size ≤ retention then
    (.error (.durationOutOfRange "command result retention"), store)
  else if retention = 0 then (.error (.durationOutOfRange "command admission"), store)
  else match store.results.get store.now key with
    | some current =>
      if current ≠ pending then
        (.error (.corruptData "command result" "pending_conflict"), store)
      else (.ok .alreadyPending, store)
    | none =>
      (.ok (.enqueued entryId),
        { store with
          results := store.results.set key pending (store.now + retention)
          stream := store.stream ++ [⟨entryId, envelope⟩] })

end CommandStore

end PepeAudio
