import PepeAudio.Lib.Run
import PepeAudio.Storage.SnapshotStore

/-!
# Snapshot publication

Every guild has a mailbox that keeps the latest snapshot and a worker that
writes it to the store, retries and, on shutdown, flushes. Between two awaits
worker and publisher run on their own; each step below is such a stretch. A
request to the store may be executed although its reply is lost, and one that
was given up may be executed later. The shutdown signal may arrive between the
polls of a select, so that both orders occur.
-/
namespace PepeAudio

inductive SnapshotPublishError where
  | guildMismatch
  | supervisorClosed
  deriving DecidableEq, Repr

inductive SnapshotWorkerError where
  | finalWriteFailed
  | finalWriteTimedOut
  deriving DecidableEq, Repr

inductive SnapshotSupervisorError where
  | invalidTtl
  | workerPanicked
  | finalFlushFailed
  | finalFlushTimedOut
  deriving DecidableEq, Repr

/-- What a worker waits for. The reply of a request is there once the store has executed it. -/
inductive SnapshotPhase where
  | waiting
  | writing (snapshot : PlayerSnapshot) (reply : Option (Except StorageError SnapshotWrite))
  | retrying (snapshot : PlayerSnapshot)
  | flushing (snapshot : PlayerSnapshot) (reply : Option (Except StorageError SnapshotWrite))
  | finished (result : Except SnapshotWorkerError Unit)
  | panicked
  deriving DecidableEq

/-- A worker with its mailbox; `unseen` says that the mailbox has changed since it was read. -/
structure SnapshotWorker where
  mailbox : Option PlayerSnapshot
  unseen : Bool
  confirmedRevision : Option StateRevision
  phase : SnapshotPhase

namespace SnapshotWorker

def new : SnapshotWorker := ⟨none, false, none, .waiting⟩

def isConfirmed (revision : StateRevision) (confirmed : Option StateRevision) : Bool :=
  confirmed.any fun value => revision.get ≤ value.get

def latestNewer (worker : SnapshotWorker) : Option PlayerSnapshot :=
  worker.mailbox.filter fun snapshot => !isConfirmed snapshot.revision worker.confirmedRevision

/-- The head of the loop of `run_worker`. -/
def take (worker : SnapshotWorker) (snapshot : PlayerSnapshot) : SnapshotWorker :=
  if isConfirmed snapshot.revision worker.confirmedRevision then
    { worker with phase := .waiting }
  else { worker with phase := .writing snapshot none }

/-- `wait_for_new_snapshot` finds that the mailbox has changed. -/
def observe (worker : SnapshotWorker) : SnapshotWorker :=
  match worker.mailbox with
  | some snapshot => { worker with unseen := false }.take snapshot
  | none => { worker with unseen := false }

/-- `flush_on_shutdown` up to its write. -/
def flushOnShutdown (signal : Bool) (worker : SnapshotWorker) : SnapshotWorker :=
  if !signal then { worker with phase := .finished (.ok ()) }
  else match worker.latestNewer with
    | none => { worker with unseen := false, phase := .finished (.ok ()) }
    | some snapshot => { worker with unseen := false, phase := .flushing snapshot none }

/-- The snapshot is stored or stale. -/
def confirm (worker : SnapshotWorker) (snapshot : PlayerSnapshot) : SnapshotWorker :=
  let worker := { worker with confirmedRevision := some snapshot.revision, unseen := false }
  match worker.latestNewer with
  | some latest => worker.take latest
  | none => { worker with phase := .waiting }

/-- The backoff is over. -/
def retry (worker : SnapshotWorker) (snapshot : PlayerSnapshot) : SnapshotWorker :=
  { worker with unseen := false }.take (worker.mailbox.getD snapshot)

/-- The snapshot of a request that the store has not executed yet. -/
def requested (worker : SnapshotWorker) : Option PlayerSnapshot :=
  match worker.phase with
  | .writing snapshot none | .flushing snapshot none => some snapshot
  | _ => none

/-- The snapshot of a request that is dropped when the worker sees the signal. -/
def givenUp (worker : SnapshotWorker) : Option PlayerSnapshot :=
  match worker.phase with
  | .writing snapshot none => some snapshot
  | _ => none

/-- The store has executed the request that is under way. -/
def executed (reply : Except StorageError SnapshotWrite) (worker : SnapshotWorker) :
    SnapshotWorker :=
  match worker.phase with
  | .writing snapshot none => { worker with phase := .writing snapshot (some reply) }
  | .flushing snapshot none => { worker with phase := .flushing snapshot (some reply) }
  | _ => worker

/-- The snapshot whose write the reply will report as successful. -/
def settled (worker : SnapshotWorker) : Option PlayerSnapshot :=
  match worker.phase with
  | .writing snapshot (some (.ok _)) | .flushing snapshot (some (.ok _)) => some snapshot
  | _ => none

/-- The reply arrives. -/
def replied (worker : SnapshotWorker) : SnapshotWorker :=
  match worker.phase with
  | .writing snapshot (some (.ok _)) => worker.confirm snapshot
  | .writing snapshot (some (.error _)) => { worker with phase := .retrying snapshot }
  | .flushing _ (some (.ok _)) => { worker with phase := .finished (.ok ()) }
  | .flushing _ (some (.error _)) =>
    { worker with phase := .finished (.error .finalWriteFailed) }
  | _ => worker

/-- The request fails on its way, or takes too long. -/
def failed (timedOut : Bool) (worker : SnapshotWorker) : SnapshotWorker :=
  match worker.phase with
  | .writing snapshot _ => { worker with phase := .retrying snapshot }
  | .flushing _ _ =>
    { worker with
      phase := .finished (.error (if timedOut then .finalWriteTimedOut else .finalWriteFailed)) }
  | _ => worker

/-- The worker sees the signal where it selects on it. -/
def notice (signal : Bool) (worker : SnapshotWorker) : SnapshotWorker :=
  match worker.phase with
  | .waiting | .writing _ _ | .retrying _ => worker.flushOnShutdown signal
  | .flushing _ _ | .finished _ | .panicked => worker

def isClosed (worker : SnapshotWorker) : Bool :=
  match worker.phase with
  | .finished _ | .panicked => true
  | _ => false

/-- `send_if_modified` of a publisher: only a newer snapshot replaces the queued one. -/
def send (worker : SnapshotWorker) (snapshot : PlayerSnapshot) : SnapshotWorker :=
  if worker.mailbox.all fun queued => queued.revision.get < snapshot.revision.get then
    { worker with mailbox := some snapshot, unseen := true }
  else worker

end SnapshotWorker

/-- How far the shutdown of the runtime has come. -/
inductive ShutdownPhase where
  | open
  /-- No publisher that asks from now on is let in. -/
  | closing
  /-- The shutdown alone holds the publish gate, and has the tasks of the workers. -/
  | gateHeld
  | signalled
  deriving DecidableEq, Repr

structure SnapshotRuntime where
  store : SnapshotStore
  /-- Requests that were given up before the store executed them. -/
  late : List PlayerSnapshot
  registered : List GuildId
  workers : GuildId → Option SnapshotWorker
  /-- The calls of `publish` that hold the gate and have found it open. -/
  publishing : List PlayerSnapshot
  shutdown : ShutdownPhase

inductive SnapshotRuntimeEvent where
  | register (guildId : GuildId)
  /-- A call of `publish` runs up to its send. -/
  | publish (guildId : GuildId) (snapshot : PlayerSnapshot)
  /-- One of the calls that hold the gate sends and returns. -/
  | send (index : ℕ)
  | observe (guildId : GuildId)
  | execute (guildId : GuildId)
  | reply (guildId : GuildId)
  | fail (guildId : GuildId) (timedOut : Bool)
  | peek (guildId : GuildId)
  | retry (guildId : GuildId)
  | notice (guildId : GuildId)
  | panic (guildId : GuildId)
  /-- The store executes a request that was given up. -/
  | land (index : ℕ)
  | invalidate (guildId : GuildId)
  | elapse (milliseconds : ℕ)
  | close
  | holdGate
  | signal
  | join

inductive SnapshotRuntimeReply where
  | none
  | published (snapshot : PlayerSnapshot) (result : Except SnapshotPublishError Unit)
  /-- What the store has done, before anyone hears of it. -/
  | wrote (snapshot : PlayerSnapshot) (result : Except StorageError SnapshotWrite)
  /-- A worker has heard that the store has the snapshot, or a newer one. -/
  | confirmed (snapshot : PlayerSnapshot)
  | shutdown (result : Except SnapshotSupervisorError Unit)
  deriving DecidableEq

namespace SnapshotRuntime

def start (store : SnapshotStore) (ttl : ℕ) : Except SnapshotSupervisorError SnapshotRuntime :=
  if ttl = 0 then .error .invalidTtl else .ok ⟨store, [], [], fun _ => none, [], .open⟩

def isClosing (runtime : SnapshotRuntime) : Bool := runtime.shutdown ≠ .open

def signal (runtime : SnapshotRuntime) : Bool := runtime.shutdown = .signalled

def setWorker (runtime : SnapshotRuntime) (guildId : GuildId) (worker : SnapshotWorker) :
    SnapshotRuntime :=
  { runtime with workers := Function.update runtime.workers guildId (some worker) }

/-- Let the worker of a guild take a step, with the request it gives up. -/
def withWorker (runtime : SnapshotRuntime) (guildId : GuildId)
    (step : SnapshotWorker → SnapshotWorker)
    (abandoned : SnapshotWorker → Option PlayerSnapshot) : SnapshotRuntime :=
  match runtime.workers guildId with
  | none => runtime
  | some worker =>
    { runtime.setWorker guildId (step worker) with
      late := runtime.late ++ (abandoned worker).toList }

def taskResult (runtime : SnapshotRuntime) (guildId : GuildId) : Option SnapshotPhase :=
  (runtime.workers guildId).map SnapshotWorker.phase

/-- The newest revision that has been accepted for a guild. -/
def latestRevision (runtime : SnapshotRuntime) (guildId : GuildId) : Option StateRevision :=
  ((runtime.workers guildId).bind SnapshotWorker.mailbox).map PlayerSnapshot.revision

/-- The result of `shutdown`, once every task has ended. -/
def joinResult (runtime : SnapshotRuntime) : Except SnapshotSupervisorError Unit :=
  let results := runtime.registered.map runtime.taskResult
  if some .panicked ∈ results then .error .workerPanicked
  else if some (.finished (.error .finalWriteTimedOut)) ∈ results then .error .finalFlushTimedOut
  else if some (.finished (.error .finalWriteFailed)) ∈ results then .error .finalFlushFailed
  else .ok ()

variable (encodedLength : PlayerSnapshot → ℕ) (ttl : ℕ)

def step (runtime : SnapshotRuntime) :
    SnapshotRuntimeEvent → SnapshotRuntimeReply × SnapshotRuntime
  | .register guildId =>
    if runtime.isClosing || (runtime.workers guildId).isSome then (.none, runtime)
    else
      (.none, { runtime.setWorker guildId .new with
        registered := runtime.registered ++ [guildId] })
  | .publish guildId snapshot =>
    if snapshot.guildId ≠ guildId then (.published snapshot (.error .guildMismatch), runtime)
    else if runtime.shutdown = .gateHeld then (.none, runtime)
    else match runtime.workers guildId with
      | none => (.none, runtime)
      | some worker =>
        if runtime.isClosing || worker.isClosed then
          (.published snapshot (.error .supervisorClosed), runtime)
        else (.none, { runtime with publishing := runtime.publishing ++ [snapshot] })
  | .send index =>
    match runtime.publishing[index]? with
    | none => (.none, runtime)
    | some snapshot =>
      let left := { runtime with publishing := runtime.publishing.eraseIdx index }
      match runtime.workers snapshot.guildId with
      | none => (.none, left)
      | some worker =>
        (.published snapshot (if worker.isClosed then .error .supervisorClosed else .ok ()),
          left.setWorker snapshot.guildId (worker.send snapshot))
  | .observe guildId =>
    (.none, runtime.withWorker guildId (fun worker =>
      if worker.phase = .waiting ∧ worker.unseen then worker.observe else worker) fun _ => none)
  | .execute guildId =>
    match (runtime.workers guildId).bind SnapshotWorker.requested with
    | none => (.none, runtime)
    | some snapshot =>
      let outcome := runtime.store.putSnapshotIfNewer encodedLength snapshot ttl
      (.wrote snapshot outcome.1, { runtime with store := outcome.2 }.withWorker guildId
        (SnapshotWorker.executed outcome.1) fun _ => none)
  | .reply guildId =>
    (match (runtime.workers guildId).bind SnapshotWorker.settled with
      | none => .none
      | some snapshot => .confirmed snapshot,
      runtime.withWorker guildId SnapshotWorker.replied fun _ => none)
  | .fail guildId timedOut =>
    (.none, runtime.withWorker guildId (SnapshotWorker.failed timedOut) SnapshotWorker.requested)
  | .peek guildId =>
    (.none, runtime.withWorker guildId (fun worker =>
      match worker.phase with
      | .retrying _ => { worker with unseen := false }
      | _ => worker) fun _ => none)
  | .retry guildId =>
    (.none, runtime.withWorker guildId (fun worker =>
      match worker.phase with
      | .retrying snapshot => worker.retry snapshot
      | _ => worker) fun _ => none)
  | .notice guildId =>
    if runtime.signal then
      (.none, runtime.withWorker guildId (SnapshotWorker.notice runtime.signal)
        SnapshotWorker.givenUp)
    else (.none, runtime)
  | .panic guildId =>
    (.none, runtime.withWorker guildId (fun worker =>
      if worker.isClosed then worker else { worker with phase := .panicked })
      SnapshotWorker.requested)
  | .land index =>
    match runtime.late[index]? with
    | none => (.none, runtime)
    | some snapshot =>
      let outcome := runtime.store.putSnapshotIfNewer encodedLength snapshot ttl
      (.wrote snapshot outcome.1, { runtime with
        store := outcome.2
        late := runtime.late.eraseIdx index })
  | .invalidate guildId =>
    (.none, { runtime with store := (runtime.store.invalidateSnapshot guildId).2 })
  | .elapse milliseconds =>
    (.none,
      { runtime with store := { runtime.store with now := runtime.store.now + milliseconds } })
  | .close =>
    if runtime.shutdown = .open then (.none, { runtime with shutdown := .closing })
    else (.none, runtime)
  | .holdGate =>
    if runtime.shutdown = .closing ∧ runtime.publishing = [] then
      (.none, { runtime with shutdown := .gateHeld })
    else (.none, runtime)
  | .signal =>
    if runtime.shutdown = .gateHeld then (.none, { runtime with shutdown := .signalled })
    else (.none, runtime)
  | .join =>
    if runtime.signal && runtime.registered.all fun guildId =>
        (runtime.workers guildId).any SnapshotWorker.isClosed then
      (.shutdown runtime.joinResult, runtime)
    else (.none, runtime)

/-- The runs of a runtime that starts over a store. -/
def Runs (store : SnapshotStore)
    (taken : List (Taken SnapshotRuntime (SnapshotRuntimeEvent × SnapshotRuntimeReply)))
    (runtime : SnapshotRuntime) : Prop :=
  ∃ initial, start store ttl = .ok initial ∧
    Run (Follows (step encodedLength ttl)) initial taken runtime

end SnapshotRuntime

end PepeAudio
