import PepeAudio.Core.Player
import PepeAudio.Lib.Run
import PepeAudio.Storage.GuildSettings

/-!
# Settings persistence

Publishers queue changed settings in a latest-wins mailbox, from which the worker
of the guild writes them into the guild's row. As for snapshots, each step below
is a stretch between two awaits, a reply may be lost although the row was written,
and a write that was given up may still arrive. Selects are unbiased.
-/
namespace PepeAudio

/-- The subset of guild defaults updated by live player controls. -/
structure PersistentPlayerSettings where
  volume : Volume
  hrirPreset : HrirPresetId
  spatialAudioEnabled : Bool
  deriving DecidableEq, Repr

def PersistentPlayerSettings.fromSnapshot (snapshot : PlayerSnapshot) :
    Option PersistentPlayerSettings :=
  snapshot.hrirPreset.map fun preset => ⟨snapshot.volume, preset, snapshot.spatialAudioEnabled⟩

def PersistentPlayerSettings.fromGuildSettings (settings : GuildSettings) :
    Option PersistentPlayerSettings :=
  settings.defaultHrirPresetId.map fun preset =>
    ⟨settings.volume, preset, settings.spatialAudioEnabled⟩

structure SettingsUpdate where
  actorRevision : StateRevision
  settings : PersistentPlayerSettings
  deriving DecidableEq, Repr

structure SettingsWorkerState where
  durable : GuildSettings
  pending : Option SettingsUpdate
  deriving DecidableEq, Repr

inductive SettingsPublishError where
  | guildMismatch
  | supervisorClosed
  deriving DecidableEq, Repr

inductive SettingsWorkerError where
  | repository
  | conflict
  | finalWriteFailed
  deriving DecidableEq, Repr

inductive SettingsSupervisorError where
  | workerStopped (guildId : GuildId)
  | finalWriteFailed (guildId : GuildId)
  | workerPanicked (guildId : GuildId)
  deriving DecidableEq, Repr

def matchesDesired (current : GuildSettings) (desired : PersistentPlayerSettings) : Bool :=
  current.volume = desired.volume && current.defaultHrirPresetId = some desired.hrirPreset &&
    current.spatialAudioEnabled = desired.spatialAudioEnabled

/-- The row that is written for the desired settings; other fields stay. -/
def GuildSettings.withDesired (current : GuildSettings) (desired : PersistentPlayerSettings) :
    GuildSettings :=
  { current with
    volume := desired.volume
    defaultHrirPresetId := some desired.hrirPreset
    spatialAudioEnabled := desired.spatialAudioEnabled }

/-- What `persist_latest` waits for. The reply is there once the database has executed the
request; so many rows have been tried, or will have been with the one that is read. -/
inductive PersistCall where
  | reading (attempts : ℕ) (reply : Option (Except StorageError (Option GuildSettings)))
  | updating (attempts : ℕ) (current : GuildSettings)
      (reply : Option (Except StorageError (Option GuildSettings)))
  deriving DecidableEq

inductive PersistStep where
  | pending (call : PersistCall)
  | done (result : Except SettingsWorkerError GuildSettings)
  deriving DecidableEq

namespace PersistStep

/-- One turn of the loop of `persist_latest`. -/
def attempt (attempts : ℕ) (current : GuildSettings) (desired : PersistentPlayerSettings) :
    PersistStep :=
  if 8 ≤ attempts then .done (.error .conflict)
  else if matchesDesired current desired then .done (.ok current)
  else .pending (.updating attempts current none)

def persistLatest (guildId : GuildId) (seed : GuildSettings)
    (desired : PersistentPlayerSettings) : PersistStep :=
  if seed.guildId = guildId then attempt 0 seed desired else .pending (.reading 0 none)

/-- A reply arrives. -/
def resume (desired : PersistentPlayerSettings) : PersistCall → PersistStep
  | .reading attempts (some (.ok (some row))) => attempt attempts row desired
  | .reading _ (some _) => .done (.error .repository)
  | .updating _ _ (some (.ok (some updated))) => .done (.ok updated)
  | .updating attempts _ (some (.ok none)) => .pending (.reading (attempts + 1) none)
  | .updating _ _ (some (.error _)) => .done (.error .repository)
  | call => .pending call

end PersistStep

inductive SettingsPhase where
  /-- At the head of the loop. -/
  | turning
  | idle
  | persisting (final : Bool) (update : SettingsUpdate) (call : PersistCall)
  /-- Until the next retry. -/
  | waiting
  | finished (result : Except SettingsWorkerError Unit)
  | panicked
  deriving DecidableEq

/-- A worker with its mailbox; `unseen` says that the mailbox has changed since it was read. -/
structure SettingsWorker where
  current : GuildSettings
  mailbox : SettingsWorkerState
  unseen : Bool
  phase : SettingsPhase
  deriving DecidableEq

namespace SettingsWorker

def new (seed : GuildSettings) : SettingsWorker := ⟨seed, ⟨seed, none⟩, false, .turning⟩

def isClosed (worker : SettingsWorker) : Bool :=
  match worker.phase with
  | .finished _ | .panicked => true
  | _ => false

/-- The update has been persisted as a row. -/
def settle (update : SettingsUpdate) (updated : GuildSettings) (worker : SettingsWorker) :
    SettingsWorker :=
  let pending :=
    if worker.mailbox.pending.map SettingsUpdate.actorRevision = some update.actorRevision then none
    else worker.mailbox.pending
  { current := updated, mailbox := ⟨updated, pending⟩, unseen := true, phase := .turning }

/-- Go on with `persist_latest`, in the loop or in `final_flush`. -/
def advance (signal final : Bool) (update : SettingsUpdate) (worker : SettingsWorker) :
    PersistStep → SettingsWorker
  | .pending call => { worker with phase := .persisting final update call }
  | .done (.ok updated) =>
    if final then { worker with phase := .finished (.ok ()) } else worker.settle update updated
  | .done (.error _) =>
    if final || signal then { worker with phase := .finished (.error .finalWriteFailed) }
    else { worker with phase := .waiting }

/-- The pending update that `persist_latest` is called for, at the head of the loop or in the
final flush, and how it goes on. -/
def persistPending (guildId : GuildId) (worker : SettingsWorker) :
    Option (SettingsUpdate × PersistStep) :=
  worker.mailbox.pending.map fun update =>
    (update, .persistLatest guildId worker.current update.settings)

/-- `queue` of a publisher: only a newer update replaces the pending one. -/
def queue (update : SettingsUpdate) (worker : SettingsWorker) : SettingsWorker :=
  if worker.mailbox.pending.all fun current =>
      current.actorRevision.get < update.actorRevision.get then
    { worker with
      mailbox := { worker.mailbox with pending := some update }
      unseen := true }
  else worker

end SettingsWorker

structure SettingsSnapshotPublisher where
  guildId : GuildId
  initial : PersistentPlayerSettings
  armed : Bool
  persistInitial : Bool
  lastAccepted : PersistentPlayerSettings
  /-- The update that the call under way is about to queue, and whether it arms the publisher. -/
  queueing : Option (SettingsUpdate × Bool)
  deriving DecidableEq

namespace SettingsSnapshotPublisher

/-- `publish` up to its `queue`. -/
def publish (closed : Bool) (snapshot : PlayerSnapshot) (publisher : SettingsSnapshotPublisher) :
    Option (Except SettingsPublishError Unit) × SettingsSnapshotPublisher :=
  if snapshot.guildId ≠ publisher.guildId then (some (.error .guildMismatch), publisher)
  else if closed then (some (.error .supervisorClosed), publisher)
  else match PersistentPlayerSettings.fromSnapshot snapshot with
    | none => (some (.ok ()), publisher)
    | some settings =>
      if !publisher.armed then
        if settings = publisher.initial then
          let armed := { publisher with armed := true, lastAccepted := settings }
          if publisher.persistInitial then
            (none, { armed with queueing := some (⟨snapshot.revision, settings⟩, true) })
          else (some (.ok ()), armed)
        else (some (.ok ()), publisher)
      else if settings = publisher.lastAccepted then (some (.ok ()), publisher)
      else (none, { publisher with queueing := some (⟨snapshot.revision, settings⟩, false) })

/-- `publish` from its `queue` on. -/
def queued (update : SettingsUpdate) (arming closed : Bool)
    (publisher : SettingsSnapshotPublisher) :
    Except SettingsPublishError Unit × SettingsSnapshotPublisher :=
  if arming then (.ok (), { publisher with persistInitial := false, queueing := none })
  else
    (if closed then .error .supervisorClosed else .ok (),
      { publisher with lastAccepted := update.settings, queueing := none })

end SettingsSnapshotPublisher

inductive SettingsShutdown where
  | open
  /-- The flag that publishers look at is set. -/
  | closing
  /-- The workers can see the shutdown. -/
  | signalled
  deriving DecidableEq

/-- A request that was given up before the database executed it. -/
structure SettingsWrite where
  candidate : GuildSettings
  expected : SettingsRevision
  deriving DecidableEq

structure SettingsRuntime where
  table : GuildSettingsTable
  late : List SettingsWrite
  registered : List GuildId
  workers : GuildId → Option SettingsWorker
  publishers : List SettingsSnapshotPublisher
  shutdown : SettingsShutdown

inductive SettingsRuntimeEvent where
  | publisher (guildId : GuildId) (initial : PersistentPlayerSettings)
  | publish (index : ℕ) (snapshot : PlayerSnapshot)
  | queue (index : ℕ)
  | turn (guildId : GuildId)
  | changed (guildId : GuildId)
  /-- An idle worker sees the shutdown. -/
  | quit (guildId : GuildId)
  | execute (guildId : GuildId)
  | reply (guildId : GuildId)
  /-- The request fails on its way, or the time is over. -/
  | fail (guildId : GuildId)
  | retry (guildId : GuildId)
  /-- A worker that waits for its next retry sees the shutdown. -/
  | notice (guildId : GuildId)
  | panic (guildId : GuildId)
  /-- The database executes a request that was given up. -/
  | land (index : ℕ)
  | close
  | signal
  | join
  deriving DecidableEq

inductive SettingsRuntimeReply where
  | none
  | published (result : Except SettingsPublishError Unit)
  | queued (guildId : GuildId) (update : SettingsUpdate)
      (result : Except SettingsPublishError Unit)
  /-- The worker treats the update as persisted. -/
  | persisted (guildId : GuildId) (update : SettingsUpdate)
  | shutdown (result : Except SettingsSupervisorError Unit)
  deriving DecidableEq

namespace SettingsRuntime

def start (table : GuildSettingsTable) : SettingsRuntime :=
  ⟨table, [], [], fun _ => none, [], .open⟩

def isClosing (runtime : SettingsRuntime) : Bool := runtime.shutdown ≠ .open

def signal (runtime : SettingsRuntime) : Bool := runtime.shutdown = .signalled

def setWorker (runtime : SettingsRuntime) (guildId : GuildId) (worker : SettingsWorker) :
    SettingsRuntime :=
  { runtime with workers := Function.update runtime.workers guildId (some worker) }

/-- What a publisher of a guild is made of: the worker's view, or the row it was read from. -/
def publisherOf (guildId : GuildId) (initial : PersistentPlayerSettings)
    (current : Option PersistentPlayerSettings) : SettingsSnapshotPublisher :=
  ⟨guildId, initial, false, current ≠ some initial, initial, none⟩

def isWorkerClosed (runtime : SettingsRuntime) (guildId : GuildId) : Bool :=
  runtime.isClosing || (runtime.workers guildId).all SettingsWorker.isClosed

/-- `persist_latest` has come to a step, for the worker of a guild. -/
def advance (runtime : SettingsRuntime) (guildId : GuildId) (final : Bool)
    (update : SettingsUpdate) (worker : SettingsWorker) (persist : PersistStep) :
    SettingsRuntimeReply × SettingsRuntime :=
  (match persist with
    | .done (.ok _) => .persisted guildId update
    | _ => .none,
    runtime.setWorker guildId (worker.advance runtime.signal final update persist))

/-- The request that a worker gives up when it stops to wait. -/
def abandoned : SettingsPhase → List SettingsWrite
  | .persisting _ update (.updating _ current none) =>
    [⟨current.withDesired update.settings, current.revision⟩]
  | _ => []

def taskError (runtime : SettingsRuntime) (guildId : GuildId) : Option SettingsSupervisorError :=
  match (runtime.workers guildId).map SettingsWorker.phase with
  | some (.finished (.error .finalWriteFailed)) => some (.finalWriteFailed guildId)
  | some (.finished (.error _)) => some (.workerStopped guildId)
  | some .panicked => some (.workerPanicked guildId)
  | _ => none

/-- The result of `shutdown`, once every task has ended. -/
def joinResult (runtime : SettingsRuntime) : Except SettingsSupervisorError Unit :=
  match runtime.registered.findSome? runtime.taskError with
  | some error => .error error
  | none => .ok ()

def step (runtime : SettingsRuntime) :
    SettingsRuntimeEvent → SettingsRuntimeReply × SettingsRuntime
  | .publisher guildId initial =>
    if runtime.isClosing then (.published (.error .supervisorClosed), runtime)
    else match runtime.workers guildId with
      | some worker =>
        let current := (worker.mailbox.pending.map SettingsUpdate.settings).or
          (PersistentPlayerSettings.fromGuildSettings worker.mailbox.durable)
        (.none, { runtime with
          publishers := runtime.publishers ++ [publisherOf guildId initial current] })
      | none =>
        match runtime.table guildId with
        | none => (.none, runtime)
        | some seed =>
          let current := PersistentPlayerSettings.fromGuildSettings seed
          (.none, { runtime.setWorker guildId (.new seed) with
            registered := runtime.registered ++ [guildId]
            publishers := runtime.publishers ++ [publisherOf guildId initial current] })
  | .publish index snapshot =>
    match runtime.publishers[index]? with
    | none => (.none, runtime)
    | some publisher =>
      if publisher.queueing.isSome then (.none, runtime)
      else
        let outcome := publisher.publish (runtime.isWorkerClosed publisher.guildId) snapshot
        (match outcome.1 with
          | none => .none
          | some result => .published result,
          { runtime with publishers := runtime.publishers.set index outcome.2 })
  | .queue index =>
    match runtime.publishers[index]? with
    | none => (.none, runtime)
    | some publisher =>
      match publisher.queueing, runtime.workers publisher.guildId with
      | some (update, arming), some worker =>
        let outcome :=
          publisher.queued update arming (runtime.isWorkerClosed publisher.guildId)
        (.queued publisher.guildId update outcome.1,
          { runtime.setWorker publisher.guildId (worker.queue update) with
            publishers := runtime.publishers.set index outcome.2 })
      | _, _ => (.none, runtime)
  | .turn guildId =>
    match runtime.workers guildId with
    | none => (.none, runtime)
    | some worker =>
      if worker.phase ≠ .turning then (.none, runtime)
      else
        let worker := { worker with unseen := false }
        match worker.persistPending guildId with
        | none => (.none, runtime.setWorker guildId { worker with phase := .idle })
        | some (update, persist) => runtime.advance guildId false update worker persist
  | .changed guildId =>
    match runtime.workers guildId with
    | none => (.none, runtime)
    | some worker =>
      if worker.phase = .idle ∧ worker.unseen then
        (.none, runtime.setWorker guildId { worker with phase := .turning })
      else (.none, runtime)
  | .quit guildId =>
    match runtime.workers guildId with
    | none => (.none, runtime)
    | some worker =>
      if worker.phase = .idle ∧ runtime.signal then
        (.none, runtime.setWorker guildId { worker with phase := .finished (.ok ()) })
      else (.none, runtime)
  | .execute guildId =>
    match runtime.workers guildId with
    | none => (.none, runtime)
    | some worker =>
      match worker.phase with
      | .persisting final update (.reading attempts none) =>
        let reply := runtime.table.getGuildSettings guildId
        (.none, runtime.setWorker guildId
          { worker with phase := .persisting final update (.reading attempts (some reply)) })
      | .persisting final update (.updating attempts current none) =>
        let outcome :=
          runtime.table.updateGuildSettings (current.withDesired update.settings) current.revision
        (.none, { runtime.setWorker guildId { worker with
          phase := .persisting final update (.updating attempts current (some outcome.1)) } with
            table := outcome.2 })
      | _ => (.none, runtime)
  | .reply guildId =>
    match runtime.workers guildId with
    | none => (.none, runtime)
    | some worker =>
      match worker.phase with
      | .persisting final update call =>
        runtime.advance guildId final update worker (.resume update.settings call)
      | _ => (.none, runtime)
  | .fail guildId =>
    match runtime.workers guildId with
    | none => (.none, runtime)
    | some worker =>
      match worker.phase with
      | .persisting final update _ =>
        let given := { runtime with late := runtime.late ++ abandoned worker.phase }
        given.advance guildId final update worker (.done (.error .repository))
      | _ => (.none, runtime)
  | .retry guildId =>
    match runtime.workers guildId with
    | none => (.none, runtime)
    | some worker =>
      if worker.phase = .waiting then
        (.none, runtime.setWorker guildId { worker with phase := .turning })
      else (.none, runtime)
  | .notice guildId =>
    match runtime.workers guildId with
    | none => (.none, runtime)
    | some worker =>
      if worker.phase = .waiting ∧ runtime.signal then
        match worker.persistPending guildId with
        | none => (.none, runtime.setWorker guildId { worker with phase := .finished (.ok ()) })
        | some (update, persist) => runtime.advance guildId true update worker persist
      else (.none, runtime)
  | .panic guildId =>
    match runtime.workers guildId with
    | none => (.none, runtime)
    | some worker =>
      if worker.isClosed then (.none, runtime)
      else
        (.none, { runtime.setWorker guildId { worker with phase := .panicked } with
          late := runtime.late ++ abandoned worker.phase })
  | .land index =>
    match runtime.late[index]? with
    | none => (.none, runtime)
    | some write =>
      (.none, { runtime with
        table := (runtime.table.updateGuildSettings write.candidate write.expected).2
        late := runtime.late.eraseIdx index })
  | .close =>
    if runtime.shutdown = .open then (.none, { runtime with shutdown := .closing })
    else (.none, runtime)
  | .signal =>
    if runtime.shutdown = .closing then (.none, { runtime with shutdown := .signalled })
    else (.none, runtime)
  | .join =>
    if runtime.signal && runtime.registered.all fun guildId =>
        (runtime.workers guildId).any SettingsWorker.isClosed then
      (.shutdown runtime.joinResult, runtime)
    else (.none, runtime)

/-- The runs of a runtime over a table of which every row is that of its guild. -/
def Runs (table : GuildSettingsTable)
    (taken : List (Taken SettingsRuntime (SettingsRuntimeEvent × SettingsRuntimeReply)))
    (runtime : SettingsRuntime) : Prop :=
  (∀ guildId row, table guildId = some row → row.guildId = guildId) ∧
    Run (Follows step) (start table) taken runtime

end SettingsRuntime

end PepeAudio
