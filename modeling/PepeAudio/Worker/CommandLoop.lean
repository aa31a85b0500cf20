import PepeAudio.Lib.Run
import PepeAudio.Storage.CommandStore
import PepeAudio.Worker.CommandOutcome

/-!
# Command workers

`process_command` runs from one suspension to the next; `Stage` says where one
of its calls waits. Any number of calls run against one store, an entry may be
delivered again before it is acknowledged, a store call may fail before or after
it took effect, and a worker may be lost at any point.
-/
namespace PepeAudio

/-- The durations of a worker that bound what it writes, in milliseconds. -/
structure CommandWorkerConfig where
  leaseTtl : ℕ
  completionRetention : ℕ
  deriving DecidableEq, Repr

inductive CommandAuthorization where
  | allowed
  | denied
  | retryableFailure
  deriving DecidableEq, Repr

/-- What a call of `process_command` waits for. -/
inductive Stage where
  | lookingUp (command : ReceivedCommand)
  | authorizing (command : ReceivedCommand)
  | claiming (command : ReceivedCommand)
  | executing (command : ReceivedCommand) (leaseToken : Uuid)
  /-- The executor has answered; the lease is completed or released next. -/
  | executed (command : ReceivedCommand) (leaseToken : Uuid)
      (outcome : Except CommandExecutionError PlayerSnapshot)
  | storing (command : ReceivedCommand) (result : CommandResult)
  | acknowledging (command : ReceivedCommand)

/-- Whether a store call and its reply get through. -/
inductive Fault where
  | none
  | replyLost
  | notReached
  deriving DecidableEq, Repr

/-- What the surroundings of a worker contribute to its next step. -/
structure Surroundings where
  fault : Fault
  wallClock : UnixTimeMillis
  authorization : CommandAuthorization
  /-- The UUID a claim would use. -/
  leaseToken : Uuid
  execution : Except CommandExecutionError PlayerSnapshot

namespace CommandLoop

def deadlineExpired (deadline now : UnixTimeMillis) : Bool := deadline.get ≤ now.get

def afterLookup (command : ReceivedCommand) (wallClock : UnixTimeMillis) :
    Except StorageError (Option CommandResult) → Option Stage
  | .error _ => none
  | .ok none =>
    some (.storing command (CommandResult.rejected command.envelope.commandId
      command.envelope.guildId .resultExpired none))
  | .ok (some result) =>
    if result.isTerminal then some (.acknowledging command)
    else if deadlineExpired command.envelope.deadline wallClock then
      some (.storing command (CommandResult.rejected command.envelope.commandId
        command.envelope.guildId .deadlineExpired none))
    else some (.authorizing command)

def afterAuthorization (command : ReceivedCommand) : CommandAuthorization → Option Stage
  | .allowed => some (.claiming command)
  | .denied =>
    some (.storing command (CommandResult.denied command.envelope.commandId
      command.envelope.guildId .notAuthorized))
  | .retryableFailure => none

def afterClaim (command : ReceivedCommand) (leaseToken : Uuid) :
    Except StorageError DedupeClaim → Option Stage
  | .ok .completed =>
    some (.storing command (CommandResult.rejected command.envelope.commandId
      command.envelope.guildId .idempotencyReplayed none))
  | .ok .inProgress | .error _ => none
  | .ok .acquired => some (.executing command leaseToken)

def afterCompletion (command : ReceivedCommand) :
    Except StorageError CommandCompletion → Option Stage
  | .ok .stored | .ok .unchanged => some (.acknowledging command)
  | .ok .leaseLost | .ok .conflict | .error _ => none

def afterStore (command : ReceivedCommand) : Except StorageError CommandResultWrite → Option Stage
  | .ok .stored | .ok .unchanged => some (.acknowledging command)
  | .ok .conflict | .error _ => none

/-- A store call as its caller sees it. -/
def deliver {α : Type} (fault : Fault)
    (call : CommandStore → Except StorageError α × CommandStore) (store : CommandStore) :
    Except StorageError α × CommandStore :=
  match fault with
  | .none => call store
  | .replyLost => (.error .valkey, (call store).2)
  | .notReached => (.error .valkey, store)

/-- Run a call of `process_command` to its next suspension, or to its end. -/
def advance (config : CommandWorkerConfig) (surroundings : Surroundings) (stage : Stage)
    (store : CommandStore) : Option Stage × CommandStore :=
  match stage with
  | .lookingUp command =>
    let envelope := command.envelope
    let reply := deliver surroundings.fault
      (fun store => (store.getCommandResult envelope.guildId envelope.commandId, store)) store
    (afterLookup command surroundings.wallClock reply.1, reply.2)
  | .authorizing command => (afterAuthorization command surroundings.authorization, store)
  | .claiming command =>
    let envelope := command.envelope
    let reply := deliver surroundings.fault
      (CommandStore.claimIdempotency envelope.guildId envelope.idempotencyKey
        surroundings.leaseToken config.leaseTtl) store
    (afterClaim command surroundings.leaseToken reply.1, reply.2)
  | .executing command leaseToken =>
    (some (.executed command leaseToken surroundings.execution), store)
  | .executed command leaseToken outcome =>
    let envelope := command.envelope
    match CommandOutcome.terminal envelope outcome with
    | some result =>
      let reply := deliver surroundings.fault
        (CommandStore.completeCommand envelope.idempotencyKey leaseToken result
          config.completionRetention config.completionRetention) store
      (afterCompletion command reply.1, reply.2)
    | none =>
      let reply := deliver surroundings.fault
        (CommandStore.releaseIdempotency envelope.guildId envelope.idempotencyKey leaseToken) store
      (none, reply.2)
  | .storing command result =>
    let reply := deliver surroundings.fault
      (CommandStore.storeCommandResult result config.completionRetention) store
    (afterStore command reply.1, reply.2)
  | .acknowledging command =>
    let reply := deliver surroundings.fault
      (CommandStore.acknowledgeCommand command.entryId) store
    (none, reply.2)

end CommandLoop

/-- The store and the calls of `process_command` in progress, by worker. -/
structure CommandBus where
  store : CommandStore
  workers : ℕ → Option Stage

inductive BusEvent where
  /-- A client submits a command; `retention` bounds its pending result. -/
  | submit (entryId : String) (envelope : CommandEnvelope) (retention : ℕ)
  | elapse (milliseconds : ℕ)
  /-- An entry of the stream reaches an idle worker, for the first time or again. -/
  | deliver (worker : ℕ) (command : ReceivedCommand)
  | advance (worker : ℕ) (surroundings : Surroundings)
  /-- A worker is lost with what it was doing. -/
  | crash (worker : ℕ)

namespace CommandBus

def empty : CommandBus := ⟨CommandStore.empty, fun _ => none⟩

def step (config : CommandWorkerConfig) (bus : CommandBus) : BusEvent → CommandBus
  | .submit entryId envelope retention =>
    { bus with store := (bus.store.enqueueCommand entryId envelope retention).2 }
  | .elapse milliseconds =>
    { bus with store := { bus.store with now := bus.store.now + milliseconds } }
  | .deliver worker command =>
    if (bus.workers worker).isNone && command ∈ bus.store.stream then
      { bus with workers := Function.update bus.workers worker (some (.lookingUp command)) }
    else bus
  | .advance worker surroundings =>
    match bus.workers worker with
    | none => bus
    | some stage =>
      let outcome := CommandLoop.advance config surroundings stage bus.store
      ⟨outcome.2, Function.update bus.workers worker outcome.1⟩
  | .crash worker => { bus with workers := Function.update bus.workers worker none }

/-- The runs of a bus whose workers share a configuration. -/
abbrev Runs (config : CommandWorkerConfig) (taken : List (Taken CommandBus BusEvent))
    (bus : CommandBus) : Prop :=
  Run (fun bus event bus' => step config bus event = bus') empty taken bus

end CommandBus

end PepeAudio
