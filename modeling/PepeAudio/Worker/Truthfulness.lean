import PepeAudio.Storage.Retention
import PepeAudio.Worker.CommandLoop

/-!
# When an applied result stands

A command is checked against its deadline and its submitter's rights again on
every delivery, so that it may be refused after an execution whose completion
was lost. Once a completion has taken effect, its result stands until the
retention ends, whatever is delivered, fails or crashes meanwhile.
-/
namespace PepeAudio

namespace CommandBus

variable {config : CommandWorkerConfig}

theorem deliver_wrote {α : Type} {retention : ℕ} (fault : Fault) {store : CommandStore}
    {call : CommandStore → Except StorageError α × CommandStore}
    (h : CommandStore.Wrote retention store (call store).2) :
    CommandStore.Wrote retention store (CommandLoop.deliver fault call store).2 := by
  cases fault with
  | none => exact h
  | replyLost => exact h
  | notReached => exact .refl _ _

theorem advance_wrote (surroundings : Surroundings) (stage : Stage) (store : CommandStore) :
    CommandStore.Wrote config.completionRetention store
      (CommandLoop.advance config surroundings stage store).2 := by
  cases stage with
  | lookingUp command => exact deliver_wrote _ (.refl _ _)
  | authorizing command => exact .refl _ _
  | claiming command =>
    exact deliver_wrote _ (CommandStore.claimIdempotency_wrote _ _ _ _)
  | executing command leaseToken => exact .refl _ _
  | executed command leaseToken outcome =>
    unfold CommandLoop.advance
    dsimp only
    split
    · exact deliver_wrote _ (CommandStore.completeCommand_wrote _ _ _)
    · exact deliver_wrote _ (CommandStore.releaseIdempotency_wrote _ _ _)
  | storing command result => exact deliver_wrote _ (CommandStore.storeCommandResult_wrote result)
  | acknowledging command => exact deliver_wrote _ (.kept le_rfl rfl)

/-- Every step of the bus writes results as an operation of the store does. -/
theorem step_wrote (bus : CommandBus) (event : BusEvent) :
    CommandStore.Wrote config.completionRetention bus.store (step config bus event).store := by
  cases event with
  | submit entryId envelope retention => exact CommandStore.enqueueCommand_wrote _ _ _
  | elapse milliseconds => exact .kept (Nat.le_add_right _ _) rfl
  | deliver worker command =>
    unfold step
    dsimp only
    split
    · exact .refl _ _
    · exact .refl _ _
  | advance worker surroundings =>
    unfold step
    dsimp only
    split
    · exact .refl _ _
    · exact advance_wrote surroundings _ bus.store
  | crash worker => exact .refl _ _

/-- The command and snapshot of a step in which the executor returns success. -/
def executedBy (t : Taken CommandBus BusEvent) : Option (ReceivedCommand × PlayerSnapshot) :=
  match t.label with
  | .advance worker surroundings =>
    match t.before.workers worker, surroundings.execution with
    | some (.executing command _), .ok snapshot => some (command, snapshot)
    | _, _ => none
  | _ => none

/-- The command and snapshot of a step that completes a successful execution with effect: the
script has run and stored the result, whether or not the worker hears of it. -/
def completedBy (config : CommandWorkerConfig) (t : Taken CommandBus BusEvent) :
    Option (ReceivedCommand × PlayerSnapshot) :=
  match t.label with
  | .advance worker surroundings =>
    match t.before.workers worker with
    | some (.executed command leaseToken (.ok snapshot)) =>
      let completion := (t.before.store.completeCommand command.envelope.idempotencyKey leaseToken
        (CommandOutcome.applied command.envelope.commandId command.envelope.guildId
          snapshot.guildId snapshot.revision)
        config.completionRetention config.completionRetention).1
      if surroundings.fault ≠ .notReached ∧
          (completion = .ok .stored ∨ completion = .ok .unchanged) then some (command, snapshot)
      else none
    | _ => none
  | _ => none

/-- A client that asks for the result of the command is told that it was rejected or denied. -/
def refused (bus : CommandBus) (envelope : CommandEnvelope) : Bool :=
  match bus.store.getCommandResult envelope.guildId envelope.commandId with
  | .ok (some result) =>
    match result.status with
    | .rejected _ _ | .denied _ => true
    | .pending | .applied _ => false
  | _ => false

variable {taken : List (Taken CommandBus BusEvent)} {bus : CommandBus}

theorem applied_identity (commandId : Uuid) (guildId snapshotGuildId : GuildId)
    (revision : StateRevision) :
    (CommandOutcome.applied commandId guildId snapshotGuildId revision).guildId = guildId ∧
      (CommandOutcome.applied commandId guildId snapshotGuildId revision).commandId =
        commandId := by
  unfold CommandOutcome.applied
  split <;> exact ⟨rfl, rfl⟩

theorem applied_isTerminal (commandId : Uuid) (guildId snapshotGuildId : GuildId)
    (revision : StateRevision) :
    (CommandOutcome.applied commandId guildId snapshotGuildId revision).isTerminal = true := by
  unfold CommandOutcome.applied
  split <;> rfl

/-- A completed step starts where its worker has been told of a success. -/
theorem completedBy_eq_some {t : Taken CommandBus BusEvent} {command : ReceivedCommand}
    {snapshot : PlayerSnapshot} (h : completedBy config t = some (command, snapshot)) :
    ∃ worker surroundings leaseToken, t.label = .advance worker surroundings ∧
      t.before.workers worker = some (.executed command leaseToken (.ok snapshot)) ∧
      surroundings.fault ≠ .notReached ∧
      ((t.before.store.completeCommand command.envelope.idempotencyKey leaseToken
        (CommandOutcome.applied command.envelope.commandId command.envelope.guildId
          snapshot.guildId snapshot.revision)
        config.completionRetention config.completionRetention).1 = .ok .stored ∨
      (t.before.store.completeCommand command.envelope.idempotencyKey leaseToken
        (CommandOutcome.applied command.envelope.commandId command.envelope.guildId
          snapshot.guildId snapshot.revision)
        config.completionRetention config.completionRetention).1 = .ok .unchanged) := by
  unfold completedBy at h
  split at h
  · rename_i worker surroundings hlabel
    split at h
    · rename_i command' leaseToken snapshot' hstage
      dsimp only at h
      split at h
      · rename_i heffect
        obtain ⟨rfl, rfl⟩ := Prod.mk.inj (Option.some.inj h)
        exact ⟨worker, surroundings, leaseToken, hlabel, hstage, heffect⟩
      · contradiction
    · contradiction
  · contradiction

theorem completedBy_results {t : Taken CommandBus BusEvent} {command : ReceivedCommand}
    {snapshot : PlayerSnapshot} (hstep : step config t.before t.label = t.after)
    (h : completedBy config t = some (command, snapshot)) :
    t.after.store.results (command.envelope.guildId, command.envelope.commandId) =
      some ⟨CommandOutcome.applied command.envelope.commandId command.envelope.guildId
        snapshot.guildId snapshot.revision,
        t.before.store.now + config.completionRetention⟩ := by
  obtain ⟨worker, surroundings, leaseToken, hlabel, hstage, hfault, heffect⟩ :=
    completedBy_eq_some h
  have hresults := CommandStore.completeCommand_results heffect
  obtain ⟨hguild, hcommand⟩ := applied_identity command.envelope.commandId
    command.envelope.guildId snapshot.guildId snapshot.revision
  rw [hguild, hcommand] at hresults
  rw [← hstep, hlabel]
  unfold step
  dsimp only
  rw [hstage]
  dsimp only [CommandLoop.advance, CommandOutcome.terminal]
  cases hreached : surroundings.fault with
  | none => exact hresults
  | replyLost => exact hresults
  | notReached => contradiction

theorem Runs.bounded (run : Runs config taken bus) :
    CommandStore.Bounded config.completionRetention bus.store := by
  refine run.invariant
    (I := fun bus => CommandStore.Bounded config.completionRetention bus.store) ?_ ?_
  · intro key entry hentry
    contradiction
  · rintro s event s' hbounded rfl
    exact (step_wrote s event).bounded hbounded

theorem Runs.later (run : Runs config taken bus) {t : Taken CommandBus BusEvent} (ht : t ∈ taken) :
    t.after.store.Later bus.store := by
  have hrelated := run.related (R := fun s s' => s.store.Later s'.store) (fun s => .refl s.store)
    (fun _ _ _ h h' => h.trans h') (fun s event s' hreached hnext => ?_)
  · exact (hrelated.2 t ht).2
  · obtain ⟨earlier, hearlier⟩ := hreached
    subst hnext
    exact (step_wrote s event).later (Runs.bounded hearlier)

/-- A call of `process_command` holds a success only when the executor has just answered. -/
theorem advance_executed {surroundings : Surroundings} {stage : Stage} {store : CommandStore}
    {command : ReceivedCommand} {leaseToken : Uuid} {snapshot : PlayerSnapshot}
    (h : (CommandLoop.advance config surroundings stage store).1 =
      some (.executed command leaseToken (.ok snapshot))) :
    stage = .executing command leaseToken ∧ surroundings.execution = .ok snapshot := by
  cases stage with
  | executing command' leaseToken' =>
    obtain ⟨rfl, rfl, hexecution⟩ := Stage.executed.inj (Option.some.inj h)
    exact ⟨rfl, hexecution⟩
  | lookingUp command' =>
    simp only [CommandLoop.advance, CommandLoop.afterLookup] at h
    split at h
    · contradiction
    · simp at h
    · split at h
      · simp at h
      · split at h <;> simp at h
  | authorizing command' =>
    simp only [CommandLoop.advance, CommandLoop.afterAuthorization] at h
    split at h <;> simp at h
  | claiming command' =>
    simp only [CommandLoop.advance, CommandLoop.afterClaim] at h
    split at h <;> simp at h
  | executed command' leaseToken' outcome =>
    simp only [CommandLoop.advance, CommandLoop.afterCompletion] at h
    split at h
    · split at h <;> simp at h
    · simp at h
  | storing command' result =>
    simp only [CommandLoop.advance, CommandLoop.afterStore] at h
    split at h <;> simp at h
  | acknowledging command' => simp [CommandLoop.advance] at h

theorem step_executed {bus : CommandBus} {event : BusEvent} {worker : ℕ}
    {command : ReceivedCommand} {leaseToken : Uuid} {snapshot : PlayerSnapshot}
    (h : (step config bus event).workers worker =
      some (.executed command leaseToken (.ok snapshot))) :
    bus.workers worker = some (.executed command leaseToken (.ok snapshot)) ∨
      executedBy ⟨bus, event, step config bus event⟩ = some (command, snapshot) := by
  cases event with
  | submit entryId envelope retention => exact .inl h
  | elapse milliseconds => exact .inl h
  | deliver worker' command' =>
    left
    unfold step at h
    dsimp only at h
    split at h
    · by_cases hworker : worker = worker'
      · subst hworker
        simp at h
      · dsimp only at h
        rwa [Function.update_of_ne hworker] at h
    · exact h
  | crash worker' =>
    left
    unfold step at h
    dsimp only at h
    by_cases hworker : worker = worker'
    · subst hworker
      simp at h
    · rwa [Function.update_of_ne hworker] at h
  | advance worker' surroundings =>
    cases hstage : bus.workers worker' with
    | none =>
      left
      unfold step at h
      dsimp only at h
      rwa [hstage] at h
    | some stage =>
      unfold step at h
      dsimp only at h
      rw [hstage] at h
      by_cases hworker : worker = worker'
      · subst hworker
        right
        dsimp only at h
        rw [Function.update_self] at h
        obtain ⟨rfl, hexecution⟩ := advance_executed h
        simp [executedBy, hstage, hexecution]
      · left
        dsimp only at h
        rwa [Function.update_of_ne hworker] at h

/-- A worker that holds a success has got it from the executor. -/
theorem Runs.executed (run : Runs config taken bus) {worker : ℕ} {command : ReceivedCommand}
    {leaseToken : Uuid} {snapshot : PlayerSnapshot}
    (hstage : bus.workers worker = some (.executed command leaseToken (.ok snapshot))) :
    ∃ t ∈ taken, executedBy t = some (command, snapshot) := by
  refine run.history
    (I := fun taken bus => bus.workers worker = some (.executed command leaseToken (.ok snapshot)) →
      ∃ t ∈ taken, executedBy t = some (command, snapshot)) ?_ ?_ hstage
  · intro hstart
    contradiction
  · rintro taken s event s' _ ih rfl hafter
    rcases step_executed hafter with hbefore | hexecuted
    · obtain ⟨t, ht, hexecuted⟩ := ih hbefore
      exact ⟨t, List.mem_append_left _ ht, hexecuted⟩
    · exact ⟨_, List.mem_append_right _ (List.mem_singleton_self _), hexecuted⟩

/-- A completion with effect completes what the executor has returned before. -/
theorem Runs.completed (run : Runs config taken bus) {t : Taken CommandBus BusEvent}
    (ht : t ∈ taken) {command : ReceivedCommand} {snapshot : PlayerSnapshot}
    (hcompleted : completedBy config t = some (command, snapshot)) :
    ∃ t' ∈ taken, executedBy t' = some (command, snapshot) := by
  refine run.history
    (I := fun taken _ => t ∈ taken → ∃ t' ∈ taken, executedBy t' = some (command, snapshot))
    ?_ ?_ ht
  · intro hstart
    contradiction
  · rintro taken s event s' run ih rfl hmem
    rcases List.mem_append.mp hmem with hearlier | hlast
    · obtain ⟨t', ht', hexecuted⟩ := ih hearlier
      exact ⟨t', List.mem_append_left _ ht', hexecuted⟩
    · obtain rfl := List.mem_singleton.mp hlast
      obtain ⟨worker, _, _, _, hstage, _⟩ := completedBy_eq_some hcompleted
      obtain ⟨t', ht', hexecuted⟩ := Runs.executed run hstage
      exact ⟨t', List.mem_append_left _ ht', hexecuted⟩

/-- In every run: a completion with effect belongs to an execution that returned success, and if
the snapshot was of the command's guild, the command is reported as applied, and not as rejected
or denied, until the retention after the completion ends. -/
theorem applied_result_stands (run : Runs config taken bus) {t : Taken CommandBus BusEvent}
    (ht : t ∈ taken) {command : ReceivedCommand} {snapshot : PlayerSnapshot}
    (hcompleted : completedBy config t = some (command, snapshot))
    (hguild : snapshot.guildId = command.envelope.guildId) :
    (∃ t' ∈ taken, executedBy t' = some (command, snapshot)) ∧
      (bus.store.now < t.before.store.now + config.completionRetention →
        bus.store.getCommandResult command.envelope.guildId command.envelope.commandId =
          .ok (some (CommandResult.applied command.envelope.commandId command.envelope.guildId
            snapshot.revision)) ∧
        bus.refused command.envelope = false) := by
  refine ⟨Runs.completed run ht hcompleted, fun hlive => ?_⟩
  obtain ⟨_, hstep⟩ := run.taken_next ht
  have hwritten := completedBy_results hstep hcompleted
  have hkept := (Runs.later run ht).results _ _ _ hwritten (applied_isTerminal ..)
    hlive
  rw [CommandOutcome.applied, if_pos hguild] at hkept
  obtain ⟨expiresAt, hlater, hentry⟩ := hkept
  have hreport : bus.store.getCommandResult command.envelope.guildId command.envelope.commandId =
      .ok (some (CommandResult.applied command.envelope.commandId command.envelope.guildId
        snapshot.revision)) :=
    CommandStore.getCommandResult_eq hentry (by omega) rfl rfl
  refine ⟨hreport, ?_⟩
  unfold refused
  rw [hreport]
  rfl

def dayConfig : CommandWorkerConfig := ⟨360000, 86400000⟩

def volumeCommand : ReceivedCommand :=
  ⟨"1-0", ⟨Uuid.fromU128 1, Uuid.fromU128 1, ⟨.MIN⟩, none, ⟨0⟩, ⟨1000⟩,
    .setVolume .half⟩⟩

/-- What a fresh player of the guild answers to `volumeCommand`. -/
def volumeSnapshot (guildId : GuildId) : PlayerSnapshot :=
  { PlayerModel.new guildId ⟨1⟩ with volume := .half }.snapshot ⟨⟨0⟩, 0⟩

def surroundings (guildId : GuildId) (fault : Fault) (wallClock : UnixTimeMillis) : Surroundings :=
  ⟨fault, wallClock, .allowed, Uuid.fromU128 2, .ok (volumeSnapshot guildId)⟩

/-- The command is executed, and completed under the given fault. -/
def executedOnce (guildId : GuildId) (fault : Fault) : List BusEvent :=
  [.submit "1-0" volumeCommand.envelope 86400000, .deliver 0 volumeCommand,
    .advance 0 (surroundings guildId .none ⟨0⟩), .advance 0 (surroundings guildId .none ⟨0⟩),
    .advance 0 (surroundings guildId .none ⟨0⟩), .advance 0 (surroundings guildId .none ⟨0⟩),
    .advance 0 (surroundings guildId fault ⟨0⟩)]

/-- The entry is delivered to another worker, which takes two steps. -/
def redelivered (wallClock : UnixTimeMillis) : List BusEvent :=
  [.deliver 1 volumeCommand, .advance 1 (surroundings ⟨.MIN⟩ .none wallClock),
    .advance 1 (surroundings ⟨.MIN⟩ .none wallClock)]

/-- The completion took effect, and its reply was lost. -/
def replyLost : List BusEvent := executedOnce ⟨.MIN⟩ .replyLost ++ redelivered ⟨2000⟩

theorem applied_result_stands_replyLost :
    (replay (step dayConfig) empty replyLost).2.refused volumeCommand.envelope = false := by
  have run := run_replay (step dayConfig) empty replyLost
  have ht := List.getElem_mem (l := (replay (step dayConfig) empty replyLost).1) (n := 6)
    (by decide +kernel)
  have hcompleted : completedBy dayConfig (replay (step dayConfig) empty replyLost).1[6] =
      some (volumeCommand, volumeSnapshot ⟨1, by decide⟩) := by decide +kernel
  exact ((applied_result_stands run ht hcompleted rfl).2 (by decide +kernel)).2

/-- A success whose completion does not reach the store is refused once the deadline has passed,
one whose completion took effect is refused after the retention, and a snapshot of another guild
is refused at once. -/
theorem success_refused :
    (∃ taken bus, Runs dayConfig taken bus ∧
      (∃ t ∈ taken, executedBy t = some (volumeCommand, volumeSnapshot ⟨1, by decide⟩)) ∧
      bus.refused volumeCommand.envelope = true) ∧
    (∃ taken bus, Runs dayConfig taken bus ∧
      (∃ t ∈ taken, completedBy dayConfig t =
        some (volumeCommand, volumeSnapshot ⟨1, by decide⟩)) ∧
      bus.refused volumeCommand.envelope = true) ∧
    (∃ taken bus, Runs dayConfig taken bus ∧
      (∃ t ∈ taken, completedBy dayConfig t =
        some (volumeCommand, volumeSnapshot ⟨2, by decide⟩)) ∧
      bus.store.now < dayConfig.completionRetention ∧
      bus.refused volumeCommand.envelope = true) := by
  refine ⟨⟨_, _, run_replay (step dayConfig) empty
      (executedOnce ⟨1, by decide⟩ .notReached ++ redelivered ⟨2000⟩), ?_, ?_⟩,
    ⟨_, _, run_replay (step dayConfig) empty
      (executedOnce ⟨1, by decide⟩ .none ++ [.crash 0, .elapse 86400000] ++ redelivered ⟨0⟩),
      ?_, ?_⟩,
    ⟨_, _, run_replay (step dayConfig) empty (executedOnce ⟨2, by decide⟩ .none), ?_, ?_, ?_⟩⟩ <;>
  decide +kernel

end CommandBus

end PepeAudio
