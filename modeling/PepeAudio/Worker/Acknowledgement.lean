import PepeAudio.Worker.Truthfulness

/-!
# Acknowledged entries have results

A worker waits to acknowledge an entry only where it has seen, stored or
completed a terminal result of the entry's command. The server gives every entry
an id of its own, so that an entry leaves the stream by an acknowledgement of
itself.
-/
namespace PepeAudio

/-- A terminal result of the command in an envelope. -/
structure CommandResult.Answers (result : CommandResult) (envelope : CommandEnvelope) : Prop where
  guildId : result.guildId = envelope.guildId
  commandId : result.commandId = envelope.commandId
  terminal : result.isTerminal = true

/-- Whoever asks the store for the result of the command gets a terminal one. -/
def CommandStore.answered (store : CommandStore) (envelope : CommandEnvelope) : Bool :=
  match store.getCommandResult envelope.guildId envelope.commandId with
  | .ok (some result) => result.isTerminal
  | _ => false

def Stage.command : Stage → ReceivedCommand
  | .lookingUp command | .authorizing command | .claiming command | .executing command _
  | .executed command _ _ | .storing command _ | .acknowledging command => command

theorem CommandOutcome.terminal_answers {envelope : CommandEnvelope}
    {outcome : Except CommandExecutionError PlayerSnapshot} {result : CommandResult}
    (h : CommandOutcome.terminal envelope outcome = some result) : result.Answers envelope := by
  cases outcome with
  | ok snapshot =>
    obtain rfl := Option.some.inj h
    obtain ⟨hguild, hcommand⟩ := CommandBus.applied_identity envelope.commandId envelope.guildId
      snapshot.guildId snapshot.revision
    exact ⟨hguild, hcommand, CommandBus.applied_isTerminal ..⟩
  | error error =>
    cases error with
    | player error =>
      obtain ⟨code, -, rfl⟩ := Option.map_eq_some_iff.mp h
      exact ⟨rfl, rfl, rfl⟩
    | rejected code =>
      obtain rfl := Option.some.inj h
      exact ⟨rfl, rfl, rfl⟩
    | retryable => contradiction

namespace CommandStore

variable {store : CommandStore} {retention : ℕ} {result : CommandResult}
  {envelope : CommandEnvelope}

theorem answered_of_results {store' : CommandStore} (h : result.Answers envelope)
    (hnow : store'.now = store.now) (hretention : 0 < retention)
    (hresults : store'.results (result.guildId, result.commandId) =
      some ⟨result, store.now + retention⟩) : store'.answered envelope = true := by
  rw [h.guildId, h.commandId] at hresults
  have hlive : store'.now < store.now + retention := by omega
  have hreport := getCommandResult_eq hresults hlive h.guildId h.commandId
  unfold answered
  rw [hreport]
  exact h.terminal

theorem storeCommandResult_answered (h : result.Answers envelope)
    (hreply : (store.storeCommandResult result retention).1 = .ok .stored ∨
      (store.storeCommandResult result retention).1 = .ok .unchanged) :
    (store.storeCommandResult result retention).2.answered envelope = true := by
  obtain ⟨hresults, hretention⟩ := storeCommandResult_results hreply
  have hkept := storeCommandResult_kept store result retention
  exact answered_of_results h hkept.2 hretention hresults

theorem completeCommand_answered {idempotencyKey leaseToken : Uuid} (h : result.Answers envelope)
    (hreply :
      (store.completeCommand idempotencyKey leaseToken result retention retention).1 =
        .ok .stored ∨
      (store.completeCommand idempotencyKey leaseToken result retention retention).1 =
        .ok .unchanged) :
    (store.completeCommand idempotencyKey leaseToken result retention retention).2.answered
      envelope = true := by
  have hresults := completeCommand_results hreply
  have hkept :
      (store.completeCommand idempotencyKey leaseToken result retention retention).2.now =
        store.now ∧ 0 < retention := by
    rcases hreply with hreply | hreply
    · exact completeCommand_now hreply
    · exact completeCommand_now hreply
  exact answered_of_results h hkept.1 hkept.2 hresults

theorem claimIdempotency_stream (guildId : GuildId) (idempotencyKey leaseToken : Uuid)
    (leaseTtl : ℕ) :
    (store.claimIdempotency guildId idempotencyKey leaseToken leaseTtl).2.stream =
      store.stream := by
  unfold claimIdempotency
  split
  · rfl
  · split
    all_goals rfl

theorem releaseIdempotency_stream (guildId : GuildId) (idempotencyKey leaseToken : Uuid) :
    (store.releaseIdempotency guildId idempotencyKey leaseToken).2.stream = store.stream := by
  unfold releaseIdempotency
  split
  · rfl
  · rfl

theorem storeCommandResult_stream (result : CommandResult) (retention : ℕ) :
    (store.storeCommandResult result retention).2.stream = store.stream := by
  unfold storeCommandResult storeTerminal
  dsimp only
  split
  · rfl
  · rfl
  · dsimp only
    repeat' split
    all_goals rfl

theorem completeCommand_stream (idempotencyKey leaseToken : Uuid) (result : CommandResult)
    (idempotencyRetention resultRetention : ℕ) :
    (store.completeCommand idempotencyKey leaseToken result idempotencyRetention
      resultRetention).2.stream = store.stream := by
  unfold completeCommand completeWithResult
  dsimp only
  split
  · rfl
  · rfl
  · rfl
  · dsimp only
    repeat' split
    all_goals rfl

end CommandStore

namespace CommandBus

variable {config : CommandWorkerConfig}

/-- What a worker has in hand, against the store it has just used. -/
def Backed (store : CommandStore) : Stage → Prop
  | .storing command result => result.Answers command.envelope
  | .acknowledging command => store.answered command.envelope = true
  | .lookingUp _ | .authorizing _ | .claiming _ | .executing _ _ | .executed _ _ _ => True

theorem afterLookup_backed {command : ReceivedCommand} {wallClock : UnixTimeMillis}
    {fault : Fault} {store : CommandStore} {stage : Stage}
    (h : CommandLoop.afterLookup command wallClock
      (CommandLoop.deliver fault (fun store =>
        (store.getCommandResult command.envelope.guildId command.envelope.commandId, store))
        store).1 = some stage) :
    stage.command = command ∧ Backed store stage := by
  cases fault with
  | none =>
    dsimp only [CommandLoop.deliver] at h
    cases hlookup : store.getCommandResult command.envelope.guildId command.envelope.commandId with
    | error error =>
      rw [hlookup] at h
      contradiction
    | ok found =>
      rw [hlookup] at h
      cases found with
      | none =>
        obtain rfl := Option.some.inj h
        exact ⟨rfl, rfl, rfl, rfl⟩
      | some result =>
        dsimp only [CommandLoop.afterLookup] at h
        by_cases hterminal : result.isTerminal = true
        · rw [if_pos hterminal] at h
          obtain rfl := Option.some.inj h
          refine ⟨rfl, ?_⟩
          simp only [Backed, CommandStore.answered, hlookup]
          exact hterminal
        · rw [if_neg hterminal] at h
          split at h
          · obtain rfl := Option.some.inj h
            exact ⟨rfl, rfl, rfl, rfl⟩
          · obtain rfl := Option.some.inj h
            exact ⟨rfl, trivial⟩
  | replyLost => contradiction
  | notReached => contradiction

/-- A store call after which an entry is acknowledged has got through. -/
theorem deliver_eq_ok {α : Type} {fault : Fault} {store : CommandStore} {value : α}
    {call : CommandStore → Except StorageError α × CommandStore}
    (h : (CommandLoop.deliver fault call store).1 = .ok value) :
    (call store).1 = .ok value ∧ (CommandLoop.deliver fault call store).2 = (call store).2 := by
  cases fault with
  | none => exact ⟨h, rfl⟩
  | replyLost => contradiction
  | notReached => contradiction

theorem afterStore_eq_some {command : ReceivedCommand} {stage : Stage}
    {reply : Except StorageError CommandResultWrite}
    (h : CommandLoop.afterStore command reply = some stage) :
    stage = .acknowledging command ∧ (reply = .ok .stored ∨ reply = .ok .unchanged) := by
  unfold CommandLoop.afterStore at h
  split at h
  · exact ⟨(Option.some.inj h).symm, .inl rfl⟩
  · exact ⟨(Option.some.inj h).symm, .inr rfl⟩
  · contradiction
  · contradiction

theorem afterCompletion_eq_some {command : ReceivedCommand} {stage : Stage}
    {reply : Except StorageError CommandCompletion}
    (h : CommandLoop.afterCompletion command reply = some stage) :
    stage = .acknowledging command ∧ (reply = .ok .stored ∨ reply = .ok .unchanged) := by
  unfold CommandLoop.afterCompletion at h
  split at h
  · exact ⟨(Option.some.inj h).symm, .inl rfl⟩
  · exact ⟨(Option.some.inj h).symm, .inr rfl⟩
  · contradiction
  · contradiction
  · contradiction

/-- Where a call of `process_command` gets to, it goes on with its command, and with the result
it needs there. -/
theorem advance_backed {surroundings : Surroundings} {stage stage' : Stage}
    {store before : CommandStore} (hbacked : Backed before stage)
    (h : (CommandLoop.advance config surroundings stage store).1 = some stage') :
    stage'.command = stage.command ∧
      Backed (CommandLoop.advance config surroundings stage store).2 stage' := by
  cases stage with
  | lookingUp command =>
    have hafter := afterLookup_backed h
    have hstore :
        (CommandLoop.advance config surroundings (.lookingUp command) store).2 = store := by
      unfold CommandLoop.advance
      cases surroundings.fault <;> rfl
    rw [hstore]
    exact hafter
  | authorizing command =>
    simp only [CommandLoop.advance, CommandLoop.afterAuthorization] at h
    split at h
    · obtain rfl := Option.some.inj h
      exact ⟨rfl, trivial⟩
    · obtain rfl := Option.some.inj h
      exact ⟨rfl, rfl, rfl, rfl⟩
    · contradiction
  | claiming command =>
    simp only [CommandLoop.advance, CommandLoop.afterClaim] at h
    split at h
    · obtain rfl := Option.some.inj h
      exact ⟨rfl, rfl, rfl, rfl⟩
    · contradiction
    · contradiction
    · obtain rfl := Option.some.inj h
      exact ⟨rfl, trivial⟩
  | executing command leaseToken =>
    obtain rfl := Option.some.inj h
    exact ⟨rfl, trivial⟩
  | executed command leaseToken outcome =>
    unfold CommandLoop.advance at h ⊢
    dsimp only at h ⊢
    cases hresult : CommandOutcome.terminal command.envelope outcome with
    | none =>
      rw [hresult] at h
      contradiction
    | some result =>
      rw [hresult] at h
      dsimp only at h ⊢
      obtain ⟨rfl, hreply⟩ := afterCompletion_eq_some h
      have hanswers := CommandOutcome.terminal_answers hresult
      refine ⟨rfl, ?_⟩
      rcases hreply with hreply | hreply
      · obtain ⟨hcall, hstore⟩ := deliver_eq_ok hreply
        simp only [Backed, hstore]
        exact CommandStore.completeCommand_answered hanswers (.inl hcall)
      · obtain ⟨hcall, hstore⟩ := deliver_eq_ok hreply
        simp only [Backed, hstore]
        exact CommandStore.completeCommand_answered hanswers (.inr hcall)
  | storing command result =>
    unfold CommandLoop.advance at h ⊢
    dsimp only at h ⊢
    obtain ⟨rfl, hreply⟩ := afterStore_eq_some h
    refine ⟨rfl, ?_⟩
    rcases hreply with hreply | hreply
    · obtain ⟨hcall, hstore⟩ := deliver_eq_ok hreply
      simp only [Backed, hstore]
      exact CommandStore.storeCommandResult_answered hbacked (.inl hcall)
    · obtain ⟨hcall, hstore⟩ := deliver_eq_ok hreply
      simp only [Backed, hstore]
      exact CommandStore.storeCommandResult_answered hbacked (.inr hcall)
  | acknowledging command => contradiction

theorem deliver_stream {α : Type} (fault : Fault) {store : CommandStore}
    {call : CommandStore → Except StorageError α × CommandStore}
    (h : (call store).2.stream = store.stream) :
    (CommandLoop.deliver fault call store).2.stream = store.stream := by
  cases fault with
  | none => exact h
  | replyLost => exact h
  | notReached => rfl

/-- Only an acknowledgement takes entries out of the stream, and a worker puts none in. -/
theorem advance_stream (surroundings : Surroundings) (stage : Stage) (store : CommandStore) :
    (CommandLoop.advance config surroundings stage store).2.stream = store.stream ∨
      ∃ command, stage = .acknowledging command ∧
        (CommandLoop.advance config surroundings stage store).2.stream =
          store.stream.filter fun entry => entry.entryId ≠ command.entryId := by
  cases stage with
  | lookingUp command => exact .inl (deliver_stream _ rfl)
  | authorizing command => exact .inl rfl
  | claiming command =>
    exact .inl (deliver_stream _ (CommandStore.claimIdempotency_stream _ _ _ _))
  | executing command leaseToken => exact .inl rfl
  | executed command leaseToken outcome =>
    unfold CommandLoop.advance
    dsimp only
    split
    · exact .inl (deliver_stream _ (CommandStore.completeCommand_stream _ _ _ _ _))
    · exact .inl (deliver_stream _ (CommandStore.releaseIdempotency_stream _ _ _))
  | storing command result =>
    exact .inl (deliver_stream _ (CommandStore.storeCommandResult_stream _ _))
  | acknowledging command =>
    unfold CommandLoop.advance
    cases surroundings.fault with
    | none => exact .inr ⟨command, rfl, rfl⟩
    | replyLost => exact .inr ⟨command, rfl, rfl⟩
    | notReached => exact .inl rfl

/-- The entry a step adds to the stream. -/
def enqueuedBy (t : Taken CommandBus BusEvent) : Option ReceivedCommand :=
  match t.label with
  | .submit entryId envelope retention =>
    match (t.before.store.enqueueCommand entryId envelope retention).1 with
    | .ok (.enqueued _) => some ⟨entryId, envelope⟩
    | _ => none
  | _ => none

theorem step_advance {bus : CommandBus} {worker : ℕ} {surroundings : Surroundings} {stage : Stage}
    (hstage : bus.workers worker = some stage) :
    step config bus (.advance worker surroundings) =
      ⟨(CommandLoop.advance config surroundings stage bus.store).2,
        Function.update bus.workers worker
          (CommandLoop.advance config surroundings stage bus.store).1⟩ := by
  unfold step
  dsimp only
  rw [hstage]

theorem step_advance_idle {bus : CommandBus} {worker : ℕ} {surroundings : Surroundings}
    (hstage : bus.workers worker = none) :
    step config bus (.advance worker surroundings) = bus := by
  unfold step
  dsimp only
  rw [hstage]

theorem enqueueCommand_stream {bus : CommandBus} {entryId : String} {envelope : CommandEnvelope}
    {retention : ℕ} {command : ReceivedCommand}
    (h : command ∈ (bus.store.enqueueCommand entryId envelope retention).2.stream) :
    command ∈ bus.store.stream ∨
      ((bus.store.enqueueCommand entryId envelope retention).1 = .ok (.enqueued entryId) ∧
        command = ⟨entryId, envelope⟩) := by
  unfold CommandStore.enqueueCommand at *
  dsimp only at *
  split at h
  · exact .inl h
  · rename_i hfits
    rw [if_neg hfits]
    split at h
    · exact .inl h
    · rename_i hpositive
      rw [if_neg hpositive]
      split at h
      · split at h
        · exact .inl h
        · exact .inl h
      · rcases List.mem_append.mp h with hold | hnew
        · exact .inl hold
        · exact .inr ⟨rfl, List.mem_singleton.mp hnew⟩

/-- An entry of the stream was there before, or has just been enqueued. -/
theorem step_entries {bus : CommandBus} {event : BusEvent} {command : ReceivedCommand}
    (h : command ∈ (step config bus event).store.stream) :
    command ∈ bus.store.stream ∨
      enqueuedBy ⟨bus, event, step config bus event⟩ = some command := by
  cases event with
  | submit entryId envelope retention =>
    rcases enqueueCommand_stream h with hold | ⟨hreply, rfl⟩
    · exact .inl hold
    · right
      unfold enqueuedBy
      dsimp only
      rw [hreply]
  | elapse milliseconds => exact .inl h
  | deliver worker command' =>
    left
    unfold step at h
    dsimp only at h
    split at h
    · exact h
    · exact h
  | crash worker => exact .inl h
  | advance worker surroundings =>
    left
    cases hstage : bus.workers worker with
    | none => rwa [step_advance_idle hstage] at h
    | some stage =>
      rw [step_advance hstage] at h
      rcases advance_stream surroundings stage bus.store with hsame | ⟨command', -, hfilter⟩
      · rwa [hsame] at h
      · rw [hfilter] at h
        exact List.mem_of_mem_filter h

/-- An entry leaves the stream when a worker acknowledges its id. -/
theorem step_removed {bus : CommandBus} {event : BusEvent} {command : ReceivedCommand}
    (h : command ∈ bus.store.stream) (hgone : command ∉ (step config bus event).store.stream) :
    ∃ worker acknowledged, bus.workers worker = some (.acknowledging acknowledged) ∧
      acknowledged.entryId = command.entryId := by
  cases event with
  | submit entryId envelope retention =>
    refine absurd ?_ hgone
    unfold step CommandStore.enqueueCommand
    dsimp only
    repeat' split
    all_goals simp [h]
  | elapse milliseconds => exact absurd h hgone
  | deliver worker command' =>
    refine absurd ?_ hgone
    unfold step
    dsimp only
    split
    · exact h
    · exact h
  | crash worker => exact absurd h hgone
  | advance worker surroundings =>
    cases hstage : bus.workers worker with
    | none =>
      rw [step_advance_idle hstage] at hgone
      exact absurd h hgone
    | some stage =>
      rw [step_advance hstage] at hgone
      rcases advance_stream surroundings stage bus.store with hsame | ⟨acknowledged, rfl, hfilter⟩
      · rw [hsame] at hgone
        exact absurd h hgone
      · refine ⟨worker, acknowledged, hstage, ?_⟩
        rw [hfilter] at hgone
        by_contra hids
        exact hgone (List.mem_filter.mpr ⟨h, by simp [Ne.symm hids]⟩)

/-- Where a worker stands after a step: where it stood, at an entry it has just been given, or
one advance further. -/
theorem step_workers {bus : CommandBus} {event : BusEvent} {worker : ℕ} {stage : Stage}
    (h : (step config bus event).workers worker = some stage) :
    bus.workers worker = some stage ∨
      (∃ command ∈ bus.store.stream, stage = .lookingUp command) ∨
      ∃ stage' surroundings, bus.workers worker = some stage' ∧
        (CommandLoop.advance config surroundings stage' bus.store).1 = some stage ∧
        (step config bus event).store =
          (CommandLoop.advance config surroundings stage' bus.store).2 := by
  cases event with
  | submit entryId envelope retention => exact .inl h
  | elapse milliseconds => exact .inl h
  | deliver worker' command =>
    unfold step at h
    dsimp only at h
    split at h
    · rename_i hdelivered
      by_cases hworker : worker = worker'
      · subst hworker
        dsimp only at h
        rw [Function.update_self] at h
        simp only [Bool.and_eq_true, decide_eq_true_eq] at hdelivered
        exact .inr (.inl ⟨command, hdelivered.2, (Option.some.inj h).symm⟩)
      · dsimp only at h
        rw [Function.update_of_ne hworker] at h
        exact .inl h
    · exact .inl h
  | crash worker' =>
    unfold step at h
    dsimp only at h
    by_cases hworker : worker = worker'
    · subst hworker
      simp at h
    · rw [Function.update_of_ne hworker] at h
      exact .inl h
  | advance worker' surroundings =>
    cases hstage : bus.workers worker' with
    | none =>
      rw [step_advance_idle hstage] at h
      exact .inl h
    | some stage' =>
      rw [step_advance hstage] at h
      dsimp only at h
      by_cases hworker : worker = worker'
      · subst hworker
        rw [Function.update_self] at h
        exact .inr (.inr ⟨stage', surroundings, hstage, h, by rw [step_advance hstage]⟩)
      · rw [Function.update_of_ne hworker] at h
        exact .inl h

/-- Every entry, waiting or in work, has been enqueued, and every worker got where it is with
what it needs there. -/
structure Traced (taken : List (Taken CommandBus BusEvent)) (bus : CommandBus) : Prop where
  entries : ∀ command ∈ bus.store.stream, ∃ t ∈ taken, enqueuedBy t = some command
  commands : ∀ worker stage, bus.workers worker = some stage →
    ∃ t ∈ taken, enqueuedBy t = some stage.command
  backed : ∀ worker stage, bus.workers worker = some stage → ∃ t ∈ taken, Backed t.after.store stage

/-- The server gives no id to two entries. -/
def DistinctEntries (taken : List (Taken CommandBus BusEvent)) : Prop :=
  ((taken.filterMap enqueuedBy).map ReceivedCommand.entryId).Nodup

variable {taken : List (Taken CommandBus BusEvent)} {bus : CommandBus}

theorem Traced.step (h : Traced taken bus) (event : BusEvent) :
    Traced (taken ++ [⟨bus, event, CommandBus.step config bus event⟩])
      (CommandBus.step config bus event) := by
  have hearlier : ∀ {P : Taken CommandBus BusEvent → Prop}, (∃ t ∈ taken, P t) →
      ∃ t ∈ taken ++ [⟨bus, event, CommandBus.step config bus event⟩], P t := by
    rintro P ⟨t, ht, hP⟩
    exact ⟨t, List.mem_append_left _ ht, hP⟩
  have hlast : (⟨bus, event, CommandBus.step config bus event⟩ : Taken CommandBus BusEvent) ∈
      taken ++ [⟨bus, event, CommandBus.step config bus event⟩] := by simp
  constructor
  · intro command hcommand
    rcases step_entries hcommand with hold | hnew
    · exact hearlier (h.entries command hold)
    · exact ⟨_, hlast, hnew⟩
  · intro worker stage hstage
    rcases step_workers hstage with hold | ⟨command, hcommand, rfl⟩ |
      ⟨stage', surroundings, hbefore, hadvance, -⟩
    · exact hearlier (h.commands worker stage hold)
    · exact hearlier (h.entries command hcommand)
    · obtain ⟨t, ht, hbacked⟩ := h.backed worker stage' hbefore
      rw [(advance_backed hbacked hadvance).1]
      exact hearlier (h.commands worker stage' hbefore)
  · intro worker stage hstage
    rcases step_workers hstage with hold | ⟨command, hcommand, rfl⟩ |
      ⟨stage', surroundings, hbefore, hadvance, hstore⟩
    · exact hearlier (h.backed worker stage hold)
    · exact ⟨_, hlast, trivial⟩
    · obtain ⟨t, ht, hbacked⟩ := h.backed worker stage' hbefore
      have hafter := (advance_backed hbacked hadvance).2
      rw [← hstore] at hafter
      exact ⟨_, hlast, hafter⟩

theorem Runs.traced (run : Runs config taken bus) : Traced taken bus := by
  refine run.history (I := Traced) ⟨?_, ?_, ?_⟩ ?_
  · intro command hcommand
    contradiction
  · intro worker stage hstage
    contradiction
  · intro worker stage hstage
    contradiction
  · rintro taken s event s' _ h rfl
    exact h.step event

/-- Entries with one id are one entry. -/
theorem DistinctEntries.eq (h : DistinctEntries taken) {t t' : Taken CommandBus BusEvent}
    (ht : t ∈ taken) (ht' : t' ∈ taken) {command command' : ReceivedCommand}
    (hcommand : enqueuedBy t = some command) (hcommand' : enqueuedBy t' = some command')
    (hid : command.entryId = command'.entryId) : command = command' := by
  have hmem : command ∈ taken.filterMap enqueuedBy := List.mem_filterMap.mpr ⟨t, ht, hcommand⟩
  have hmem' : command' ∈ taken.filterMap enqueuedBy :=
    List.mem_filterMap.mpr ⟨t', ht', hcommand'⟩
  exact List.inj_on_of_nodup_map h hmem hmem' hid

theorem DistinctEntries.left {later : List (Taken CommandBus BusEvent)}
    (h : DistinctEntries (taken ++ later)) : DistinctEntries taken := by
  unfold DistinctEntries at *
  rw [List.filterMap_append, List.map_append] at h
  exact h.of_append_left

/-- In every run: an entry leaves the stream only after its command had a terminal result, and a
terminal result is what is stored under its key until it expires. -/
theorem acknowledged_after_result (run : Runs config taken bus) (hids : DistinctEntries taken) :
    (∀ earlier t later command, taken = earlier ++ t :: later →
      command ∈ t.before.store.stream → command ∉ t.after.store.stream →
      ∃ t' ∈ earlier, t'.after.store.answered command.envelope = true) ∧
    ∀ t ∈ taken, ∀ key result expiresAt,
      t.after.store.results key = some ⟨result, expiresAt⟩ → result.isTerminal = true →
      bus.store.now < expiresAt →
      ∃ expiresAt', expiresAt ≤ expiresAt' ∧
        bus.store.results key = some ⟨result, expiresAt'⟩ := by
  constructor
  · intro earlier t later command hsplit hbefore hafter
    subst hsplit
    obtain ⟨runBefore, hstep⟩ := run.split
    have htraced := Runs.traced runBefore
    have hdistinct : DistinctEntries earlier := hids.left
    rw [← hstep] at hafter
    obtain ⟨worker, acknowledged, hstage, hid⟩ := step_removed hbefore hafter
    obtain ⟨t₁, ht₁, hacknowledged⟩ := htraced.commands worker _ hstage
    obtain ⟨t₂, ht₂, hcommand⟩ := htraced.entries command hbefore
    obtain rfl : acknowledged = command := hdistinct.eq ht₁ ht₂ hacknowledged hcommand hid
    obtain ⟨t', ht', hbacked⟩ := htraced.backed worker _ hstage
    exact ⟨t', ht', hbacked⟩
  · intro t ht key result expiresAt hentry hterminal hlive
    exact (Runs.later run ht).results key result expiresAt hentry hterminal hlive

/-- One worker completes the command, another one finds the result and acknowledges the entry. -/
def acknowledgedElsewhere : List BusEvent :=
  executedOnce ⟨.MIN⟩ .none ++ [.crash 0] ++ redelivered ⟨0⟩

theorem acknowledged_after_result_elsewhere :
    volumeCommand ∉ (replay (step dayConfig) empty acknowledgedElsewhere).2.store.stream ∧
    ∃ t' ∈ (replay (step dayConfig) empty acknowledgedElsewhere).1,
      t'.after.store.answered volumeCommand.envelope = true := by
  have run := run_replay (step dayConfig) empty acknowledgedElsewhere
  have hids : DistinctEntries (replay (step dayConfig) empty acknowledgedElsewhere).1 := by
    unfold DistinctEntries
    decide +kernel
  refine ⟨by decide +kernel, ?_⟩
  have hlast : 10 < (replay (step dayConfig) empty acknowledgedElsewhere).1.length := by
    decide +kernel
  have hsplit : (replay (step dayConfig) empty acknowledgedElsewhere).1 =
      (replay (step dayConfig) empty acknowledgedElsewhere).1.take 10 ++
        (replay (step dayConfig) empty acknowledgedElsewhere).1[10] ::
          (replay (step dayConfig) empty acknowledgedElsewhere).1.drop 11 := by
    rw [← List.drop_eq_getElem_cons, List.take_append_drop]
  obtain ⟨t', ht', hanswered⟩ := (acknowledged_after_result run hids).1 _ _ _ volumeCommand hsplit
    (by clear hsplit; decide +kernel +revert) (by clear hsplit; decide +kernel +revert)
  exact ⟨t', List.mem_of_mem_take ht', hanswered⟩

end CommandBus

end PepeAudio
