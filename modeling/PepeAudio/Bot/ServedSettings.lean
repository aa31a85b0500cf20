import PepeAudio.Bot.ActorInitialization
import PepeAudio.Worker.SettingsView

/-!
# The settings runtime of one guild

The process is the only one that writes the row of the guild. Whatever its worker
and the database do on their own, the factory and the publishers find the settings
that were queued last.
-/
namespace PepeAudio

namespace SettingsRuntime

/-- The runtime serves one guild, and its worker is at work. -/
structure Serving (guildId : GuildId) (runtime : SettingsRuntime) : Prop where
  opened : runtime.shutdown = .open
  alone : ∀ other worker, runtime.workers other = some worker → other = guildId
  rows : ∀ row, runtime.table guildId = some row → row.guildId = guildId
  worker : ∀ worker, runtime.workers guildId = some worker →
    ∃ row, runtime.table guildId = some row ∧ Tended row worker

/-- What the steps of the worker and the database leave of what others see. -/
structure Settles (guildId : GuildId) (runtime runtime' : SettingsRuntime) : Prop where
  publishers : runtime'.publishers = runtime.publishers
  row : ∀ row, runtime.table guildId = some row →
    ∃ row', runtime'.table guildId = some row' ∧ RowHeld row' row
  missing : runtime.workers guildId = none →
    runtime'.workers guildId = none ∧ runtime'.table guildId = runtime.table guildId
  worker : ∀ worker, runtime.workers guildId = some worker →
    ∃ worker', runtime'.workers guildId = some worker' ∧ Shows worker worker'

variable {runtime runtime' : SettingsRuntime} {guildId : GuildId} {event : SettingsRuntimeEvent}

theorem Settles.refl (guildId : GuildId) (runtime : SettingsRuntime) :
    Settles guildId runtime runtime :=
  ⟨rfl, fun row hrow => ⟨row, hrow, .refl row⟩, fun hnone => ⟨hnone, rfl⟩,
    fun worker hworker => ⟨worker, hworker, .of_mailbox rfl⟩⟩

theorem step_publishers (runtime : SettingsRuntime) (hevent : event.isPersistence = true) :
    (runtime.step event).2.publishers = runtime.publishers ∧
      (runtime.step event).2.shutdown = runtime.shutdown := by
  cases event with
  | turn | changed | execute | reply | fail | retry | land =>
    dsimp only [step]
    split
    · exact ⟨rfl, rfl⟩
    · (try split) <;> (try split) <;> exact ⟨rfl, rfl⟩
  | _ => contradiction

/-- The worker of the guild goes on, and the rows stay. -/
theorem Serving.replace (h : runtime.Serving guildId) {row : GuildSettings}
    (hrow : runtime.table guildId = some row) {worker : SettingsWorker}
    (htended : Tended row worker) : (runtime.setWorker guildId worker).Serving guildId := by
  refine ⟨h.opened, ?_, h.rows, ?_⟩
  · intro other found hfound
    rcases setWorker_cases hfound with ⟨rfl, -⟩ | ⟨-, hbefore⟩
    · rfl
    · exact h.alone other found hbefore
  · intro found hfound
    rw [setWorker_self] at hfound
    obtain rfl := Option.some.inj hfound
    exact ⟨row, hrow, htended⟩

theorem Serving.setWorker (h : runtime.Serving guildId) {worker worker' : SettingsWorker}
    (hworker : runtime.workers guildId = some worker) {row : GuildSettings}
    (hrow : runtime.table guildId = some row) (htended : Tended row worker')
    (hshows : Shows worker worker') :
    (runtime.setWorker guildId worker').Serving guildId ∧
      runtime.Settles guildId (runtime.setWorker guildId worker') := by
  refine ⟨h.replace hrow htended, ⟨rfl, fun row hrow => ⟨row, hrow, .refl row⟩, ?_, ?_⟩⟩
  · intro hnone
    rw [hworker] at hnone
    contradiction
  · intro before hbefore
    obtain rfl := Option.some.inj (hworker.symm.trans hbefore)
    exact ⟨worker', setWorker_self runtime guildId worker', hshows⟩

/-- The database executes the write of the worker, or refuses it. -/
theorem Serving.updated (h : runtime.Serving guildId) {worker : SettingsWorker} {final : Bool}
    {update : SettingsUpdate} {attempts : ℕ} {sent : GuildSettings}
    {reply : Except StorageError (Option GuildSettings)} {table : GuildSettingsTable}
    (hworker : runtime.workers guildId = some worker)
    (hcase : worker.phase = .persisting final update (.updating attempts sent none))
    (houtcome : runtime.table.updateGuildSettings (sent.withDesired update.settings)
      sent.revision = (reply, table)) :
    Serving guildId { runtime.setWorker guildId { worker with
        phase := .persisting final update (.updating attempts sent (some reply)) } with
      table := table } ∧
    runtime.Settles guildId { runtime.setWorker guildId { worker with
        phase := .persisting final update (.updating attempts sent (some reply)) } with
      table := table } := by
  obtain ⟨row, hrow, htended⟩ := h.worker worker hworker
  have hphase := htended.phase
  rw [hcase] at hphase
  obtain ⟨hfinal, hpends, rfl, hcurrent⟩ := hphase
  have hguild : (sent.withDesired update.settings).guildId = guildId := h.rows sent hrow
  rcases GuildSettingsTable.updateGuildSettings_cases (sent.withDesired update.settings)
    sent.revision runtime.table with
    ⟨found, updated, hfound, hsame, hupdated, hnext, hwrote⟩ | ⟨refused, hrefused, hunchanged⟩
  · obtain ⟨rfl, rfl⟩ := Prod.mk.inj (houtcome.symm.trans hwrote)
    have hupdatedGuild : updated.guildId = guildId := by
      rw [hupdated]
      exact hguild
    have hmatches : matchesDesired updated update.settings = true := by
      rw [matchesDesired_congr update.settings hupdated]
      exact matchesDesired_withDesired _ _
    have htended' : Tended updated { worker with
        phase := .persisting final update (.updating attempts sent (some (.ok (some updated)))) } :=
      ⟨htended.durable, hfinal, hpends, rfl, hmatches⟩
    rw [hguild]
    refine ⟨⟨h.opened, ?_, ?_, ?_⟩, ⟨rfl, ?_, ?_, ?_⟩⟩
    · intro other found hfound
      rcases setWorker_cases hfound with ⟨rfl, -⟩ | ⟨-, hbefore⟩
      · rfl
      · exact h.alone other found hbefore
    · intro found hfound
      dsimp only at hfound
      rw [Function.update_self] at hfound
      obtain rfl := Option.some.inj hfound
      exact hupdatedGuild
    · intro found hfound
      have hself := hfound.symm.trans (setWorker_self runtime guildId _)
      obtain rfl := Option.some.inj hself
      exact ⟨updated, Function.update_self .., htended'⟩
    · intro found hfound
      obtain rfl := Option.some.inj (hrow.symm.trans hfound)
      refine ⟨updated, Function.update_self .., ?_⟩
      refine (RowHeld.refl sent).later (hupdatedGuild.trans (h.rows sent hrow).symm) ?_
      omega
    · intro hnone
      rw [hworker] at hnone
      contradiction
    · intro before hbefore
      obtain rfl := Option.some.inj (hworker.symm.trans hbefore)
      exact ⟨_, setWorker_self runtime guildId _, .of_mailbox rfl⟩
  · obtain ⟨rfl, rfl⟩ := Prod.mk.inj (houtcome.symm.trans hunchanged)
    refine h.setWorker hworker hrow ⟨htended.durable, hfinal, hpends, ?_⟩ (.of_mailbox rfl)
    rcases reply with error | found
    · exact hcurrent
    · rcases found with - | found
      · exact hcurrent
      · exact absurd rfl (hrefused found)

/-- The worker and the database take a step, and nothing fails that was written. -/
theorem Serving.persisted (h : runtime.Serving guildId) (hevent : event.isPersistence = true)
    (hunambiguous : runtime.unambiguous event = true) :
    (runtime.step event).2.Serving guildId ∧ runtime.Settles guildId (runtime.step event).2 := by
  obtain ⟨hpublishers, hshutdown⟩ := step_publishers runtime hevent
  have hsignal : runtime.signal = false := by simp [signal, h.opened]
  have hmove := step_moves runtime event
  generalize (runtime.step event).1 = reply at hmove
  generalize (runtime.step event).2 = runtime' at hmove hpublishers hshutdown ⊢
  have hself : ∀ {other worker}, runtime.workers other = some worker → other = guildId :=
    fun hworker => h.alone _ _ hworker
  cases hmove with
  | aside publishers shutdown hquiet =>
    obtain rfl : publishers = runtime.publishers := hpublishers
    obtain rfl : shutdown = runtime.shutdown := hshutdown
    exact ⟨h, .refl guildId runtime⟩
  | registered | queued | quitted | drained | noticed | panicked => contradiction
  | landed => contradiction
  | @rested _ _ worker unseen phase hworker hbefore hafter =>
    obtain rfl := hself hworker
    obtain ⟨row, hrow, htended⟩ := h.worker worker hworker
    exact h.setWorker hworker hrow (htended.rest (htended.resting hbefore) unseen hafter)
      (.of_mailbox rfl)
  | @turned _ worker update persist hworker hturning hpending =>
    obtain rfl := hself hworker
    obtain ⟨row, hrow, htended⟩ := h.worker worker hworker
    have hresting : worker.phase.isResting = true := by
      rw [hturning]
      rfl
    have hcurrent := htended.resting hresting
    have hread := htended.rest hcurrent false hresting
    obtain ⟨hafter, hshows⟩ := hread.persistPending hcurrent hpending
    unfold SettingsRuntime.advance
    rw [hsignal]
    exact h.setWorker hworker hrow hafter ⟨hshows.shown, hshows.pending⟩
  | @looked _ worker final update attempts hworker hcase =>
    obtain rfl := hself hworker
    obtain ⟨row, hrow, htended⟩ := h.worker worker hworker
    have hphase := htended.phase
    rw [hcase] at hphase
    obtain ⟨hfinal, hpends, hcurrent⟩ := hphase
    refine h.setWorker hworker hrow ⟨htended.durable, hfinal, hpends, ?_⟩ (.of_mailbox rfl)
    unfold GuildSettingsTable.getGuildSettings
    rw [hrow]
    exact ⟨rfl, hcurrent⟩
  | wrote hworker hcase houtcome =>
    obtain rfl := hself hworker
    exact h.updated hworker hcase houtcome
  | @replied _ worker final update call hworker hcase =>
    obtain rfl := hself hworker
    obtain ⟨row, hrow, htended⟩ := h.worker worker hworker
    have hphase := htended.phase
    rw [hcase] at hphase
    obtain ⟨rfl, hpends, hcall⟩ := hphase
    obtain ⟨hstep, hcurrent⟩ := resume_kept hcall
    obtain ⟨hafter, hshows⟩ := htended.advance hpends hstep hcurrent
    unfold SettingsRuntime.advance
    rw [hsignal]
    exact h.setWorker hworker hrow hafter hshows
  | @failed _ worker final update call hworker hcase =>
    obtain rfl := hself hworker
    obtain ⟨row, hrow, htended⟩ := h.worker worker hworker
    have hphase := htended.phase
    rw [hcase] at hphase
    obtain ⟨rfl, hpends, hcall⟩ := hphase
    have hcurrent := current_of_fail hworker hcase hunambiguous hcall
    have hstep : StepKept row update (.done (.error .repository)) := trivial
    obtain ⟨hafter, hshows⟩ := htended.advance hpends hstep fun _ => hcurrent
    rw [hsignal]
    obtain ⟨hserving, hsettles⟩ := h.setWorker hworker hrow hafter hshows
    exact ⟨⟨hserving.opened, hserving.alone, hserving.rows, hserving.worker⟩,
      ⟨hsettles.publishers, hsettles.row, hsettles.missing, hsettles.worker⟩⟩

/-- The update that a publisher queues for a snapshot. -/
def queuedFor (index : ℕ) (snapshot : PlayerSnapshot) (runtime : SettingsRuntime) :
    Option SettingsUpdate :=
  match ((runtime.step (.publish index snapshot)).2.step (.queue index)).1 with
  | .queued _ update _ => some update
  | _ => none

/-- The runtime after an update was queued, or none. -/
def withUpdate (guildId : GuildId) (worker : SettingsWorker) (update : Option SettingsUpdate)
    (publishers : List SettingsSnapshotPublisher) (runtime : SettingsRuntime) : SettingsRuntime :=
  match update with
  | some update =>
    { runtime.setWorker guildId (worker.queue update) with publishers := publishers }
  | none => { runtime with publishers := publishers }

theorem Serving.publishSettings_eq (h : runtime.Serving guildId) {index : ℕ}
    {publisher : SettingsSnapshotPublisher} {worker : SettingsWorker} {snapshot : PlayerSnapshot}
    (hpublisher : runtime.publishers[index]? = some publisher)
    (hguild : publisher.guildId = guildId) (hqueueing : publisher.queueing = none)
    (hworker : runtime.workers guildId = some worker) (hsnapshot : snapshot.guildId = guildId) :
    GuildPlayers.publishSettings index snapshot runtime =
        runtime.withUpdate guildId worker (publisher.accept snapshot).1
          (runtime.publishers.set index (publisher.accept snapshot).2) ∧
      runtime.queuedFor index snapshot = (publisher.accept snapshot).1 := by
  obtain ⟨row, hrow, htended⟩ := h.worker worker hworker
  have hopen : runtime.isClosing = false := by simp [isClosing, h.opened]
  have hclosed : runtime.isWorkerClosed guildId = false := by
    simp [isWorkerClosed, hopen, hworker, htended.open]
  obtain ⟨hlt, -⟩ := List.getElem?_eq_some_iff.mp hpublisher
  have hoffered : (runtime.step (.publish index snapshot)).2 = { runtime with
      publishers := runtime.publishers.set index (publisher.publish false snapshot).2 } := by
    simp only [step, hpublisher, hqueueing, hguild, hclosed, Option.isSome_none,
      Bool.false_eq_true, if_false]
  have hfound : (runtime.publishers.set index (publisher.publish false snapshot).2)[index]? =
      some (publisher.publish false snapshot).2 := List.getElem?_set_self hlt
  have hsame : (publisher.publish false snapshot).2.guildId = guildId := by
    rw [← hguild]
    exact publisher.publish_guildId false snapshot
  unfold GuildPlayers.publishSettings queuedFor
  rw [hoffered]
  rcases publisher.publish_accept hqueueing (hsnapshot.trans hguild.symm) with
    ⟨hnone, haccept⟩ | ⟨update, arming, hsome, haccept⟩
  · simp only [step, hfound, hnone, haccept]
    exact ⟨rfl, trivial⟩
  · have hclosed' : isWorkerClosed { runtime with
        publishers := runtime.publishers.set index (publisher.publish false snapshot).2 }
        guildId = false := hclosed
    simp only [step, hfound, hsome, hsame, hworker, haccept, hclosed', List.set_set]
    exact ⟨rfl, trivial⟩

/-- The latest publisher that has accepted settings. -/
def lastArmed (publishers : List SettingsSnapshotPublisher) : Option SettingsSnapshotPublisher :=
  (publishers.filter SettingsSnapshotPublisher.armed).getLast?

@[simp] theorem lastArmed_nil : lastArmed [] = none := rfl

theorem lastArmed_concat (publishers : List SettingsSnapshotPublisher)
    (publisher : SettingsSnapshotPublisher) : lastArmed (publishers ++ [publisher]) =
      if publisher.armed then some publisher else lastArmed publishers := by
  unfold lastArmed
  rw [List.filter_append]
  cases harmed : publisher.armed with
  | true => simp [harmed]
  | false => simp [harmed]

/-- The worker shows what was accepted last, while the pending update is not newer than `mark`. -/
structure Remembers (guildId : GuildId) (mark : WithBot ℕ) (runtime : SettingsRuntime) : Prop where
  serving : runtime.Serving guildId
  publishers : ∀ publisher ∈ runtime.publishers,
    publisher.guildId = guildId ∧ publisher.queueing = none
  worker : runtime.publishers ≠ [] → ∃ worker, runtime.workers guildId = some worker
  marked : ∀ worker update, runtime.workers guildId = some worker →
    worker.mailbox.pending = some update → (update.actorRevision.toNat : WithBot ℕ) ≤ mark
  accepted : ∀ worker publisher, runtime.workers guildId = some worker →
    lastArmed runtime.publishers = some publisher →
      worker.mailbox.shown = some publisher.lastAccepted
  unarmed : ∀ worker publisher, runtime.workers guildId = some worker →
    runtime.publishers.getLast? = some publisher → publisher.armed = false →
      publisher.persistInitial = false → worker.mailbox.shown = some publisher.initial

variable {mark mark' : WithBot ℕ}

theorem Remembers.mono (h : runtime.Remembers guildId mark) (hle : mark ≤ mark') :
    runtime.Remembers guildId mark' :=
  ⟨h.serving, h.publishers, h.worker,
    fun worker update hworker hpending => (h.marked worker update hworker hpending).trans hle,
    h.accepted, h.unarmed⟩

/-- The worker and the database take a step. -/
theorem Remembers.persisted (h : runtime.Remembers guildId mark)
    (hevent : event.isPersistence = true) (hunambiguous : runtime.unambiguous event = true) :
    (runtime.step event).2.Remembers guildId mark := by
  obtain ⟨hserving, hsettles⟩ := h.serving.persisted hevent hunambiguous
  generalize (runtime.step event).2 = runtime' at hserving hsettles ⊢
  have hbefore : ∀ worker', runtime'.workers guildId = some worker' →
      ∃ worker, runtime.workers guildId = some worker ∧ Shows worker worker' := by
    intro worker' hworker'
    cases hworker : runtime.workers guildId with
    | none =>
      rw [(hsettles.missing hworker).1] at hworker'
      contradiction
    | some worker =>
      obtain ⟨found, hfound, hshows⟩ := hsettles.worker worker hworker
      obtain rfl := Option.some.inj (hfound.symm.trans hworker')
      exact ⟨worker, rfl, hshows⟩
  refine ⟨hserving, ?_, ?_, ?_, ?_, ?_⟩
  · rw [hsettles.publishers]
    exact h.publishers
  · rw [hsettles.publishers]
    intro hne
    obtain ⟨worker, hworker⟩ := h.worker hne
    obtain ⟨worker', hworker', -⟩ := hsettles.worker worker hworker
    exact ⟨worker', hworker'⟩
  · intro worker' update hworker' hpending
    obtain ⟨worker, hworker, hshows⟩ := hbefore worker' hworker'
    exact h.marked worker update hworker (hshows.pending update hpending)
  · rw [hsettles.publishers]
    intro worker' publisher hworker' hlast
    obtain ⟨worker, hworker, hshows⟩ := hbefore worker' hworker'
    rw [hshows.shown]
    exact h.accepted worker publisher hworker hlast
  · rw [hsettles.publishers]
    intro worker' publisher hworker' hlast harmed hpersist
    obtain ⟨worker, hworker, hshows⟩ := hbefore worker' hworker'
    rw [hshows.shown]
    exact h.unarmed worker publisher hworker hlast harmed hpersist

/-- The latest publisher takes a snapshot that is newer than all before. -/
theorem Remembers.publish (h : runtime.Remembers guildId mark)
    {earlier : List SettingsSnapshotPublisher} {publisher : SettingsSnapshotPublisher}
    (hpublishers : runtime.publishers = earlier ++ [publisher]) {snapshot : PlayerSnapshot}
    (hsnapshot : snapshot.guildId = guildId) (hnewer : mark < snapshot.revision.toNat) :
    (GuildPlayers.publishSettings earlier.length snapshot runtime).Remembers guildId
        (max mark snapshot.revision.toNat) ∧
      (GuildPlayers.publishSettings earlier.length snapshot runtime).publishers =
        earlier ++ [(publisher.accept snapshot).2] ∧
      (GuildPlayers.publishSettings earlier.length snapshot runtime).table = runtime.table ∧
      runtime.queuedFor earlier.length snapshot = (publisher.accept snapshot).1 := by
  obtain ⟨worker, hworker⟩ := h.worker (by simp [hpublishers])
  obtain ⟨row, hrow, htended⟩ := h.serving.worker worker hworker
  have hmem : publisher ∈ runtime.publishers := by simp [hpublishers]
  obtain ⟨hguild, hqueueing⟩ := h.publishers publisher hmem
  have hfound : runtime.publishers[earlier.length]? = some publisher := by simp [hpublishers]
  obtain ⟨heq, hqueued⟩ := h.serving.publishSettings_eq hfound hguild hqueueing hworker hsnapshot
  have hset : runtime.publishers.set earlier.length (publisher.accept snapshot).2 =
      earlier ++ [(publisher.accept snapshot).2] := by simp [hpublishers]
  rw [heq, hset, hqueued]
  have haccepts := publisher.accept_accepts snapshot
  generalize (publisher.accept snapshot).1 = update at haccepts ⊢
  generalize (publisher.accept snapshot).2 = publisher' at haccepts ⊢
  have hall : ∀ other : SettingsSnapshotPublisher, other.guildId = publisher.guildId →
      other.queueing = publisher.queueing →
      ∀ found ∈ earlier ++ [other], found.guildId = guildId ∧ found.queueing = none := by
    intro other hotherGuild hotherQueueing found hmem
    rcases List.mem_append.mp hmem with hbefore | hlast
    · exact h.publishers found (by simp [hpublishers, hbefore])
    · rw [List.mem_singleton.mp hlast, hotherGuild, hotherQueueing]
      exact ⟨hguild, hqueueing⟩
  cases haccepts with
  | ignored =>
    rw [← hpublishers]
    exact ⟨h.mono (le_max_left _ _), rfl, rfl, rfl⟩
  | armed hunarmed hpersist =>
    have hshown := h.unarmed worker publisher hworker (by simp [hpublishers]) hunarmed hpersist
    refine ⟨⟨⟨h.serving.opened, h.serving.alone, h.serving.rows, h.serving.worker⟩,
      hall _ rfl rfl, fun _ => ⟨worker, hworker⟩, ?_, ?_, ?_⟩, rfl, rfl, rfl⟩
    · intro found update hfound hpending
      exact (h.marked found update hfound hpending).trans (le_max_left _ _)
    · intro found last hfound hlast
      obtain rfl := Option.some.inj (hworker.symm.trans hfound)
      simp only [withUpdate, lastArmed_concat, if_true, Option.some.injEq] at hlast
      rw [← hlast]
      exact hshown
    · intro found last hfound hlast harmed
      simp only [withUpdate, List.getLast?_concat, Option.some.injEq] at hlast
      rw [← hlast] at harmed
      contradiction
  | queued settings persistInitial =>
    have hnewest : ∀ pending, worker.mailbox.pending = some pending →
        pending.actorRevision.toNat < snapshot.revision.toNat := by
      intro pending hpending
      exact WithBot.coe_lt_coe.mp ((h.marked worker pending hworker hpending).trans_lt hnewer)
    obtain ⟨hafter, hmailbox⟩ :=
      @Tended.queue row worker ⟨snapshot.revision, settings⟩ htended hnewest
    have hserving := h.serving.replace hrow hafter
    have hself : ∀ found, (runtime.setWorker guildId (worker.queue
        ⟨snapshot.revision, settings⟩)).workers guildId = some found →
        found.mailbox = ⟨worker.mailbox.durable, some ⟨snapshot.revision, settings⟩⟩ := by
      intro found hfound
      rw [setWorker_self] at hfound
      rw [← Option.some.inj hfound]
      exact hmailbox
    refine ⟨⟨⟨hserving.opened, hserving.alone, hserving.rows, hserving.worker⟩,
      hall _ rfl rfl, fun _ => ⟨_, setWorker_self _ _ _⟩, ?_, ?_, ?_⟩, rfl, rfl, rfl⟩
    · intro found update hfound hpending
      rw [hself found hfound] at hpending
      rw [← Option.some.inj hpending]
      exact le_max_right _ _
    · intro found last hfound hlast
      simp only [withUpdate, lastArmed_concat, if_true, Option.some.injEq] at hlast
      rw [hself found hfound, ← hlast]
      rfl
    · intro found last hfound hlast harmed
      simp only [withUpdate, List.getLast?_concat, Option.some.injEq] at hlast
      rw [← hlast] at harmed
      contradiction

theorem publisherOf_persistInitial {initial : PersistentPlayerSettings}
    {current : Option PersistentPlayerSettings}
    (h : (publisherOf guildId initial current).persistInitial = false) : current = some initial :=
  not_not.mp (of_decide_eq_false h)

/-- A publisher is made for a new actor. -/
theorem Remembers.spawn (h : runtime.Remembers guildId mark) (initial : PersistentPlayerSettings)
    {row : GuildSettings} (hrow : runtime.table guildId = some row) :
    (runtime.step (.publisher guildId initial)).2.Remembers guildId mark ∧
      (runtime.step (.publisher guildId initial)).2.table = runtime.table ∧
      ∃ publisher, (runtime.step (.publisher guildId initial)).2.publishers =
          runtime.publishers ++ [publisher] ∧
        publisher.initial = initial ∧ publisher.armed = false := by
  have hopen : runtime.isClosing = false := by simp [isClosing, h.serving.opened]
  have hall : ∀ current : Option PersistentPlayerSettings,
      ∀ found ∈ runtime.publishers ++ [publisherOf guildId initial current],
        found.guildId = guildId ∧ found.queueing = none := by
    intro current found hmem
    rcases List.mem_append.mp hmem with hbefore | hlast
    · exact h.publishers found hbefore
    · rw [List.mem_singleton.mp hlast]
      exact ⟨rfl, rfl⟩
  cases hworker : runtime.workers guildId with
  | some worker =>
    simp only [step, hopen, hworker, Bool.false_eq_true, if_false]
    refine ⟨⟨⟨h.serving.opened, h.serving.alone, h.serving.rows, h.serving.worker⟩, hall _,
      fun _ => ⟨worker, hworker⟩, h.marked, ?_, ?_⟩, trivial, _, rfl, rfl, rfl⟩
    · intro found last hfound hlast
      rw [lastArmed_concat] at hlast
      exact h.accepted found last hfound hlast
    · intro found last hfound hlast harmed hpersist
      obtain rfl := Option.some.inj (hworker.symm.trans hfound)
      rw [List.getLast?_concat] at hlast
      obtain rfl := Option.some.inj hlast
      exact publisherOf_persistInitial hpersist
  | none =>
    have hempty : runtime.publishers = [] := by
      by_contra hne
      obtain ⟨worker, hsome⟩ := h.worker hne
      rw [hworker] at hsome
      contradiction
    have hserving := h.serving.replace hrow (⟨rfl, rfl⟩ : Tended row (.new row))
    have hself : ∀ found, (runtime.setWorker guildId (.new row)).workers guildId = some found →
        found = .new row := by
      intro found hfound
      rw [setWorker_self] at hfound
      exact (Option.some.inj hfound).symm
    simp only [step, hopen, hworker, hrow, Bool.false_eq_true, if_false]
    refine ⟨⟨⟨hserving.opened, hserving.alone, hserving.rows, hserving.worker⟩, hall _,
      fun _ => ⟨_, setWorker_self _ _ _⟩, ?_, ?_, ?_⟩, rfl, _, rfl, rfl, rfl⟩
    · intro found update hfound hpending
      rw [hself found hfound] at hpending
      contradiction
    · intro found last hfound hlast
      rw [lastArmed_concat, hempty] at hlast
      contradiction
    · intro found last hfound hlast harmed hpersist
      rw [hself found hfound]
      rw [List.getLast?_concat] at hlast
      obtain rfl := Option.some.inj hlast
      exact publisherOf_persistInitial hpersist

/-- The row of the guild is made, unless it is there. -/
theorem Remembers.created (h : runtime.Remembers guildId mark) {defaults row : GuildSettings}
    {table : GuildSettingsTable} (hguild : defaults.guildId = guildId)
    (hcreated : runtime.table.createGuildSettings defaults = (.ok row, table)) :
    { runtime with table }.Remembers guildId mark ∧ table guildId = some row := by
  unfold GuildSettingsTable.createGuildSettings at hcreated
  split_ifs at hcreated
  · simp at hcreated
  · simp at hcreated
  · rw [hguild] at hcreated
    cases hrow : runtime.table guildId with
    | some found =>
      rw [hrow] at hcreated
      obtain ⟨hfound, rfl⟩ := Prod.mk.inj hcreated
      obtain rfl := Except.ok.inj hfound
      exact ⟨h, hrow⟩
    | none =>
      rw [hrow] at hcreated
      obtain ⟨hfound, rfl⟩ := Prod.mk.inj hcreated
      obtain rfl := Except.ok.inj hfound
      have hnone : ∀ worker, runtime.workers guildId ≠ some worker := by
        intro worker hworker
        obtain ⟨found, hfound, -⟩ := h.serving.worker worker hworker
        rw [hrow] at hfound
        contradiction
      refine ⟨⟨⟨h.serving.opened, h.serving.alone, ?_, ?_⟩, h.publishers, h.worker, h.marked,
        h.accepted, h.unarmed⟩, Function.update_self ..⟩
      · intro found hfound
        dsimp only at hfound
        rw [Function.update_self] at hfound
        rw [← Option.some.inj hfound]
        exact hguild
      · intro worker hworker
        exact absurd hworker (hnone worker)

end SettingsRuntime

end PepeAudio
