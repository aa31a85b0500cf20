import PepeAudio.Bot.ActorCreation
import PepeAudio.Bot.ServedSettings

/-!
# Settings survive recreation

The settings that a player accepted last are what the worker of the guild shows.
The factory reads them back for the next player, unless the pending update names a
preset that is not installed: it then takes the volume and the spatial flag of the
row as well.
-/
namespace PepeAudio

open SettingsRuntime

/-- A new player keeps the volume and the spatial flag, and the preset if it is installed. -/
structure Restored (catalog : HrirCatalog) (accepted settings : PersistentPlayerSettings) :
    Prop where
  volume : settings.volume = accepted.volume
  spatialAudioEnabled : settings.spatialAudioEnabled = accepted.spatialAudioEnabled
  hrirPreset : catalog.isInstalled accepted.hrirPreset = true →
    settings.hrirPreset = accepted.hrirPreset

/-- The settings are those that the publishers accepted last, if they accepted any. -/
def RestoredFrom (catalog : HrirCatalog) (publishers : List SettingsSnapshotPublisher)
    (settings : PersistentPlayerSettings) : Prop :=
  ∀ publisher, lastArmed publishers = some publisher →
    Restored catalog publisher.lastAccepted settings

namespace GuildPlayers

variable {P S : Type}

section Definitions

/-- The volume and the spatial flag of an update are in the row, or its preset is installed. -/
def keepsUpdate (catalog : HrirCatalog) (row : GuildSettings) (mailbox : SettingsWorkerState) :
    Bool :=
  mailbox.pending.all fun update =>
    catalog.isInstalled update.settings.hrirPreset ||
      ((newestDurable row mailbox.durable).volume = update.settings.volume &&
        (newestDurable row mailbox.durable).spatialAudioEnabled =
          update.settings.spatialAudioEnabled)

/-- The factory loses nothing of the pending update when it looks at the worker. -/
def keepsPending (environment : GuildEnvironment) (players : GuildPlayers P S) :
    RegistryEvent P S → Bool
  | .view _ => players.operations.all fun operation =>
    match operation.phase with
    | .viewing row => (players.settings.workers environment.guildId).all fun worker =>
      keepsUpdate environment.catalog row worker.mailbox
    | _ => true
  | _ => true

/-- No write that fails has been made, or will be. -/
def commitsCleanly (players : GuildPlayers P S) : RegistryEvent P S → Bool
  | .persistSettings event => players.settings.unambiguous event
  | _ => true

/-- The actor whose settings publisher queues an update in a step, with the update. -/
def queuedIn (players : GuildPlayers P S) : RegistryEvent P S → Option (ℕ × SettingsUpdate)
  | .publish index =>
    match players.actors[index]? with
    | none => none
    | some actor =>
      match actor.publishing with
      | [] => none
      | snapshot :: _ =>
        (players.settings.queuedFor actor.settingsPublisher snapshot).map fun update =>
          (index, update)
  | _ => none

/-- The updates that the settings publisher of an actor has queued. -/
def updatesOf (index : ℕ) (taken : List (Taken (GuildPlayers P S) (RegistryEvent P S))) :
    List SettingsUpdate :=
  taken.filterMap fun t =>
    match t.before.queuedIn t.label with
    | some (actor, update) => if actor = index then some update else none
    | none => none

/-- The actor has what the publishers before its own accepted last, its own has accepted it as
well, and has queued nothing else. -/
def Restores (catalog : HrirCatalog) (settings : SettingsRuntime) (actor : SpawnedActor P S)
    (updates : List SettingsUpdate) : Prop :=
  ∃ publisher, settings.publishers[actor.settingsPublisher]? = some publisher ∧
    publisher.armed = true ∧
    RestoredFrom catalog (settings.publishers.take actor.settingsPublisher) publisher.initial ∧
    actor.player.actor.model.persistent = some publisher.initial ∧
    (updates = [] ∨ ∃ revision, updates = [⟨revision, publisher.initial⟩])

end Definitions

/-! ## What the factory reads back -/

theorem newestDurable_of_held {row current : GuildSettings} (h : RowHeld current row) :
    newestDurable row current = current := by
  unfold newestDurable
  split_ifs with hnewer
  · rfl
  · have hle := h.le
    have hsame : row.revision = current.revision := by
      cases hrow : row.revision
      cases hcurrent : current.revision
      rw [hrow, hcurrent] at hnewer
      simp only [hrow, hcurrent, SettingsRevision.toNat] at hle
      exact congrArg SettingsRevision.mk
        (UInt64.le_antisymm (UInt64.le_iff_toNat_le.mpr hle) (UInt64.not_lt.mp hnewer))
    exact h.same hsame

/-- The row gives back what it has. -/
theorem restored_row (limits : PlayerLimits) (catalog : HrirCatalog) {row : GuildSettings}
    {accepted : PersistentPlayerSettings}
    (h : PersistentPlayerSettings.fromGuildSettings row = some accepted) :
    row.volume = accepted.volume ∧ row.spatialAudioEnabled = accepted.spatialAudioEnabled ∧
      (catalog.isInstalled accepted.hrirPreset = true →
        (row.defaultHrirPresetId.filter catalog.isInstalled).getD limits.defaultHrirPreset =
          accepted.hrirPreset) := by
  obtain ⟨preset, hpreset, rfl⟩ := Option.map_eq_some_iff.mp h
  refine ⟨rfl, rfl, ?_⟩
  intro hinstalled
  rw [hpreset]
  simp [Option.filter, hinstalled]

/-- The factory reads back what the worker shows. -/
theorem initialSettings_restored (limits : PlayerLimits) {catalog : HrirCatalog}
    {row current : GuildSettings} {worker : SettingsWorker} {accepted : PersistentPlayerSettings}
    (hheld : RowHeld current row) (htended : Tended current worker)
    (hshown : worker.mailbox.shown = some accepted)
    (hkeeps : keepsUpdate catalog row worker.mailbox = true) :
    Restored catalog accepted
      (initialSettings limits catalog row (some worker.mailbox)).persistent := by
  cases hpending : worker.mailbox.pending with
  | none =>
    have hdurable : worker.mailbox.durable = current := htended.durable.trans
      (htended.settled hpending)
    have hstored : PersistentPlayerSettings.fromGuildSettings current = some accepted := by
      simpa [SettingsWorkerState.shown, hpending, hdurable] using hshown
    obtain ⟨hvolume, hspatial, hpreset⟩ := restored_row limits catalog hstored
    have hnewest := newestDurable_of_held hheld
    constructor
    · simpa [initialSettings, InitialSettings.persistent, hpending, hdurable, hnewest] using hvolume
    · simpa [initialSettings, InitialSettings.persistent, hpending, hdurable, hnewest] using
      hspatial
    · simpa [initialSettings, InitialSettings.persistent, hpending, hdurable, hnewest] using hpreset
  | some update =>
    have haccepted : update.settings = accepted := by
      simpa [SettingsWorkerState.shown, hpending] using hshown
    subst haccepted
    by_cases hinstalled : catalog.isInstalled update.settings.hrirPreset = true
    · constructor <;>
        simp [initialSettings, InitialSettings.persistent, hpending, hinstalled, Option.filter]
    · have hrow : (newestDurable row worker.mailbox.durable).volume = update.settings.volume ∧
          (newestDurable row worker.mailbox.durable).spatialAudioEnabled =
            update.settings.spatialAudioEnabled := by
        simpa [keepsUpdate, hpending, hinstalled] using hkeeps
      constructor
      · simpa [initialSettings, InitialSettings.persistent, hpending, hinstalled, Option.filter]
          using hrow.1
      · simpa [initialSettings, InitialSettings.persistent, hpending, hinstalled, Option.filter]
          using hrow.2
      · intro hcontra
        contradiction

/-! ## Actors and their publishers -/

section Invariant

variable {environment : GuildEnvironment} {snapshots snapshots' : SnapshotRuntime}
  {settings settings' : SettingsRuntime} {actors : List (SpawnedActor P S)}
  {updates : ℕ → List SettingsUpdate} {index : ℕ} {actor actor' : SpawnedActor P S}
  {commands : List PlayerCommand} {phase : OperationPhase}

/-- Each actor has its own settings publisher, and at most one snapshot to hand over, which is
newer than all before. -/
structure Ledger (environment : GuildEnvironment) (snapshots : SnapshotRuntime)
    (settings : SettingsRuntime) (actors : List (SpawnedActor P S))
    (updates : ℕ → List SettingsUpdate) : Prop where
  remembers : settings.Remembers environment.guildId (snapshots.mailboxMark environment.guildId)
  length : settings.publishers.length = actors.length
  index : ∀ (index : ℕ) (actor : SpawnedActor P S), actors[index]? = some actor →
    actor.settingsPublisher = index
  publishing : ∀ actor ∈ actors, actor.publishing = [] ∨ ∃ snapshot,
    actor.publishing = [snapshot] ∧
      snapshots.mailboxMark environment.guildId < snapshot.revision.toNat
  unheard : ∀ index, actors.length ≤ index → updates index = []

/-- A new actor that these commands are still to reach. -/
def Underway (catalog : HrirCatalog) (publishers : List SettingsSnapshotPublisher)
    (updates : ℕ → List SettingsUpdate) (index : ℕ) (commands : List PlayerCommand)
    (actor : SpawnedActor P S) : Prop :=
  ∃ publisher, publishers[index]? = some publisher ∧
    RestoredFrom catalog (publishers.take index) publisher.initial ∧
    publisher.Delivered actor.player.actor.model actor.publishing (updates index) ∧
    Initializing publisher.initial commands actor.player.actor.model.audioSettings

/-- What is known of the settings while the factory collects what it needs. -/
def PhaseLoaded (environment : GuildEnvironment) (settings : SettingsRuntime) :
    OperationPhase → Prop
  | .viewing row => ∃ current, settings.table environment.guildId = some current ∧
    RowHeld current row
  | .loaded initial | .watermarked initial _ | .numbered initial _ | .prepared initial _ =>
    (∃ current, settings.table environment.guildId = some current) ∧
      RestoredFrom environment.catalog settings.publishers initial.persistent
  | _ => True

/-- What is known of the settings while the call inside stands at a phase. -/
structure PhaseSettled (environment : GuildEnvironment) (settings : SettingsRuntime)
    (actors : List (SpawnedActor P S)) (updates : ℕ → List SettingsUpdate)
    (phase : OperationPhase) : Prop where
  loaded : PhaseLoaded environment settings phase
  taking : Taking (Underway environment.catalog settings.publishers updates) actors phase

/-- An actor takes its turn, or its handles go. -/
theorem Ledger.set (h : Ledger environment snapshots settings actors updates)
    (hactor : actors[index]? = some actor)
    (hpublisher : actor'.settingsPublisher = actor.settingsPublisher)
    (hpublishing : actor'.publishing = [] ∨ ∃ snapshot, actor'.publishing = [snapshot] ∧
      snapshots.mailboxMark environment.guildId < snapshot.revision.toNat) :
    Ledger environment snapshots settings (actors.set index actor') updates := by
  refine ⟨h.remembers, by rw [List.length_set]; exact h.length, ?_, ?_, ?_⟩
  · intro other found hfound
    rw [List.getElem?_set] at hfound
    split_ifs at hfound with hindex
    · subst hindex
      rw [← Option.some.inj hfound, hpublisher]
      exact h.index index actor hactor
    · exact h.index other found hfound
  · intro found hmem
    rcases List.mem_or_eq_of_mem_set hmem with hbefore | rfl
    · exact h.publishing found hbefore
    · exact hpublishing
  · rw [List.length_set]
    exact h.unheard

theorem Ledger.persisted (h : Ledger environment snapshots settings actors updates)
    (hmark : snapshots'.mailboxMark environment.guildId =
      snapshots.mailboxMark environment.guildId) :
    Ledger environment snapshots' settings actors updates := by
  refine ⟨?_, h.length, h.index, ?_, h.unheard⟩
  · rw [hmark]
    exact h.remembers
  · rw [hmark]
    exact h.publishing

/-- The worker and the database leave what is known of the settings. -/
theorem PhaseSettled.persisted (h : PhaseSettled environment settings actors updates phase)
    (hsettles : settings.Settles environment.guildId settings') :
    PhaseSettled environment settings' actors updates phase := by
  have hrow : (∃ current, settings.table environment.guildId = some current) →
      ∃ current, settings'.table environment.guildId = some current := by
    rintro ⟨current, hcurrent⟩
    obtain ⟨row', hrow', -⟩ := hsettles.row current hcurrent
    exact ⟨row', hrow'⟩
  obtain ⟨hloaded, htaking⟩ := h
  constructor
  · cases phase with
    | viewing row =>
      obtain ⟨current, hcurrent, hheld⟩ := hloaded
      obtain ⟨row', hrow', hheld'⟩ := hsettles.row current hcurrent
      exact ⟨row', hrow', hheld.trans hheld'⟩
    | loaded | watermarked | numbered | prepared =>
      refine ⟨hrow hloaded.1, ?_⟩
      rw [hsettles.publishers]
      exact hloaded.2
    | _ => trivial
  · rw [hsettles.publishers]
    exact htaking

/-- A turn brings at most one snapshot, which is newer than all before. -/
theorem Steady.turn_publishing [PlaybackPort P] [SnapshotPublisher S] {owner : Option ℕ}
    {input : Input} (h : Steady environment snapshots actors owner)
    (hactor : actors[index]? = some actor)
    (hinput : owner = some index ∨ actor.accepts input = true ∨ input.isPassive = true) :
    (actor.turn input).2.publishing = [] ∨ ∃ snapshot,
      (actor.turn input).2.publishing = [snapshot] ∧
        snapshots.mailboxMark environment.guildId < snapshot.revision.toNat := by
  have hfit := h.fit actor (List.mem_of_getElem? hactor)
  by_cases howner : owner = some index
  · have hdrop : (actor.turn input).2.publishing =
        (actor.turn input).2.player.actor.published.drop
          actor.player.actor.published.length := rfl
    have hplayer : (actor.turn input).2.player = (actor.player.step input).2 := rfl
    rw [hdrop, hplayer]
    have hadvance := (SpawnedActor.step_advance hfit.sound input).1
    generalize (actor.player.step input).2 = player' at hadvance
    cases hadvance with
    | kept _ hpublished | silent _ hpublished =>
      rw [hpublished, List.drop_length]
      exact .inl rfl
    | announced hrevision reading hpublished =>
      rw [hpublished, List.drop_left]
      refine .inr ⟨_, rfl, ?_⟩
      have hlast : actor ∈ actors.getLast? := by
        have hend := h.latest index howner
        rw [List.getLast?_eq_getElem?, show actors.length - 1 = index by omega]
        exact hactor
      have hmark := (h.ahead actor hlast).1
      have hlt : actor.revision < player'.actor.model.revision.toNat := by
        rw [hrevision]
        exact Nat.lt_succ_self _
      exact hmark.trans_lt (WithBot.coe_lt_coe.mpr hlt)
  · left
    exact ((h.finished index actor hactor howner).turn hfit
      (hinput.resolve_left howner)).2.publishing

theorem Underway.rests {catalog : HrirCatalog} {publishers : List SettingsSnapshotPublisher}
    (hrests : Rests actor actor') (h : Underway catalog publishers updates index commands actor) :
    Underway catalog publishers updates index commands actor' := by
  unfold Underway at h ⊢
  rw [hrests.model, hrests.publishing]
  exact h

/-- The new actor has carried out a command. -/
theorem Underway.takes {catalog : HrirCatalog} {publishers : List SettingsSnapshotPublisher}
    {command : PlayerCommand} (hidle : actor.publishing = [])
    (h : Underway catalog publishers updates index (command :: commands) actor)
    (htakes : Takes actor.player.actor (actor.player.actor.model.audioSettings.set command)
      actor'.player.actor)
    (hdrop : actor'.publishing = actor'.player.actor.published.drop
      actor.player.actor.published.length)
    (hanswered : Answered actor.player.actor.model actor'.player.actor.model actor'.publishing) :
    Underway catalog publishers updates index commands actor' := by
  obtain ⟨publisher, hpublisher, hrestored, hdelivered, hinitializing⟩ := h
  obtain ⟨hset, hquiet⟩ := htakes
  rw [hidle] at hdelivered
  refine ⟨publisher, hpublisher, hrestored, hdelivered.answered hanswered ?_, ?_⟩
  · intro hcomplete
    rw [hdrop, hquiet (hinitializing.set_of_complete hcomplete), List.drop_length]
  · rw [hset]
    exact hinitializing.set

/-- The publisher of a new actor takes a snapshot. -/
theorem Underway.accept {catalog : HrirCatalog} {earlier : List SettingsSnapshotPublisher}
    {publisher : SettingsSnapshotPublisher} {snapshot : PlayerSnapshot}
    {publishing : List PlayerSnapshot} {updates' : ℕ → List SettingsUpdate}
    (h : Underway catalog (earlier ++ [publisher]) updates index commands actor)
    (hindex : index = earlier.length) (hpublishing : actor.publishing = snapshot :: publishing)
    (hupdates : updates' index = updates index ++ (publisher.accept snapshot).1.toList) :
    Underway catalog (earlier ++ [(publisher.accept snapshot).2]) updates' index commands
      { actor with publishing } := by
  obtain ⟨found, hfound, hrestored, hdelivered, hinitializing⟩ := h
  subst hindex
  rw [List.getElem?_concat_length] at hfound
  obtain rfl := Option.some.inj hfound
  rw [hpublishing] at hdelivered
  obtain ⟨hafter, hinitial⟩ := hdelivered.accept
  refine ⟨_, List.getElem?_concat_length .., ?_, ?_, ?_⟩
  · rw [List.take_left] at hrestored ⊢
    rw [hinitial]
    exact hrestored
  · rw [hupdates]
    exact hafter
  · rw [hinitial]
    exact hinitializing

end Invariant

/-! ## Steps -/

section Steps

variable {environment : GuildEnvironment} {players players' : GuildPlayers P S}
  {updates : ℕ → List SettingsUpdate} {current current' : Option OperationPhase}
  {index lock : ℕ} {phase phase' : OperationPhase} {actor : SpawnedActor P S}

/-- The settings side of the invariant. -/
structure Settled (environment : GuildEnvironment) (players : GuildPlayers P S)
    (updates : ℕ → List SettingsUpdate) (current : Option OperationPhase) : Prop where
  ledger : Ledger environment players.snapshots players.settings players.actors updates
  phase : ∀ phase ∈ current,
    PhaseSettled environment players.settings players.actors updates phase

theorem Settled.of_none (h : Ledger environment players.snapshots players.settings players.actors
    updates) (hnone : current = none) : Settled environment players updates current :=
  ⟨h, by simp [hnone]⟩

theorem Settled.of_some (h : Ledger environment players.snapshots players.settings players.actors
    updates) (hsome : current = some phase)
    (hphase : PhaseSettled environment players.settings players.actors updates phase) :
    Settled environment players updates current := by
  refine ⟨h, ?_⟩
  intro other hother
  rw [hsome] at hother
  obtain rfl := Option.some.inj hother
  exact hphase

/-- A call that has got the lock knows nothing of the settings. -/
theorem Settled.entered (hsound : players.Sound environment current)
    (h : Settled environment players updates current) {removal : Bool}
    (hphase : players.operations[index]? = some ⟨lock, .waiting removal⟩)
    (hunlocked : players.isLocked lock = false)
    (hafter : (players.enter index removal).Sound environment current') :
    Settled environment (players.enter index removal) updates current' := by
  have hnone := hsound.calls.none_of_unlocked hphase hunlocked
  unfold enter at hafter ⊢
  cases removal with
  | true =>
    cases hregistered : players.registered with
    | none =>
      simp only [hregistered] at hafter ⊢
      exact .of_none h.ledger (hsound.finished hafter hphase (.inr hnone) rfl rfl)
    | some actor =>
      simp only [hregistered] at hafter ⊢
      exact .of_some h.ledger (hafter.goneOn rfl hphase rfl) ⟨trivial, trivial⟩
  | false =>
    cases hregistered : players.registered with
    | none =>
      simp only [hregistered] at hafter ⊢
      exact .of_some h.ledger (hafter.goneOn rfl hphase rfl) ⟨trivial, trivial⟩
    | some actor =>
      simp only [hregistered] at hafter ⊢
      exact .of_some h.ledger (hafter.goneOn rfl hphase rfl) ⟨trivial, trivial⟩

/-- The factory goes from one await to the next. -/
theorem Settled.prepares {event : RegistryEvent P S} (hsound : players.Sound environment current)
    (h : Settled environment players updates current)
    (hphase : players.operations[index]? = some ⟨lock, phase⟩)
    (hprepares : players.Prepares environment event phase phase')
    (hkeeps : players.keepsPending environment event = true)
    (hafter : (players.goOn index phase').Sound environment current') :
    Settled environment (players.goOn index phase') updates current' := by
  have hinside : phase.isWaiting = false := by cases hprepares <;> rfl
  obtain ⟨rfl, -⟩ := hsound.inside hphase hinside
  have hknown := (h.phase phase rfl).loaded
  refine .of_some h.ledger (hafter.goneOn rfl hphase (by cases hprepares <;> rfl)) ?_
  cases hprepares with
  | defaulted => exact ⟨trivial, trivial⟩
  | read row hrow => exact ⟨⟨row, hrow, .refl row⟩, trivial⟩
  | viewed row =>
    obtain ⟨stored, hstored, hheld⟩ := hknown
    refine ⟨⟨⟨stored, hstored⟩, ?_⟩, trivial⟩
    intro publisher hlast
    have hremembers := h.ledger.remembers
    obtain ⟨worker, hworker⟩ := hremembers.worker (by
      intro hempty
      have hlast : lastArmed players.settings.publishers = some publisher := hlast
      rw [hempty] at hlast
      contradiction)
    obtain ⟨found, hfound, htended⟩ := hremembers.serving.worker worker hworker
    obtain rfl := Option.some.inj (hstored.symm.trans hfound)
    have hshown := hremembers.accepted worker publisher hworker hlast
    have hkeepsUpdate : keepsUpdate environment.catalog row worker.mailbox = true := by
      have hall := List.all_eq_true.mp hkeeps _ (List.mem_of_getElem? hphase)
      simpa [hworker] using hall
    rw [hworker]
    exact initialSettings_restored environment.limits hheld htended hshown hkeepsUpdate
  | watermarked | numbered => exact ⟨hknown, trivial⟩

variable [PlaybackPort P] [SnapshotPublisher S]

omit [PlaybackPort P] in
/-- The factory spawns an actor with the settings it has read back. -/
theorem Settled.spawned (hsound : players.Sound environment current)
    (h : Settled environment players updates current) {settings : InitialSettings}
    {setup : PlayerSetup P S}
    (hphase : players.operations[index]? = some ⟨lock, .prepared settings setup.initialRevision⟩) :
    Ledger environment players.snapshots
        (players.settings.step (.publisher environment.guildId settings.persistent)).2
        (players.actors ++ [SpawnedActor.spawn setup players.settings.publishers.length]) updates ∧
      PhaseSettled environment
        (players.settings.step (.publisher environment.guildId settings.persistent)).2
        (players.actors ++ [SpawnedActor.spawn setup players.settings.publishers.length]) updates
        (.asking players.actors.length .snapshot settings.commands) := by
  obtain ⟨rfl, -, hnumbered, -⟩ := hsound.inside hphase rfl
  obtain ⟨⟨row, hrow⟩, hrestored⟩ := (h.phase _ rfl).loaded
  have hlength := h.ledger.length
  obtain ⟨hremembers, -, publisher, hpublishers, hinitial, harmed⟩ :=
    h.ledger.remembers.spawn settings.persistent hrow
  obtain ⟨snapshotPublisher, events, hplayer⟩ := setup.player_eq
  have hplayer' : (SpawnedActor.spawn setup players.settings.publishers.length).player =
      setup.player := rfl
  have hpublishing : (SpawnedActor.spawn setup players.settings.publishers.length).publishing =
      setup.player.actor.published := rfl
  refine ⟨⟨hremembers, ?_, ?_, ?_, ?_⟩, trivial, ?_⟩
  · rw [hpublishers]
    simp [hlength]
  · intro other found hfound
    rw [List.getElem?_append] at hfound
    split_ifs at hfound with hlt
    · exact h.ledger.index other found hfound
    · have hother : other = players.actors.length := by
        have hbound := (List.getElem?_eq_some_iff.mp hfound).1
        simp only [List.length_singleton] at hbound
        omega
      subst hother
      simp only [Nat.sub_self, List.getElem?_cons_zero, Option.some.injEq] at hfound
      rw [← hfound]
      exact hlength
  · intro found hmem
    rcases List.mem_append.mp hmem with hbefore | hlast
    · exact h.ledger.publishing found hbefore
    · rw [List.mem_singleton.mp hlast, hpublishing, hplayer]
      exact .inr ⟨_, rfl, hnumbered.newer⟩
  · intro other hother
    rw [List.length_append, List.length_singleton] at hother
    exact h.ledger.unheard other (by omega)
  · intro found hfound
    rw [List.getElem?_concat_length] at hfound
    obtain rfl := Option.some.inj hfound
    refine .inl ⟨rfl, publisher, ?_, ?_, ?_, ?_⟩
    · rw [hpublishers, ← hlength]
      simp
    · rw [hpublishers, ← hlength, List.take_left, hinitial]
      exact hrestored
    · rw [h.ledger.unheard _ le_rfl, hpublishing, hplayer', hplayer]
      exact .unseen harmed _
    · rw [hplayer', hplayer, hinitial]
      exact .fresh _ _

/-- An actor takes its turn while the calls stay, or go on knowing nothing of the settings. -/
theorem Settled.turn (hsound : players.Sound environment current)
    (h : Settled environment players updates current) {actorIndex : ℕ} {input : Input}
    (hactor : players.actors[actorIndex]? = some actor)
    (hinput : owner players.registered current = some actorIndex ∨ actor.accepts input = true ∨
      input.isPassive = true) :
    Ledger environment players.snapshots players.settings
      (players.actors.set actorIndex (actor.turn input).2) updates :=
  h.ledger.set hactor rfl (hsound.steady.turn_publishing hactor hinput)

/-- Every move but a publication. -/
theorem Settled.move {event : RegistryEvent P S} (hsound : players.Sound environment current)
    (h : Settled environment players updates current)
    (hmove : players.Move environment event players') (hquiet : ∀ index, event ≠ .publish index)
    (hkeeps : players.keepsPending environment event = true)
    (hcommits : players.commitsCleanly event = true) (hfresh : players.drawsFresh event = true)
    (hafter : players'.Sound environment current') :
    Settled environment players' updates current' := by
  have hsame : players'.operations = players.operations → players'.lock = players.lock →
      current' = current := by
    intro hoperations hlock
    have hcalls := hafter.calls
    rw [hoperations, hlock] at hcalls
    exact hsound.calls.unique hcalls
  cases hmove with
  | idle =>
    rw [hsame rfl rfl]
    exact h
  | arrived removal =>
    rw [(hsound.calls.arrive removal).unique hafter.calls]
    exact ⟨h.ledger, h.phase⟩
  | entered index lock removal hphase hunlocked => exact h.entered hsound hphase hunlocked hafter
  | prepares index lock phase phase' hphase hprepares =>
    exact h.prepares hsound hphase hprepares hkeeps hafter
  | created index lock row table hphase hcreated =>
    obtain ⟨hremembers, hrow⟩ := h.ledger.remembers.created rfl hcreated
    exact .of_some ⟨hremembers, h.ledger.length, h.ledger.index, h.ledger.publishing,
      h.ledger.unheard⟩ (hafter.goneOn rfl hphase rfl) ⟨⟨row, hrow, .refl row⟩, trivial⟩
  | gaveUp index lock phase hphase hpreparing =>
    have hinside : phase.isWaiting = false := by cases phase <;> first | rfl | contradiction
    exact .of_none h.ledger (hsound.finished hafter hphase (.inl hinside) rfl rfl)
  | prepared index lock settings revision hphase hinstalled =>
    obtain ⟨rfl, -⟩ := hsound.inside hphase rfl
    obtain ⟨-, hpersisted, -⟩ := hsound.steady.running.registered environment.ttl
    have hknown := (h.phase (.numbered settings revision) rfl).loaded
    exact .of_some (h.ledger.persisted hpersisted.mailbox) (hafter.goneOn rfl hphase rfl)
      ⟨hknown, trivial⟩
  | spawned index lock settings setup hphase hguild =>
    obtain ⟨hledger, hknown⟩ := h.spawned hsound hphase
    exact .of_some hledger (hafter.goneOn rfl hphase rfl) hknown
  | alive index lock actorIndex actor hphase hactor hidle =>
    exact .of_none (h.turn hsound hactor (.inr (.inr rfl)))
      (hsound.finished hafter hphase (.inl rfl) rfl rfl)
  | dead index lock actorIndex actor hphase hactor hidle hreply =>
    exact .of_some (h.turn hsound hactor (.inr (.inr rfl))) (hafter.goneOn rfl hphase rfl)
      ⟨trivial, trivial⟩
  | busy index lock actorIndex hphase =>
    exact .of_none h.ledger (hsound.finished hafter hphase (.inl rfl) rfl rfl)
  | asked index lock actorIndex request commands actor hphase hactor hidle =>
    obtain ⟨rfl, hnone, hunshared, -, hinitial⟩ := hsound.inside hphase rfl
    have howner : owner players.registered (some (.asking actorIndex request commands)) =
        some actorIndex := by rw [hnone]; rfl
    refine .of_some (h.turn hsound hactor (.inl howner)) (hafter.goneOn rfl hphase rfl)
      ⟨trivial, ?_⟩
    intro hreply found hfound
    have hfit := hsound.steady.fit actor (List.mem_of_getElem? hactor)
    obtain ⟨hlt, -⟩ := List.getElem?_eq_some_iff.mp hactor
    simp only [goOn, setActor, List.getElem?_set_self hlt, Option.some.injEq] at hfound
    rw [← hfound]
    exact (h.phase _ rfl).taking.asked hactor hinitial hfit hidle (hunshared actor hactor)
      Underway.rests (Underway.takes hidle) hreply
  | failed index lock actorIndex reply commands actor hphase hactor hidle hfailed =>
    exact .of_none (h.ledger.set hactor rfl (.inl hidle))
      (hsound.finished hafter hphase (.inl rfl) rfl rfl)
  | registered index lock actorIndex reply actor hphase hactor hidle hreply =>
    exact .of_none (h.ledger.set hactor rfl (.inl hidle))
      (hsound.finished hafter hphase (.inl rfl) rfl rfl)
  | commands index lock actorIndex reply command commands snapshot commandId idempotencyKey actor
      hphase hactor hidle hreply =>
    obtain ⟨rfl, -⟩ := hsound.inside hphase rfl
    exact .of_some h.ledger (hafter.goneOn rfl hphase rfl)
      ⟨trivial, (h.phase _ rfl).taking.commands hphase hreply hfresh⟩
  | stops index lock actorIndex actor hphase hactor hidle =>
    exact .of_some (h.turn hsound hactor (.inr (.inr rfl))) (hafter.goneOn rfl hphase rfl)
      ⟨trivial, trivial⟩
  | putBack index lock actorIndex reply hphase =>
    exact .of_none h.ledger (hsound.finished hafter hphase (.inl rfl) rfl rfl)
  | removed index lock actorIndex reply actor hphase hactor hidle hreply =>
    exact .of_none h.ledger (hsound.finished hafter hphase (.inl rfl) rfl rfl)
  | acted actorIndex actor input hactor hidle haccepts =>
    rw [hsame rfl rfl]
    refine ⟨h.turn hsound hactor (.inr (.inl haccepts)), ?_⟩
    intro phase hphase
    obtain ⟨hloaded, htaking⟩ := h.phase phase hphase
    refine ⟨hloaded, htaking.set hactor fun hcreation => ?_⟩
    have hrests := hsound.acted_rests hactor hidle haccepts hphase hcreation
    exact ⟨hrests.recent, fun _ => Underway.rests hrests⟩
  | published actorIndex => exact absurd rfl (hquiet actorIndex)
  | persistedSnapshot event hevent =>
    rw [hsame rfl rfl]
    obtain ⟨-, hpersisted⟩ := hsound.steady.running.persisted environment.ttl hevent
    exact ⟨h.ledger.persisted hpersisted.mailbox, h.phase⟩
  | persistedSettings event hevent =>
    rw [hsame rfl rfl]
    have hremembers := h.ledger.remembers
    obtain ⟨-, hsettles⟩ := hremembers.serving.persisted hevent hcommits
    refine ⟨⟨hremembers.persisted hevent hcommits, ?_, h.ledger.index, h.ledger.publishing,
      h.ledger.unheard⟩, fun phase hphase => (h.phase phase hphase).persisted hsettles⟩
    rw [show (players.settings.step event).2.publishers.length = _ from
      congrArg List.length hsettles.publishers]
    exact h.ledger.length

omit [PlaybackPort P] [SnapshotPublisher S] in
/-- The latest actor hands a snapshot to its settings publisher. -/
theorem Settled.published {publishing : List PlayerSnapshot} {snapshot : PlayerSnapshot}
    {updates' : ℕ → List SettingsUpdate} (hsound : players.Sound environment current)
    (h : Settled environment players updates current)
    (hactor : players.actors[index]? = some actor)
    (hpublishing : actor.publishing = snapshot :: publishing)
    (hsame : ∀ other, other ≠ index → updates' other = updates other)
    (hself : updates' index = updates index ++
      (players.settings.queuedFor actor.settingsPublisher snapshot).toList) :
    Settled environment
      ({ players with
        snapshots := publishSnapshot environment snapshot players.snapshots
        settings := publishSettings actor.settingsPublisher snapshot players.settings }.setActor
          index { actor with publishing }) updates' current := by
  have hmem := List.mem_of_getElem? hactor
  have hfit := hsound.steady.fit actor hmem
  have howner := (hsound.steady.publish hactor hpublishing).2
  have hlast := hsound.steady.latest index howner
  obtain ⟨hguild, -⟩ := hfit.published snapshot (hfit.publishing snapshot (by simp [hpublishing]))
  obtain ⟨-, hmark, -, -⟩ := Running.published hsound.steady.running hguild
    (hsound.steady.worker (List.ne_nil_of_mem hmem))
  have hnewer : publishing = [] ∧
      players.snapshots.mailboxMark environment.guildId < snapshot.revision.toNat := by
    rcases h.ledger.publishing actor hmem with hnone | ⟨only, honly, hlt⟩
    · rw [hpublishing] at hnone
      contradiction
    · rw [hpublishing] at honly
      obtain ⟨rfl, rfl⟩ := List.cons_eq_cons.mp honly
      exact ⟨rfl, hlt⟩
  obtain ⟨rfl, hnewer⟩ := hnewer
  have hpublisherIndex := h.ledger.index index actor hactor
  have hlength := h.ledger.length
  have hlt : index < players.settings.publishers.length := by omega
  obtain ⟨publisher, hpublisher⟩ : ∃ publisher, players.settings.publishers[index]? =
      some publisher := ⟨_, List.getElem?_eq_getElem hlt⟩
  have hsplit := getElem?_split hpublisher
  rw [List.drop_of_length_le (by omega)] at hsplit
  have htake : (players.settings.publishers.take index).length = index := by
    rw [List.length_take]
    omega
  obtain ⟨hremembers, hpublishers, htable, hqueued⟩ :=
    h.ledger.remembers.publish hsplit hguild hnewer
  rw [htake] at hremembers hpublishers htable hqueued
  rw [hpublisherIndex, hqueued] at hself
  have hhanded : publishSettings actor.settingsPublisher snapshot players.settings =
      publishSettings index snapshot players.settings := by rw [hpublisherIndex]
  rw [hhanded]
  constructor
  · refine ⟨?_, ?_, ?_, ?_, ?_⟩
    · show (publishSettings index snapshot players.settings).Remembers environment.guildId
        ((publishSnapshot environment snapshot players.snapshots).mailboxMark environment.guildId)
      rw [hmark]
      exact hremembers
    · show (publishSettings index snapshot players.settings).publishers.length = _
      rw [hpublishers]
      simp only [setActor, List.length_append, List.length_singleton, htake, List.length_set]
      exact hlast
    · intro other found hfound
      simp only [setActor] at hfound
      rw [List.getElem?_set] at hfound
      split_ifs at hfound with hindex
      · rw [← Option.some.inj hfound, ← hindex]
        exact hpublisherIndex
      · exact h.ledger.index other found hfound
    · intro found hfound
      left
      obtain ⟨other, hother⟩ := List.getElem?_of_mem hfound
      simp only [setActor] at hother
      rw [List.getElem?_set] at hother
      split_ifs at hother with hindex
      · exact (congrArg SpawnedActor.publishing (Option.some.inj hother)).symm
      · refine (hsound.steady.finished other found hother ?_).publishing
        rw [howner]
        simpa using hindex
    · intro other hother
      simp only [setActor, List.length_set] at hother
      rw [hsame other (by omega)]
      exact h.ledger.unheard other hother
  · intro phase hphase
    have hknown := hsound.phase phase hphase
    have hbefore := h.phase phase hphase
    obtain rfl := hphase
    have hunderway : ∀ {commands : List PlayerCommand},
        Underway environment.catalog players.settings.publishers updates index commands actor →
        Underway environment.catalog
          (publishSettings index snapshot players.settings).publishers updates' index commands
            { actor with publishing := [] } := by
      intro commands hcase
      rw [hsplit] at hcase
      rw [hpublishers]
      exact hcase.accept htake.symm hpublishing hself
    have hfound : ∀ found, (players.actors.set index { actor with publishing := [] })[index]? =
        some found → found = { actor with publishing := [] } := by
      intro found hfound
      rw [List.getElem?_set_self (by omega)] at hfound
      exact (Option.some.inj hfound).symm
    cases phase with
    | waiting | checking | loading | defaulting | stopping => exact ⟨trivial, trivial⟩
    | viewing | loaded =>
      rw [show players.registered = none from hknown] at howner
      contradiction
    | watermarked | numbered | prepared =>
      rw [hknown.1] at howner
      contradiction
    | asking other request commands =>
      rw [hknown.1] at howner
      obtain rfl := Option.some.inj howner
      refine ⟨trivial, ?_⟩
      intro found hafter
      rw [hfound found hafter]
      rcases hbefore.taking actor hactor with
        ⟨hrequest, hcase⟩ | ⟨envelope, hrequest, hunknown, hcase⟩
      · exact .inl ⟨hrequest, hunderway hcase⟩
      · exact .inr ⟨envelope, hrequest, hunknown, hunderway hcase⟩
    | answered other reply commands =>
      rw [hknown.1] at howner
      obtain rfl := Option.some.inj howner
      refine ⟨trivial, ?_⟩
      intro hreply found hafter
      rw [hfound found hafter]
      exact hunderway (hbefore.taking hreply actor hactor)

omit [PlaybackPort P] [SnapshotPublisher S] in
theorem updatesOf_append (index : ℕ)
    (taken : List (Taken (GuildPlayers P S) (RegistryEvent P S)))
    (t : Taken (GuildPlayers P S) (RegistryEvent P S)) :
    updatesOf index (taken ++ [t]) = updatesOf index taken ++
      ((t.before.queuedIn t.label).filter (·.1 = index)).toList.map Prod.snd := by
  unfold updatesOf
  rw [List.filterMap_append]
  congr 1
  cases hqueued : t.before.queuedIn t.label with
  | none => simp [hqueued]
  | some queued =>
    obtain ⟨other, update⟩ := queued
    by_cases hindex : other = index
    · simp [hqueued, hindex, Option.filter]
    · simp [hqueued, hindex, Option.filter]

omit [PlaybackPort P] [SnapshotPublisher S] in
theorem queuedIn_eq_none {event : RegistryEvent P S} (hquiet : ∀ index, event ≠ .publish index) :
    players.queuedIn event = none := by
  unfold queuedIn
  split
  · rename_i index
    exact absurd rfl (hquiet index)
  · rfl

/-- Every step of a process keeps what is known of the settings. -/
theorem Settled.step {taken : List (Taken (GuildPlayers P S) (RegistryEvent P S))}
    {event : RegistryEvent P S} (hsound : players.Sound environment current)
    (h : Settled environment players (fun index => updatesOf index taken) current)
    (hkeeps : players.keepsPending environment event = true)
    (hcommits : players.commitsCleanly event = true) (hfresh : players.drawsFresh event = true)
    (hafter : (players.step environment event).Sound environment current') :
    Settled environment (players.step environment event) (fun index => updatesOf index
      (taken ++ [⟨players, event, players.step environment event⟩])) current' := by
  by_cases hpublish : ∃ index, event = .publish index
  · obtain ⟨index, rfl⟩ := hpublish
    have hcalls := hafter.calls
    have hidle : players.step environment (.publish index) = players →
        players.queuedIn (.publish index) = none →
        Settled environment (players.step environment (.publish index))
          (fun other => updatesOf other
            (taken ++ [⟨players, .publish index, players.step environment (.publish index)⟩]))
          current' := by
      intro hsame hnone
      have hupdates : (fun other => updatesOf other (taken ++
          [⟨players, .publish index, players.step environment (.publish index)⟩])) =
          fun other => updatesOf other taken := by
        funext other
        simp [updatesOf_append, hnone]
      rw [hsame] at hcalls
      rw [hupdates, hsame, hsound.calls.unique hcalls]
      exact h
    cases hactor : players.actors[index]? with
    | none =>
      exact hidle (by simp only [GuildPlayers.step, hactor]) (by simp only [queuedIn, hactor])
    | some actor =>
      cases hpublishing : actor.publishing with
      | nil =>
        refine hidle ?_ ?_
        · simp only [GuildPlayers.step, hactor, hpublishing]
        · simp only [queuedIn, hactor, hpublishing]
      | cons snapshot publishing =>
        have hqueued : players.queuedIn (.publish index) =
            (players.settings.queuedFor actor.settingsPublisher snapshot).map fun update =>
              (index, update) := by
          simp only [queuedIn, hactor, hpublishing]
        have hstep : players.step environment (.publish index) =
            { players with
              snapshots := publishSnapshot environment snapshot players.snapshots
              settings := publishSettings actor.settingsPublisher snapshot players.settings
              }.setActor index { actor with publishing } := by
          simp only [GuildPlayers.step, hactor, hpublishing]
        rw [hstep] at hcalls ⊢
        rw [hsound.calls.unique hcalls]
        refine h.published hsound hactor hpublishing ?_ ?_
        · intro other hother
          rw [updatesOf_append, hqueued]
          cases players.settings.queuedFor actor.settingsPublisher snapshot with
          | none => simp
          | some update => simp [Option.filter, hother.symm]
        · rw [updatesOf_append, hqueued]
          cases players.settings.queuedFor actor.settingsPublisher snapshot with
          | none => simp
          | some update => simp [Option.filter]
  · have hquiet : ∀ index, event ≠ .publish index := fun index heq => hpublish ⟨index, heq⟩
    have hupdates : (fun index => updatesOf index
        (taken ++ [⟨players, event, players.step environment event⟩])) =
        fun index => updatesOf index taken := by
      funext other
      simp [updatesOf_append, queuedIn_eq_none hquiet]
    rw [hupdates]
    exact h.move hsound (step_moves environment players event) hquiet hkeeps hcommits hfresh hafter

/-- Who is created well has taken its settings, and its publisher has accepted them. -/
theorem Settled.creates {t : Taken (GuildPlayers P S) (RegistryEvent P S)}
    (hsound : t.before.Sound environment current)
    (h : Settled environment t.before updates current)
    (hstep : t.before.step environment t.label = t.after) (hcreates : Creates t index actor) :
    Restores environment.catalog t.after.settings actor (updates index) := by
  obtain ⟨⟨before, hbefore, hcreator⟩, hafter, hshared⟩ := hcreates
  have hmove := step_moves environment t.before t.label
  rw [hstep] at hmove
  obtain ⟨hsettings, hidle, rfl, operation, hmem, reply, hphase, hreply⟩ :=
    hmove.creates hbefore hcreator hafter hshared
  obtain ⟨position, hposition⟩ := List.getElem?_of_mem hmem
  have hinside : operation.phase.isWaiting = false := by
    rw [hphase]
    rfl
  have hcurrent := (hsound.inside hposition hinside).1
  rw [hphase] at hcurrent
  subst hcurrent
  have hindex := h.ledger.index index before hbefore
  obtain ⟨publisher, hpublisher, hrestored, hdelivered, hinitializing⟩ :=
    (h.phase _ rfl).taking hreply before hbefore
  rw [hidle] at hdelivered
  unfold Restores
  rw [hsettings]
  refine ⟨publisher, ?_, ?_⟩
  · rw [hindex]
    exact hpublisher
  · generalize updates index = queued at hdelivered ⊢
    cases hdelivered with
    | ignored harmed hincomplete => exact absurd hinitializing.persistent hincomplete
    | accepted updates harmed hcomplete hupdates =>
      rw [hindex]
      exact ⟨harmed, hrestored, hcomplete, hupdates⟩

end Steps

/-! ## Runs -/

section Runs

variable [PlaybackPort P] [SnapshotPublisher S] {environment : GuildEnvironment}
  {stored : List (Taken SnapshotStore (SnapshotCall × SnapshotReply))} {store : SnapshotStore}
  {table : GuildSettingsTable} {taken : List (Taken (GuildPlayers P S) (RegistryEvent P S))}
  {players : GuildPlayers P S}

omit [PlaybackPort P] [SnapshotPublisher S] in
/-- A process that has just started has accepted nothing. -/
theorem settled_start {snapshots : SnapshotRuntime}
    (hrows : ∀ row, table environment.guildId = some row → row.guildId = environment.guildId) :
    Settled environment (start snapshots (.start table) : GuildPlayers P S)
      (fun _ => []) none := by
  refine .of_none ⟨⟨⟨rfl, ?_, hrows, ?_⟩, ?_, ?_, ?_, ?_, ?_⟩, rfl, ?_, ?_, fun _ _ => rfl⟩ rfl <;>
    simp [start, SettingsRuntime.start]

/-- Every run in which the factory loses nothing keeps what is known of the settings. -/
theorem run_settled (hearlier : SnapshotStore.Serves environment.encodedLength stored store)
    (hrows : ∀ row, table environment.guildId = some row → row.guildId = environment.guildId)
    (run : Runs environment store table taken players)
    (hkeeps : ∀ t ∈ taken, t.before.keepsPending environment t.label = true)
    (hcommits : ∀ t ∈ taken, t.before.commitsCleanly t.label = true)
    (hfresh : ∀ t ∈ taken, t.before.drawsFresh t.label = true) :
    ∃ current, players.Sound environment current ∧
      Settled environment players (fun index => updatesOf index taken) current := by
  obtain ⟨snapshots, hstart, run⟩ := run
  refine run.invariant_of
    (C := fun t => t.before.keepsPending environment t.label = true ∧
      t.before.commitsCleanly t.label = true ∧ t.before.drawsFresh t.label = true)
    (I := fun taken players => ∃ current, players.Sound environment current ∧
      Settled environment players (fun index => updatesOf index taken) current)
    ⟨none, sound_start hearlier hstart, settled_start hrows⟩ ?_
    fun t ht => ⟨hkeeps t ht, hcommits t ht, hfresh t ht⟩
  rintro earlier before event after - ⟨current, hsound, h⟩ rfl ⟨hkeep, hcommit, hdraw⟩
  obtain ⟨current', hafter⟩ := hsound.move (step_moves environment before event)
  exact ⟨current', hafter, h.step hsound hkeep hcommit hdraw hafter⟩

/-- In every run in which the factory loses nothing of a pending update, a player that is created
well has the settings that the publishers before it accepted last. -/
theorem settings_restored
    (hearlier : SnapshotStore.Serves environment.encodedLength stored store)
    (hrows : ∀ row, table environment.guildId = some row → row.guildId = environment.guildId)
    (run : Runs environment store table taken players)
    (hkeeps : ∀ t ∈ taken, t.before.keepsPending environment t.label = true)
    (hcommits : ∀ t ∈ taken, t.before.commitsCleanly t.label = true)
    (hfresh : ∀ t ∈ taken, t.before.drawsFresh t.label = true) :
    ∀ earlier t later, taken = earlier ++ t :: later →
      ∀ (index : ℕ) (actor : SpawnedActor P S), Creates t index actor →
        Restores environment.catalog t.after.settings actor (updatesOf index earlier) := by
  rintro earlier t later rfl index actor hcreates
  obtain ⟨snapshots, hstart, run⟩ := run
  obtain ⟨hbefore, hstep⟩ := run.split
  obtain ⟨current, hsound, hsettled⟩ := run_settled hearlier hrows ⟨snapshots, hstart, hbefore⟩
    (fun t ht => hkeeps t (List.mem_append_left _ ht))
    (fun t ht => hcommits t (List.mem_append_left _ ht))
    (fun t ht => hfresh t (List.mem_append_left _ ht))
  exact hsettled.creates hsound hstep hcreates

end Runs

/-! ## A volume, and a preset that is not installed -/

/-- The first player carries out a command outside voice. -/
def applied (revision : UInt64) (identity : ℕ) (command : PlayerCommand) :
    List (RegistryEvent ScriptedPlayback Unit) :=
  [.act 0 (.request (.apply (initialEnvelope scripted.guildId ⟨revision⟩
    (Uuid.fromU128 identity) (Uuid.fromU128 identity) command))), .publish 0]

/-- The first player is removed, and there is a second one. -/
def recreation : List (RegistryEvent ScriptedPlayback Unit) :=
  [.arrive true, .enter 0, .handle 0, .proceed 0 (Uuid.fromU128 5) (Uuid.fromU128 5)] ++ creation 1

/-- The first player gets a volume. -/
def volumeSet : List (RegistryEvent ScriptedPlayback Unit) :=
  creation 0 ++ applied 1 6 (.setVolume .half)

/-- It gets a preset as well, which is not installed. -/
def presetSet : List (RegistryEvent ScriptedPlayback Unit) :=
  volumeSet ++ applied 2 7 (.setHrir ⟨"gone", by decide⟩)

/-- The second player has the volume of the first one. -/
theorem settings_restored_volume :
    ((replay (step scripted) unused (volumeSet ++ recreation)).2.actors.map fun actor =>
      (actor.handles, actor.player.actor.model.volume.percent)) =
        [(.shared, 50), (.shared, 50)] ∧
    ∀ earlier t later, (replay (step scripted) unused (volumeSet ++ recreation)).1 =
      earlier ++ t :: later →
      ∀ (index : ℕ) (actor : SpawnedActor ScriptedPlayback Unit), Creates t index actor →
        Restores scripted.catalog t.after.settings actor (updatesOf index earlier) := by
  refine ⟨by decide +kernel, ?_⟩
  have hrows : ∀ row : GuildSettings,
      (none : Option GuildSettings) = some row → row.guildId = scripted.guildId := by simp
  exact settings_restored .nil hrows (unused_runs (volumeSet ++ recreation))
    (by decide +kernel) (by decide +kernel) (by decide +kernel)

/-- The second player does not have the volume of the first one: the pending update has it, but
names a preset that is not installed. -/
theorem settings_restored_preset :
    (∀ t ∈ (replay (step scripted) unused (presetSet ++ recreation)).1,
      t.before.commitsCleanly t.label = true ∧ t.before.drawsFresh t.label = true) ∧
    ¬ ∀ earlier t later, (replay (step scripted) unused (presetSet ++ recreation)).1 =
      earlier ++ t :: later →
      ∀ (index : ℕ) (actor : SpawnedActor ScriptedPlayback Unit), Creates t index actor →
        Restores scripted.catalog t.after.settings actor (updatesOf index earlier) := by
  refine ⟨by decide +kernel, ?_⟩
  intro hrestores
  have hcreation : ∃ t ∈ (replay (step scripted) unused (presetSet ++ recreation)).1,
      t.before.actors[1]?.map SpawnedActor.handles = some .creator ∧
      t.after.actors[1]?.map (fun actor => (actor.handles, actor.settingsPublisher)) =
        some (.shared, 1) ∧
      (lastArmed (t.after.settings.publishers.take 1)).map (·.lastAccepted.volume.percent) =
        some 50 ∧
      t.after.settings.publishers[1]?.map (·.initial.volume.percent) = some 10 := by
    decide +kernel
  obtain ⟨t, ht, hbefore, hafter, hlast, hinitial⟩ := hcreation
  obtain ⟨earlier, later, hsplit⟩ := List.append_of_mem ht
  obtain ⟨before, hbefore, hcreator⟩ := Option.map_eq_some_iff.mp hbefore
  obtain ⟨actor, hafter, hshared⟩ := Option.map_eq_some_iff.mp hafter
  obtain ⟨hshared, hpublisher⟩ := Prod.mk.inj hshared
  obtain ⟨accepted, hlast, hvolume⟩ := Option.map_eq_some_iff.mp hlast
  obtain ⟨publisher, hfound, -, hrestored, -⟩ :=
    hrestores earlier t later hsplit 1 actor ⟨⟨before, hbefore, hcreator⟩, hafter, hshared⟩
  rw [hpublisher] at hfound hrestored
  have hkept := congrArg Volume.percent (hrestored accepted hlast).volume
  rw [hfound, Option.map_some, hkept, hvolume] at hinitial
  exact absurd hinitial (by decide)

end GuildPlayers

end PepeAudio
