import PepeAudio.Bot.PlayerRegistry

/-!
# The moves of a guild's players

What a step can do to the calls, the actors and the registry, and at which phase
of a call. Facts about a step are proved by cases on its move.
-/
namespace PepeAudio

namespace OperationPhase

/-- The factory collects what it needs for a new actor. -/
def isPreparing : OperationPhase → Bool
  | loading | defaulting | viewing _ | loaded _ | watermarked _ _ | numbered _ _
  | prepared _ _ => true
  | _ => false

end OperationPhase

namespace GuildPlayers

variable {P S : Type}

/-- How the factory goes from one await to the next. -/
inductive Prepares (environment : GuildEnvironment) (players : GuildPlayers P S) :
    RegistryEvent P S → OperationPhase → OperationPhase → Prop
  | defaulted {event : RegistryEvent P S}
      (hmissing : players.settings.table environment.guildId = none) :
      Prepares environment players event .loading .defaulting
  | read {event : RegistryEvent P S} (row : GuildSettings)
      (hrow : players.settings.table environment.guildId = some row) :
      Prepares environment players event .loading (.viewing row)
  | viewed {operation : ℕ} (row : GuildSettings) :
      Prepares environment players (.view operation) (.viewing row)
        (.loaded (initialSettings environment.limits environment.catalog row
          ((players.settings.workers environment.guildId).map SettingsWorker.mailbox)))
  | watermarked {event : RegistryEvent P S} (settings : InitialSettings)
      (durable : Option StateRevision)
      (hdurable : players.snapshots.store.getSnapshotRevision environment.guildId = .ok durable) :
      Prepares environment players event (.loaded settings) (.watermarked settings durable)
  | numbered {event : RegistryEvent P S} (settings : InitialSettings)
      (durable : Option StateRevision)
      (revision : StateRevision) (hrevision : nextActorRevision durable
        (players.snapshots.latestRevision environment.guildId) = some revision) :
      Prepares environment players event (.watermarked settings durable)
        (.numbered settings revision)

variable [PlaybackPort P] [SnapshotPublisher S]

/-- What a step can do. A call stands at the phase that `players.operations` has for it. -/
inductive Move (environment : GuildEnvironment) (players : GuildPlayers P S) :
    RegistryEvent P S → GuildPlayers P S → Prop
  | idle {event : RegistryEvent P S} : Move environment players event players
  | arrived (removal : Bool) : Move environment players (.arrive removal) (players.arrive removal)
  | entered {event : RegistryEvent P S} (index lock : ℕ) (removal : Bool)
      (hphase : players.operations[index]? = some ⟨lock, .waiting removal⟩)
      (hunlocked : players.isLocked lock = false) :
      Move environment players event (players.enter index removal)
  | prepares {event : RegistryEvent P S} (index lock : ℕ) (phase phase' : OperationPhase)
      (hphase : players.operations[index]? = some ⟨lock, phase⟩)
      (hprepares : players.Prepares environment event phase phase') :
      Move environment players event (players.goOn index phase')
  | created {event : RegistryEvent P S} (index lock : ℕ) (row : GuildSettings)
      (table : GuildSettingsTable)
      (hphase : players.operations[index]? = some ⟨lock, .defaulting⟩)
      (hcreated : players.settings.table.createGuildSettings
        (environment.limits.guildSettings environment.guildId) = (.ok row, table)) :
      Move environment players event
        ({ players with settings := { players.settings with table } }.goOn index (.viewing row))
  | gaveUp {event : RegistryEvent P S} (index lock : ℕ) (phase : OperationPhase)
      (hphase : players.operations[index]? = some ⟨lock, phase⟩)
      (hpreparing : phase.isPreparing = true) :
      Move environment players event (players.finish index)
  | prepared {event : RegistryEvent P S} (index lock : ℕ) (settings : InitialSettings)
      (revision : StateRevision)
      (hphase : players.operations[index]? = some ⟨lock, .numbered settings revision⟩)
      (hinstalled : environment.catalog.isInstalled settings.hrirPreset = true) :
      Move environment players event
        ({ players with
          snapshots := (players.snapshots.step environment.encodedLength environment.ttl
            (.register environment.guildId)).2 }.goOn index (.prepared settings revision))
  | spawned {event : RegistryEvent P S} (index lock : ℕ) (settings : InitialSettings)
      (setup : PlayerSetup P S)
      (hphase : players.operations[index]? = some ⟨lock, .prepared settings setup.initialRevision⟩)
      (hguild : setup.guildId = environment.guildId) :
      Move environment players event
        ({ players with
          settings :=
            (players.settings.step (.publisher environment.guildId settings.persistent)).2
          actors := players.actors ++
            [SpawnedActor.spawn setup players.settings.publishers.length] }.goOn index
              (.asking players.actors.length .snapshot settings.commands))
  | alive {event : RegistryEvent P S} (index lock actorIndex : ℕ) (actor : SpawnedActor P S)
      (hphase : players.operations[index]? = some ⟨lock, .checking actorIndex⟩)
      (hactor : players.actors[actorIndex]? = some actor) (hidle : actor.publishing = [])
      (hreply : ∃ snapshot, (actor.turn (.request .snapshot)).1 = .snapshot snapshot) :
      Move environment players event
        ((players.setActor actorIndex (actor.turn (.request .snapshot)).2).finish index)
  | dead {event : RegistryEvent P S} (index lock actorIndex : ℕ) (actor : SpawnedActor P S)
      (hphase : players.operations[index]? = some ⟨lock, .checking actorIndex⟩)
      (hactor : players.actors[actorIndex]? = some actor) (hidle : actor.publishing = [])
      (hreply : ∀ snapshot, (actor.turn (.request .snapshot)).1 ≠ .snapshot snapshot) :
      Move environment players event
        ({ players.setActor actorIndex (actor.turn (.request .snapshot)).2 with
          registered := none }.goOn index .loading)
  | busy {operation : ℕ} (index lock actorIndex : ℕ)
      (hphase : players.operations[index]? = some ⟨lock, .checking actorIndex⟩) :
      Move environment players (.timeout operation) (players.finish index)
  | asked {event : RegistryEvent P S} (index lock actorIndex : ℕ) (request : PlayerRequest)
      (commands : List PlayerCommand) (actor : SpawnedActor P S)
      (hphase : players.operations[index]? = some ⟨lock, .asking actorIndex request commands⟩)
      (hactor : players.actors[actorIndex]? = some actor) (hidle : actor.publishing = []) :
      Move environment players event
        ((players.setActor actorIndex (actor.turn (.request request)).2).goOn index
          (.answered actorIndex (actor.turn (.request request)).1 commands))
  | failed {event : RegistryEvent P S} (index lock actorIndex : ℕ) (reply : Reply)
      (commands : List PlayerCommand) (actor : SpawnedActor P S)
      (hphase : players.operations[index]? = some ⟨lock, .answered actorIndex reply commands⟩)
      (hactor : players.actors[actorIndex]? = some actor) (hidle : actor.publishing = [])
      (hfailed : ∀ snapshot, creationResult reply ≠ .ok snapshot) :
      Move environment players event
        ((players.setActor actorIndex { actor with handles := .dropped }).finish index)
  | registered {event : RegistryEvent P S} (index lock actorIndex : ℕ) (reply : Reply)
      (actor : SpawnedActor P S)
      (hphase : players.operations[index]? = some ⟨lock, .answered actorIndex reply []⟩)
      (hactor : players.actors[actorIndex]? = some actor) (hidle : actor.publishing = [])
      (hreply : ∃ snapshot, creationResult reply = .ok snapshot) :
      Move environment players event
        (({ players with registered := some actorIndex }.setActor actorIndex
          { actor with handles := .shared }).finish index)
  | commands {operation : ℕ} (index lock actorIndex : ℕ) (reply : Reply) (command : PlayerCommand)
      (commands : List PlayerCommand) (snapshot : PlayerSnapshot) (commandId idempotencyKey : Uuid)
      (actor : SpawnedActor P S)
      (hphase : players.operations[index]? =
        some ⟨lock, .answered actorIndex reply (command :: commands)⟩)
      (hactor : players.actors[actorIndex]? = some actor) (hidle : actor.publishing = [])
      (hreply : creationResult reply = .ok snapshot) :
      Move environment players (.proceed operation commandId idempotencyKey)
        (players.goOn index (.asking actorIndex (.apply (initialEnvelope environment.guildId
          snapshot.revision commandId idempotencyKey command)) commands))
  | stops {event : RegistryEvent P S} (index lock actorIndex : ℕ) (actor : SpawnedActor P S)
      (hphase : players.operations[index]? = some ⟨lock, .stopping actorIndex none⟩)
      (hactor : players.actors[actorIndex]? = some actor) (hidle : actor.publishing = []) :
      Move environment players event
        ((players.setActor actorIndex (actor.turn (.request .shutdown)).2).goOn index
          (.stopping actorIndex (some (actor.turn (.request .shutdown)).1)))
  | putBack {event : RegistryEvent P S} (index lock actorIndex : ℕ) (reply : Option Reply)
      (hphase : players.operations[index]? = some ⟨lock, .stopping actorIndex reply⟩) :
      Move environment players event ({ players with registered := some actorIndex }.finish index)
  | removed {event : RegistryEvent P S} (index lock actorIndex : ℕ) (reply : Reply)
      (actor : SpawnedActor P S)
      (hphase : players.operations[index]? = some ⟨lock, .stopping actorIndex (some reply)⟩)
      (hactor : players.actors[actorIndex]? = some actor) (hidle : actor.publishing = [])
      (hreply : ∀ error revision, reply ≠ .shutdown ⟨some error, revision⟩) :
      Move environment players event (players.finish index)
  | acted (actorIndex : ℕ) (actor : SpawnedActor P S) (input : Input)
      (hactor : players.actors[actorIndex]? = some actor) (hidle : actor.publishing = [])
      (haccepts : actor.accepts input = true) :
      Move environment players (.act actorIndex input)
        (players.setActor actorIndex (actor.turn input).2)
  | published (actorIndex : ℕ) (actor : SpawnedActor P S) (snapshot : PlayerSnapshot)
      (publishing : List PlayerSnapshot) (hactor : players.actors[actorIndex]? = some actor)
      (hpublishing : actor.publishing = snapshot :: publishing) :
      Move environment players (.publish actorIndex)
        ({ players with
          snapshots := publishSnapshot environment snapshot players.snapshots
          settings := publishSettings actor.settingsPublisher snapshot players.settings }.setActor
            actorIndex { actor with publishing })
  | persistedSnapshot (event : SnapshotRuntimeEvent) (hevent : event.isPersistence = true) :
      Move environment players (.persistSnapshot event)
        { players with
          snapshots :=
            (players.snapshots.step environment.encodedLength environment.ttl event).2 }
  | persistedSettings (event : SettingsRuntimeEvent) (hevent : event.isPersistence = true) :
      Move environment players (.persistSettings event)
        { players with settings := (players.settings.step event).2 }

variable {environment : GuildEnvironment} {players : GuildPlayers P S} {index lock : ℕ}
  {phase : OperationPhase} {event : RegistryEvent P S}

omit [PlaybackPort P] [SnapshotPublisher S] in
theorem snapshotResult_ok {reply : Reply} {snapshot : PlayerSnapshot}
    (h : snapshotResult reply = .ok snapshot) : reply = .snapshot snapshot := by
  cases reply with
  | snapshot found => exact congrArg Reply.snapshot (Except.ok.inj h)
  | _ => contradiction

theorem handle_moves (hphase : players.operations[index]? = some ⟨lock, phase⟩) :
    Move environment players event (players.handle index phase) := by
  unfold handle
  cases phase with
  | checking actorIndex =>
    dsimp only
    split
    · exact .idle
    · rename_i actor hactor
      split_ifs with hidle
      · have hidle : actor.publishing = [] := by simpa using hidle
        split <;> rename_i hreply
        · exact .alive index lock actorIndex actor hphase hactor hidle ⟨_, snapshotResult_ok hreply⟩
        · refine .dead index lock actorIndex actor hphase hactor hidle ?_
          intro snapshot heq
          simp [heq, snapshotResult] at hreply
      · exact .idle
  | asking actorIndex request commands =>
    dsimp only
    split
    · exact .idle
    · rename_i actor hactor
      split_ifs with hidle
      · have hidle : actor.publishing = [] := by simpa using hidle
        exact .asked index lock actorIndex request commands actor hphase hactor hidle
      · exact .idle
  | stopping actorIndex reply =>
    cases reply with
    | some => exact .idle
    | none =>
      dsimp only
      split
      · exact .idle
      · rename_i actor hactor
        split_ifs with hidle
        · exact .stops index lock actorIndex actor hphase hactor (by simpa using hidle)
        · exact .idle
  | _ => exact .idle

theorem proceed_moves {operation : ℕ} (hphase : players.operations[index]? = some ⟨lock, phase⟩)
    (commandId idempotencyKey : Uuid) :
    Move environment players (.proceed operation commandId idempotencyKey)
      (players.proceed environment.guildId index commandId idempotencyKey phase) := by
  unfold proceed
  cases phase with
  | answered actorIndex reply commands =>
    dsimp only
    split
    · exact .idle
    · rename_i actor hactor
      split_ifs with hbusy
      · exact .idle
      · have hidle : actor.publishing = [] := by simpa using hbusy
        split <;> rename_i hresult
        · refine .failed index lock actorIndex reply _ actor hphase hactor hidle ?_
          simp [hresult]
        · exact .registered index lock actorIndex reply actor hphase hactor hidle ⟨_, hresult⟩
        · exact .commands index lock actorIndex reply _ _ _ commandId idempotencyKey actor hphase
            hactor hidle hresult
  | stopping actorIndex reply =>
    cases reply with
    | none => exact .idle
    | some reply =>
      dsimp only
      split
      · exact .idle
      · rename_i actor hactor
        split_ifs with hbusy
        · exact .idle
        · split
          · exact .putBack index lock actorIndex _ hphase
          · rename_i hreply
            exact .removed index lock actorIndex reply actor hphase hactor (by simpa using hbusy)
              hreply
  | _ => exact .idle

theorem timeout_moves {operation : ℕ} (hphase : players.operations[index]? = some ⟨lock, phase⟩) :
    Move environment players (.timeout operation) (players.timeout index phase) := by
  unfold timeout
  cases phase with
  | checking actorIndex => exact .busy index lock actorIndex hphase
  | stopping actorIndex reply => exact .putBack index lock actorIndex reply hphase
  | _ => exact .idle

theorem readRow_moves (hphase : players.operations[index]? = some ⟨lock, .loading⟩)
    (fails : Bool) : Move environment players event (players.readRow environment index fails) := by
  simp only [readRow, GuildSettingsTable.getGuildSettings]
  split_ifs
  · exact .gaveUp index lock _ hphase rfl
  · split <;> rename_i hrow
    · exact .prepares index lock _ _ hphase (.read _ hrow)
    · exact .prepares index lock _ _ hphase (.defaulted hrow)

theorem createRow_moves (hphase : players.operations[index]? = some ⟨lock, .defaulting⟩)
    (fails : Bool) :
    Move environment players event (players.createRow environment index fails) := by
  unfold createRow
  split_ifs
  · exact .gaveUp index lock _ hphase rfl
  · dsimp only
    split <;> rename_i hcreated
    · exact .gaveUp index lock _ hphase rfl
    · exact .created index lock _ _ hphase (Prod.ext hcreated rfl)

theorem spawn_moves {settings : InitialSettings} {revision : StateRevision}
    (hphase : players.operations[index]? = some ⟨lock, .prepared settings revision⟩)
    (resources : ActorResources P S) : Move environment players event
      (players.spawnActor environment index settings revision resources) := by
  unfold spawnActor
  split
  · exact .gaveUp index lock _ hphase rfl
  · exact .spawned index lock settings _ hphase rfl

theorem advance_moves (hphase : players.operations[index]? = some ⟨lock, phase⟩)
    (event : RegistryEvent P S) :
    Move environment players event (players.advance environment index phase event) := by
  cases event with
  | handle => exact handle_moves hphase
  | proceed _ commandId idempotencyKey => exact proceed_moves hphase commandId idempotencyKey
  | timeout => exact timeout_moves hphase
  | readRow _ fails =>
    simp only [advance]
    split_ifs with hloading
    · subst hloading
      exact readRow_moves hphase fails
    · exact .idle
  | createRow _ fails =>
    simp only [advance]
    split_ifs with hdefaulting
    · subst hdefaulting
      exact createRow_moves hphase fails
    · exact .idle
  | view =>
    simp only [advance]
    split
    · exact .prepares index lock _ _ hphase (.viewed _)
    · exact .idle
  | readDurable _ fails =>
    simp only [advance]
    split
    · split <;> rename_i hdurable
      · exact .gaveUp index lock _ hphase rfl
      · split_ifs
        · exact .gaveUp index lock _ hphase rfl
        · exact .prepares index lock _ _ hphase (.watermarked _ _ hdurable)
    · exact .idle
  | readVolatile =>
    simp only [advance]
    split
    · split <;> rename_i hrevision
      · exact .gaveUp index lock _ hphase rfl
      · exact .prepares index lock _ _ hphase (.numbered _ _ _ hrevision)
    · exact .idle
  | prepare _ fails =>
    simp only [advance]
    split
    · split_ifs with hfails
      · exact .gaveUp index lock _ hphase rfl
      · simp only [Bool.or_eq_true, Bool.not_eq_true', not_or, Bool.not_eq_false] at hfails
        exact .prepared index lock _ _ hphase hfails.2
    · exact .idle
  | spawn _ resources =>
    simp only [advance]
    split
    · exact spawn_moves hphase _
    · exact .gaveUp index lock _ hphase rfl
    · exact .idle
  | _ => exact .idle

/-- Every step is one of the moves. -/
theorem step_moves (environment : GuildEnvironment) (players : GuildPlayers P S)
    (event : RegistryEvent P S) :
    Move environment players event (players.step environment event) := by
  cases event with
  | arrive removal => exact .arrived removal
  | enter index =>
    simp only [step]
    split
    · rename_i lock removal hphase
      split_ifs with hlocked
      · exact .idle
      · exact .entered index lock removal hphase (by simpa using hlocked)
    · exact .idle
  | act index input =>
    simp only [step]
    split
    · exact .idle
    · rename_i actor hactor
      split_ifs with haccepts
      · simp only [Bool.and_eq_true, List.isEmpty_iff] at haccepts
        exact .acted index actor input hactor haccepts.1 haccepts.2
      · exact .idle
  | publish index =>
    simp only [step]
    split
    · exact .idle
    · rename_i actor hactor
      split <;> rename_i hpublishing
      · exact .idle
      · exact .published index actor _ _ hactor hpublishing
  | persistSnapshot event =>
    simp only [step]
    split_ifs with hevent
    · exact .persistedSnapshot event hevent
    · exact .idle
  | persistSettings event =>
    simp only [step]
    split_ifs with hevent
    · exact .persistedSettings event hevent
    · exact .idle
  | handle | proceed | timeout | readRow | createRow | view | readDurable | readVolatile | prepare
  | spawn =>
    simp only [step]
    split <;> rename_i hphase
    · exact advance_moves hphase _
    · exact .idle

end GuildPlayers

end PepeAudio
