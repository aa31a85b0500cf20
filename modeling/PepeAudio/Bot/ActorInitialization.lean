import PepeAudio.Bot.SpawnedActors
import PepeAudio.Player.AudioSettings
import PepeAudio.Player.Idempotency

/-!
# The settings of a new actor

A new actor starts without a preset, and the factory sends it three commands. What
it has of its settings follows from the commands that are still to come; a command
whose answer is good has been carried out, as long as its key is new.
-/
namespace PepeAudio

open Actor

variable {P S : Type}

def AudioSettings.set (settings : AudioSettings) : PlayerCommand → AudioSettings
  | .setVolume volume => { settings with volume := volume }
  | .setHrir preset => { settings with preset := some preset, spatial := true }
  | .setSpatialAudio enabled => { settings with spatial := enabled }
  | _ => settings

section Handlers

variable {a : Actor P S}

theorem ends_sideEffect_model [PlaybackPort P] (effect : SideEffect) (operation : PlaybackCall) :
    Ends (sideEffect effect operation) a (fun _ a' => a'.model = a.model) (fun _ _ => True) :=
  ends_sideEffect effect operation (fun _ => rfl) fun _ _ => trivial

/-- A change that is answered is committed as it was made. -/
theorem ends_finishChange_model [SnapshotPublisher S] (wasIdle : Bool) (next : StateRevision) :
    Ends (finishChange wasIdle next) a (fun _ a' => a'.model = { a.model with revision := next })
      (fun _ _ => True) := by
  unfold finishChange
  rw [ends_bind, ends_modifyModel, ends_bind]
  refine ends_reconcileIdle (fun events _ => ?_) fun error events _ => trivial
  rw [ends_bind, ends_currentSnapshot, ends_bind]
  exact ends_publish _ fun publisher events => rfl

variable [PlaybackPort P] [SnapshotPublisher S]

/-- The settings are those asked for, and nothing is published where they were so before. -/
def Takes (a : Actor P S) (settings : AudioSettings) (a' : Actor P S) : Prop :=
  a'.model.audioSettings = settings ∧
    (settings = a.model.audioSettings → a'.published = a.published)

theorem ends_setting (effect : SideEffect) (operation : PlaybackCall)
    {f : PlayerModel → PlayerModel} {settings : AudioSettings}
    (hchanged : settings ≠ a.model.audioSettings)
    (hset : ∀ model : PlayerModel, model.audioSettings = a.model.audioSettings →
      (f model).audioSettings = settings) :
    Ends (do
      let nextRevision ← nextRevision
      if a.model.voiceChannelId.isSome then sideEffect effect operation
      modifyModel f
      finishChange a.model.isIdleConnected nextRevision) a
      (fun _ a' => Takes a settings a') (fun _ _ => True) := by
  have hrest : ∀ (next : StateRevision) (a' : Actor P S), a'.model = a.model →
      Ends (do modifyModel f; finishChange a.model.isIdleConnected next) a'
        (fun _ a'' => Takes a settings a'') (fun _ _ => True) := by
    intro next a' hmodel
    rw [ends_bind, ends_modifyModel]
    refine (ends_finishChange_model _ _).imp (fun _ a'' hafter => ?_) fun _ _ h => h
    refine ⟨?_, fun hsame => absurd hsame hchanged⟩
    rw [hafter]
    exact hset a'.model (by rw [hmodel])
  rw [ends_bind]
  refine ends_nextRevision (fun next _ => ?_) fun _ => trivial
  split
  · rw [ends_bind]
    exact (ends_sideEffect_model effect operation).imp (fun _ a' hmodel => hrest next a' hmodel)
      fun _ _ h => h
  · exact hrest next a rfl

/-- A setting that is answered well is the player's. -/
theorem ends_execute_setting {command : PlayerCommand} (hsetting : command.isSetting = true)
    (idempotencyKey : Uuid) : Ends (execute command idempotencyKey) a
      (fun _ a' => Takes a (a.model.audioSettings.set command) a') (fun _ _ => True) := by
  cases command with
  | setVolume volume =>
    simp only [execute, setVolume]
    rw [ends_bind, ends_getModel]
    split
    · rename_i hsame
      subst hsame
      exact ⟨rfl, fun _ => rfl⟩
    · rename_i hother
      refine ends_setting _ _ ?_ fun model hmodel => by rw [← hmodel]; rfl
      simpa [AudioSettings.set, PlayerModel.audioSettings, eq_comm] using hother
  | setHrir preset =>
    simp only [execute, setHrir]
    rw [ends_bind, ends_getModel]
    split
    · rename_i hsame
      simp only [Bool.and_eq_true, decide_eq_true_eq] at hsame
      refine ⟨?_, fun _ => rfl⟩
      simp [PlayerModel.audioSettings, AudioSettings.set, hsame.1, hsame.2]
    · rename_i hother
      refine ends_setting _ _ ?_ fun model hmodel => by rw [← hmodel]; rfl
      intro hsame
      simp only [AudioSettings.set, PlayerModel.audioSettings, AudioSettings.mk.injEq] at hsame
      simp [← hsame.2.1, ← hsame.2.2] at hother
  | setSpatialAudio enabled =>
    simp only [execute, setSpatial]
    rw [ends_bind, ends_getModel]
    split
    · rename_i hsame
      subst hsame
      exact ⟨rfl, fun _ => rfl⟩
    · rename_i hother
      refine ends_setting _ _ ?_ fun model hmodel => by rw [← hmodel]; rfl
      simpa [AudioSettings.set, PlayerModel.audioSettings, eq_comm] using hother
  | _ => contradiction

theorem ends_applyCommand_setting {envelope : CommandEnvelope}
    (hsetting : envelope.command.isSetting = true)
    (hunknown : envelope.idempotencyKey ∉ a.recentIdempotency) :
    Ends (applyCommand envelope) a
      (fun _ a' => Takes a (a.model.audioSettings.set envelope.command) a')
      (fun _ _ => True) := by
  unfold applyCommand
  rw [ends_bind, ends_get, if_neg hunknown, ends_bind, ends_currentSnapshot, ends_bind,
    ends_readClock]
  split
  · trivial
  · rw [ends_bind]
    exact (ends_execute_setting hsetting envelope.idempotencyKey).imp (fun _ a' h => h)
      fun _ _ h => h

/-- A turn with a setting that is answered well. -/
theorem ends_turn_setting {envelope : CommandEnvelope}
    (hsetting : envelope.command.isSetting = true)
    (hunknown : envelope.idempotencyKey ∉ a.recentIdempotency) :
    Ends (turn (.request (.apply envelope))) a
      (fun answer a' => (∃ snapshot, answer.1 = .mutation (.ok snapshot)) →
        Takes a (a.model.audioSettings.set envelope.command) a') (fun _ _ => True) := by
  simp only [turn, handleRequest, reply]
  rw [ends_bind, ends_bind]
  refine ends_attempt ((ends_applyCommand_setting hsetting hunknown).imp ?_ ?_)
  · intro snapshot a' hset _
    exact hset
  · intro failure a' _
    cases failure with
    | error error =>
      rintro ⟨snapshot, hreply⟩
      simp at hreply
    | panic message => trivial

/-- What an actor publishes when a setting is answered well. -/
inductive Answered (model : PlayerModel) : PlayerModel → List PlayerSnapshot → Prop
  | unchanged : Answered model model []
  | changed (model' : PlayerModel) (reading : Reading)
      (hrevision : model'.revision.toNat = model.revision.toNat + 1) :
      Answered model model' [model'.snapshot reading]

omit [PlaybackPort P] [SnapshotPublisher S] in
theorem Outcome.answered {a' : Actor P S} {cause : Cause} {snapshot : PlayerSnapshot}
    (h : Outcome a cause (.ok snapshot) a') :
    Answered a.model a'.model (a'.published.drop a.published.length) := by
  cases h with
  | unchanged reading hkept =>
    rw [hkept.published, hkept.model, List.drop_length]
    exact .unchanged
  | committed hchange hframe hcommit =>
    obtain ⟨next, hnext, hmodel⟩ := hcommit.revision
    rcases hcommit.result with ⟨-, reading, -, hpublished⟩ | ⟨⟨error, -, hresult⟩, -⟩
    · rw [hpublished, List.drop_left]
      refine .changed a'.model reading ?_
      rw [hmodel]
      exact StateRevision.checkedNext_toNat hnext
    · contradiction

/-- A setting that is answered well has been carried out. -/
theorem Player.step_setting {player player' : Player P S} {config : PlayerConfig}
    (hsound : player.Sound config) {envelope : CommandEnvelope}
    (hsetting : envelope.command.isSetting = true)
    (hunknown : envelope.idempotencyKey ∉ player.actor.recentIdempotency)
    {snapshot : PlayerSnapshot}
    (hstep : player.step (.request (.apply envelope)) = (.mutation (.ok snapshot), player')) :
    Takes player.actor (player.actor.model.audioSettings.set envelope.command) player'.actor ∧
      Answered player.actor.model player'.actor.model
        (player'.actor.published.drop player.actor.published.length) := by
  have hturned := hsound.turned_or_ended (.request (.apply envelope))
  rw [hstep] at hturned
  rcases hturned with hturned | ⟨-, hended⟩
  · constructor
    · have hrunning : player.status = .running := by
        by_contra hended
        rw [Player.step_ended hended] at hstep
        have hreply := (Prod.mk.inj hstep).1
        contradiction
      have hends := ends_turn_setting (a := player.actor) hsetting hunknown
      unfold Player.step at hstep
      rw [hrunning] at hstep
      dsimp only at hstep
      cases hresult : Actor.turn (.request (.apply envelope)) player.actor with
      | ok answer a' =>
        rw [hresult] at hstep
        obtain ⟨hanswer, rfl⟩ := Prod.mk.inj hstep
        exact hends.of_ok hresult ⟨snapshot, hanswer⟩
      | error failure a' =>
        rw [hresult] at hstep
        have hreply := (Prod.mk.inj hstep).1
        contradiction
    · cases hturned with
      | answered hcause => contradiction
      | replayed hknown => exact absurd hknown hunknown
      | accepted haccepted => exact haccepted.outcome.answered
  · have hreply := (Prod.mk.inj hended).1
    contradiction

end Handlers

/-- A passive turn remembers no key. -/
theorem Player.step_recent [PlaybackPort P] [SnapshotPublisher S] {player : Player P S}
    {config : PlayerConfig} (hsound : player.Sound config) {input : Input}
    (hpassive : input.isPassive = true) :
    (player.step input).2.actor.recentIdempotency = player.actor.recentIdempotency := by
  rcases hsound.turned_or_ended input with hturned | ⟨-, hended⟩
  · generalize (player.step input).1 = reply at hturned
    generalize (player.step input).2 = player' at hturned
    cases hturned with
    | answered hcause =>
      rename_i request cause a' result houtcome
      cases request <;> contradiction
    | replayed | accepted | invalid | failed => contradiction
    | observed => rfl
    | stayed hexpired => exact hexpired.recent
    | expired _ hexpired => exact hexpired.recent
    | shutDown hshut => exact hshut.recent
    | requestsClosed hshut => exact hshut.recent
  · rw [hended]

/-- The settings of a player that has a preset. -/
def PlayerModel.persistent (model : PlayerModel) : Option PersistentPlayerSettings :=
  model.hrirPreset.map fun preset => ⟨model.volume, preset, model.spatialAudioEnabled⟩

theorem fromSnapshot_snapshot (model : PlayerModel) (reading : Reading) :
    PersistentPlayerSettings.fromSnapshot (model.snapshot reading) = model.persistent := rfl

/-- What a new actor has of its settings while these commands are still to come. -/
inductive Initializing (initial : PersistentPlayerSettings) :
    List PlayerCommand → AudioSettings → Prop
  | fresh (volume : Volume) (spatial : Bool) :
      Initializing initial [.setVolume initial.volume, .setHrir initial.hrirPreset,
        .setSpatialAudio initial.spatialAudioEnabled] ⟨volume, none, spatial⟩
  | volumeSet (spatial : Bool) :
      Initializing initial [.setHrir initial.hrirPreset,
        .setSpatialAudio initial.spatialAudioEnabled] ⟨initial.volume, none, spatial⟩
  | hrirSet :
      Initializing initial [.setSpatialAudio initial.spatialAudioEnabled]
        ⟨initial.volume, some initial.hrirPreset, true⟩
  | done :
      Initializing initial []
        ⟨initial.volume, some initial.hrirPreset, initial.spatialAudioEnabled⟩

section Commands

variable {initial : PersistentPlayerSettings} {commands : List PlayerCommand}
  {command : PlayerCommand} {settings : AudioSettings} {model model' : PlayerModel}

theorem Initializing.set (h : Initializing initial (command :: commands) settings) :
    Initializing initial commands (settings.set command) := by
  cases h with
  | fresh volume spatial => exact .volumeSet spatial
  | volumeSet spatial => exact .hrirSet
  | hrirSet => exact .done

/-- The settings are complete before the last command only where it has nothing to do. -/
theorem Initializing.set_of_complete
    (h : Initializing initial (command :: commands) model.audioSettings)
    (hcomplete : model.persistent = some initial) :
    model.audioSettings.set command = model.audioSettings := by
  have hpreset : model.hrirPreset ≠ none := by
    intro hnone
    simp [PlayerModel.persistent, hnone] at hcomplete
  generalize hsettings : model.audioSettings = settings at h ⊢
  have hmodel : settings.preset = model.hrirPreset := by rw [← hsettings]; rfl
  cases h with
  | fresh | volumeSet => exact absurd hmodel.symm hpreset
  | hrirSet =>
    have hspatial : model.spatialAudioEnabled = true := congrArg AudioSettings.spatial hsettings
    have hinitial : initial.spatialAudioEnabled = true := by
      obtain ⟨preset, -, heq⟩ := Option.map_eq_some_iff.mp hcomplete
      rw [← heq]
      exact hspatial
    simp [AudioSettings.set, hinitial]

theorem Initializing.persistent (h : Initializing initial [] model.audioSettings) :
    model.persistent = some initial := by
  generalize hsettings : model.audioSettings = settings at h
  cases h
  simp only [PlayerModel.audioSettings, AudioSettings.mk.injEq] at hsettings
  obtain ⟨hvolume, hpreset, hspatial⟩ := hsettings
  simp [PlayerModel.persistent, hvolume, hpreset, hspatial]

namespace SettingsSnapshotPublisher

variable {publisher : SettingsSnapshotPublisher} {publishing : List PlayerSnapshot}
  {updates : List SettingsUpdate}

/-- The whole of `publish` while no shutdown is under way: the update that is queued, if any. -/
def accept (snapshot : PlayerSnapshot) (publisher : SettingsSnapshotPublisher) :
    Option SettingsUpdate × SettingsSnapshotPublisher :=
  match PersistentPlayerSettings.fromSnapshot snapshot with
  | none => (none, publisher)
  | some settings =>
    if !publisher.armed then
      if settings = publisher.initial then
        (if publisher.persistInitial then some ⟨snapshot.revision, settings⟩ else none,
          { publisher with armed := true, lastAccepted := settings, persistInitial := false })
      else (none, publisher)
    else if settings = publisher.lastAccepted then (none, publisher)
    else (some ⟨snapshot.revision, settings⟩, { publisher with lastAccepted := settings })

theorem publish_guildId (publisher : SettingsSnapshotPublisher) (closed : Bool)
    (snapshot : PlayerSnapshot) :
    (publisher.publish closed snapshot).2.guildId = publisher.guildId := by
  unfold publish
  cases PersistentPlayerSettings.fromSnapshot snapshot with
  | none => split_ifs <;> rfl
  | some settings =>
    dsimp only
    split_ifs <;> rfl

/-- What a publisher may do with a snapshot: it arms itself on settings that are there already, or
it queues the settings and remembers them. -/
inductive Accepts (publisher : SettingsSnapshotPublisher) (snapshot : PlayerSnapshot) :
    Option SettingsUpdate → SettingsSnapshotPublisher → Prop
  | ignored : Accepts publisher snapshot none publisher
  | armed (hunarmed : publisher.armed = false) (hpersist : publisher.persistInitial = false) :
      Accepts publisher snapshot none
        { publisher with armed := true, lastAccepted := publisher.initial, persistInitial := false }
  | queued (settings : PersistentPlayerSettings) (persistInitial : Bool) :
      Accepts publisher snapshot (some ⟨snapshot.revision, settings⟩)
        { publisher with armed := true, lastAccepted := settings, persistInitial }

theorem accept_accepts (publisher : SettingsSnapshotPublisher) (snapshot : PlayerSnapshot) :
    publisher.Accepts snapshot (publisher.accept snapshot).1 (publisher.accept snapshot).2 := by
  unfold accept
  cases PersistentPlayerSettings.fromSnapshot snapshot with
  | none => exact .ignored
  | some settings =>
    obtain ⟨guildId, initial, armed, persistInitial, lastAccepted, queueing⟩ := publisher
    cases armed with
    | false =>
      simp only [Bool.not_false, if_true]
      split_ifs with hinitial hpersist
      · exact .queued settings false
      · subst hinitial
        exact .armed rfl (by simpa using hpersist)
      · exact .ignored
    | true =>
      simp only [Bool.not_true, Bool.false_eq_true, if_false]
      split_ifs
      · exact .ignored
      · exact .queued settings persistInitial

/-- `publish` up to its `queue` and from there on is `accept`. -/
theorem publish_accept (hqueueing : publisher.queueing = none) {snapshot : PlayerSnapshot}
    (hguild : snapshot.guildId = publisher.guildId) :
    ((publisher.publish false snapshot).2.queueing = none ∧
        publisher.accept snapshot = (none, (publisher.publish false snapshot).2)) ∨
      ∃ update arming, (publisher.publish false snapshot).2.queueing = some (update, arming) ∧
        publisher.accept snapshot =
          (some update, ((publisher.publish false snapshot).2.queued update arming false).2) := by
  obtain ⟨guildId, initial, armed, persistInitial, lastAccepted, queueing⟩ := publisher
  obtain rfl : queueing = none := hqueueing
  unfold publish accept
  rw [if_neg (not_not.mpr hguild), if_neg Bool.false_ne_true]
  cases PersistentPlayerSettings.fromSnapshot snapshot with
  | none => exact .inl ⟨rfl, rfl⟩
  | some settings =>
    cases armed with
    | false =>
      by_cases hinitial : settings = initial
      · cases persistInitial with
        | false => exact .inl (by simp [hinitial])
        | true => exact .inr (by simp [hinitial, queued])
      · exact .inl (by simp [hinitial])
    | true =>
      by_cases hlast : settings = lastAccepted
      · exact .inl (by simp [hlast])
      · exact .inr (by simp [hlast, queued])

/-- What the publisher of a new actor has seen, and what it has queued. -/
inductive Delivered (publisher : SettingsSnapshotPublisher) (model : PlayerModel) :
    List PlayerSnapshot → List SettingsUpdate → Prop
  /-- The settings are not complete. -/
  | ignored (harmed : publisher.armed = false)
      (hincomplete : model.persistent ≠ some publisher.initial) : Delivered publisher model [] []
  | unseen (harmed : publisher.armed = false) (reading : Reading) :
      Delivered publisher model [model.snapshot reading] []
  | accepted (updates : List SettingsUpdate) (harmed : publisher.armed = true)
      (hcomplete : model.persistent = some publisher.initial)
      (hupdates : updates = [] ∨ ∃ revision, updates = [⟨revision, publisher.initial⟩]) :
      Delivered publisher model [] updates

/-- The actor has carried out a command and answered it well. -/
theorem Delivered.answered (h : publisher.Delivered model [] updates)
    (hanswered : Answered model model' publishing)
    (hquiet : model.persistent = some publisher.initial → publishing = []) :
    publisher.Delivered model' publishing updates := by
  cases hanswered with
  | unchanged => exact h
  | changed model' reading =>
    cases h with
    | ignored harmed hincomplete => exact .unseen harmed reading
    | accepted updates harmed hcomplete =>
      have hnone := hquiet hcomplete
      contradiction

/-- The publisher takes the snapshot. -/
theorem Delivered.accept {snapshot : PlayerSnapshot}
    (h : publisher.Delivered model (snapshot :: publishing) updates) :
    (publisher.accept snapshot).2.Delivered model publishing
        (updates ++ (publisher.accept snapshot).1.toList) ∧
      (publisher.accept snapshot).2.initial = publisher.initial := by
  cases h with
  | unseen harmed reading =>
    unfold SettingsSnapshotPublisher.accept
    rw [fromSnapshot_snapshot]
    cases hpersistent : model.persistent with
    | none => exact ⟨.ignored harmed (by simp [hpersistent]), rfl⟩
    | some settings =>
      simp only [harmed, Bool.not_false, if_true]
      by_cases hinitial : settings = publisher.initial
      · subst hinitial
        rw [if_pos rfl]
        refine ⟨.accepted _ rfl hpersistent ?_, rfl⟩
        cases publisher.persistInitial with
        | true => exact .inr ⟨_, rfl⟩
        | false => exact .inl rfl
      · rw [if_neg hinitial]
        exact ⟨.ignored harmed (by simpa [hpersistent] using hinitial), rfl⟩

end SettingsSnapshotPublisher

end Commands

end PepeAudio
