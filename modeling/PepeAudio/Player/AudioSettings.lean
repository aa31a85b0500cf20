import PepeAudio.Player.Safety

/-!
# Audio settings of the model and of the adapter

The adapter keeps its settings while it is not connected. `connect` brings them
to those of the model before it commits a channel; an observed channel is
committed without that. The two copies agree in every connected state of a run
exactly when no channel is observed while they differ.
-/
namespace PepeAudio

open Actor

variable {P S : Type}

structure AudioSettings where
  volume : Volume
  preset : Option HrirPresetId
  spatial : Bool
  deriving DecidableEq

namespace AudioSettings

/-- The settings of an adapter before its first call. -/
def initial : AudioSettings := ⟨Volume.DEFAULT, none, false⟩

/-- What a call leaves behind: a failed one nothing. Choosing a preset turns spatial audio on. -/
def apply (settings : AudioSettings) (record : CallRecord) : AudioSettings :=
  if record.succeeded then
    match record.call with
    | .setVolume volume => { settings with volume := volume }
    | .setHrir preset => { settings with preset := some preset, spatial := true }
    | .setSpatialAudio enabled => { settings with spatial := enabled }
    | _ => settings
  else settings

theorem apply_of_not_setting {settings : AudioSettings} {record : CallRecord}
    (h : record.call.isSetting = true → record.succeeded = false) :
    settings.apply record = settings := by
  obtain ⟨call, succeeded⟩ := record
  cases succeeded with
  | false => rfl
  | true => cases call <;> simp [PlaybackCall.isSetting, apply] at h ⊢

theorem foldl_of_not_setting {calls : List CallRecord} (settings : AudioSettings)
    (h : ∀ record ∈ calls, record.call.isSetting = true → record.succeeded = false) :
    calls.foldl apply settings = settings := by
  induction calls with
  | nil => rfl
  | cons record calls ih =>
    have hrecord := h record List.mem_cons_self
    rw [List.foldl_cons, apply_of_not_setting hrecord]
    exact ih fun record' hrecord' => h record' (List.mem_cons_of_mem _ hrecord')

/-- Only a call that chooses a preset gives the adapter one. -/
theorem foldl_preset {calls : List CallRecord} (settings : AudioSettings)
    (h : ∀ record ∈ calls, ∀ preset, record.call ≠ .setHrir preset) :
    (calls.foldl apply settings).preset = settings.preset := by
  induction calls generalizing settings with
  | nil => rfl
  | cons record calls ih =>
    have hrecord : (settings.apply record).preset = settings.preset := by
      have hcall := h record List.mem_cons_self
      unfold apply
      split
      · split <;> simp_all
      · rfl
    rw [List.foldl_cons, ih _ fun record' hrecord' => h record' (List.mem_cons_of_mem _ hrecord')]
    exact hrecord

end AudioSettings

/-- The settings the adapter has applied. -/
def Actor.applied (actor : Actor P S) : AudioSettings :=
  actor.calls.foldl AudioSettings.apply AudioSettings.initial

def PlayerModel.audioSettings (model : PlayerModel) : AudioSettings :=
  ⟨model.volume, model.hrirPreset, model.spatialAudioEnabled⟩

/-- What is heard is what is shown. -/
def Player.Synchronised (player : Player P S) : Prop :=
  player.actor.model.voiceChannelId.isSome = true →
    player.actor.applied = player.actor.model.audioSettings

instance (player : Player P S) : Decidable player.Synchronised := by
  unfold Player.Synchronised
  infer_instance

theorem Made.applied {a a' : Actor P S} {calls : List CallRecord} (h : Made a a' calls) :
    a'.applied = calls.foldl AudioSettings.apply a.applied := by
  unfold Actor.applied
  rw [h.calls, List.foldl_append]

/-- Initialising a connection brings any adapter to the settings of the model, except that a
preset is never taken away. -/
theorem foldl_initialCalls (model : PlayerModel) {settings : AudioSettings}
    (h : model.hrirPreset = none → settings.preset = none) :
    (initialCalls model).foldl AudioSettings.apply settings = model.audioSettings := by
  unfold initialCalls PlayerModel.audioSettings
  cases hpreset : model.hrirPreset with
  | none => simp [AudioSettings.apply, h hpreset]
  | some preset => simp [AudioSettings.apply]

theorem FirstPlayable.not_setting {candidates remaining : List QueueTrack}
    {calls : List CallRecord} {next : Option ActiveTrack}
    (h : FirstPlayable candidates calls next remaining) :
    ∀ record ∈ calls, record.call.isSetting = false := by
  induction h with
  | exhausted => simp
  | accepted => simp [PlaybackCall.isSetting]
  | refused track generation _ ih =>
    intro record hrecord
    rcases List.mem_cons.mp hrecord with rfl | hrecord
    · rfl
    · exact ih record hrecord
  | unnumbered _ _ ih => exact ih

theorem Succession.not_setting {capacity : ℕ} {mode : RepeatMode} {natural : Bool}
    {finished : QueueTrack} {queue history remaining history' : List QueueTrack}
    {calls : List CallRecord} {next : Option ActiveTrack}
    (h : Succession capacity mode natural finished queue history calls next remaining history') :
    ∀ record ∈ calls, record.call.isSetting = false := by
  cases h with
  | brokenOff _ hfirst => exact hfirst.not_setting
  | restarted => simp [PlaybackCall.isSetting]
  | restartRefused _ _ htried hfirst =>
    intro record hrecord
    rcases List.mem_append.mp hrecord with hrecord | hrecord
    · rcases htried with rfl | ⟨generation, rfl⟩
      · contradiction
      · rw [List.mem_singleton.mp hrecord]
        rfl
    · exact hfirst.not_setting record hrecord
  | cycled _ _ _ hfirst => exact hfirst.not_setting
  | wentOn _ _ hfirst => exact hfirst.not_setting

/-- The invariant of the two copies: they agree while connected, and the adapter has no preset
that the model has never had. -/
structure Tuned (model : PlayerModel) (applied : AudioSettings) : Prop where
  connected : model.voiceChannelId.isSome = true → applied = model.audioSettings
  preset : model.hrirPreset = none → applied.preset = none

theorem Tuned.congr {model model' : PlayerModel} {applied applied' : AudioSettings}
    (h : Tuned model applied)
    (hvoice : model'.voiceChannelId.isSome = true → model.voiceChannelId.isSome = true)
    (hsettings : model'.audioSettings = model.audioSettings) (happlied : applied' = applied) :
    Tuned model' applied' := by
  subst happlied
  have hpreset : model'.hrirPreset = model.hrirPreset := congrArg AudioSettings.preset hsettings
  refine ⟨fun hvoice' => ?_, fun hnone => h.preset (hpreset ▸ hnone)⟩
  rw [hsettings]
  exact h.connected (hvoice hvoice')

/-- One setting is changed: in the model always, in the adapter when it is connected. -/
theorem Tuned.set {model model' : PlayerModel} {applied : AudioSettings} {call : PlaybackCall}
    (h : Tuned model applied) (hvoice : model'.voiceChannelId = model.voiceChannelId)
    (hsettings : model'.audioSettings = model.audioSettings.apply ⟨call, true⟩)
    (hpreset : model'.hrirPreset = none →
      model.hrirPreset = none ∧ ∀ preset, call ≠ .setHrir preset) :
    Tuned model' ((whenConnected model call).foldl AudioSettings.apply applied) := by
  unfold whenConnected
  by_cases hconnected : model.voiceChannelId.isSome = true
  · rw [if_pos hconnected]
    refine ⟨fun _ => ?_, fun hnone => ?_⟩
    · rw [hsettings, List.foldl_cons, h.connected hconnected]
      rfl
    · obtain ⟨hbefore, hcall⟩ := hpreset hnone
      rw [AudioSettings.foldl_preset _ (by simpa using hcall)]
      exact h.preset hbefore
  · rw [if_neg hconnected]
    refine ⟨fun hvoice' => ?_, fun hnone => h.preset (hpreset hnone).1⟩
    rw [hvoice] at hvoice'
    contradiction

/-- A change keeps the copies tuned unless it commits an observed channel while they differ. -/
theorem Change.tuned {capacity : ℕ} {model model' : PlayerModel} {cause : Cause}
    {calls : List CallRecord} (h : Change capacity model cause calls model')
    {applied : AudioSettings} (htuned : Tuned model applied)
    (hobserved : ∀ channel, cause = .observed (some channel) → model.voiceChannelId = none →
      model'.voiceChannelId.isSome = true → applied = model.audioSettings) :
    Tuned model' (calls.foldl AudioSettings.apply applied) := by
  have hkept : ∀ {calls : List CallRecord}, (∀ record ∈ calls, record.call.isSetting = false) →
      calls.foldl AudioSettings.apply applied = applied := by
    intro calls hcalls
    refine AudioSettings.foldl_of_not_setting _ fun record hrecord hsetting => ?_
    rw [hcalls record hrecord] at hsetting
    contradiction
  have hnone : ∀ {call : PlaybackCall}, call.isSetting = false →
      ∀ record ∈ [(⟨call, true⟩ : CallRecord)], record.call.isSetting = false := by
    intro call hcall record hrecord
    rw [List.mem_singleton.mp hrecord]
    exact hcall
  cases h with
  | connected channel hvoice =>
    have hinitial := foldl_initialCalls model htuned.preset
    refine ⟨fun _ => hinitial, fun hpreset => ?_⟩
    rw [List.foldl_cons, AudioSettings.apply_of_not_setting (by simp [PlaybackCall.isSetting]),
      hinitial]
    exact hpreset
  | observed channel hvoice =>
    rw [hkept (hnone rfl)]
    refine ⟨fun hconnected => ?_, htuned.preset⟩
    by_cases hbefore : model.voiceChannelId = none
    · exact hobserved channel rfl hbefore hconnected
    · exact htuned.connected (Option.isSome_iff_ne_none.mpr hbefore)
  | left _ _ _ hcalls =>
    have hgone : ¬ (Actor.clearDisconnected model).voiceChannelId.isSome = true := by
      simp [Actor.clearDisconnected]
    refine htuned.congr (fun hvoice => absurd hvoice hgone) rfl (hkept fun record hrecord => ?_)
    have hvoice := hcalls record hrecord
    cases hcall : record.call <;> simp [hcall, PlaybackCall.isVoice, PlaybackCall.isSetting] at *
  | queued | removed | moved | repeatSet | shuffleSet => exact htuned.congr id rfl rfl
  | started | resumed | paused | skipped | skippedLast | wentBack | sought =>
    exact htuned.congr id rfl (hkept (hnone rfl))
  | stopped _ hcalls =>
    refine htuned.congr id rfl (hkept fun record hrecord => ?_)
    rw [hcalls record hrecord]
    rfl
  | ended active reason calls remaining history next hcurrent hnext =>
    exact htuned.congr id rfl (hkept hnext.not_setting)
  | volumeSet volume => exact htuned.set rfl rfl fun hnone => ⟨hnone, by simp⟩
  | hrirSet preset =>
    exact htuned.set rfl rfl fun hnone => absurd hnone (Option.some_ne_none preset)
  | spatialSet enabled => exact htuned.set rfl rfl fun hnone => ⟨hnone, by simp⟩

/-- A request that fails leaves the copies tuned: its settings took no effect, or were those of
the model and the connection is gone. -/
theorem Tentative.tuned {model : PlayerModel} {calls : List CallRecord}
    (h : Tentative model calls) {applied : AudioSettings} (htuned : Tuned model applied) :
    Tuned model (calls.foldl AudioSettings.apply applied) := by
  rcases h with hfailed | ⟨hvoice, hpreset⟩
  · rw [AudioSettings.foldl_of_not_setting _ hfailed]
    exact htuned
  · refine ⟨fun hconnected => ?_, fun hnone => ?_⟩
    · rw [hvoice] at hconnected
      contradiction
    · rw [AudioSettings.foldl_preset]
      · exact htuned.preset hnone
      · intro record hrecord preset hcall
        rw [hpreset record hrecord preset hcall] at hnone
        contradiction

variable [PlaybackPort P] [SnapshotPublisher S]

/-- The step commits an observed channel for a player that has left voice, while the adapter
still applies other settings than the model shows. -/
def Player.JoinsUntuned (player : Player P S) : Input → Prop
  | .request (.reconcileVoiceChannel (some channel)) =>
    player.status = .running ∧ player.actor.model.voiceChannelId = none ∧
      player.actor.model.revision.checkedNext.isSome = true ∧
      (PlaybackPort.call (.connect channel) player.actor.playback).1.isOk = true ∧
      player.actor.applied ≠ player.actor.model.audioSettings
  | _ => False

instance (player : Player P S) (input : Input) : Decidable (player.JoinsUntuned input) := by
  unfold Player.JoinsUntuned
  split <;> infer_instance

/-- Where an observed channel leads a player that has left voice. -/
def Observed (a : Actor P S) (channel : ChannelId) (a' : Actor P S) : Prop :=
  if (PlaybackPort.call (.connect channel) a.playback).1.isOk = true then
    a'.model.voiceChannelId = some channel ∧
      a'.model.audioSettings = a.model.audioSettings ∧ a'.applied = a.applied
  else a'.model.voiceChannelId = none

theorem ends_reconcileVoiceChannel {a : Actor P S} {channel : ChannelId} {next : StateRevision}
    (hvoice : a.model.voiceChannelId = none) (hnext : a.model.revision.checkedNext = some next) :
    Ends (reconcileVoiceChannel (some channel)) a (fun _ a' => Observed a channel a')
      (fun _ a' => Observed a channel a') := by
  have hfinish : ∀ a₁ : Actor P S, a₁.idleTimer = a.idleTimer → a₁.published = a.published →
      (∀ a' revision, a'.model = { a₁.model with revision := revision } → a'.calls = a₁.calls →
        Observed a channel a') →
      Ends (finishChange a.model.isIdleConnected next) a₁ (fun _ a' => Observed a channel a')
        (fun _ a' => Observed a channel a') := by
    intro a₁ htimer hpublished hdone
    have hcommit : ∀ {result : Except Failure PlayerSnapshot} (a' : Actor P S),
        Committed a.idleTimer a a' a₁.model result → a'.calls = a₁.calls →
          Observed a channel a' := by
      intro result a' hcommit hcalls
      obtain ⟨revision, -, hmodel⟩ := hcommit.revision
      exact hdone a' revision hmodel hcalls
    refine finishChange_ends hnext htimer hpublished ?_ ?_
    · intro snapshot a' h _ _ hcalls _
      exact hcommit a' h hcalls
    · intro failure a' h _ _ hcalls _
      exact hcommit a' h hcalls
  unfold reconcileVoiceChannel nextRevision
  simp only [ends_bind, ends_getModel, hvoice, hnext, reduceCtorEq, if_false, ends_pure]
  unfold connectObservedChannel background Actor.call
  simp only [ends_bind, ends_get, ends_set, ends_pure]
  cases hcall : (PlaybackPort.call (.connect channel) a.playback).1 with
  | ok _ =>
    refine hfinish _ rfl rfl fun a' revision hmodel hcalls => ?_
    have hok : (PlaybackPort.call (.connect channel) a.playback).1.isOk = true := by
      rw [hcall]
      rfl
    unfold Observed
    rw [if_pos hok, hmodel]
    refine ⟨rfl, rfl, ?_⟩
    unfold Actor.applied
    rw [hcalls, List.foldl_append]
    exact AudioSettings.foldl_of_not_setting _ (by simp [PlaybackCall.isSetting])
  | error message =>
    have hleft : ∀ a₁ : Actor P S, a₁.idleTimer = a.idleTimer → a₁.published = a.published →
        Ends (do modifyModel clearDisconnected; finishChange a.model.isIdleConnected next) a₁
          (fun _ a' => Observed a channel a') (fun _ a' => Observed a channel a') := by
      intro a₁ htimer hpublished
      refine hfinish _ htimer hpublished fun a' revision hmodel _ => ?_
      have herror : ¬ (PlaybackPort.call (.connect channel) a.playback).1.isOk = true := by
        rw [hcall]
        exact Bool.false_ne_true
      unfold Observed
      rw [if_neg herror, hmodel]
      rfl
    dsimp only
    rw [ends_bind, ends_send, ends_pure, if_neg Bool.false_ne_true, ends_bind]
    unfold disconnectBestEffort
    rw [ends_bind]
    refine ends_background _ _ (fun playback => ?_) fun playback message => ?_
    · exact hleft _ rfl rfl
    · exact hleft _ rfl rfl

theorem Player.step_observed {player : Player P S} (channel : ChannelId)
    (hrunning : player.status = .running) (hvoice : player.actor.model.voiceChannelId = none)
    (hnext : player.actor.model.revision.checkedNext.isSome = true) :
    Observed player.actor channel
      (player.step (.request (.reconcileVoiceChannel (some channel)))).2.actor := by
  obtain ⟨next, hnext⟩ := Option.isSome_iff_exists.mp hnext
  exact Player.step_handled hrunning rfl (ends_reconcileVoiceChannel hvoice hnext)

/-- A step that joins untuned leaves the copies apart. -/
theorem Player.JoinsUntuned.apart {player : Player P S} {input : Input}
    (h : player.JoinsUntuned input) : ¬ (player.step input).2.Synchronised := by
  unfold Player.JoinsUntuned at h
  split at h
  · next channel =>
    obtain ⟨hrunning, hvoice, hnext, hok, hdiffer⟩ := h
    have hobserved := Player.step_observed channel hrunning hvoice hnext
    unfold Observed at hobserved
    rw [if_pos hok] at hobserved
    obtain ⟨hjoined, hsettings, happlied⟩ := hobserved
    intro hsynchronised
    have hsame := hsynchronised (by rw [hjoined]; rfl)
    rw [happlied, hsettings] at hsame
    exact hdiffer hsame
  · contradiction

/-- A step that does not join untuned keeps the copies tuned. -/
theorem Player.Sound.tuned {config : PlayerConfig} {player player' : Player P S}
    {label : Input × Reply} (h : player.Sound config)
    (hstep : Follows Player.step player label player') (hjoins : ¬ player.JoinsUntuned label.1)
    (htuned : Tuned player.actor.model player.actor.applied) :
    Tuned player'.actor.model player'.actor.applied := by
  by_cases hrunning : player.status = .running
  · have hturned := Player.step_turned hrunning h.coherent label.1
    rw [show player.step label.1 = (label.2, player') from hstep] at hturned
    cases hturned.moved with
    | kept hmodel hmade htentative =>
      rw [hmodel, hmade.applied]
      exact htentative.tuned htuned
    | @changed cause calls model next hasks hmade hchange hnext hmodel =>
      have hobserved : ∀ channel, cause = .observed (some channel) →
          player.actor.model.voiceChannelId = none → model.voiceChannelId.isSome = true →
          player.actor.applied = player.actor.model.audioSettings := by
        rintro channel rfl hvoice hjoined
        by_contra hdiffer
        have hinput := hasks.observed
        have hsome : player.actor.model.revision.checkedNext.isSome = true := by
          rw [hnext]
          rfl
        have hafter := Player.step_observed channel hrunning hvoice hsome
        rw [← hinput, show player.step label.1 = (label.2, player') from hstep] at hafter
        unfold Observed at hafter
        split at hafter
        · rename_i hok
          rw [hinput] at hjoins
          exact hjoins ⟨hrunning, hvoice, hsome, hok, hdiffer⟩
        · rw [hmodel] at hafter
          have hleft : model.voiceChannelId = none := hafter
          rw [hleft] at hjoined
          contradiction
      rw [hmade.applied, hmodel]
      exact (hchange.tuned htuned hobserved).congr id rfl rfl
  · have hended := Player.step_ended hrunning label.1
    rw [show player.step label.1 = (label.2, player') from hstep] at hended
    rw [(Prod.mk.inj hended).2]
    exact htuned

variable {setup : PlayerSetup P S} {taken : List (Taken (Player P S) (Input × Reply))}
  {player : Player P S}

omit [PlaybackPort P] in
theorem PlayerSetup.player_tuned (setup : PlayerSetup P S) :
    Tuned setup.player.actor.model setup.player.actor.applied := by
  obtain ⟨publisher, events, hplayer⟩ := setup.player_eq
  rw [hplayer]
  constructor
  · intro hvoice
    contradiction
  · intro hpreset
    rfl

/-- The adapter's settings are those of the model in every connected state of a run exactly when
no step of the run commits an observed channel while they differ. -/
theorem synchronised_iff (run : setup.Runs taken player) :
    Run.Throughout Player.Synchronised taken player ↔
      ∀ t ∈ taken, ¬ t.before.JoinsUntuned t.label.1 := by
  refine run.throughout_iff (J := fun player => Tuned player.actor.model player.actor.applied)
    setup.player_tuned ?_ ?_ ?_
  · intro taken s run htuned
    exact htuned.connected
  · intro taken s l s' run htuned hstep hjoins
    exact (PlayerSetup.Runs.sound run).tuned hstep hjoins htuned
  · intro taken s l s' run hstep hsynchronised hjoins
    have hapart := hjoins.apart
    rw [show s.step l.1 = (l.2, s') from hstep] at hapart
    exact hapart hsynchronised

/-- A volume chosen while connected survives an observed absence from the channel. -/
def movedAway : List Input :=
  [.request (.connect ⟨.MIN⟩ ⟨0⟩),
    .request (.apply (.scripted 1 1 (.setVolume .half))),
    .request (.reconcileVoiceChannel none),
    .request (.reconcileVoiceChannel (some ⟨.MIN⟩))]

theorem synchronised_of_movedAway :
    (PlayerSetup.after [] movedAway).Synchronised ∧
      (PlayerSetup.after [] movedAway).actor.model.voiceChannelId = some ⟨1, by decide⟩ :=
  have run := run_record Player.step (PlayerSetup.scripted []).player movedAway
  ⟨((synchronised_iff run).mpr (by decide +kernel)).2, by decide +kernel⟩

/-- A volume chosen before any connection, and a channel the player is then found in. -/
def foundInChannel : List Input :=
  [.request (.apply (.scripted 1 0 (.setVolume .half))),
    .request (.reconcileVoiceChannel (some ⟨.MIN⟩))]

/-- The adapter still plays at its default volume. -/
theorem not_synchronised_of_foundInChannel :
    ¬ ∀ taken player, (PlayerSetup.scripted []).Runs taken player → player.Synchronised := by
  intro h
  have hrun := run_record Player.step (PlayerSetup.scripted []).player foundInChannel
  exact absurd (h _ _ hrun) (by decide +kernel)

end PepeAudio
