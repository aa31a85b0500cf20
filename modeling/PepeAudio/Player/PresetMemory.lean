import PepeAudio.Player.PublicShape

/-!
# The preset a player remembers

Only the adapter knows which presets it can load. A connected player asks it
before it remembers a preset; a disconnected one remembers whatever it is told
and hands it to the adapter with the next connection. Every remembered preset
can be loaded exactly when no unloadable one is stored in that way, and then no
connection fails because of it.
-/
namespace PepeAudio

open Actor

variable {P S : Type}

section Calls

variable [PlaybackPort P] {a : Actor P S} {effect : SideEffect} {operation : PlaybackCall}
  {ok : Unit → Actor P S → Prop} {err : Failure → Actor P S → Prop}

theorem ends_sideEffect_accepted
    (haccepts : (PlaybackPort.call operation a.playback).1.isOk = true) :
    Ends (sideEffect effect operation) a ok err ↔
      ok () (called a (PlaybackPort.call operation a.playback).2 ⟨operation, true⟩) := by
  unfold sideEffect Actor.call
  simp only [ends_bind, ends_get, ends_set, ends_pure, haccepts]
  cases hcall : (PlaybackPort.call operation a.playback).1 with
  | ok _ => rfl
  | error message =>
    rw [hcall] at haccepts
    contradiction

theorem ends_sideEffect_refused
    (hrefuses : (PlaybackPort.call operation a.playback).1.isOk = false)
    (h : ∀ failure, err failure
      (called a (PlaybackPort.call operation a.playback).2 ⟨operation, false⟩)) :
    Ends (sideEffect effect operation) a ok err := by
  unfold sideEffect Actor.call
  simp only [ends_bind, ends_get, ends_set, ends_pure, hrefuses]
  cases hcall : (PlaybackPort.call operation a.playback).1 with
  | ok _ =>
    rw [hcall] at hrefuses
    contradiction
  | error message => exact h _

end Calls

/-- The adapter loads these presets and no others, at any time. -/
def LoadsExactly (P : Type) [PlaybackPort P] (loadable : HrirPresetId → Prop) : Prop :=
  ∀ preset (playback : P),
    (PlaybackPort.call (.setHrir preset) playback).1.isOk = true ↔ loadable preset

/-- The player stores the preset when it carries out the choice of it. -/
def PlayerModel.Stores (loadable : HrirPresetId → Prop) (model : PlayerModel)
    (preset : HrirPresetId) : Prop :=
  model.revision.checkedNext.isSome = true ∧ (model.voiceChannelId = none ∨ loadable preset)

variable {loadable : HrirPresetId → Prop}

/-- What is remembered after `preset` was chosen. -/
def Chosen (loadable : HrirPresetId → Prop) (before : PlayerModel) (preset : HrirPresetId)
    (after : PlayerModel) : Prop :=
  (before.Stores loadable preset → after.hrirPreset = some preset) ∧
    (¬ before.Stores loadable preset → after.hrirPreset = before.hrirPreset)

section Choosing

variable [PlaybackPort P] [SnapshotPublisher S] {a : Actor P S}

theorem ends_setHrir (hloads : LoadsExactly P loadable) (preset : HrirPresetId) :
    Ends (setHrir preset) a (fun _ a' => Chosen loadable a.model preset a'.model)
      (fun _ a' => Chosen loadable a.model preset a'.model) := by
  have hstored : ∀ (next : StateRevision) (a' : Actor P S),
      a.model.revision.checkedNext = some next → a'.idleTimer = a.idleTimer →
      a'.published = a.published → a.model.Stores loadable preset →
      Ends (do
        modifyModel fun model =>
          { model with hrirPreset := some preset, spatialAudioEnabled := true }
        finishChange a.model.isIdleConnected next) a'
        (fun _ a' => Chosen loadable a.model preset a'.model)
        (fun _ a' => Chosen loadable a.model preset a'.model) := by
    intro next a' hnext htimer hpublished hstores
    have hcommit : ∀ {result : Except Failure PlayerSnapshot} {model : PlayerModel}
        (a'' : Actor P S), Committed a.idleTimer a a'' model result →
        model.hrirPreset = some preset → Chosen loadable a.model preset a''.model := by
      intro result model a'' hcommit hpreset
      obtain ⟨revision, -, hmodel⟩ := hcommit.revision
      refine ⟨fun _ => ?_, fun hkeeps => absurd hstores hkeeps⟩
      rw [hmodel]
      exact hpreset
    rw [ends_bind, ends_modifyModel]
    exact finishChange_ends hnext htimer hpublished (fun _ a'' h _ _ _ _ => hcommit a'' h rfl)
      fun _ a'' h _ _ _ _ => hcommit a'' h rfl
  unfold setHrir
  rw [ends_bind, ends_getModel]
  dsimp only
  rw [ends_ite]
  split
  · rename_i hsame
    simp only [Bool.and_eq_true, decide_eq_true_eq] at hsame
    exact ⟨fun _ => hsame.1, fun _ => rfl⟩
  rw [ends_bind]
  refine ends_nextRevision (fun next hnext => ?_) fun hnone => ?_
  · have hrevision : a.model.revision.checkedNext.isSome = true := by rw [hnext]; rfl
    by_cases hvoice : a.model.voiceChannelId.isSome = true
    · rw [if_pos hvoice, ends_bind]
      have hconnected := Option.isSome_iff_ne_none.mp hvoice
      cases haccepts : (PlaybackPort.call (.setHrir preset) a.playback).1.isOk with
      | true =>
        rw [ends_sideEffect_accepted haccepts]
        exact hstored next _ hnext rfl rfl ⟨hrevision, Or.inr ((hloads _ _).mp haccepts)⟩
      | false =>
        have hunloadable : ¬ loadable preset := by
          rw [← hloads preset a.playback, haccepts]
          exact Bool.false_ne_true
        refine ends_sideEffect_refused haccepts fun failure => ⟨fun hstores => ?_, fun _ => rfl⟩
        rcases hstores.2 with hleft | hloadable
        · exact absurd hleft hconnected
        · exact absurd hloadable hunloadable
    · rw [if_neg hvoice]
      have hleft : a.model.voiceChannelId = none := by simpa using hvoice
      exact hstored next a hnext rfl rfl ⟨hrevision, Or.inl hleft⟩
  · refine ⟨fun hstores => ?_, fun _ => rfl⟩
    rw [PlayerModel.Stores, hnone] at hstores
    exact absurd hstores.1 Bool.false_ne_true

theorem Player.step_setHrir {player : Player P S} {envelope : CommandEnvelope}
    {preset : HrirPresetId} (hloads : LoadsExactly P loadable) (hrunning : player.status = .running)
    (hcommand : envelope.command = .setHrir preset) :
    (player.actor.Takes envelope →
      Chosen loadable player.actor.model preset
        (player.step (.request (.apply envelope))).2.actor.model) ∧
    (¬ player.actor.Takes envelope →
      (player.step (.request (.apply envelope))).2.actor.model.hrirPreset =
        player.actor.model.hrirPreset) := by
  refine Player.step_handled (Q := fun a' =>
    (player.actor.Takes envelope → Chosen loadable player.actor.model preset a'.model) ∧
    (¬ player.actor.Takes envelope → a'.model.hrirPreset = player.actor.model.hrirPreset))
    hrunning rfl ?_
  refine ends_applyCommand_model (Q := fun model =>
    (player.actor.Takes envelope → Chosen loadable player.actor.model preset model) ∧
    (¬ player.actor.Takes envelope → model.hrirPreset = player.actor.model.hrirPreset)) ?_ ?_
  · exact fun hignored => ⟨fun htakes => absurd htakes hignored, fun _ => rfl⟩
  · intro htakes
    rw [hcommand]
    refine (ends_setHrir (a := { player.actor with clock := player.actor.clock.tail.tail })
      hloads preset).imp ?_ ?_
    · exact fun _ a' h => ⟨fun _ => h, fun hignored => absurd htakes hignored⟩
    · exact fun _ a' h => ⟨fun _ => h, fun hignored => absurd htakes hignored⟩

end Choosing

/-- Nothing but the choice of a preset changes the one that is remembered. -/
theorem Change.hrirPreset {capacity : ℕ} {model model' : PlayerModel} {cause : Cause}
    {calls : List CallRecord} (h : Change capacity model cause calls model') :
    model'.hrirPreset = model.hrirPreset ∨ ∃ preset, cause = .command (.setHrir preset) := by
  cases h with
  | hrirSet preset => exact Or.inr ⟨preset, rfl⟩
  | connected | observed | left | queued | started | removed | moved => exact Or.inl rfl
  | resumed | paused | stopped | skipped | skippedLast | wentBack | sought => exact Or.inl rfl
  | volumeSet | repeatSet | shuffleSet | spatialSet | ended => exact Or.inl rfl

section Connecting

variable [PlaybackPort P]

/-- The adapter after the volume and the preset of the model were handed to it. -/
def presented (model : PlayerModel) (playback : P) : P :=
  let tuned := (PlaybackPort.call (.setVolume model.volume) playback).2
  match model.hrirPreset with
  | some preset => (PlaybackPort.call (.setHrir preset) tuned).2
  | none => tuned

/-- The adapter takes the volume and, whatever it says to the preset, the spatial setting. -/
structure TakesSettings (model : PlayerModel) (playback : P) : Prop where
  volume : (PlaybackPort.call (.setVolume model.volume) playback).1.isOk = true
  spatial : (PlaybackPort.call (.setSpatialAudio model.spatialAudioEnabled)
    (presented model playback)).1.isOk = true

instance (model : PlayerModel) (playback : P) : Decidable (TakesSettings model playback) :=
  decidable_of_iff (_ ∧ _) ⟨fun h => ⟨h.1, h.2⟩, fun h => ⟨h.volume, h.spatial⟩⟩

variable {a : Actor P S}

theorem ends_initializeConnection_accepted {ok : Unit → Actor P S → Prop}
    {err : Failure → Actor P S → Prop} (hloads : LoadsExactly P loadable)
    (htakes : TakesSettings a.model a.playback)
    (hloadable : ∀ preset ∈ a.model.hrirPreset, loadable preset)
    (hok : ∀ playback calls, ok () { a with playback := playback, calls := calls }) :
    Ends initializeConnection a ok err := by
  have hspatial := htakes.spatial
  unfold presented at hspatial
  unfold initializeConnection
  rw [ends_bind, ends_getModel, ends_bind, ends_sideEffect_accepted htakes.volume]
  cases hpreset : a.model.hrirPreset with
  | none =>
    rw [hpreset] at hspatial
    dsimp only
    rw [ends_sideEffect_accepted hspatial]
    exact hok _ _
  | some preset =>
    have hloaded := hloads preset (PlaybackPort.call (.setVolume a.model.volume) a.playback).2
    rw [hpreset] at hspatial
    dsimp only
    rw [ends_bind, ends_sideEffect_accepted (hloaded.mpr (hloadable preset hpreset)),
      ends_sideEffect_accepted hspatial]
    exact hok _ _

variable [SnapshotPublisher S]

theorem ends_connect_accepted {channel : ChannelId} (hloads : LoadsExactly P loadable)
    (hvoice : a.model.voiceChannelId = none)
    (hrevision : a.model.revision.checkedNext.isSome = true)
    (hidle : a.idleTimer.generation.next.isSome = true)
    (hjoins : (PlaybackPort.call (.connect channel) a.playback).1.isOk = true)
    (htakes : TakesSettings a.model (PlaybackPort.call (.connect channel) a.playback).2)
    (hloadable : ∀ preset ∈ a.model.hrirPreset, loadable preset) :
    Ends (connect channel a.model.revision) a (fun _ _ => True) (fun _ _ => False) := by
  unfold connect checkRevision
  simp only [ends_bind, ends_getModel, if_true, ends_pure, hvoice]
  refine ends_nextRevision (fun next hnext => ?_) fun hnone => ?_
  · rw [ends_sideEffect_accepted hjoins]
    refine ends_attempt (ends_initializeConnection_accepted hloads htakes hloadable
      fun playback calls => ?_)
    dsimp only
    rw [ends_bind, ends_getModel, ends_bind, ends_modifyModel]
    refine finishChange_ends hnext rfl rfl (fun _ _ _ _ _ _ _ => trivial) ?_
    intro failure a' hcommit _ _ _ _
    rcases hcommit.result with ⟨-, reading, hresult, -⟩ | ⟨⟨error, hfailed, -⟩, -⟩
    · contradiction
    · have hboth : Except.error error = Except.ok () :=
        hfailed.symm.trans (IdleTimer.reconciled_ok hidle)
      contradiction
  · rw [hnone] at hrevision
    contradiction

/-- A request whose handler cannot fail is answered with a snapshot. -/
theorem Player.step_answered {player : Player P S} {request : PlayerRequest}
    {handler : ActorM P S PlayerSnapshot} (hrunning : player.status = .running)
    (hrequest : handleRequest request = do return (← reply handler, false))
    (h : Ends handler player.actor (fun _ _ => True) (fun _ _ => False)) :
    ∃ snapshot, (player.step (.request request)).1 = .mutation (.ok snapshot) := by
  have hturn : Ends (turn (.request request)) player.actor
      (fun answer _ => ∃ snapshot, answer.1 = .mutation (.ok snapshot)) (fun _ _ => False) := by
    show Ends (handleRequest request) player.actor _ _
    rw [hrequest, ends_bind]
    unfold reply
    rw [ends_bind]
    refine ends_attempt (h.imp (fun snapshot _ _ => ⟨snapshot, rfl⟩) fun _ _ h => h.elim)
  unfold Player.step
  rw [hrunning]
  dsimp only
  cases hresult : turn (.request request) player.actor with
  | ok answer a' => exact hturn.of_ok hresult
  | error failure a' => exact (hturn.of_error hresult).elim

end Connecting

section Runs

/-- The remembered preset, if any, can be loaded. -/
def Player.RemembersLoadable (loadable : HrirPresetId → Prop) (player : Player P S) : Prop :=
  ∀ preset ∈ player.actor.model.hrirPreset, loadable preset

variable [PlaybackPort P]

/-- While it is disconnected, the player connects whenever the adapter joins the channel and takes
the volume and the spatial setting. -/
def Player.Connects [SnapshotPublisher S] (player : Player P S) : Prop :=
  ∀ channel, player.status = .running → player.actor.model.voiceChannelId = none →
    player.actor.model.revision.checkedNext.isSome = true →
    player.actor.idleTimer.generation.next.isSome = true →
    (PlaybackPort.call (.connect channel) player.actor.playback).1.isOk = true →
    TakesSettings player.actor.model
      (PlaybackPort.call (.connect channel) player.actor.playback).2 →
    ∃ snapshot, (player.step (.request (.connect channel player.actor.model.revision))).1 =
      .mutation (.ok snapshot)

/-- The step stores a preset that cannot be loaded, because nobody is asked while the player is
disconnected. -/
def Player.StoresUnloadable (loadable : HrirPresetId → Prop) (player : Player P S) : Input → Prop
  | .request (.apply envelope) =>
    match envelope.command with
    | .setHrir preset =>
      player.status = .running ∧ player.actor.Takes envelope ∧
        player.actor.model.voiceChannelId = none ∧
        player.actor.model.revision.checkedNext.isSome = true ∧ ¬ loadable preset
    | _ => False
  | _ => False

instance (loadable : HrirPresetId → Prop) [DecidablePred loadable] (player : Player P S)
    (input : Input) : Decidable (player.StoresUnloadable loadable input) := by
  unfold Player.StoresUnloadable
  cases input with
  | request request =>
    cases request with
    | apply envelope =>
      dsimp only
      split <;> infer_instance
    | _ => exact instDecidableFalse
  | _ => exact instDecidableFalse

variable [SnapshotPublisher S] {loadable : HrirPresetId → Prop}

theorem Player.StoresUnloadable.leaves {player : Player P S} {input : Input}
    (hloads : LoadsExactly P loadable) (h : player.StoresUnloadable loadable input) :
    ¬ (player.step input).2.RemembersLoadable loadable := by
  unfold Player.StoresUnloadable at h
  split at h
  · next envelope =>
    split at h
    · next preset hcommand =>
      obtain ⟨hrunning, htakes, hvoice, hrevision, hunloadable⟩ := h
      have hchosen := (Player.step_setHrir hloads hrunning hcommand).1 htakes
      intro hremembers
      exact hunloadable (hremembers preset (hchosen.1 ⟨hrevision, Or.inl hvoice⟩))
    · contradiction
  · contradiction

theorem Player.Sound.remembersLoadable {config : PlayerConfig} {player player' : Player P S}
    {label : Input × Reply} (hsound : player.Sound config) (hloads : LoadsExactly P loadable)
    (hstep : Follows Player.step player label player')
    (hkeeps : ¬ player.StoresUnloadable loadable label.1)
    (h : player.RemembersLoadable loadable) : player'.RemembersLoadable loadable := by
  have hsame : player'.actor.model.hrirPreset = player.actor.model.hrirPreset →
      player'.RemembersLoadable loadable := by
    intro hpreset preset hmem
    exact h preset (hpreset ▸ hmem)
  by_cases hrunning : player.status = .running
  · have hturned := Player.step_turned hrunning hsound.coherent label.1
    rw [show player.step label.1 = (label.2, player') from hstep] at hturned
    cases hturned.moved with
    | kept hmodel => exact hsame (by rw [hmodel])
    | changed next hasks _ hchange _ hmodel =>
      rcases hchange.hrirPreset with hpreset | ⟨preset, rfl⟩
      · exact hsame (by rw [hmodel]; exact hpreset)
      · obtain ⟨envelope, hinput, hcommand, -⟩ := hasks.command
        have hchosen := Player.step_setHrir hloads hrunning hcommand
        rw [← hinput, show player.step label.1 = (label.2, player') from hstep] at hchosen
        by_cases htakes : player.actor.Takes envelope
        · by_cases hstores : player.actor.model.Stores loadable preset
          · -- the adapter was asked, or the step is one of those that are excluded
            have hloadable : loadable preset := by
              rcases hstores.2 with hvoice | hloadable
              · by_contra hunloadable
                unfold Player.StoresUnloadable at hkeeps
                simp only [hinput, hcommand] at hkeeps
                exact hkeeps ⟨hrunning, htakes, hvoice, hstores.1, hunloadable⟩
              · exact hloadable
            intro other hother
            rw [(hchosen.1 htakes).1 hstores] at hother
            exact Option.some.inj hother ▸ hloadable
          · exact hsame ((hchosen.1 htakes).2 hstores)
        · exact hsame (hchosen.2 htakes)
  · have hended := Player.step_ended hrunning label.1
    rw [show player.step label.1 = (label.2, player') from hstep] at hended
    rw [(Prod.mk.inj hended).2]
    exact h

theorem Player.RemembersLoadable.connects {player : Player P S} (hloads : LoadsExactly P loadable)
    (h : player.RemembersLoadable loadable) : player.Connects := by
  intro channel hrunning hvoice hrevision hidle hjoins htakes
  exact Player.step_answered hrunning rfl
    (ends_connect_accepted hloads hvoice hrevision hidle hjoins htakes h)

/-- Every state of a run remembers only presets the adapter can load, and connects when nothing
but the preset could prevent it, exactly when no step of the run stores an unloadable preset while
the player is disconnected. -/
theorem preset_memory_iff {setup : PlayerSetup P S} (hloads : LoadsExactly P loadable)
    {taken : List (Taken (Player P S) (Input × Reply))} {player : Player P S}
    (run : setup.Runs taken player) :
    Run.Throughout (fun player => player.RemembersLoadable loadable ∧ player.Connects) taken
        player ↔
      ∀ t ∈ taken, ¬ t.before.StoresUnloadable loadable t.label.1 := by
  refine run.throughout_iff (J := fun player => player.RemembersLoadable loadable) ?_ ?_ ?_ ?_
  · obtain ⟨publisher, events, hplayer⟩ := setup.player_eq
    rw [hplayer]
    intro preset hnone
    contradiction
  · intro taken s run hremembers
    exact ⟨hremembers, hremembers.connects hloads⟩
  · intro taken s l s' run hremembers hstep hkeeps
    exact (PlayerSetup.Runs.sound run).remembersLoadable hloads hstep hkeeps hremembers
  · intro taken s l s' run hstep hremembers hstores
    have hleaves := hstores.leaves hloads
    rw [show s.step l.1 = (l.2, s') from hstep] at hleaves
    exact hleaves hremembers.1

end Runs

/-- An adapter that accepts everything and has a single preset. -/
structure OnePreset where
  chosen : Bool
  deriving DecidableEq, Repr

def HrirPresetId.default : HrirPresetId := ⟨"default", by decide⟩

instance : PlaybackPort OnePreset where
  call
    | .setHrir preset, playback =>
      if preset = HrirPresetId.default then (.ok (), ⟨true⟩)
      else (.error "HRIR not found", playback)
    | _, playback => (.ok (), playback)

theorem onePreset_loads : LoadsExactly OnePreset fun preset => preset = HrirPresetId.default := by
  intro preset playback
  show (if preset = HrirPresetId.default then _ else _ : Except String Unit × OnePreset).1.isOk =
    true ↔ _
  split <;> simp_all [Except.isOk, Except.toBool]

/-- A player of guild 1 whose adapter has one preset. -/
def PlayerSetup.onePreset : PlayerSetup OnePreset Unit where
  guildId := ⟨.MIN⟩
  initialRevision := StateRevision.INITIAL
  playback := ⟨false⟩
  publisher := ()
  config := tenTracks
  clock := fun n => ⟨⟨n.toUInt64⟩, n⟩

/-- The preset is chosen before the first connection. -/
def chosenFirst (preset : HrirPresetId) : List Input :=
  [.request (.apply (.scripted 1 0 (.setHrir preset)))]

/-- A player that was told to use the preset before the first connection. -/
def preselected (preset : HrirPresetId) : Player OnePreset Unit :=
  (record Player.step PlayerSetup.onePreset.player (chosenFirst preset)).2

theorem preset_memory_default :
    (preselected HrirPresetId.default).actor.model.hrirPreset = some HrirPresetId.default ∧
      (preselected HrirPresetId.default).Connects := by
  have hkeeps : ∀ t ∈ (record Player.step PlayerSetup.onePreset.player
      (chosenFirst HrirPresetId.default)).1,
      ¬ t.before.StoresUnloadable (fun preset => preset = HrirPresetId.default) t.label.1 := by
    decide +kernel
  have run := run_record Player.step PlayerSetup.onePreset.player
    (chosenFirst HrirPresetId.default)
  exact ⟨by decide +kernel, ((preset_memory_iff onePreset_loads run).mpr hkeeps).2.2⟩

/-- A preset the adapter does not have. -/
def HrirPresetId.missing : HrirPresetId := ⟨"missing", by decide⟩

/-- A preset that cannot be loaded is remembered, and no connection succeeds any more. -/
theorem preset_memory_missing :
    ¬ ∀ (P S : Type) [PlaybackPort P] [SnapshotPublisher S] (loadable : HrirPresetId → Prop)
      (setup : PlayerSetup P S) (taken : List (Taken (Player P S) (Input × Reply)))
      (player : Player P S), LoadsExactly P loadable → setup.Runs taken player →
      player.RemembersLoadable loadable ∨ player.Connects := by
  intro h
  have run := run_record Player.step PlayerSetup.onePreset.player
    (chosenFirst HrirPresetId.missing)
  rcases h OnePreset Unit (fun preset => preset = HrirPresetId.default) PlayerSetup.onePreset _
    (preselected HrirPresetId.missing) onePreset_loads run with hremembers | hconnects
  · have hmissing : (preselected HrirPresetId.missing).actor.model.hrirPreset =
        some HrirPresetId.missing := by decide +kernel
    exact absurd (hremembers _ hmissing) (by decide)
  · obtain ⟨snapshot, hreply⟩ := hconnects ⟨1, by decide⟩ (by decide +kernel) (by decide +kernel)
      (by decide +kernel) (by decide +kernel) (by decide +kernel) (by decide +kernel)
    have hrefused : ((preselected HrirPresetId.missing).step (.request (.connect ⟨1, by decide⟩
        (preselected HrirPresetId.missing).actor.model.revision))).1 =
          .mutation (.error (.sideEffect .setHrir "HRIR not found")) := by decide +kernel
    rw [hrefused] at hreply
    simp at hreply

end PepeAudio
