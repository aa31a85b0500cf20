import PepeAudio.Player.Coherence
import PepeAudio.Player.Conformance.Queue

/-!
# Outcomes of the player commands
-/
namespace PepeAudio

open Actor

variable {P S : Type}

theorem queueAfterPrevious_length (model : PlayerModel) (previous : QueueTrack) :
    (queueAfterPrevious model previous).length =
      model.queue.length - (queuePosition model.queue previous.trackId).isSome.toNat +
        model.current.isSome.toNat := by
  unfold queueAfterPrevious
  cases hposition : queuePosition model.queue previous.trackId with
  | none => cases model.current <;> simp
  | some index =>
    have hlength := List.length_eraseIdx_of_lt (queuePosition_lt hposition)
    cases model.current <;> simp [hlength]

section Handlers

variable [SnapshotPublisher S] {a : Actor P S}

theorem conforms_setRepeat (mode : RepeatMode) :
    Conforms a (.command (.setRepeat mode)) (setRepeat mode) := by
  unfold setRepeat Conforms
  rw [continues_getModel]
  split_ifs with hsame
  · exact conforms_currentSnapshot a
  · refine conforms_nextRevision fun next hnext => ?_
    exact ((Underway.refl a).touch _ _ _).finished hnext (.repeatSet mode)

theorem conforms_setShuffle (enabled : Bool) (idempotencyKey : Uuid) :
    Conforms a (.command (.setShuffle enabled)) (setShuffle enabled idempotencyKey) := by
  unfold setShuffle Conforms
  rw [continues_getModel]
  split_ifs with hsame henabled
  · exact conforms_currentSnapshot a
  · refine conforms_nextRevision fun next hnext => ?_
    refine ((Underway.refl a).touch _ _ _).finished hnext (.shuffleSet enabled _ ?_)
    exact shuffleQueue_perm _ _
  · refine conforms_nextRevision fun next hnext => ?_
    exact ((Underway.refl a).touch _ _ _).finished hnext (.shuffleSet enabled _ (List.Perm.refl _))

variable [PlaybackPort P]

theorem conforms_resume {active : ActiveTrack} (hcurrent : a.model.current = some active) :
    Conforms a (.command .play) resume := by
  refine conforms_nextRevision fun next hnext => ?_
  refine conforms_sideEffect _ _ rfl fun playback hunder => ?_
  rw [continues_getModel]
  simp only [called, hcurrent, continues_readClock, continues_modifyModel]
  exact (hunder.touch _ _ _).finished hnext (.resumed active _ hcurrent)

theorem conforms_pause {active : ActiveTrack} (hcurrent : a.model.current = some active) :
    Conforms a (.command .pause) pause := by
  refine conforms_nextRevision fun next hnext => ?_
  refine conforms_sideEffect _ _ rfl fun playback hunder => ?_
  rw [continues_getModel]
  simp only [called, hcurrent, continues_readClock, continues_modifyModel]
  exact (hunder.touch _ _ _).finished hnext (.paused active _ hcurrent)

theorem conforms_seek {active : ActiveTrack} (hcurrent : a.model.current = some active)
    (positionMs : UInt64) : Conforms a (.command (.seek positionMs)) (seek positionMs) := by
  refine conforms_nextRevision fun next hnext => ?_
  refine conforms_started _ (.seek positionMs) (fun _ => rfl)
    fun generation playback hunder => ?_
  rw [continues_getModel]
  simp only [called, hcurrent, continues_readClock, continues_modifyModel]
  exact (hunder.touch _ _ _).finished hnext (.sought active _ _ _ _ hcurrent)

theorem conforms_stop (hvoice : a.model.state ≠ .disconnected) :
    Conforms a (.command .stop) stop := by
  unfold stop Conforms
  rw [continues_getModel]
  split_ifs with hempty hcurrent
  · exact conforms_currentSnapshot a
  · refine conforms_nextRevision fun next hnext => ?_
    refine conforms_sideEffect _ _ rfl fun playback hunder => ?_
    exact (hunder.touch _ _ _).finished hnext (.stopped _ (by simp) hvoice)
  · refine conforms_nextRevision fun next hnext => ?_
    exact ((Underway.refl a).touch _ _ _).finished hnext (.stopped _ (by simp) hvoice)

theorem conforms_skip {active : ActiveTrack} (hcurrent : a.model.current = some active) :
    Conforms a (.command .skip) skip := by
  refine conforms_nextRevision fun next hnext => ?_
  unfold Conforms
  rw [continues_getModel]
  cases hqueue : a.model.queue with
  | cons replacement queue =>
    refine conforms_started _ (.play replacement) (fun _ => rfl)
      fun generation playback hunder => ?_
    simp only [called, continues_getModel, hcurrent, continues_rememberTrack, continues_readClock,
      continues_modifyModel]
    exact (hunder.touch _ _ _).finished hnext (.skipped active _ _ _ _ hcurrent hqueue)
  | nil =>
    refine conforms_sideEffect _ _ rfl fun playback hunder => ?_
    simp only [called, continues_getModel, hcurrent, continues_rememberTrack,
      continues_modifyModel]
    exact (hunder.touch _ _ _).finished hnext (.skippedLast active hcurrent hqueue)

theorem conforms_previous (hhistory : a.model.history ≠ []) :
    Conforms a (.command .previous) previous := by
  unfold previous Conforms
  rw [continues_get]
  obtain ⟨previous, hlast⟩ := Option.isSome_iff_exists.mp (List.getLast?_isSome.mpr hhistory)
  simp only [hlast]
  split_ifs with hfull
  · exact conforms_raise a _
  · refine conforms_nextRevision fun next hnext => ?_
    refine conforms_started _ (.play previous) (fun _ => rfl)
      fun generation playback hunder => ?_
    simp only [called, continues_readClock, continues_modifyModel]
    refine (hunder.touch _ _ _).finished hnext (.wentBack previous _ _ hlast ?_)
    have hlength := queueAfterPrevious_length a.model previous
    omega

/-- A setting the adapter is told of while the player is connected. -/
theorem conforms_setting {cause : Cause} (effect : SideEffect) (operation : PlaybackCall)
    (hoperation : operation.generation = none) {f : PlayerModel → PlayerModel}
    (hchange : Change a.config.maxQueuedTracks a.model cause (whenConnected a.model operation)
      (f a.model)) :
    Conforms a cause (do
      let nextRevision ← nextRevision
      if a.model.voiceChannelId.isSome then sideEffect effect operation
      modifyModel f
      finishChange a.model.isIdleConnected nextRevision) := by
  refine conforms_nextRevision fun next hnext => ?_
  unfold whenConnected at hchange
  by_cases hvoice : a.model.voiceChannelId.isSome = true
  · rw [if_pos hvoice] at hchange ⊢
    refine conforms_sideEffect _ _ hoperation fun playback hunder => ?_
    exact (hunder.touch _ _ _).finished hnext hchange
  · rw [if_neg hvoice] at hchange ⊢
    exact ((Underway.refl a).touch _ _ _).finished hnext hchange

theorem conforms_setVolume (volume : Volume) :
    Conforms a (.command (.setVolume volume)) (setVolume volume) := by
  unfold setVolume Conforms
  rw [continues_getModel]
  split
  · exact conforms_currentSnapshot a
  · exact conforms_setting (f := fun model => { model with volume := volume }) _ _ rfl
      (.volumeSet volume)

theorem conforms_setHrir (preset : HrirPresetId) :
    Conforms a (.command (.setHrir preset)) (setHrir preset) := by
  unfold setHrir Conforms
  rw [continues_getModel]
  split
  · exact conforms_currentSnapshot a
  · exact conforms_setting
      (f := fun model => { model with hrirPreset := some preset, spatialAudioEnabled := true })
      _ _ rfl (.hrirSet preset)

theorem conforms_setSpatial (enabled : Bool) :
    Conforms a (.command (.setSpatialAudio enabled)) (setSpatial enabled) := by
  unfold setSpatial Conforms
  rw [continues_getModel]
  split
  · exact conforms_currentSnapshot a
  · exact conforms_setting (f := fun model => { model with spatialAudioEnabled := enabled }) _ _ rfl
      (.spatialSet enabled)

theorem conforms_disconnect : Conforms a (.command .disconnect) disconnect := by
  unfold disconnect Conforms
  rw [continues_getModel]
  split_ifs with hvoice
  · exact conforms_currentSnapshot a
  · refine conforms_nextRevision fun next hnext => ?_
    refine conforms_sideEffect _ _ rfl fun playback hunder => ?_
    exact (hunder.touch _ _ _).finished hnext
      (.left _ _ (Or.inl rfl) (by simp [PlaybackCall.isVoice]))

/-- Validation against the snapshot is what the handlers need: in a coherent model no command
that passes it runs into a panic. -/
theorem conforms_execute {command : PlayerCommand} {reading : Reading} (idempotencyKey : Uuid)
    (hcoherent : Coherent a.config.maxQueuedTracks a.model)
    (hvalid : command.validateAgainst (a.model.snapshot reading) = .ok ()) :
    Conforms a (.command command) (execute command idempotencyKey) := by
  cases command with
  | enqueueMedia input => exact conforms_raise a _
  | play =>
    have hstate : a.model.state = .paused := by
      by_contra hother
      simp [PlayerCommand.validateAgainst, PlayerModel.snapshot, hother] at hvalid
    obtain ⟨active, hcurrent⟩ := hcoherent.current_of_state (Or.inr hstate)
    exact conforms_resume hcurrent
  | pause =>
    have hstate : a.model.state = .playing := by
      by_contra hother
      simp [PlayerCommand.validateAgainst, PlayerModel.snapshot, hother] at hvalid
    obtain ⟨active, hcurrent⟩ := hcoherent.current_of_state (Or.inl hstate)
    exact conforms_pause hcurrent
  | stop =>
    have hstate : a.model.state ≠ .disconnected := by
      intro hother
      simp [PlayerCommand.validateAgainst, PlayerModel.snapshot, hother] at hvalid
    exact conforms_stop hstate
  | skip =>
    have hsome : a.model.current ≠ none := by
      simpa [PlayerCommand.validateAgainst, PlayerModel.snapshot] using hvalid
    obtain ⟨active, hcurrent⟩ := Option.ne_none_iff_exists'.mp hsome
    exact conforms_skip hcurrent
  | previous =>
    have hhistory : a.model.history ≠ [] := by
      simpa [PlayerCommand.validateAgainst, PlayerModel.snapshot] using hvalid
    exact conforms_previous hhistory
  | removeQueued trackId => exact conforms_removeQueued trackId
  | moveQueued trackId beforeTrackId => exact conforms_moveQueued trackId beforeTrackId
  | seek positionMs =>
    cases hcurrent : a.model.current with
    | none => simp [PlayerCommand.validateAgainst, PlayerModel.snapshot, hcurrent] at hvalid
    | some active => exact conforms_seek hcurrent positionMs
  | setVolume volume => exact conforms_setVolume volume
  | setRepeat mode => exact conforms_setRepeat mode
  | setShuffle enabled => exact conforms_setShuffle enabled idempotencyKey
  | setHrir preset => exact conforms_setHrir preset
  | setSpatialAudio enabled => exact conforms_setSpatial enabled
  | disconnect => exact conforms_disconnect

omit [SnapshotPublisher S] [PlaybackPort P] in
/-- The clock readings still to come play no part in an outcome. -/
theorem Outcome.of_clock {a a' : Actor P S} {cause : Cause} {clock : Stream' Reading}
    {result : Except Failure PlayerSnapshot}
    (h : Outcome { a with clock := clock } cause result a') : Outcome a cause result a' := by
  have hof : ∀ {calls : List CallRecord}, Frame { a with clock := clock } a' calls →
      Frame a a' calls := fun h => ⟨⟨h.config, h.fresh, h.calls⟩, h.recent⟩
  cases h with
  | unchanged reading hkept hframe =>
    exact .unchanged reading ⟨hkept.model, hkept.idleTimer, hkept.published⟩ (hof hframe)
  | rejected error hkept hframe hcalls =>
    exact .rejected error ⟨hkept.model, hkept.idleTimer, hkept.published⟩ (hof hframe) hcalls
  | committed hchange hframe hcommit =>
    exact .committed hchange (hof hframe) ⟨hcommit.revision, hcommit.idleTimer, hcommit.result⟩

/-- How a command ends that has passed the key and the validation. -/
structure Accepted (a : Actor P S) (envelope : CommandEnvelope)
    (result : Except Failure PlayerSnapshot) (a' : Actor P S) : Prop where
  unknown : envelope.idempotencyKey ∉ a.recentIdempotency
  revision : envelope.expectedRevision = a.model.revision
  outcome : Outcome a (.command envelope.command) result a'

/-- A remembered key is answered from the model; the key of a command is remembered only when
it succeeds. -/
theorem ends_applyCommand (envelope : CommandEnvelope)
    (hcoherent : Coherent a.config.maxQueuedTracks a.model)
    {ok : PlayerSnapshot → Actor P S → Prop} {err : Failure → Actor P S → Prop}
    (hreplayed : envelope.idempotencyKey ∈ a.recentIdempotency →
      ok (a.model.snapshot a.clock.head) { a with clock := a.clock.tail })
    (haccepted : ∀ snapshot a', Accepted a envelope (.ok snapshot) a' →
      ok snapshot { a' with
        recentIdempotency := rememberIdempotency a'.recentIdempotency envelope.idempotencyKey })
    (hinvalid : ∀ error, envelope.idempotencyKey ∉ a.recentIdempotency →
      err (.error (.invalidCommand error)) { a with clock := a.clock.tail.tail })
    (hfailed : ∀ failure a', Accepted a envelope (.error failure) a' → err failure a') :
    Ends (applyCommand envelope) a ok err := by
  unfold applyCommand
  rw [ends_bind, ends_get]
  by_cases hknown : envelope.idempotencyKey ∈ a.recentIdempotency
  · rw [if_pos hknown, ends_currentSnapshot]
    exact hreplayed hknown
  rw [if_neg hknown, ends_bind, ends_currentSnapshot, ends_bind, ends_readClock]
  cases hvalid : envelope.validateAgainst (a.model.snapshot a.clock.head)
      a.clock.tail.head.unix with
  | error error =>
    exact hinvalid error hknown
  | ok _ =>
    obtain ⟨hrevision, hcommand⟩ := CommandEnvelope.validateAgainst_eq_ok hvalid
    have hexecute := conforms_execute (a := { a with clock := a.clock.tail.tail })
      envelope.idempotencyKey hcoherent hcommand
    rw [ends_bind]
    refine hexecute.imp ?_ ?_
    · intro snapshot a' houtcome
      exact haccepted snapshot a' ⟨hknown, hrevision, houtcome.of_clock⟩
    · intro failure a' houtcome
      exact hfailed failure a' ⟨hknown, hrevision, houtcome.of_clock⟩

end Handlers

end PepeAudio
