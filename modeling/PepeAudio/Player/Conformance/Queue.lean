import PepeAudio.Player.Conformance.Basic
import PepeAudio.Player.Queue

/-!
# Outcomes of connecting and of the queue handlers
-/
namespace PepeAudio

open Actor

variable {P S : Type}

theorem queuePosition_lt {queue : List QueueTrack} {trackId : Uuid} {index : ℕ}
    (h : queuePosition queue trackId = some index) : index < queue.length := by
  unfold queuePosition at h
  rw [List.findIdx?_eq_some_iff_getElem] at h
  exact h.1

theorem moveDestination_le {queue : List QueueTrack} {trackId : Uuid} {source destination : ℕ}
    {beforeTrackId : Option Uuid} (hsource : source < queue.length)
    (h : moveDestination queue trackId source beforeTrackId = .ok destination) :
    destination ≤ queue.length - 1 := by
  unfold moveDestination at h
  cases beforeTrackId with
  | none =>
    simp only [Except.ok.injEq] at h
    omega
  | some before =>
    dsimp only at h
    split_ifs at h with hself
    · simp only [Except.ok.injEq] at h
      omega
    · cases htarget : queuePosition queue before with
      | none =>
        rw [htarget] at h
        contradiction
      | some target =>
        have hlt := queuePosition_lt htarget
        rw [htarget] at h
        simp only [Except.ok.injEq] at h
        split_ifs at h <;> omega

section Handlers

variable [SnapshotPublisher S] {a : Actor P S}

theorem conforms_removeQueued (trackId : Uuid) :
    Conforms a (.command (.removeQueued trackId)) (removeQueued trackId) := by
  unfold removeQueued Conforms
  rw [continues_getModel]
  dsimp only
  cases hindex : queuePosition a.model.queue trackId with
  | none => exact conforms_raise a _
  | some index =>
    refine conforms_nextRevision fun next hnext => ?_
    exact ((Underway.refl a).touch _ _ _).finished hnext (.removed trackId index hindex)

theorem conforms_moveQueued (trackId : Uuid) (beforeTrackId : Option Uuid) :
    Conforms a (.command (.moveQueued trackId beforeTrackId))
      (moveQueued trackId beforeTrackId) := by
  unfold moveQueued Conforms
  rw [continues_getModel]
  dsimp only
  cases hsource : queuePosition a.model.queue trackId with
  | none => exact conforms_raise a _
  | some source =>
    have hlt := queuePosition_lt hsource
    dsimp only
    cases hdestination : moveDestination a.model.queue trackId source beforeTrackId with
    | error error => exact conforms_raise a _
    | ok destination =>
      have hle := moveDestination_le hlt hdestination
      dsimp only
      by_cases hsame : destination = source
      · rw [if_pos hsame]
        exact conforms_currentSnapshot a
      · rw [if_neg hsame]
        refine conforms_nextRevision fun next hnext => ?_
        have hmoved := List.getElem?_eq_getElem hlt
        have hlength := List.length_eraseIdx_of_lt hlt
        unfold Conforms
        rw [continues_getModel]
        simp only [hmoved]
        rw [if_neg (by omega), continues_modifyModel]
        refine ((Underway.refl a).touch _ _ _).finished hnext ?_
        exact .moved trackId beforeTrackId source destination _ hmoved (by omega)

variable [PlaybackPort P]

theorem conforms_enqueue (track : QueueTrack) (expectedRevision : StateRevision) :
    Conforms a (.enqueue [track]) (enqueue track expectedRevision) := by
  refine conforms_checkRevision fun _ => ?_
  unfold Conforms
  rw [continues_get]
  by_cases hvoice : a.model.voiceChannelId.isNone = true
  · rw [if_pos hvoice]
    exact conforms_raise a _
  rw [if_neg hvoice]
  have hconnected := Option.isNone_eq_false_iff.mp (Bool.eq_false_iff.mpr hvoice)
  by_cases htitle : (!track.hasValidPublicTitle) = true
  · rw [if_pos htitle]
    exact conforms_raise a _
  rw [if_neg htitle]
  by_cases hknown : a.model.containsTrack track.trackId = true
  · rw [if_pos hknown]
    exact conforms_raise a _
  rw [if_neg hknown]
  have hnew : Admissible a.model [track] := by
    refine ⟨by simpa using htitle, by simp, ?_⟩
    intro other hother
    rw [List.mem_singleton.mp hother, ← PlayerModel.containsTrack_iff]
    exact hknown
  by_cases hfull : (a.model.current.isSome &&
      decide (a.config.maxQueuedTracks ≤ a.model.queue.length)) = true
  · rw [if_pos hfull]
    exact conforms_raise a _
  rw [if_neg hfull]
  refine conforms_nextRevision fun next hnext => ?_
  by_cases hcurrent : a.model.current.isNone = true
  · rw [if_pos hcurrent]
    refine conforms_started _ (.play track) (fun _ => rfl)
      fun generation playback hunder => ?_
    simp only [called, continues_readClock, continues_modifyModel]
    refine (hunder.touch _ _ _).finished hnext ?_
    exact .started track [] generation _ hconnected
      (Option.isNone_iff_eq_none.mp hcurrent) hnew (Nat.le_max_right _ _)
  · rw [if_neg hcurrent]
    have hplaying := Option.isNone_eq_false_iff.mp (Bool.eq_false_iff.mpr hcurrent)
    refine ((Underway.refl a).touch _ _ _).finished hnext ?_
    refine .queued [track] hplaying hnew ?_
    simp only [hplaying, Bool.true_and, decide_eq_true_eq] at hfull
    rw [List.length_singleton]
    omega

theorem checkBatch_eq_ok {model : PlayerModel} {tracks : List QueueTrack} {identities : List Uuid}
    (h : checkBatch model tracks identities = .ok ()) :
    Admissible model tracks ∧ ∀ track ∈ tracks, track.trackId ∉ identities := by
  induction tracks generalizing identities with
  | nil => exact ⟨⟨by simp, by simp, by simp⟩, by simp⟩
  | cons track tracks ih =>
    unfold checkBatch at h
    split_ifs at h with htitle hknown
    obtain ⟨hrest, hnew⟩ := ih h
    rw [Bool.or_eq_true, not_or, decide_eq_true_eq, PlayerModel.containsTrack_iff] at hknown
    have hdistinct : track.trackId ∉ tracks.map QueueTrack.trackId := by
      intro hmem
      obtain ⟨other, hother, heq⟩ := List.mem_map.mp hmem
      exact hnew other hother (heq ▸ List.mem_cons_self)
    refine ⟨⟨?_, ?_, ?_⟩, ?_⟩
    · intro other hother
      rcases List.mem_cons.mp hother with rfl | hother
      · simpa using htitle
      · exact hrest.title other hother
    · exact List.nodup_cons.mpr ⟨hdistinct, hrest.nodup⟩
    · intro other hother
      rcases List.mem_cons.mp hother with rfl | hother
      · exact hknown.1
      · exact hrest.fresh other hother
    · intro other hother
      rcases List.mem_cons.mp hother with rfl | hother
      · exact hknown.2
      · exact fun hmem => hnew other hother (List.mem_cons_of_mem _ hmem)

theorem conforms_enqueueBatch (tracks : List QueueTrack) (expectedRevision : StateRevision) :
    Conforms a (.enqueue tracks) (enqueueBatch tracks expectedRevision) := by
  refine conforms_checkRevision fun _ => ?_
  unfold Conforms
  rw [continues_get]
  by_cases hempty : tracks.isEmpty = true
  · rw [if_pos hempty]
    exact conforms_currentSnapshot a
  rw [if_neg hempty]
  by_cases hvoice : a.model.voiceChannelId.isNone = true
  · rw [if_pos hvoice]
    exact conforms_raise a _
  rw [if_neg hvoice]
  have hconnected := Option.isNone_eq_false_iff.mp (Bool.eq_false_iff.mpr hvoice)
  dsimp only
  by_cases hfull : a.config.maxQueuedTracks <
      a.model.queue.length + (tracks.length - a.model.current.isNone.toNat)
  · rw [if_pos hfull]
    exact conforms_raise a _
  rw [if_neg hfull]
  cases hcheck : checkBatch a.model tracks [] with
  | error error => exact conforms_raise a _
  | ok _ =>
    have hnew := (checkBatch_eq_ok hcheck).1
    refine conforms_nextRevision fun next hnext => ?_
    cases hcurrent : a.model.current.isNone with
    | true =>
      cases tracks with
      | nil => simp at hempty
      | cons first rest =>
        refine conforms_started _ (.play first) (fun _ => rfl)
          fun generation playback hunder => ?_
        simp only [called, continues_readClock, continues_modifyModel]
        refine (hunder.touch _ _ _).finished hnext ?_
        refine .started first rest generation _ hconnected (Option.isNone_iff_eq_none.mp hcurrent)
          hnew ?_
        simp only [hcurrent, Bool.toNat_true, List.length_cons] at hfull
        omega
    | false =>
      refine ((Underway.refl a).touch _ _ _).finished hnext ?_
      refine .queued tracks (Option.isNone_eq_false_iff.mp hcurrent) hnew ?_
      simp only [hcurrent, Bool.toNat_false] at hfull
      omega

omit [SnapshotPublisher S] in
/-- An initialisation that breaks off has set no preset but that of the model. -/
theorem ends_initializeConnection {a₀ a : Actor P S} {calls : List CallRecord}
    (hunder : Underway a₀ a calls) :
    Ends initializeConnection a
      (fun _ a' => Underway a₀ a' (calls ++ initialCalls a.model) ∧ a'.model = a.model)
      (fun failure a' => ∃ error tried, failure = .error error ∧
        Underway a₀ a' (calls ++ tried) ∧ a'.model = a.model ∧
        ∀ record ∈ tried, ∀ preset, record.call = .setHrir preset →
          a.model.hrirPreset = some preset) := by
  unfold initializeConnection initialCalls
  rw [ends_bind, ends_getModel, ends_bind]
  refine ends_sideEffect _ _ (fun playback => ?_) fun playback message => ?_
  · have hvolume := hunder.called playback ⟨.setVolume a.model.volume, true⟩ rfl
    cases hpreset : a.model.hrirPreset with
    | none =>
      refine ends_sideEffect _ _ (fun playback' => ⟨?_, rfl⟩) fun playback' message => ?_
      · have hspatial := hvolume.called playback'
          ⟨.setSpatialAudio a.model.spatialAudioEnabled, true⟩ rfl
        simpa using hspatial
      · have hspatial := hvolume.called playback'
          ⟨.setSpatialAudio a.model.spatialAudioEnabled, false⟩ rfl
        rw [List.append_assoc] at hspatial
        exact ⟨_, _, rfl, hspatial, rfl, by simp⟩
    | some preset =>
      dsimp only
      rw [ends_bind]
      refine ends_sideEffect _ _ (fun playback' => ?_) fun playback' message => ?_
      · have hset := hvolume.called playback' ⟨.setHrir preset, true⟩ rfl
        refine ends_sideEffect _ _ (fun playback' => ⟨?_, rfl⟩) fun playback' message => ?_
        · have hspatial := hset.called playback'
            ⟨.setSpatialAudio a.model.spatialAudioEnabled, true⟩ rfl
          simpa using hspatial
        · have hspatial := hset.called playback'
            ⟨.setSpatialAudio a.model.spatialAudioEnabled, false⟩ rfl
          rw [List.append_assoc, List.append_assoc] at hspatial
          exact ⟨_, _, rfl, hspatial, rfl, by simp⟩
      · have hset := hvolume.called playback' ⟨.setHrir preset, false⟩ rfl
        rw [List.append_assoc] at hset
        exact ⟨_, _, rfl, hset, rfl, by simp⟩
  · have hvolume := hunder.called playback ⟨.setVolume a.model.volume, false⟩ rfl
    exact ⟨_, _, rfl, hvolume, rfl, by simp⟩

theorem conforms_connect (channelId : ChannelId) (expectedRevision : StateRevision) :
    Conforms a (.connect channelId) (connect channelId expectedRevision) := by
  refine conforms_checkRevision fun _ => ?_
  unfold Conforms
  rw [continues_getModel]
  cases hvoice : a.model.voiceChannelId with
  | some connected =>
    dsimp only
    split
    · exact conforms_currentSnapshot a
    · exact conforms_raise a _
  | none =>
    refine conforms_nextRevision fun next hnext => ?_
    refine conforms_sideEffect _ _ rfl fun playback hunder => ?_
    unfold Continues
    rw [ends_bind]
    refine ends_attempt ((ends_initializeConnection hunder).imp ?_ ?_)
    · rintro _ a' ⟨hinitial, hmodel⟩
      dsimp only
      rw [ends_bind, ends_getModel, ends_bind, ends_modifyModel, hmodel]
      exact (hinitial.touch _ _ _).finished hnext (.connected channelId hvoice)
    · rintro failure a' ⟨error, tried, rfl, htried, hmodel, hpresets⟩
      have htentative : ∀ succeeded, Tentative a.model
          (([⟨.connect channelId, true⟩] ++ tried) ++ [⟨.disconnect, succeeded⟩]) := by
        intro succeeded
        refine Or.inr ⟨hvoice, ?_⟩
        intro record hrecord preset hcall
        simp only [List.mem_append, List.mem_singleton] at hrecord
        rcases hrecord with (rfl | hrecord) | rfl
        · contradiction
        · exact hpresets record hrecord preset hcall
        · contradiction
      dsimp only
      rw [ends_bind]
      refine ends_call _ (fun playback' => ?_) fun playback' message => ?_
      · exact (htried.called playback' _ rfl).rejected hmodel (htentative true) error
      · exact (htried.called playback' _ rfl).rejected hmodel (htentative false) error

end Handlers

end PepeAudio
