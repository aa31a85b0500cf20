import PepeAudio.Player.Conformance.Queue
import PepeAudio.Player.Safety

/-!
# A batch of tracks against its tracks one by one

A batch is checked as a whole before anything is done, a track alone against the
queue it meets. Both come down to one condition on the model and the tracks, and
this condition splits along the list as the queue grows.
-/
namespace PepeAudio

open Actor

variable {P S : Type}

namespace Actor

variable [PlaybackPort P] [SnapshotPublisher S]

/-- Enqueueing in order, each track under the revision its predecessor left. -/
def enqueueEach : List QueueTrack → ActorM P S Unit
  | [] => return
  | track :: tracks => do
    let revision := (← getModel).revision
    let _ ← enqueue track revision
    enqueueEach tracks

/-- What is done with tracks that have passed every check. -/
def addTracks (tracks : List QueueTrack) : ActorM P S PlayerSnapshot := do
  let model ← getModel
  let nextRevision ← nextRevision
  match model.current.isNone, tracks with
  | true, first :: rest =>
    let generation ← nextPlaybackGeneration
    sideEffect .play (.play first generation)
    let now ← readClock
    modifyModel fun model =>
      { model with
        current := some (ActiveTrack.playing first generation now.instant)
        state := .playing }
    modifyModel fun model =>
      { model with queue := rest.foldl (insertUpcoming model.shuffleEnabled) model.queue }
  | _, _ =>
    modifyModel fun model =>
      { model with queue := tracks.foldl (insertUpcoming model.shuffleEnabled) model.queue }
  finishChange model.isIdleConnected nextRevision

end Actor

/-- A connected model takes in these tracks, the current one and the queue included. -/
structure Acceptable (capacity : ℕ) (model : PlayerModel) (tracks : List QueueTrack) : Prop where
  voice : model.voiceChannelId.isSome = true
  admissible : Admissible model tracks
  room : model.tracks.length + tracks.length ≤ capacity + 1

theorem length_tracks (model : PlayerModel) :
    model.tracks.length + model.current.isNone.toNat = model.queue.length + 1 := by
  unfold PlayerModel.tracks
  cases model.current with
  | none => simp
  | some active => simp

theorem Admissible.head {model : PlayerModel} {track : QueueTrack} {tracks : List QueueTrack}
    (h : Admissible model (track :: tracks)) : Admissible model [track] := by
  have hmem : ∀ other ∈ [track], other ∈ track :: tracks := by simp
  exact ⟨fun other hother => h.title other (hmem other hother), by simp,
    fun other hother => h.fresh other (hmem other hother)⟩

theorem admissible_cons {model after : PlayerModel} {track : QueueTrack} {tracks : List QueueTrack}
    (hafter : after.tracks.Perm (track :: model.tracks)) :
    Admissible model (track :: tracks) ↔ Admissible model [track] ∧ Admissible after tracks := by
  have hknown : ∀ trackId, trackId ∈ after.tracks.map QueueTrack.trackId ↔
      trackId = track.trackId ∨ trackId ∈ model.tracks.map QueueTrack.trackId := by
    intro trackId
    rw [(hafter.map QueueTrack.trackId).mem_iff, List.map_cons, List.mem_cons]
  constructor
  · intro h
    have hnodup := List.nodup_cons.mp h.nodup
    refine ⟨h.head, ⟨?_, hnodup.2, ?_⟩⟩
    · exact fun other hother => h.title other (List.mem_cons_of_mem _ hother)
    · intro other hother hmem
      rcases (hknown _).mp hmem with heq | hold
      · exact hnodup.1 (heq ▸ List.mem_map_of_mem hother)
      · exact h.fresh other (List.mem_cons_of_mem _ hother) hold
  · rintro ⟨hfirst, hrest⟩
    refine ⟨?_, ?_, ?_⟩
    · intro other hother
      rcases List.mem_cons.mp hother with rfl | hother
      · exact hfirst.title other (List.mem_singleton_self _)
      · exact hrest.title other hother
    · refine List.nodup_cons.mpr ⟨?_, hrest.nodup⟩
      intro hmem
      obtain ⟨other, hother, heq⟩ := List.mem_map.mp hmem
      exact hrest.fresh other hother ((hknown _).mpr (Or.inl heq))
    · intro other hother
      rcases List.mem_cons.mp hother with rfl | hother
      · exact hfirst.fresh other (List.mem_singleton_self _)
      · exact fun hmem => hrest.fresh other hother ((hknown _).mpr (Or.inr hmem))

theorem Acceptable.head {capacity : ℕ} {model : PlayerModel} {track : QueueTrack}
    {tracks : List QueueTrack} (h : Acceptable capacity model (track :: tracks)) :
    Acceptable capacity model [track] := by
  have hroom := h.room
  rw [List.length_cons] at hroom
  refine ⟨h.voice, h.admissible.head, ?_⟩
  rw [List.length_singleton]
  omega

/-- The rest of an acceptable list is acceptable to the model that has taken in its head. -/
theorem acceptable_cons {capacity : ℕ} {model after : PlayerModel} {track : QueueTrack}
    {tracks : List QueueTrack} (hvoice : after.voiceChannelId = model.voiceChannelId)
    (hafter : after.tracks.Perm (track :: model.tracks)) :
    Acceptable capacity model (track :: tracks) ↔
      Acceptable capacity model [track] ∧ Acceptable capacity after tracks := by
  have hlength := hafter.length_eq
  rw [List.length_cons] at hlength
  constructor
  · intro h
    have hsplit := (admissible_cons hafter).mp h.admissible
    have hroom := h.room
    rw [List.length_cons] at hroom
    exact ⟨h.head, ⟨hvoice ▸ h.voice, hsplit.2, by omega⟩⟩
  · rintro ⟨hfirst, hrest⟩
    have hroom := hrest.room
    refine ⟨hfirst.voice, (admissible_cons hafter).mpr ⟨hfirst.admissible, hrest.admissible⟩, ?_⟩
    rw [List.length_cons]
    omega

theorem checkBatch_of_admissible {model : PlayerModel} {tracks : List QueueTrack}
    {identities : List Uuid} (h : Admissible model tracks)
    (hnew : ∀ track ∈ tracks, track.trackId ∉ identities) :
    checkBatch model tracks identities = .ok () := by
  induction tracks generalizing identities with
  | nil => rfl
  | cons track tracks ih =>
    have hnodup := List.nodup_cons.mp h.nodup
    have htitle := h.title track List.mem_cons_self
    have hfresh := h.fresh track List.mem_cons_self
    have hidentity := hnew track List.mem_cons_self
    have hknown : ¬ (model.containsTrack track.trackId ||
        decide (track.trackId ∈ identities)) = true := by
      rw [Bool.or_eq_true, not_or, decide_eq_true_eq, PlayerModel.containsTrack_iff]
      exact ⟨hfresh, hidentity⟩
    unfold checkBatch
    rw [if_neg (by simp [htitle]), if_neg hknown]
    refine ih ⟨fun other hother => h.title other (List.mem_cons_of_mem _ hother), hnodup.2,
      fun other hother => h.fresh other (List.mem_cons_of_mem _ hother)⟩ ?_
    intro other hother hmem
    rcases List.mem_cons.mp hmem with heq | hmem
    · exact hnodup.1 (heq ▸ List.mem_map_of_mem hother)
    · exact hnew other (List.mem_cons_of_mem _ hother) hmem

section Checks

variable [PlaybackPort P] [SnapshotPublisher S] {a : Actor P S}
variable {ok : PlayerSnapshot → Actor P S → Prop} {err : Failure → Actor P S → Prop}

/-- A batch passes its checks exactly when it is acceptable. -/
theorem ends_enqueueBatch {tracks : List QueueTrack} (hne : tracks ≠ [])
    (hok : Acceptable a.config.maxQueuedTracks a.model tracks → Ends (addTracks tracks) a ok err)
    (herr : ∀ error, ¬ Acceptable a.config.maxQueuedTracks a.model tracks →
      err (.error error) a) :
    Ends (enqueueBatch tracks a.model.revision) a ok err := by
  have hpos := List.length_pos_iff.mpr hne
  have hlength := length_tracks a.model
  have hone := Bool.toNat_le a.model.current.isNone
  unfold enqueueBatch
  rw [ends_checkRevision_current, ends_bind, ends_get, if_neg (by simpa using hne)]
  by_cases hvoice : a.model.voiceChannelId.isNone = true
  · rw [if_pos hvoice]
    refine herr _ fun h => ?_
    have hconnected := h.voice
    simp [Option.isNone_iff_eq_none.mp hvoice] at hconnected
  rw [if_neg hvoice]
  dsimp only
  by_cases hfull : a.config.maxQueuedTracks <
      a.model.queue.length + (tracks.length - a.model.current.isNone.toNat)
  · rw [if_pos hfull]
    refine herr _ fun h => ?_
    have hroom := h.room
    omega
  rw [if_neg hfull]
  cases hcheck : checkBatch a.model tracks [] with
  | error error =>
    refine herr _ fun h => ?_
    rw [checkBatch_of_admissible h.admissible (by simp)] at hcheck
    contradiction
  | ok _ =>
    have hvalid := (checkBatch_eq_ok hcheck).1
    have hconnected := Option.isNone_eq_false_iff.mp (Bool.eq_false_iff.mpr hvoice)
    exact hok ⟨hconnected, hvalid, by omega⟩

/-- A single track passes the same checks as a batch of one. -/
theorem ends_enqueue {track : QueueTrack}
    (hqueue : a.model.queue.length ≤ a.config.maxQueuedTracks)
    (hok : Acceptable a.config.maxQueuedTracks a.model [track] → Ends (addTracks [track]) a ok err)
    (herr : ∀ error, ¬ Acceptable a.config.maxQueuedTracks a.model [track] →
      err (.error error) a) :
    Ends (enqueue track a.model.revision) a ok err := by
  have hlength := length_tracks a.model
  unfold enqueue
  rw [ends_checkRevision_current, ends_bind, ends_get]
  by_cases hvoice : a.model.voiceChannelId.isNone = true
  · rw [if_pos hvoice]
    refine herr _ fun h => ?_
    have hconnected := h.voice
    simp [Option.isNone_iff_eq_none.mp hvoice] at hconnected
  rw [if_neg hvoice]
  by_cases htitle : (!track.hasValidPublicTitle) = true
  · rw [if_pos htitle]
    refine herr _ fun h => ?_
    simp [h.admissible.title track (List.mem_singleton_self _)] at htitle
  rw [if_neg htitle]
  by_cases hknown : a.model.containsTrack track.trackId = true
  · rw [if_pos hknown]
    refine herr _ fun h => ?_
    exact h.admissible.fresh track (List.mem_singleton_self _)
      (PlayerModel.containsTrack_iff.mp hknown)
  rw [if_neg hknown]
  by_cases hfull : (a.model.current.isSome &&
      decide (a.config.maxQueuedTracks ≤ a.model.queue.length)) = true
  · rw [if_pos hfull]
    refine herr _ fun h => ?_
    have hroom := h.room
    rw [Bool.and_eq_true, decide_eq_true_eq] at hfull
    have hplaying : a.model.current.isNone = false := Option.isNone_eq_false_iff.mpr hfull.1
    rw [hplaying, Bool.toNat_false] at hlength
    rw [List.length_singleton] at hroom
    omega
  rw [if_neg hfull]
  have hvalid : Admissible a.model [track] := by
    refine ⟨by simpa using htitle, by simp, ?_⟩
    intro other hother
    rw [List.mem_singleton.mp hother, ← PlayerModel.containsTrack_iff]
    exact hknown
  have hconnected := Option.isNone_eq_false_iff.mp (Bool.eq_false_iff.mpr hvoice)
  cases hcurrent : a.model.current.isNone with
  | true =>
    rw [hcurrent, Bool.toNat_true] at hlength
    have hadd := hok ⟨hconnected, hvalid, by rw [List.length_singleton]; omega⟩
    unfold addTracks at hadd
    rw [ends_bind, ends_getModel, hcurrent] at hadd
    exact hadd
  | false =>
    have hplaying := Option.isNone_eq_false_iff.mp hcurrent
    rw [hplaying, Bool.true_and, decide_eq_true_eq] at hfull
    rw [hcurrent, Bool.toNat_false] at hlength
    have hadd := hok ⟨hconnected, hvalid, by rw [List.length_singleton]; omega⟩
    unfold addTracks at hadd
    rw [ends_bind, ends_getModel, hcurrent] at hadd
    exact hadd

end Checks

section Commit

variable [PlaybackPort P] [SnapshotPublisher S] {a : Actor P S}

/-- Nothing stands in the way of starting the first track from `a`. -/
def CanStart (a : Actor P S) (track : QueueTrack) : Prop :=
  ∃ generation, a.playbackGeneration.next = some generation ∧
    (PlaybackPort.call (.play track generation) a.playback).1 = .ok () ∧
    (a.idleTimer.reconciled a.model.isIdleConnected false).1 = .ok ()

theorem isIdleConnected_of_current {model : PlayerModel} (h : model.current.isNone = false) :
    model.isIdleConnected = false := by
  simp [PlayerModel.isIdleConnected, h]

/-- While something is playing, adding tracks only extends the queue. -/
theorem ends_addTracks_playing {tracks : List QueueTrack} {next : StateRevision}
    (hcurrent : a.model.current.isNone = false)
    (hnext : a.model.revision.checkedNext = some next) :
    Ends (addTracks tracks) a
      (fun _ b => b.model = { a.model with
          queue := tracks.foldl (insertUpcoming a.model.shuffleEnabled) a.model.queue
          revision := next } ∧
        b.config = a.config ∧ b.playbackGeneration = a.playbackGeneration)
      (fun _ _ => False) := by
  unfold addTracks
  rw [ends_bind, ends_getModel, ends_bind]
  refine ends_nextRevision (fun revision hrevision => ?_) fun hnone => ?_
  · obtain rfl := Option.some.inj (hnext.symm.trans hrevision)
    rw [hcurrent, ends_bind, ends_modifyModel, isIdleConnected_of_current hcurrent]
    refine ends_finishChange_busy (isIdleConnected_of_current hcurrent) ?_
    exact fun _ b hmodel hconfig hgeneration => ⟨hmodel, hconfig, hgeneration⟩
  · rw [hnext] at hnone
    contradiction

/-- Otherwise the first track is started; what prevents it leaves the model as it was. -/
theorem ends_addTracks_starting {first : QueueTrack} {rest : List QueueTrack}
    {next : StateRevision} (hcurrent : a.model.current.isNone = true)
    (hnext : a.model.revision.checkedNext = some next) :
    Ends (addTracks (first :: rest)) a
      (fun _ b => CanStart a first ∧ ∃ generation, a.playbackGeneration.next = some generation ∧
        b.model = { a.model with
          current := some (ActiveTrack.playing first generation a.clock.head.instant)
          state := .playing
          queue := rest.foldl (insertUpcoming a.model.shuffleEnabled) a.model.queue
          revision := next } ∧
        b.config = a.config ∧ b.playbackGeneration = generation)
      (fun _ b => ¬ CanStart a first ∧
        (a.idleTimer.generation.next.isSome = true → b.model = a.model)) := by
  unfold addTracks
  rw [ends_bind, ends_getModel, ends_bind]
  refine ends_nextRevision (fun revision hrevision => ?_) fun hnone => ?_
  · obtain rfl := Option.some.inj (hnext.symm.trans hrevision)
    rw [hcurrent, ends_bind]
    refine ends_nextPlaybackGeneration (fun generation hgeneration => ?_) fun hexhausted => ?_
    · rw [ends_bind]
      refine ends_sideEffect_called _ _ (fun playback hplayed => ?_)
        fun playback message hfailed => ?_
      · rw [ends_bind, ends_readClock, ends_bind, ends_modifyModel, ends_bind, ends_modifyModel]
        refine ends_finishChange (isIdleConnected_of_current rfl)
          (fun _ b hdone hmodel hconfig hafter => ?_) fun error b hfailed => ?_
        · exact ⟨⟨generation, hgeneration, hplayed, hdone⟩, generation, hgeneration, hmodel,
          hconfig,
            hafter⟩
        · refine ⟨?_, fun hleft => ?_⟩
          · rintro ⟨_, _, _, hdone⟩
            exact absurd (hdone.symm.trans hfailed) (by simp)
          · have hdone : (a.idleTimer.reconciled a.model.isIdleConnected false).1 = .ok () :=
              IdleTimer.reconciled_ok hleft
            exact absurd (hdone.symm.trans hfailed) (by simp)
      · refine ⟨?_, fun _ => rfl⟩
        rintro ⟨other, hother, hplayed, _⟩
        obtain rfl := Option.some.inj (hgeneration.symm.trans hother)
        exact absurd (hplayed.symm.trans hfailed) (by simp)
    · refine ⟨?_, fun _ => rfl⟩
      rintro ⟨other, hother, _⟩
      exact absurd (hexhausted.symm.trans hother) (by simp)
  · rw [hnext] at hnone
    contradiction

end Commit

section Repeated

variable [PlaybackPort P] [SnapshotPublisher S] {a : Actor P S}

theorem exists_checkedNext {revision : StateRevision} {n : ℕ}
    (h : revision.toNat + (n + 1) < UInt64.size) :
    ∃ next, revision.checkedNext = some next ∧ next.toNat = revision.toNat + 1 := by
  have hfits : revision.get.toNat + 1 < UInt64.size := by
    have hget : revision.toNat = revision.get.toNat := rfl
    omega
  have hnext : revision.checkedNext = some ⟨revision.get + 1⟩ := by
    rw [StateRevision.checkedNext, checkedSucc, if_pos hfits]
    rfl
  exact ⟨_, hnext, StateRevision.checkedNext_toNat hnext⟩

/-- Each track extends the queue by itself; the induction is on the tracks still to come. -/
theorem ends_enqueueEach_playing {tracks : List QueueTrack}
    (hcurrent : a.model.current.isNone = false)
    (hmodel : Acceptable a.config.maxQueuedTracks a.model [])
    (hrevision : a.model.revision.toNat + tracks.length < UInt64.size) :
    Ends (enqueueEach tracks) a
      (fun _ b => Acceptable a.config.maxQueuedTracks a.model tracks ∧
        b.model = { a.model with
          queue := tracks.foldl (insertUpcoming a.model.shuffleEnabled) a.model.queue
          revision := b.model.revision } ∧
        b.model.revision.toNat = a.model.revision.toNat + tracks.length ∧
        b.playbackGeneration = a.playbackGeneration)
      (fun _ _ => ¬ Acceptable a.config.maxQueuedTracks a.model tracks) := by
  induction tracks generalizing a with
  | nil => exact ⟨hmodel, rfl, rfl, rfl⟩
  | cons track tracks ih =>
    rw [List.length_cons] at hrevision
    obtain ⟨next, hnext, hvalue⟩ := exists_checkedNext hrevision
    have hlength := length_tracks a.model
    have hroom := hmodel.room
    rw [hcurrent, Bool.toNat_false] at hlength
    rw [List.length_nil] at hroom
    -- The model once it has taken in the first track.
    have hgrown : ∀ after : PlayerModel, after.current = a.model.current →
        after.queue = insertUpcoming a.model.shuffleEnabled a.model.queue track →
        after.tracks.Perm (track :: a.model.tracks) := by
      intro after hsame hqueue
      have hinsert := insertUpcoming_perm a.model.shuffleEnabled a.model.queue track
      unfold PlayerModel.tracks
      rw [hsame, hqueue]
      exact (hinsert.append_left _).trans List.perm_middle
    unfold enqueueEach
    rw [ends_bind, ends_getModel, ends_bind]
    refine ends_enqueue (by omega) (fun hfirst => ?_) fun error hrefused hall => ?_
    · refine (ends_addTracks_playing hcurrent hnext).imp ?_ fun _ _ h => h.elim
      rintro _ b ⟨hb, hconfig, hgeneration⟩
      have hsplit : ∀ rest, Acceptable a.config.maxQueuedTracks a.model (track :: rest) ↔
          Acceptable a.config.maxQueuedTracks a.model [track] ∧
            Acceptable b.config.maxQueuedTracks b.model rest := by
        intro rest
        rw [hconfig]
        exact acceptable_cons (by rw [hb]) (hgrown b.model (by rw [hb]) (by rw [hb]; rfl))
      have hstart := ((hsplit []).mp hfirst).2
      refine (ih (by rw [hb]; exact hcurrent) hstart (by rw [hb]; simp only; omega)).imp ?_ ?_
      · rintro _ c ⟨hrest, hc, hcount, hsame⟩
        refine ⟨(hsplit tracks).mpr ⟨hfirst, hrest⟩, ?_, ?_, hsame.trans hgeneration⟩
        · rw [hb] at hc
          exact hc
        · rw [hcount, hb, List.length_cons]
          simp only
          omega
      · exact fun _ _ hrest hall => hrest ((hsplit tracks).mp hall).2
    · exact hrefused hall.head

/-- The first track is started, the others extend the queue. -/
theorem ends_enqueueEach_starting {first : QueueTrack} {rest : List QueueTrack}
    (hcurrent : a.model.current.isNone = true)
    (hqueue : a.model.queue.length ≤ a.config.maxQueuedTracks)
    (hrevision : a.model.revision.toNat + (rest.length + 1) < UInt64.size) :
    Ends (enqueueEach (first :: rest)) a
      (fun _ b => Acceptable a.config.maxQueuedTracks a.model (first :: rest) ∧
        CanStart a first ∧ ∃ generation, a.playbackGeneration.next = some generation ∧
        b.model = { a.model with
          current := some (ActiveTrack.playing first generation a.clock.head.instant)
          state := .playing
          queue := rest.foldl (insertUpcoming a.model.shuffleEnabled) a.model.queue
          revision := b.model.revision } ∧
        b.model.revision.toNat = a.model.revision.toNat + (rest.length + 1) ∧
        b.playbackGeneration = generation)
      (fun _ _ => ¬ (Acceptable a.config.maxQueuedTracks a.model (first :: rest) ∧
        CanStart a first)) := by
  obtain ⟨next, hnext, hvalue⟩ := exists_checkedNext hrevision
  have hnone := Option.isNone_iff_eq_none.mp hcurrent
  unfold enqueueEach
  rw [ends_bind, ends_getModel, ends_bind]
  refine ends_enqueue hqueue (fun hfirst => ?_) fun error hrefused hall => hrefused hall.1.head
  refine (ends_addTracks_starting hcurrent hnext).imp ?_ fun _ _ h hall => h.1 hall.2
  rintro _ b ⟨hstart, generation, hgeneration, hb, hconfig, hdrawn⟩
  have hgrown : b.model.tracks.Perm (first :: a.model.tracks) := by
    rw [hb, PlayerModel.tracks_of_none hnone]
    exact List.Perm.refl _
  have hsplit : ∀ others, Acceptable a.config.maxQueuedTracks a.model (first :: others) ↔
      Acceptable a.config.maxQueuedTracks a.model [first] ∧
        Acceptable b.config.maxQueuedTracks b.model others := by
    intro others
    rw [hconfig]
    exact acceptable_cons (by rw [hb]) hgrown
  have hempty := ((hsplit []).mp hfirst).2
  refine (ends_enqueueEach_playing (by rw [hb]; rfl) hempty (by rw [hb]; simp only; omega)).imp
    ?_ ?_
  · rintro _ c ⟨hrest, hc, hcount, hsame⟩
    refine ⟨(hsplit rest).mpr ⟨hfirst, hrest⟩, hstart, generation, hgeneration, ?_, ?_,
      hsame.trans hdrawn⟩
    · rw [hb] at hc
      exact hc
    · rw [hcount, hb]
      simp only
      omega
  · exact fun _ _ hrest hall => hrest ((hsplit rest).mp hall.1).2

/-- The first track of a batch is started, the others extend the queue. -/
theorem ends_enqueueBatch_starting {first : QueueTrack} {rest : List QueueTrack}
    {next : StateRevision} (hcurrent : a.model.current.isNone = true)
    (hnext : a.model.revision.checkedNext = some next) :
    Ends (enqueueBatch (first :: rest) a.model.revision) a
      (fun _ b => Acceptable a.config.maxQueuedTracks a.model (first :: rest) ∧
        CanStart a first ∧ ∃ generation, a.playbackGeneration.next = some generation ∧
        b.model = { a.model with
          current := some (ActiveTrack.playing first generation a.clock.head.instant)
          state := .playing
          queue := rest.foldl (insertUpcoming a.model.shuffleEnabled) a.model.queue
          revision := next } ∧
        b.config = a.config ∧ b.playbackGeneration = generation)
      (fun _ b => ¬ (Acceptable a.config.maxQueuedTracks a.model (first :: rest) ∧
        CanStart a first) ∧ (a.idleTimer.generation.next.isSome = true → b.model = a.model)) := by
  refine ends_enqueueBatch (List.cons_ne_nil _ _) (fun haccept => ?_) fun error hrefused => ?_
  · refine (ends_addTracks_starting hcurrent hnext).imp ?_ ?_
    · exact fun _ _ h => ⟨haccept, h⟩
    · exact fun _ _ h => ⟨fun hall => h.1 hall.2, h.2⟩
  · exact ⟨fun hall => hrefused hall.1, fun _ => rfl⟩

theorem ends_enqueueBatch_playing {tracks : List QueueTrack} {next : StateRevision}
    (hne : tracks ≠ []) (hcurrent : a.model.current.isNone = false)
    (hnext : a.model.revision.checkedNext = some next) :
    Ends (enqueueBatch tracks a.model.revision) a
      (fun _ b => Acceptable a.config.maxQueuedTracks a.model tracks ∧
        b.model = { a.model with
          queue := tracks.foldl (insertUpcoming a.model.shuffleEnabled) a.model.queue
          revision := next } ∧
        b.config = a.config ∧ b.playbackGeneration = a.playbackGeneration)
      (fun _ b => ¬ Acceptable a.config.maxQueuedTracks a.model tracks ∧ b.model = a.model) := by
  refine ends_enqueueBatch hne (fun haccept => ?_) fun error hrefused => ⟨hrefused, rfl⟩
  exact (ends_addTracks_playing hcurrent hnext).imp (fun _ _ h => ⟨haccept, h⟩)
    fun _ _ h => h.elim

/-- What a batch and its tracks one by one leave: the same model under their own revisions. -/
structure Agreement (a : Actor P S) (tracks : List QueueTrack) (batched repeated : Actor P S) :
    Prop where
  model : repeated.model = { batched.model with revision := repeated.model.revision }
  playbackGeneration : repeated.playbackGeneration = batched.playbackGeneration
  batchedRevision : batched.model.revision.toNat = a.model.revision.toNat + min 1 tracks.length
  repeatedRevision : repeated.model.revision.toNat = a.model.revision.toNat + tracks.length

/-- Both succeed and agree, or both fail and the batch leaves the model as it was. -/
inductive EndAlike (a : Actor P S) (tracks : List QueueTrack) : Prop
  | accepted {snapshot : PlayerSnapshot} {batched repeated : Actor P S}
      (hbatch : enqueueBatch tracks a.model.revision a = .ok snapshot batched)
      (heach : enqueueEach tracks a = .ok () repeated)
      (hagree : Agreement a tracks batched repeated)
  | rejected {failure failure' : Failure} {batched repeated : Actor P S}
      (hbatch : enqueueBatch tracks a.model.revision a = .error failure batched)
      (heach : enqueueEach tracks a = .error failure' repeated)
      (hmodel : batched.model = a.model)

theorem endAlike_of_ends {tracks : List QueueTrack} {condition : Prop}
    {batch each : Actor P S → Prop}
    (hbatch : Ends (enqueueBatch tracks a.model.revision) a (fun _ b => condition ∧ batch b)
      (fun _ b => ¬ condition ∧ b.model = a.model))
    (heach : Ends (enqueueEach tracks) a (fun _ b => condition ∧ each b)
      (fun _ _ => ¬ condition))
    (hagree : ∀ batched repeated, batch batched → each repeated →
      Agreement a tracks batched repeated) : EndAlike a tracks := by
  cases hb : enqueueBatch tracks a.model.revision a with
  | ok _ batched =>
    have hbatched := hbatch.of_ok hb
    cases he : enqueueEach tracks a with
    | ok _ repeated => exact .accepted hb he (hagree _ _ hbatched.2 (heach.of_ok he).2)
    | error _ _ => exact absurd hbatched.1 (heach.of_error he)
  | error _ rejected =>
    have hrejected := hbatch.of_error hb
    cases he : enqueueEach tracks a with
    | ok _ repeated => exact absurd (heach.of_ok he).1 hrejected.1
    | error _ _ => exact .rejected hb he hrejected.2

/-- Both ways of adding tracks end alike, from any actor with a coherent model. -/
theorem endAlike {tracks : List QueueTrack}
    (hcoherent : Coherent a.config.maxQueuedTracks a.model)
    (hrevision : a.model.revision.toNat + tracks.length < UInt64.size)
    (hidle : a.idleTimer.generation.next.isSome = true) : EndAlike a tracks := by
  have hqueue := hcoherent.queue_le
  cases tracks with
  | nil =>
    have hbatch : Ends (enqueueBatch [] a.model.revision) a (fun _ b => True ∧ b.model = a.model ∧
        b.playbackGeneration = a.playbackGeneration) (fun _ b => ¬ True ∧ b.model = a.model) := by
      unfold enqueueBatch
      rw [ends_checkRevision_current, ends_bind, ends_get]
      exact ⟨trivial, rfl, rfl⟩
    have heach : Ends (enqueueEach []) a (fun _ b => True ∧ b = a) (fun _ _ => ¬ True) :=
      ⟨trivial, rfl⟩
    refine endAlike_of_ends hbatch heach ?_
    rintro batched repeated ⟨hmodel, hgeneration⟩ rfl
    exact ⟨by rw [hmodel], hgeneration.symm, by rw [hmodel]; rfl, rfl⟩
  | cons first rest =>
    obtain ⟨next, hnext, hvalue⟩ := exists_checkedNext hrevision
    have hone : min 1 (first :: rest).length = 1 := by simp
    cases hcurrent : a.model.current.isNone with
    | true =>
      let condition : Prop := Acceptable a.config.maxQueuedTracks a.model (first :: rest) ∧
        CanStart a first
      refine endAlike_of_ends
        ((ends_enqueueBatch_starting hcurrent hnext).imp
          (fun _ _ h => ⟨(⟨h.1, h.2.1⟩ : condition), h.2.2⟩) fun _ _ h => ⟨h.1, h.2 hidle⟩)
        ((ends_enqueueEach_starting hcurrent hqueue hrevision).imp
          (fun _ _ h => ⟨⟨h.1, h.2.1⟩, h.2.2⟩) fun _ _ h => h) ?_
      rintro batched repeated ⟨generation, hgeneration, hmodel, -, hdrawn⟩
        ⟨generation', hgeneration', hmodel', hcount, hdrawn'⟩
      obtain rfl := Option.some.inj (hgeneration.symm.trans hgeneration')
      refine ⟨?_, hdrawn'.trans hdrawn.symm, ?_, hcount⟩
      · rw [hmodel]
        exact hmodel'
      · rw [hmodel, hone]
        exact hvalue
    | false =>
      have hlength := length_tracks a.model
      rw [hcurrent, Bool.toNat_false] at hlength
      have hplaying := Option.isNone_eq_false_iff.mp hcurrent
      obtain ⟨active, hactive⟩ := Option.isSome_iff_exists.mp hplaying
      have hnone : Acceptable a.config.maxQueuedTracks a.model [] := by
        refine ⟨(hcoherent.voice_of_current hactive).1, ⟨by simp, by simp, by simp⟩, ?_⟩
        rw [List.length_nil]
        omega
      refine endAlike_of_ends
        (ends_enqueueBatch_playing (List.cons_ne_nil _ _) hcurrent hnext)
        (ends_enqueueEach_playing hcurrent hnone hrevision) ?_
      rintro batched repeated ⟨hmodel, -, hsame⟩ ⟨hmodel', hcount, hsame'⟩
      refine ⟨?_, hsame'.trans hsame.symm, ?_, hcount⟩
      · rw [hmodel]
        exact hmodel'
      · rw [hmodel, hone]
        exact hvalue

/-- In every state a player reaches, a batch succeeds exactly when its tracks one by one do, with
the same model, the revision apart; a rejected batch leaves the model as it was. -/
theorem enqueueBatch_iff_enqueueEach {setup : PlayerSetup P S}
    {taken : List (Taken (Player P S) (Input × Reply))} {player : Player P S}
    (run : setup.Runs taken player) (tracks : List QueueTrack)
    (hrevision : player.actor.model.revision.toNat + tracks.length < UInt64.size)
    (hidle : player.actor.idleTimer.generation.next.isSome = true) :
    EndAlike player.actor tracks :=
  endAlike run.sound.coherent hrevision hidle

end Repeated

/-- Connecting and switching shuffling on. -/
def shuffledInputs : List Input :=
  [.request (.connect ⟨.MIN⟩ ⟨0⟩),
    .request (.apply (.scripted 1 1 (.setShuffle true)))]

/-- A batch of three that starts its first track and inserts the others at random. -/
theorem enqueueBatch_iff_enqueueEach_shuffled :
    EndAlike (PlayerSetup.after [] shuffledInputs).actor [.scripted 1, .scripted 2, .scripted 3] :=
  have hrevision : (PlayerSetup.after [] shuffledInputs).actor.model.revision.toNat +
      [QueueTrack.scripted 1, .scripted 2, .scripted 3].length < UInt64.size := by
    decide +kernel
  have hidle : (PlayerSetup.after [] shuffledInputs).actor.idleTimer.generation.next.isSome =
      true := by
    decide +kernel
  have run := run_record Player.step (PlayerSetup.scripted []).player shuffledInputs
  enqueueBatch_iff_enqueueEach run _ hrevision hidle

end PepeAudio
