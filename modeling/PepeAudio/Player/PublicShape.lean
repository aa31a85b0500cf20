import PepeAudio.Player.Safety

/-!
# The public shape of the player

A snapshot has the public shape when its titles are valid and no identity occurs
twice among the current and the upcoming tracks. Every change keeps this but one:
going back to a track that is also the current one puts it into the queue a
second time, because only the queue is searched for a copy.
-/
namespace PepeAudio

open Actor

/-- What makes every snapshot of a model publishable; the history counts, since its tracks may
come back. -/
structure PublicShape (model : PlayerModel) : Prop where
  title : ∀ track ∈ model.tracks ++ model.history, track.hasValidPublicTitle = true
  nodup : (model.tracks.map QueueTrack.trackId).Nodup

namespace PublicShape

variable {capacity : ℕ} {model model' : PlayerModel}

theorem new (guildId : GuildId) (initialRevision : StateRevision) :
    PublicShape (PlayerModel.new guildId initialRevision) :=
  ⟨by simp [PlayerModel.new, PlayerModel.tracks], by simp [PlayerModel.new, PlayerModel.tracks]⟩

/-- A model that only drops, reorders and remembers tracks keeps the shape. -/
theorem shrink (h : PublicShape model) (htracks : model'.tracks.Subperm model.tracks)
    (hhistory : ∀ track ∈ model'.history, track ∈ model.tracks ++ model.history) :
    PublicShape model' := by
  refine ⟨?_, ?_⟩
  · intro track htrack
    rcases List.mem_append.mp htrack with hmem | hmem
    · exact h.title track (List.mem_append_left _ (htracks.subset hmem))
    · exact h.title track (hhistory track hmem)
  · obtain ⟨tracks, hperm, hsublist⟩ := htracks
    have hnodup : (tracks.map QueueTrack.trackId).Nodup := (hsublist.map _).nodup h.nodup
    exact (hperm.map _).nodup_iff.mp hnodup

/-- Admissible tracks may join in any order. -/
theorem grow (h : PublicShape model) {tracks : List QueueTrack} (hnew : Admissible model tracks)
    (htracks : model'.tracks.Perm (tracks ++ model.tracks))
    (hhistory : model'.history = model.history) : PublicShape model' := by
  refine ⟨?_, ?_⟩
  · intro track htrack
    rw [List.mem_append, htracks.mem_iff, List.mem_append, hhistory] at htrack
    rcases htrack with (hmem | hmem) | hmem
    · exact hnew.title track hmem
    · exact h.title track (List.mem_append_left _ hmem)
    · exact h.title track (List.mem_append_right _ hmem)
  · rw [(htracks.map QueueTrack.trackId).nodup_iff, List.map_append, List.nodup_append']
    refine ⟨hnew.nodup, h.nodup, ?_⟩
    intro trackId hmem hknown
    obtain ⟨track, htrack, rfl⟩ := List.mem_map.mp hmem
    exact hnew.fresh track htrack hknown

end PublicShape

/-- Remembering a track adds nothing but that track to the history. -/
theorem mem_pushHistory {capacity : ℕ} {history : List QueueTrack} {track other : QueueTrack}
    (h : other ∈ pushHistory capacity history track) : other ∈ history ∨ other = track := by
  unfold pushHistory at h
  rw [List.mem_append, List.mem_singleton] at h
  refine h.imp_left fun hmem => ?_
  split at hmem
  · exact List.mem_of_mem_tail hmem
  · exact hmem

/-- The last track of the history is the current one. -/
def RepeatsCurrent (model : PlayerModel) : Prop :=
  ∃ active previous, model.current = some active ∧ model.history.getLast? = some previous ∧
    active.track.trackId = previous.trackId

instance (model : PlayerModel) : Decidable (RepeatsCurrent model) :=
  match hcurrent : model.current, hlast : model.history.getLast? with
  | some active, some previous =>
    decidable_of_iff (active.track.trackId = previous.trackId) (by
      simp [RepeatsCurrent, hcurrent, hlast])
  | none, _ => .isFalse (by simp [RepeatsCurrent, hcurrent])
  | some _, none => .isFalse (by simp [RepeatsCurrent, hlast])

/-- The queue without the first copy of a track is the queue without the track, as long as no
identity occurs twice. -/
theorem not_mem_eraseIdx_queuePosition {queue : List QueueTrack} {trackId : Uuid} {index : ℕ}
    (hnodup : (queue.map QueueTrack.trackId).Nodup)
    (h : queuePosition queue trackId = some index) :
    trackId ∉ (queue.eraseIdx index).map QueueTrack.trackId := by
  have hlt := queuePosition_lt h
  have hfound : queue[index].trackId = trackId := by
    unfold queuePosition at h
    rw [List.findIdx?_eq_some_iff_getElem] at h
    obtain ⟨_, hmatch, -⟩ := h
    simpa using hmatch
  have hperm := (List.getElem_cons_eraseIdx_perm hlt).map QueueTrack.trackId
  have hcons := hperm.nodup_iff.mpr hnodup
  rw [List.map_cons, List.nodup_cons, hfound] at hcons
  exact hcons.1

theorem not_mem_of_queuePosition {queue : List QueueTrack} {trackId : Uuid}
    (h : queuePosition queue trackId = none) : trackId ∉ queue.map QueueTrack.trackId := by
  unfold queuePosition at h
  rw [List.findIdx?_eq_none_iff] at h
  intro hmem
  obtain ⟨track, htrack, hid⟩ := List.mem_map.mp hmem
  have hother := h track htrack
  simp [hid] at hother

/-- The queue of `queueAfterPrevious` without the current track in front. -/
theorem queueAfterPrevious_eq (model : PlayerModel) (previous : QueueTrack) :
    ∃ queue, queueAfterPrevious model previous =
        (model.current.map ActiveTrack.track).toList ++ queue ∧ queue.Sublist model.queue ∧
      ((model.queue.map QueueTrack.trackId).Nodup →
        previous.trackId ∉ queue.map QueueTrack.trackId) := by
  unfold queueAfterPrevious
  cases hposition : queuePosition model.queue previous.trackId with
  | some index =>
    refine ⟨model.queue.eraseIdx index, ?_, List.eraseIdx_sublist _ _, ?_⟩
    · cases model.current <;> rfl
    · exact fun hnodup => not_mem_eraseIdx_queuePosition hnodup hposition
  | none =>
    refine ⟨model.queue, ?_, List.Sublist.refl _, ?_⟩
    · cases model.current <;> rfl
    · exact fun _ => not_mem_of_queuePosition hposition

/-- Going back to the current track puts it into the queue as well. -/
theorem RepeatsCurrent.not_nodup {model : PlayerModel} {previous : QueueTrack}
    (h : RepeatsCurrent model) (hlast : model.history.getLast? = some previous) :
    ¬ ((previous :: queueAfterPrevious model previous).map QueueTrack.trackId).Nodup := by
  obtain ⟨active, previous', hcurrent, hlast', hsame⟩ := h
  obtain rfl := Option.some.inj (hlast.symm.trans hlast')
  unfold queueAfterPrevious
  simp [hcurrent, hsame]

namespace PublicShape

variable {capacity : ℕ} {model model' : PlayerModel}

/-- Going back keeps the shape when the track it goes back to is not the current one. -/
theorem wentBack (h : PublicShape model) {previous : QueueTrack} {active' : ActiveTrack}
    (hlast : model.history.getLast? = some previous) (hactive : active'.track = previous)
    (htracks : model'.tracks = active'.track :: queueAfterPrevious model previous)
    (hhistory : model'.history = model.history.dropLast) (hdifferent : ¬ RepeatsCurrent model) :
    PublicShape model' := by
  obtain ⟨queue, hqueue, hsublist, hfresh⟩ := queueAfterPrevious_eq model previous
  have hmem : previous ∈ model.history := List.mem_of_getLast? hlast
  have hparts := h.nodup
  rw [PlayerModel.tracks, List.map_append, List.nodup_append'] at hparts
  obtain ⟨hcurrent, hqueued, hdisjoint⟩ := hparts
  rw [hactive, hqueue] at htracks
  have hrest : ((model.current.map ActiveTrack.track).toList ++ queue).Sublist model.tracks :=
    (List.Sublist.refl _).append hsublist
  refine ⟨?_, ?_⟩
  · intro track htrack
    rw [htracks, hhistory, List.cons_append, List.mem_cons, List.mem_append] at htrack
    rcases htrack with rfl | htrack | htrack
    · exact h.title _ (List.mem_append_right _ hmem)
    · exact h.title track (List.mem_append_left _ (hrest.subset htrack))
    · exact h.title track (List.mem_append_right _ ((List.dropLast_subset _ htrack)))
  · rw [htracks, List.map_cons, List.nodup_cons, List.map_append, List.mem_append, not_or]
    refine ⟨⟨?_, hfresh hqueued⟩, ?_⟩
    · intro hsame
      obtain ⟨track, htrack, hid⟩ := List.mem_map.mp hsame
      rw [Option.mem_toList] at htrack
      obtain ⟨active, hactive', rfl⟩ := Option.map_eq_some_iff.mp htrack
      exact hdifferent ⟨active, previous, hactive', hlast, hid⟩
    · rw [← List.map_append]
      exact (hrest.map QueueTrack.trackId).nodup h.nodup

/-- The one change that can break the shape is going back to the current track. -/
theorem change {cause : Cause} {calls : List CallRecord} (h : PublicShape model)
    (hchange : Change capacity model cause calls model')
    (hprevious : cause = .command .previous → ¬ RepeatsCurrent model) : PublicShape model' := by
  have hsame : ∀ {other : PlayerModel}, other.tracks = model.tracks →
      other.history = model.history → PublicShape other := by
    intro other htracks hhistory
    refine h.shrink (htracks ▸ List.Subperm.refl _) ?_
    rw [hhistory]
    exact fun track htrack => List.mem_append_right _ htrack
  have hkept : ∀ track ∈ model.history, track ∈ model.tracks ++ model.history :=
    fun track htrack => List.mem_append_right _ htrack
  have hpushed : ∀ {active : ActiveTrack}, model.current = some active →
      ∀ track ∈ pushHistory capacity model.history active.track,
        track ∈ model.tracks ++ model.history := by
    intro active hcurrent track htrack
    rcases mem_pushHistory htrack with hmem | rfl
    · exact hkept track hmem
    · rw [PlayerModel.tracks_of_current hcurrent]
      exact List.mem_append_left _ List.mem_cons_self
  have hrequeued : ∀ {queue : List QueueTrack}, queue.Subperm model.queue →
      ((model.current.map ActiveTrack.track).toList ++ queue).Subperm model.tracks :=
    fun hqueue => (List.subperm_append_left _).mpr hqueue
  cases hchange with
  | connected | observed | volumeSet | repeatSet | hrirSet | spatialSet => exact hsame rfl rfl
  | left => exact h.shrink List.nil_subperm (by simp [clearDisconnected])
  | stopped => exact h.shrink List.nil_subperm (by simp)
  | queued tracks hcurrent hnew hroom =>
    refine h.grow hnew ?_ rfl
    have hqueue := insertUpcoming_foldl_perm model.shuffleEnabled tracks model.queue
    refine (hqueue.append_left _).trans ?_
    exact List.perm_append_comm_assoc _ _ _
  | started first rest generation now hvoice hcurrent hnew hroom =>
    refine h.grow hnew ?_ rfl
    rw [PlayerModel.tracks_of_current rfl, PlayerModel.tracks_of_none hcurrent]
    exact (insertUpcoming_foldl_perm model.shuffleEnabled rest model.queue).cons first
  | removed trackId index hindex =>
    exact h.shrink (hrequeued (List.eraseIdx_sublist _ _).subperm) hkept
  | moved trackId beforeTrackId source destination track hsource hdestination =>
    exact h.shrink (hrequeued (insertIdx_eraseIdx_perm hsource hdestination).subperm) hkept
  | resumed active now hcurrent =>
    exact hsame (by rw [PlayerModel.tracks_of_current hcurrent]; rfl) rfl
  | paused active now hcurrent =>
    exact hsame (by rw [PlayerModel.tracks_of_current hcurrent]; rfl) rfl
  | skipped active track rest generation now hcurrent hqueue =>
    refine h.shrink ?_ (hpushed hcurrent)
    rw [PlayerModel.tracks_of_current hcurrent, hqueue]
    exact (List.sublist_cons_self _ _).subperm
  | skippedLast active hcurrent hqueue =>
    refine h.shrink ?_ (hpushed hcurrent)
    rw [PlayerModel.tracks_of_none rfl, hqueue]
    exact List.nil_subperm
  | wentBack previous generation now hlast hroom =>
    exact h.wentBack hlast rfl rfl rfl (hprevious rfl)
  | sought active positionMs advancing generation now hcurrent =>
    exact hsame (by rw [PlayerModel.tracks_of_current hcurrent]; rfl) rfl
  | shuffleSet enabled queue hqueue => exact h.shrink (hrequeued hqueue.subperm) hkept
  | ended active reason calls remaining history next hcurrent hnext =>
    refine h.shrink ?_ ?_
    · rw [PlayerModel.tracks_of_current hcurrent]
      exact hnext.subperm.1
    · rcases hnext.history with rfl | rfl
      · exact hkept
      · exact hpushed hcurrent

/-- The positions are capped by the durations, so the titles and the identities decide. -/
theorem validatePublicShape_snapshot (h : PublicShape model)
    (hqueue : model.queue.length ≤ MAX_SNAPSHOT_QUEUE_ITEMS) (reading : Reading) :
    (model.snapshot reading).validatePublicShape = .ok () := by
  have hids : ((model.snapshot reading).currentTrack.toList ++
      (model.snapshot reading).upcomingTracks).map TrackSnapshot.trackId =
      model.tracks.map QueueTrack.trackId := by
    unfold PlayerModel.snapshot PlayerModel.tracks
    cases model.current <;> simp [Function.comp_def, QueueTrack.snapshot, ActiveTrack.snapshot]
  have hcount : (model.snapshot reading).queuedTracks.toNat = model.queue.length := by
    have hsmall : model.queue.length < UInt32.size :=
      lt_of_le_of_lt hqueue (by decide)
    have hmin : min model.queue.length (UInt32.size - 1) = model.queue.length := by omega
    simp only [PlayerModel.snapshot, hmin]
    exact UInt32.toNat_ofNat_of_lt' hsmall
  rw [PlayerSnapshot.validatePublicShape_eq_ok, hids, hcount]
  refine ⟨by simpa [PlayerModel.snapshot] using hqueue, by simp [PlayerModel.snapshot], ?_, h.nodup⟩
  intro track htrack
  rcases List.mem_append.mp htrack with hmem | hmem
  · obtain ⟨active, hactive, rfl⟩ := Option.map_eq_some_iff.mp (Option.mem_toList.mp hmem)
    have htitle := h.title active.track (List.mem_append_left _ (by
      rw [PlayerModel.tracks_of_current hactive]
      exact List.mem_cons_self))
    exact QueueTrack.validateTrack_snapshot htitle fun duration hduration =>
      ActiveTrack.currentPositionMs_le hduration
  · obtain ⟨upcoming, hupcoming, rfl⟩ := List.mem_map.mp hmem
    have htitle := h.title upcoming (List.mem_append_left _ (List.mem_append_right _ hupcoming))
    exact QueueTrack.validateTrack_snapshot htitle fun duration _ => UInt64.zero_le

end PublicShape

section GoingBack

variable {P S : Type} [PlaybackPort P]

/-- There is a track to go back to, with room for the queue this leaves, a revision and a
generation for it, and the adapter plays it. -/
def Actor.GoesBack (actor : Actor P S) : Prop :=
  match actor.model.history.getLast?, actor.playbackGeneration.next with
  | some previous, some generation =>
    (queueAfterPrevious actor.model previous).length ≤ actor.config.maxQueuedTracks ∧
      actor.model.revision.checkedNext.isSome = true ∧
      (PlaybackPort.call (.play previous generation) actor.playback).1.isOk = true
  | _, _ => False

instance (actor : Actor P S) : Decidable actor.GoesBack := by
  unfold Actor.GoesBack
  split <;> infer_instance

theorem Actor.goesBack_iff {actor : Actor P S} {previous : QueueTrack}
    (hlast : actor.model.history.getLast? = some previous) :
    actor.GoesBack ↔ ∃ generation, actor.playbackGeneration.next = some generation ∧
      (queueAfterPrevious actor.model previous).length ≤ actor.config.maxQueuedTracks ∧
      actor.model.revision.checkedNext.isSome = true ∧
      (PlaybackPort.call (.play previous generation) actor.playback).1.isOk = true := by
  unfold Actor.GoesBack
  rw [hlast]
  cases actor.playbackGeneration.next <;> simp

/-- Where the command to go back leads. -/
def WentBack (a a' : Actor P S) : Prop :=
  if a.GoesBack then
    ∃ previous, a.model.history.getLast? = some previous ∧
      a'.model.tracks = previous :: queueAfterPrevious a.model previous
  else a'.model = a.model

variable [SnapshotPublisher S]

theorem ends_previous {a : Actor P S} (hhistory : a.model.history ≠ []) :
    Ends previous a (fun _ => WentBack a) (fun _ => WentBack a) := by
  have hrefused : ∀ a' : Actor P S, ¬ a.GoesBack → a'.model = a.model → WentBack a a' := by
    intro a' hstays hmodel
    unfold WentBack
    rwa [if_neg hstays]
  obtain ⟨previous, hlast⟩ := Option.isSome_iff_exists.mp (List.getLast?_isSome.mpr hhistory)
  have hlength := queueAfterPrevious_length a.model previous
  have hiff := Actor.goesBack_iff hlast
  unfold Actor.previous
  rw [ends_bind, ends_get]
  simp only [hlast]
  rw [ends_ite]
  split
  · refine hrefused _ (fun hgoes => ?_) rfl
    obtain ⟨_, _, hroom, -⟩ := hiff.mp hgoes
    omega
  rename_i hroom
  rw [ends_bind]
  refine ends_nextRevision (fun next hnext => ?_) fun hnone =>
    hrefused _ (by simp [hiff, hnone]) rfl
  rw [ends_bind]
  refine ends_nextPlaybackGeneration (fun generation hgeneration => ?_) fun hnone =>
    hrefused _ (by simp [hiff, hnone]) rfl
  unfold sideEffect Actor.call
  simp only [ends_bind, ends_get, ends_set, ends_pure]
  cases hcall : (PlaybackPort.call (.play previous generation) a.playback).1 with
  | error message =>
    have hrefuses : (PlaybackPort.call (.play previous generation) a.playback).1.isOk = false := by
      rw [hcall]
      rfl
    exact hrefused _ (by simp [hiff, hgeneration, hrefuses]) rfl
  | ok _ =>
    have haccepts : (PlaybackPort.call (.play previous generation) a.playback).1.isOk = true := by
      rw [hcall]
      rfl
    have hgoes : a.GoesBack :=
      hiff.mpr ⟨generation, hgeneration, by omega, by rw [hnext]; rfl, haccepts⟩
    have hcommit : ∀ {result : Except Failure PlayerSnapshot} {model : PlayerModel}
        (a' : Actor P S), Committed a.idleTimer a a' model result →
        model.tracks = previous :: queueAfterPrevious a.model previous → WentBack a a' := by
      intro result model a' hcommit htracks
      obtain ⟨revision, -, hmodel⟩ := hcommit.revision
      unfold WentBack
      rw [if_pos hgoes, hmodel]
      exact ⟨previous, hlast, htracks⟩
    exact finishChange_ends hnext rfl rfl (fun _ a' h _ _ _ _ => hcommit a' h rfl)
      fun _ a' h _ _ _ _ => hcommit a' h rfl

/-- The actor carries out the command of the envelope at this moment. -/
def Actor.Takes (actor : Actor P S) (envelope : CommandEnvelope) : Prop :=
  envelope.idempotencyKey ∉ actor.recentIdempotency ∧
    envelope.validateAgainst (actor.model.snapshot actor.clock.head)
      actor.clock.tail.head.unix = .ok ()

instance (actor : Actor P S) (envelope : CommandEnvelope) : Decidable (actor.Takes envelope) :=
  inferInstanceAs (Decidable (_ ∧ _))

/-- A fact about the model after an envelope: the command is carried out, or nothing changes. -/
theorem ends_applyCommand_model {a : Actor P S} {envelope : CommandEnvelope}
    {Q : PlayerModel → Prop}
    (hignored : ¬ a.Takes envelope → Q a.model)
    (htaken : a.Takes envelope → Ends (execute envelope.command envelope.idempotencyKey)
      { a with clock := a.clock.tail.tail } (fun _ a' => Q a'.model) (fun _ a' => Q a'.model)) :
    Ends (applyCommand envelope) a (fun _ a' => Q a'.model) (fun _ a' => Q a'.model) := by
  unfold applyCommand
  rw [ends_bind, ends_get]
  by_cases hknown : envelope.idempotencyKey ∈ a.recentIdempotency
  · rw [if_pos hknown, ends_currentSnapshot]
    exact hignored fun htakes => htakes.1 hknown
  rw [if_neg hknown, ends_bind, ends_currentSnapshot, ends_bind, ends_readClock]
  cases hvalid : envelope.validateAgainst (a.model.snapshot a.clock.head)
      a.clock.tail.head.unix with
  | error error =>
    refine hignored fun htakes => ?_
    have hok := htakes.2
    rw [hvalid] at hok
    contradiction
  | ok _ =>
    dsimp only
    rw [ends_bind]
    exact (htaken ⟨hknown, hvalid⟩).imp (fun _ _ h => h) fun _ _ h => h

/-- Where an envelope with the command to go back leads. -/
def WentBackBy (envelope : CommandEnvelope) (a a' : Actor P S) : Prop :=
  if a.Takes envelope then WentBack a a' else a'.model = a.model

theorem ends_applyCommand_previous {a : Actor P S} {envelope : CommandEnvelope}
    (hcommand : envelope.command = .previous) :
    Ends (applyCommand envelope) a (fun _ => WentBackBy envelope a)
      (fun _ => WentBackBy envelope a) := by
  refine ends_applyCommand_model (Q := fun model =>
    ∀ a' : Actor P S, a'.model = model → WentBackBy envelope a a') ?_ ?_ |>.imp
      (fun _ a' h => h a' rfl) fun _ a' h => h a' rfl
  · intro hignored a' hmodel
    unfold WentBackBy
    rwa [if_neg hignored]
  · intro htakes
    obtain ⟨-, havailable⟩ := CommandEnvelope.validateAgainst_eq_ok htakes.2
    have hhistory : a.model.history ≠ [] := by
      rw [hcommand] at havailable
      simpa [PlayerCommand.validateAgainst, PlayerModel.snapshot] using havailable
    have hdone : ∀ a' : Actor P S, WentBack a a' → ∀ a'' : Actor P S, a''.model = a'.model →
        WentBackBy envelope a a'' := by
      intro a' hback a'' hmodel
      unfold WentBackBy
      rw [if_pos htakes]
      unfold WentBack at hback ⊢
      rwa [hmodel]
    have hback := ends_previous (a := { a with clock := a.clock.tail.tail }) hhistory
    rw [hcommand]
    refine hback.imp ?_ ?_
    · intro snapshot a' h
      exact hdone a' h
    · intro failure a' h
      exact hdone a' h

theorem Player.step_previous {player : Player P S} {envelope : CommandEnvelope}
    (hrunning : player.status = .running) (hcommand : envelope.command = .previous) :
    WentBackBy envelope player.actor (player.step (.request (.apply envelope))).2.actor :=
  Player.step_handled hrunning rfl (ends_applyCommand_previous hcommand)

end GoingBack

section Runs

variable {P S : Type}

/-- What the rules of a public snapshot say about the player behind it. -/
structure Player.HasPublicShape (player : Player P S) : Prop where
  valid : ∀ reading, (player.actor.model.snapshot reading).validatePublicShape = .ok ()
  nodup : (player.actor.model.tracks.map QueueTrack.trackId).Nodup
  notQueued : ∀ active ∈ player.actor.model.current, ∀ track ∈ player.actor.model.queue,
    track.trackId ≠ active.track.trackId
  queue_le : player.actor.model.queue.length ≤ player.actor.config.maxQueuedTracks

theorem PublicShape.hasPublicShape {config : PlayerConfig} {player : Player P S}
    (h : PublicShape player.actor.model) (hsound : player.Sound config) :
    player.HasPublicShape := by
  have hqueue := hsound.coherent.queue_le
  refine ⟨?_, h.nodup, ?_, hqueue⟩
  · exact h.validatePublicShape_snapshot (hqueue.trans player.actor.config.maxQueuedTracks_le)
  · intro active hactive track htrack hsame
    have hnodup := h.nodup
    rw [PlayerModel.tracks_of_current hactive, List.map_cons, List.nodup_cons] at hnodup
    exact hnodup.1 (hsame ▸ List.mem_map_of_mem htrack)

variable [PlaybackPort P]

/-- The step carries out a command to go back to the track that is current already. -/
def Player.RequeuesCurrent (player : Player P S) : Input → Prop
  | .request (.apply envelope) =>
    player.status = .running ∧ envelope.command = .previous ∧ player.actor.Takes envelope ∧
      player.actor.GoesBack ∧ RepeatsCurrent player.actor.model
  | _ => False

instance (player : Player P S) (input : Input) : Decidable (player.RequeuesCurrent input) := by
  unfold Player.RequeuesCurrent
  split <;> infer_instance

variable [SnapshotPublisher S]

/-- A step that requeues the current track leaves a player without the shape. -/
theorem Player.RequeuesCurrent.leaves {player : Player P S} {input : Input}
    (h : player.RequeuesCurrent input) : ¬ (player.step input).2.HasPublicShape := by
  unfold Player.RequeuesCurrent at h
  split at h
  · next envelope =>
    obtain ⟨hrunning, hcommand, htakes, hgoes, hrepeats⟩ := h
    have hback := Player.step_previous hrunning hcommand
    unfold WentBackBy WentBack at hback
    rw [if_pos htakes, if_pos hgoes] at hback
    obtain ⟨previous, hlast, htracks⟩ := hback
    intro hshape
    have hnodup := hshape.nodup
    rw [htracks] at hnodup
    exact hrepeats.not_nodup hlast hnodup
  · contradiction

theorem PublicShape.next {config : PlayerConfig} {player player' : Player P S}
    {label : Input × Reply} (h : PublicShape player.actor.model) (hsound : player.Sound config)
    (hstep : Follows Player.step player label player')
    (hkeeps : ¬ player.RequeuesCurrent label.1) : PublicShape player'.actor.model := by
  by_cases hrunning : player.status = .running
  · have hturned := Player.step_turned hrunning hsound.coherent label.1
    rw [show player.step label.1 = (label.2, player') from hstep] at hturned
    cases hturned.moved with
    | kept hmodel => exact hmodel ▸ h
    | @changed cause _ _ next hasks _ hchange _ hmodel =>
      by_cases hprevious : cause = .command .previous ∧ RepeatsCurrent player.actor.model
      · obtain ⟨rfl, hrepeats⟩ := hprevious
        obtain ⟨envelope, hinput, hcommand, -⟩ := hasks.command
        have hback := Player.step_previous hrunning hcommand
        rw [← hinput, show player.step label.1 = (label.2, player') from hstep] at hback
        -- the command is not carried out after all, or the step would requeue the current track
        have hsame : player'.actor.model = player.actor.model := by
          unfold WentBackBy WentBack at hback
          split at hback
          · rename_i htakes
            split at hback
            · rename_i hgoes
              rw [hinput] at hkeeps
              exact absurd ⟨hrunning, hcommand, htakes, hgoes, hrepeats⟩ hkeeps
            · exact hback
          · exact hback
        exact hsame ▸ h
      · rw [hmodel]
        have hshape := h.change hchange fun hcause hrepeats => hprevious ⟨hcause, hrepeats⟩
        exact ⟨hshape.title, hshape.nodup⟩
  · have hended := Player.step_ended hrunning label.1
    rw [show player.step label.1 = (label.2, player') from hstep] at hended
    rw [(Prod.mk.inj hended).2]
    exact h

/-- Every state of a run has the public shape exactly when no step of the run carries out a
command to go back to the track that is current already. -/
theorem publicShape_iff {setup : PlayerSetup P S}
    {taken : List (Taken (Player P S) (Input × Reply))} {player : Player P S}
    (run : setup.Runs taken player) :
    Run.Throughout Player.HasPublicShape taken player ↔
      ∀ t ∈ taken, ¬ t.before.RequeuesCurrent t.label.1 := by
  refine run.throughout_iff (J := fun player => PublicShape player.actor.model) ?_ ?_ ?_ ?_
  · obtain ⟨publisher, events, hplayer⟩ := setup.player_eq
    rw [hplayer]
    exact PublicShape.new _ _
  · intro taken s run hshape
    exact hshape.hasPublicShape (PlayerSetup.Runs.sound run)
  · intro taken s l s' run hshape hstep hkeeps
    exact hshape.next (PlayerSetup.Runs.sound run) hstep hkeeps
  · intro taken s l s' run hstep hshape hrequeues
    have hleaves := hrequeues.leaves
    rw [show s.step l.1 = (l.2, s') from hstep] at hleaves
    exact hleaves hshape

end Runs

/-- Two tracks, and one step back after a skip. -/
def skippedAndBack : List Input :=
  [.request (.connect ⟨.MIN⟩ ⟨0⟩),
    .request (.enqueue (.scripted 1) ⟨1⟩),
    .request (.enqueue (.scripted 2) ⟨2⟩),
    .request (.apply (.scripted 1 3 .skip)),
    .request (.apply (.scripted 2 4 .previous))]

theorem publicShape_of_skippedAndBack :
    (PlayerSetup.after [] skippedAndBack).HasPublicShape ∧
      (PlayerSetup.after [] skippedAndBack).actor.model.tracks.map QueueTrack.trackId =
        [Uuid.fromU128 1, Uuid.fromU128 2] :=
  have run := run_record Player.step (PlayerSetup.scripted []).player skippedAndBack
  ⟨((publicShape_iff run).mpr (by decide +kernel)).2, by decide +kernel⟩

/-- The tracks an input brings. -/
def Input.tracks : Input → List QueueTrack
  | .request (.enqueue track _) => [track]
  | .request (.enqueueBatch tracks _) => tracks
  | _ => []

/-- Under `RepeatMode.queue` the first track ends, the second breaks off, and the first is current
again and still the last of the history. -/
def cycledAndBack : List Input :=
  [.request (.connect ⟨.MIN⟩ ⟨0⟩),
    .request (.enqueue (.scripted 1) ⟨1⟩),
    .request (.enqueue (.scripted 2) ⟨2⟩),
    .request (.apply (.scripted 1 3 (.setRepeat .queue))),
    .request (.playbackEnded ⟨Uuid.fromU128 1, ⟨1⟩⟩ .natural),
    .request (.playbackEnded ⟨Uuid.fromU128 2, ⟨2⟩⟩ .workerFailed),
    .request (.apply (.scripted 2 6 .previous))]

/-- Valid tracks with fresh identities and an adapter that accepts every call do not keep the
shape. -/
theorem publicShape_not_of_fresh :
    ¬ ∀ (P S : Type) [PlaybackPort P] [SnapshotPublisher S] (setup : PlayerSetup P S)
      (taken : List (Taken (Player P S) (Input × Reply))) (player : Player P S),
      setup.Runs taken player →
      (∀ track ∈ taken.flatMap fun t => t.label.1.tracks, track.hasValidPublicTitle = true) →
      ((taken.flatMap fun t => t.label.1.tracks).map QueueTrack.trackId).Nodup →
      ∀ reading, (player.actor.model.snapshot reading).validatePublicShape = .ok () := by
  intro h
  have hshape := h ScriptedPlayback Unit (PlayerSetup.scripted []) _ _
    (run_record Player.step (PlayerSetup.scripted []).player cycledAndBack) (by decide +kernel)
    (by decide +kernel) ⟨⟨0⟩, 0⟩
  have hduplicate : ((PlayerSetup.after [] cycledAndBack).actor.model.snapshot
      ⟨⟨0⟩, 0⟩).validatePublicShape = .error .duplicateTrackId := by decide +kernel
  rw [show (record Player.step (PlayerSetup.scripted []).player cycledAndBack).2 =
    PlayerSetup.after [] cycledAndBack from rfl, hduplicate] at hshape
  contradiction

end PepeAudio
