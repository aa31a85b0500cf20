import PepeAudio.Lib.Reinsert
import PepeAudio.Player.Conformance.Queue
import PepeAudio.Player.Runtime

/-!
# Moving an upcoming track

A track is moved in front of another one or to the end. It is taken out before
it is put in again, so that the place in front of a later track is one less than
where that track stood.
-/
namespace PepeAudio

open Actor

section Positions

variable {queue : List QueueTrack} {i k : ℕ}

theorem queuePosition_getElem (h : (queue.map QueueTrack.trackId).Nodup) (hi : i < queue.length) :
    queuePosition queue queue[i].trackId = some i := by
  rw [queuePosition, List.findIdx?_eq_some_iff_getElem]
  refine ⟨hi, by simp, fun j hj => ?_⟩
  have hne : queue[j].trackId ≠ queue[i].trackId := by
    intro heq
    have hlti : i < (queue.map QueueTrack.trackId).length := by simpa
    have hltj : j < (queue.map QueueTrack.trackId).length := by simp; omega
    have hmap : (queue.map QueueTrack.trackId)[j] = (queue.map QueueTrack.trackId)[i] := by
      simpa using heq
    have := h.getElem_inj_iff.mp hmap
    omega
  simpa using hne

theorem queuePosition_eq_none {trackId : Uuid} :
    queuePosition queue trackId = none ↔ trackId ∉ queue.map QueueTrack.trackId := by
  simp [queuePosition]

/-- A track that is queued stands at some position. -/
theorem exists_getElem_of_mem {trackId : Uuid} (h : trackId ∈ queue.map QueueTrack.trackId) :
    ∃ i, ∃ hi : i < queue.length, queue[i].trackId = trackId := by
  obtain ⟨track, htrack, rfl⟩ := List.mem_map.mp h
  obtain ⟨i, hi, rfl⟩ := List.getElem_of_mem htrack
  exact ⟨i, hi, rfl⟩

theorem trackId_getElem_ne (h : (queue.map QueueTrack.trackId).Nodup) (hi : i < queue.length)
    (hk : k < queue.length) (hki : k ≠ i) : queue[k].trackId ≠ queue[i].trackId := by
  intro heq
  have hsame := queuePosition_getElem h hk
  rw [heq, queuePosition_getElem h hi] at hsame
  exact hki (Option.some.inj hsame).symm

/-- The removal shifts an anchor back when it comes after the moved track. -/
theorem moveDestination_anchor (h : (queue.map QueueTrack.trackId).Nodup) (hi : i < queue.length)
    (hk : k < queue.length) (hki : k ≠ i) :
    moveDestination queue queue[i].trackId i (some queue[k].trackId) =
      .ok (if i < k then k - 1 else k) := by
  simp only [moveDestination, if_neg (trackId_getElem_ne h hi hk hki), queuePosition_getElem h hk]

end Positions

/-- The tracks a move names are both queued. -/
def NamesQueued (queue : List QueueTrack) (trackId : Uuid) (beforeTrackId : Option Uuid) : Prop :=
  trackId ∈ queue.map QueueTrack.trackId ∧
    ∀ before ∈ beforeTrackId, before ∈ queue.map QueueTrack.trackId

/-- Where a move puts its track: last, where it was, or right in front of the anchor. -/
def Placed (trackId : Uuid) (old new : List QueueTrack) : Option Uuid → Prop
  | none => ∃ front track, track.trackId = trackId ∧ new = front ++ [track]
  | some before =>
    if before = trackId then new = old
    else ∃ front track anchor rest, track.trackId = trackId ∧ anchor.trackId = before ∧
      new = front ++ track :: anchor :: rest

/-- The queue after a move: the same tracks, the others in their order, the moved one in place. -/
structure Reordered (trackId : Uuid) (beforeTrackId : Option Uuid) (old new : List QueueTrack) :
    Prop where
  perm : new.Perm old
  others : (new.filter fun track => track.trackId ≠ trackId) =
    old.filter fun track => track.trackId ≠ trackId
  placed : Placed trackId old new beforeTrackId

section Destination

variable {queue : List QueueTrack} {i : ℕ} {beforeTrackId : Option Uuid}

/-- The destination is computed exactly when the anchor is queued, and it is the right one. -/
theorem moveDestination_spec (beforeTrackId : Option Uuid)
    (h : (queue.map QueueTrack.trackId).Nodup) (hi : i < queue.length) :
    match moveDestination queue queue[i].trackId i beforeTrackId with
    | .ok destination => NamesQueued queue queue[i].trackId beforeTrackId ∧
        destination < queue.length ∧
        Placed queue[i].trackId queue (reinserted queue i destination) beforeTrackId
    | .error error => ∃ before ∈ beforeTrackId, before ∉ queue.map QueueTrack.trackId ∧
        error = .invalidCommand (.queuedTrackNotFound before) := by
  have hqueued : queue[i].trackId ∈ queue.map QueueTrack.trackId :=
    List.mem_map_of_mem (List.getElem_mem hi)
  cases beforeTrackId with
  | none =>
    obtain ⟨front, hlast⟩ := reinserted_last hi
    exact ⟨⟨hqueued, by simp⟩, by omega, front, queue[i], rfl, hlast⟩
  | some before =>
    by_cases hself : before = queue[i].trackId
    · subst hself
      simp only [moveDestination, if_pos]
      refine ⟨⟨hqueued, by simpa using hqueued⟩, hi, ?_⟩
      simp only [Placed, if_pos]
      exact reinserted_self hi
    · by_cases hmem : before ∈ queue.map QueueTrack.trackId
      · obtain ⟨k, hk, rfl⟩ := exists_getElem_of_mem hmem
        have hki : k ≠ i := by
          rintro rfl
          exact hself rfl
        obtain ⟨front, rest, hbefore⟩ := reinserted_before hi hk hki
        rw [moveDestination_anchor h hi hk hki]
        refine ⟨⟨hqueued, by simpa using hmem⟩, by split_ifs <;> omega, ?_⟩
        simp only [Placed, if_neg hself]
        exact ⟨front, queue[i], queue[k], rest, rfl, rfl, hbefore⟩
      · simp only [moveDestination, if_neg hself, queuePosition_eq_none.mpr hmem]
        exact ⟨before, rfl, hmem, rfl⟩

theorem reordered_of_placed (hi : i < queue.length) {j : ℕ} (hj : j < queue.length)
    (hplaced : Placed queue[i].trackId queue (reinserted queue i j) beforeTrackId) :
    Reordered queue[i].trackId beforeTrackId queue (reinserted queue i j) :=
  ⟨reinserted_perm hi hj, filter_reinserted hi hj (by simp), hplaced⟩

end Destination

section Handler

variable {P S : Type} [SnapshotPublisher S] {a : Actor P S}

/-- A queue with a track in it keeps the timer out of play. -/
theorem isIdleConnected_of_queue {model : PlayerModel} (h : 0 < model.queue.length) :
    model.isIdleConnected = false := by
  have hempty : model.queue.isEmpty = false := by
    rw [List.isEmpty_eq_false_iff, ← List.length_pos_iff]
    exact h
  simp [PlayerModel.isIdleConnected, hempty]

/-- A move whose destination is known puts the track there, or fails with the revision alone. -/
theorem ends_moveQueued {i j : ℕ} {beforeTrackId : Option Uuid}
    (h : (a.model.queue.map QueueTrack.trackId).Nodup) (hi : i < a.model.queue.length)
    (hj : j < a.model.queue.length) (hne : i ≠ j)
    (hdestination : moveDestination a.model.queue a.model.queue[i].trackId i beforeTrackId =
      .ok j) :
    Ends (moveQueued a.model.queue[i].trackId beforeTrackId) a
      (fun _ after => ∃ next, a.model.revision.checkedNext = some next ∧
        after.model = { a.model with queue := reinserted a.model.queue i j, revision := next })
      (fun error after => error = .error (.revisionExhausted a.model.revision) ∧
        a.model.revision.checkedNext = none ∧ after = a) := by
  have hlength := List.length_eraseIdx_of_lt hi
  unfold moveQueued
  rw [ends_bind, ends_getModel]
  simp only [queuePosition_getElem h hi, hdestination, if_neg (Ne.symm hne)]
  rw [ends_bind]
  refine ends_nextRevision (fun next hnext => ?_) fun hnone => ⟨rfl, hnone, rfl⟩
  rw [ends_bind, ends_getModel]
  simp only [List.getElem?_eq_getElem hi, if_neg (show ¬ (a.model.queue.eraseIdx i).length < j by
    omega)]
  rw [ends_bind, ends_modifyModel, isIdleConnected_of_queue (by omega), ← reinserted_of_lt hi]
  refine ends_finishChange_busy (isIdleConnected_of_queue ?_) fun _ b hmodel _ _ => ?_
  · exact (reinserted_perm hi hj).length_eq ▸ Nat.zero_lt_of_lt hi
  · exact ⟨next, hnext, hmodel⟩

/-- What a successful move leaves: only the queue and, if it differs, the revision are new. -/
structure MoveDone (a : Actor P S) (trackId : Uuid) (beforeTrackId : Option Uuid)
    (after : Actor P S) : Prop where
  named : NamesQueued a.model.queue trackId beforeTrackId
  reordered : Reordered trackId beforeTrackId a.model.queue after.model.queue
  rest : after.model = { a.model with
    queue := after.model.queue
    revision := after.model.revision }
  revision : after.model.revision ≠ a.model.revision ↔ after.model.queue ≠ a.model.queue

/-- Why a move fails: no revision is left, or a track it names is not queued. -/
inductive MoveFailure (a : Actor P S) (trackId : Uuid) (beforeTrackId : Option Uuid) :
    Failure → Prop
  | exhausted (hnone : a.model.revision.checkedNext = none) :
      MoveFailure a trackId beforeTrackId (.error (.revisionExhausted a.model.revision))
  | unknown (unknown : Uuid) (hnamed : unknown = trackId ∨ unknown ∈ beforeTrackId)
      (hunknown : unknown ∉ a.model.queue.map QueueTrack.trackId) :
      MoveFailure a trackId beforeTrackId
        (.error (.invalidCommand (.queuedTrackNotFound unknown)))

theorem moveQueued_spec (h : (a.model.queue.map QueueTrack.trackId).Nodup) (trackId : Uuid)
    (beforeTrackId : Option Uuid) :
    Ends (moveQueued trackId beforeTrackId) a
      (fun _ after => MoveDone a trackId beforeTrackId after)
      (fun failure after => after = a ∧ MoveFailure a trackId beforeTrackId failure) := by
  by_cases hmem : trackId ∈ a.model.queue.map QueueTrack.trackId
  · obtain ⟨i, hi, rfl⟩ := exists_getElem_of_mem hmem
    have hspec := moveDestination_spec beforeTrackId h hi
    cases hdestination : moveDestination a.model.queue a.model.queue[i].trackId i beforeTrackId with
    | error error =>
      rw [hdestination] at hspec
      obtain ⟨before, hbefore, hunknown, rfl⟩ := hspec
      unfold moveQueued
      rw [ends_bind, ends_getModel]
      simp only [queuePosition_getElem h hi, hdestination]
      exact ⟨rfl, .unknown before (Or.inr hbefore) hunknown⟩
    | ok j =>
      rw [hdestination] at hspec
      obtain ⟨hqueued, hj, hplaced⟩ := hspec
      have hreordered := reordered_of_placed hi hj hplaced
      by_cases hsame : i = j
      · subst hsame
        rw [reinserted_self hi] at hreordered
        unfold moveQueued
        rw [ends_bind, ends_getModel]
        simp only [queuePosition_getElem h hi, hdestination, if_pos]
        exact ⟨hqueued, hreordered, rfl, by simp⟩
      · refine (ends_moveQueued h hi hj hsame hdestination).imp ?_ ?_
        · rintro _ after ⟨next, hnext, hmodel⟩
          have hchanged := reinserted_ne h.of_map hi hj hsame
          have hbumped : next ≠ a.model.revision := by
            intro heq
            have hvalue := StateRevision.checkedNext_toNat hnext
            rw [heq] at hvalue
            omega
          have hqueue : after.model.queue = reinserted a.model.queue i j := by rw [hmodel]
          have hrevision : after.model.revision = next := by rw [hmodel]
          refine ⟨hqueued, hqueue ▸ hreordered, ?_, ?_⟩
          · rw [hqueue, hrevision]
            exact hmodel
          · simp [hqueue, hrevision, hchanged, hbumped]
        · rintro failure after ⟨hfailure, hnone, hafter⟩
          exact ⟨hafter, hfailure ▸ .exhausted hnone⟩
  · unfold moveQueued
    rw [ends_bind, ends_getModel]
    simp only [queuePosition_eq_none.mpr hmem]
    exact ⟨rfl, .unknown trackId (Or.inl rfl) hmem⟩

omit [SnapshotPublisher S] in
/-- The validation of the command asks for the same tracks. -/
theorem validateAgainst_moveQueued {trackId : Uuid} {beforeTrackId : Option Uuid}
    (reading : Reading) :
    PlayerCommand.validateAgainst (a.model.snapshot reading)
        (.moveQueued trackId beforeTrackId) = .ok () ↔
      NamesQueued a.model.queue trackId beforeTrackId := by
  have hupcoming : ∀ named, (a.model.snapshot reading).hasUpcoming named = true ↔
      named ∈ a.model.queue.map QueueTrack.trackId := by
    intro named
    simp [PlayerSnapshot.hasUpcoming, PlayerModel.snapshot, QueueTrack.snapshot]
  unfold PlayerCommand.validateAgainst NamesQueued
  rw [← hupcoming]
  cases beforeTrackId with
  | none =>
    by_cases hknown : (a.model.snapshot reading).hasUpcoming trackId = true <;> simp [hknown]
  | some before =>
    have hbefore := hupcoming before
    simp only [Option.mem_some_iff, forall_eq', ← hbefore]
    by_cases hknown : (a.model.snapshot reading).hasUpcoming trackId = true <;>
      by_cases hanchor : (a.model.snapshot reading).hasUpcoming before = true <;>
      simp [hknown, hanchor]

/-- A move succeeds exactly when the tracks it names are queued, as its validation asks, unless the
revision is exhausted. It reorders the queue as it is to and counts only a new order; otherwise it
fails with the reason and changes nothing. -/
theorem moveQueued_exact (a : Actor P S) (h : (a.model.queue.map QueueTrack.trackId).Nodup)
    (trackId : Uuid) (beforeTrackId : Option Uuid) :
    (a.model.revision.checkedNext.isSome = true →
      ((∃ snapshot after, moveQueued trackId beforeTrackId a = .ok snapshot after) ↔
        NamesQueued a.model.queue trackId beforeTrackId)) ∧
    (∀ reading, PlayerCommand.validateAgainst (a.model.snapshot reading)
        (.moveQueued trackId beforeTrackId) = .ok () ↔
      NamesQueued a.model.queue trackId beforeTrackId) ∧
    Ends (moveQueued trackId beforeTrackId) a
      (fun _ after => MoveDone a trackId beforeTrackId after)
      (fun failure after => after = a ∧ MoveFailure a trackId beforeTrackId failure) := by
  have hspec := moveQueued_spec h trackId beforeTrackId
  refine ⟨fun hrevision => ⟨?_, fun hnamed => ?_⟩, validateAgainst_moveQueued, hspec⟩
  · rintro ⟨snapshot, after, hresult⟩
    exact (hspec.of_ok hresult).named
  · cases hresult : moveQueued trackId beforeTrackId a with
    | ok snapshot after => exact ⟨snapshot, after, rfl⟩
    | error failure after =>
      cases (hspec.of_error hresult).2 with
      | exhausted hnone => simp [hnone] at hrevision
      | unknown unknown hunknown hmissing =>
        rcases hunknown with rfl | hbefore
        · exact absurd hnamed.1 hmissing
        · exact absurd (hnamed.2 unknown hbefore) hmissing

end Handler

/-- A player with three upcoming tracks, at a revision that is not the last. -/
def threeUpcoming : Actor ScriptedPlayback Unit :=
  let actor := (PlayerSetup.scripted []).player.actor
  { actor with model := { actor.model with queue := [.scripted 1, .scripted 2, .scripted 3] } }

/-- The first of them goes in front of the last. -/
theorem moveQueued_exact_threeUpcoming :
    (∃ snapshot after, moveQueued (QueueTrack.scripted 1).trackId
        (some (QueueTrack.scripted 3).trackId) threeUpcoming = .ok snapshot after) ↔
      NamesQueued threeUpcoming.model.queue (QueueTrack.scripted 1).trackId
        (some (QueueTrack.scripted 3).trackId) :=
  (moveQueued_exact threeUpcoming (by decide) (QueueTrack.scripted 1).trackId
    (some (QueueTrack.scripted 3).trackId)).1 (by decide +kernel)

end PepeAudio
