import PepeAudio.Player.QueueMove

/-!
# Reordering the queue by drag and drop

The dashboard shows the queue as it will be once an element is dropped, and
sends which track moves in front of which other one. The player takes the track
out before it looks where the other one is, so that both count differently.
-/
namespace PepeAudio

structure QueueMove (α : Type) where
  trackId : α
  beforeTrackId : Option α

/-- `arrayMove` is the function of that name of the library for dragging. -/
def queueMoveForDrop {α : Type} [DecidableEq α] (arrayMove : List α → ℕ → ℕ → List α)
    (orderedTrackIds : List α) (activeTrackId overTrackId : α) : Option (QueueMove α) :=
  match orderedTrackIds.idxOf? activeTrackId, orderedTrackIds.idxOf? overTrackId with
  | some sourceIndex, some destinationIndex =>
    if sourceIndex = destinationIndex then none
    else
      let reordered := arrayMove orderedTrackIds sourceIndex destinationIndex
      some ⟨activeTrackId, reordered[destinationIndex + 1]?⟩
  | _, _ => none

/-- What is documented of `arrayMove`: it moves the element at one position to another. -/
def MovesElement {α : Type} (arrayMove : List α → ℕ → ℕ → List α) : Prop :=
  ∀ l i j, i < l.length → j < l.length → arrayMove l i j = reinserted l i j

theorem idxOf?_getElem {α : Type} [DecidableEq α] {l : List α} (h : l.Nodup) {i : ℕ}
    (hi : i < l.length) : l.idxOf? l[i] = some i := by
  rw [List.idxOf?, List.findIdx?_eq_some_iff_getElem]
  refine ⟨hi, by simp, fun j hj => ?_⟩
  have hne : l[j] ≠ l[i] := fun heq => absurd (h.getElem_inj_iff.mp heq) (by omega)
  simpa using hne

open Actor

section Positions

variable {queue : List QueueTrack} {i j : ℕ}

/-- The track that the dashboard names stands where the player makes the moved one arrive. -/
theorem moveDestination_reinserted (h : (queue.map QueueTrack.trackId).Nodup)
    (hi : i < queue.length) (hj : j < queue.length) :
    moveDestination queue queue[i].trackId i
      ((reinserted (queue.map QueueTrack.trackId) i j)[j + 1]?) = .ok j := by
  rw [getElem?_reinserted_succ (by simpa)]
  by_cases hup : j < i
  · rw [if_pos hup, List.getElem?_map, List.getElem?_eq_getElem hj, Option.map_some,
      moveDestination_anchor h hi hj (by omega), if_neg (by omega)]
  · rw [if_neg hup]
    by_cases hlast : j + 1 < queue.length
    · rw [List.getElem?_map, List.getElem?_eq_getElem hlast, Option.map_some,
        moveDestination_anchor h hi hlast (by omega), if_pos (by omega), Nat.add_sub_cancel]
    · rw [List.getElem?_eq_none (by simp; omega)]
      simp only [moveDestination, Except.ok.injEq]
      omega

end Positions

variable {P S : Type} [SnapshotPublisher S]

/-- What the dashboard sends for a drop makes the queue what the dashboard showed; where it sends
nothing, it showed the queue as it was. -/
theorem drop_agrees (arrayMove : List Uuid → ℕ → ℕ → List Uuid)
    (hmoves : MovesElement arrayMove) (a : Actor P S)
    (h : (a.model.queue.map QueueTrack.trackId).Nodup) (source destination : ℕ)
    (hsource : source < a.model.queue.length) (hdestination : destination < a.model.queue.length) :
    match queueMoveForDrop arrayMove (a.model.queue.map QueueTrack.trackId)
      a.model.queue[source].trackId a.model.queue[destination].trackId with
    | none => reinserted a.model.queue source destination = a.model.queue
    | some move =>
      Ends (moveQueued move.trackId move.beforeTrackId) a
        (fun _ after => after.model.queue = reinserted a.model.queue source destination)
        (fun error after => error = .error (.revisionExhausted a.model.revision) ∧
          a.model.revision.checkedNext = none ∧ after = a) := by
  have hids : ∀ k (hk : k < a.model.queue.length),
      (a.model.queue.map QueueTrack.trackId).idxOf? a.model.queue[k].trackId = some k := by
    intro k hk
    have hget := idxOf?_getElem h (show k < (a.model.queue.map QueueTrack.trackId).length by simpa)
    rwa [List.getElem_map] at hget
  unfold queueMoveForDrop
  simp only [hids source hsource, hids destination hdestination]
  by_cases hsame : source = destination
  · subst hsame
    rw [if_pos rfl]
    exact reinserted_self hsource
  · rw [if_neg hsame, hmoves _ _ _ (by simpa) (by simpa)]
    refine (ends_moveQueued h hsource hdestination hsame
      (moveDestination_reinserted h hsource hdestination)).imp ?_ fun _ _ hfailed => hfailed
    rintro _ after ⟨next, -, hmodel⟩
    rw [hmodel]

/-- The first of three tracks is dropped on the second one. -/
theorem drop_agrees_downward :
    ∃ reply after,
      moveQueued (QueueTrack.scripted 1).trackId (some (QueueTrack.scripted 3).trackId)
        threeUpcoming = .ok reply after ∧
      after.model.queue = [.scripted 2, .scripted 1, .scripted 3] := by
  have hmove : queueMoveForDrop reinserted (threeUpcoming.model.queue.map QueueTrack.trackId)
      (QueueTrack.scripted 1).trackId (QueueTrack.scripted 2).trackId =
      some ⟨(QueueTrack.scripted 1).trackId, some (QueueTrack.scripted 3).trackId⟩ := rfl
  have hagrees := drop_agrees reinserted (fun _ _ _ _ _ => rfl) threeUpcoming (by decide) 0 1
    (by decide) (by decide)
  rw [show threeUpcoming.model.queue[0].trackId = (QueueTrack.scripted 1).trackId from rfl,
    show threeUpcoming.model.queue[1].trackId = (QueueTrack.scripted 2).trackId from rfl,
    hmove] at hagrees
  dsimp only [Ends] at hagrees
  split at hagrees
  · next reply after hended => exact ⟨reply, after, hended, hagrees⟩
  · exact absurd hagrees.2.1 (by decide)

end PepeAudio
