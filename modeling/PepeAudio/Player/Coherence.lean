import PepeAudio.Lib.Reinsert
import PepeAudio.Player.Change

/-!
# Coherence of the player model

A player is disconnected, idle or active, and each phase fixes what the voice
channel, the state, the current track and the queue are. Every change keeps this,
so that what a command was validated for is still there when it is executed.
-/
namespace PepeAudio

open Actor

theorem insertUpcoming_perm (shuffleEnabled : Bool) (queue : List QueueTrack) (track : QueueTrack) :
    (insertUpcoming shuffleEnabled queue track).Perm (track :: queue) := by
  unfold insertUpcoming
  split
  · exact insertShuffled_perm _ _ _
  · exact List.perm_append_singleton _ _

theorem insertUpcoming_foldl_perm (shuffleEnabled : Bool) (tracks queue : List QueueTrack) :
    (tracks.foldl (insertUpcoming shuffleEnabled) queue).Perm (tracks ++ queue) := by
  induction tracks generalizing queue with
  | nil => exact List.Perm.refl _
  | cons track tracks ih =>
    have hinsert := (insertUpcoming_perm shuffleEnabled queue track).append_left tracks
    exact (ih _).trans (hinsert.trans List.perm_middle)

theorem insertUpcoming_foldl_length (shuffleEnabled : Bool) (tracks queue : List QueueTrack) :
    (tracks.foldl (insertUpcoming shuffleEnabled) queue).length = tracks.length + queue.length := by
  rw [(insertUpcoming_foldl_perm shuffleEnabled tracks queue).length_eq, List.length_append]

theorem pushHistory_length_le {capacity : ℕ} (hpos : 0 < capacity) {history : List QueueTrack}
    (h : history.length ≤ capacity) (track : QueueTrack) :
    (pushHistory capacity history track).length ≤ capacity := by
  unfold pushHistory
  by_cases hfull : history.length = capacity
  · rw [if_pos hfull, List.length_append, List.length_tail, List.length_singleton]
    omega
  · rw [if_neg hfull, List.length_append, List.length_singleton]
    omega

/-- What is found and what is left come from the candidates; a search that finds nothing
leaves nothing. -/
theorem FirstPlayable.sublist {candidates remaining : List QueueTrack} {calls : List CallRecord}
    {next : Option ActiveTrack} (h : FirstPlayable candidates calls next remaining) :
    ((next.map ActiveTrack.track).toList ++ remaining).Sublist candidates ∧
      (next = none → remaining = []) := by
  induction h with
  | exhausted => exact ⟨List.Sublist.refl _, fun _ => rfl⟩
  | accepted track rest generation now => exact ⟨List.Sublist.refl _, fun h => nomatch h⟩
  | refused track generation _ ih => exact ⟨ih.1.cons _, ih.2⟩
  | unnumbered track _ ih => exact ⟨ih.1.cons _, ih.2⟩

/-- Whatever the repeat mode, only the finished track and the queue follow. -/
theorem Succession.subperm {capacity : ℕ} {mode : RepeatMode} {natural : Bool}
    {finished : QueueTrack} {queue history remaining history' : List QueueTrack}
    {calls : List CallRecord} {next : Option ActiveTrack}
    (h : Succession capacity mode natural finished queue history calls next remaining history') :
    ((next.map ActiveTrack.track).toList ++ remaining).Subperm (finished :: queue) ∧
      (next = none → remaining = []) := by
  have hqueue : queue.Subperm (finished :: queue) := (List.sublist_cons_self _ _).subperm
  cases h with
  | brokenOff _ hfirst => exact ⟨hfirst.sublist.1.subperm.trans hqueue, hfirst.sublist.2⟩
  | restarted generation now => exact ⟨List.Subperm.refl _, fun h => nomatch h⟩
  | restartRefused _ _ _ hfirst => exact ⟨hfirst.sublist.1.subperm.trans hqueue, hfirst.sublist.2⟩
  | cycled _ _ _ hfirst =>
    have hperm := (List.perm_append_singleton finished queue).subperm
    exact ⟨hfirst.sublist.1.subperm.trans hperm, hfirst.sublist.2⟩
  | wentOn _ _ hfirst => exact ⟨hfirst.sublist.1.subperm.trans hqueue, hfirst.sublist.2⟩

theorem Succession.history {capacity : ℕ} {mode : RepeatMode} {natural : Bool}
    {finished : QueueTrack} {queue history remaining history' : List QueueTrack}
    {calls : List CallRecord} {next : Option ActiveTrack}
    (h : Succession capacity mode natural finished queue history calls next remaining history') :
    history' = history ∨ history' = pushHistory capacity history finished := by
  cases h with
  | brokenOff | restarted => exact Or.inl rfl
  | restartRefused | cycled | wentOn => exact Or.inr rfl

/-- What the parts of the model say about one another. -/
inductive Phase (model : PlayerModel) : Prop
  | disconnected (hvoice : model.voiceChannelId = none) (hstate : model.state = .disconnected)
      (hcurrent : model.current = none) (hqueue : model.queue = []) (hhistory : model.history = [])
  | idle (hvoice : model.voiceChannelId.isSome = true) (hstate : model.state = .idleConnected)
      (hcurrent : model.current = none) (hqueue : model.queue = [])
  | active (hvoice : model.voiceChannelId.isSome = true)
      (hstate : model.state = .playing ∨ model.state = .paused)
      (hcurrent : model.current.isSome = true)

structure Coherent (capacity : ℕ) (model : PlayerModel) : Prop where
  phase : Phase model
  queue_le : model.queue.length ≤ capacity
  history_le : model.history.length ≤ capacity

namespace Coherent

variable {capacity : ℕ} {model model' : PlayerModel}

theorem new (capacity : ℕ) (guildId : GuildId) (initialRevision : StateRevision) :
    Coherent capacity (PlayerModel.new guildId initialRevision) :=
  ⟨.disconnected rfl rfl rfl rfl rfl, Nat.zero_le _, Nat.zero_le _⟩

theorem voice_of_current (h : Coherent capacity model) {active : ActiveTrack}
    (hcurrent : model.current = some active) :
    model.voiceChannelId.isSome = true ∧ (model.state = .playing ∨ model.state = .paused) := by
  cases h.phase with
  | disconnected _ _ hnone => simp [hnone] at hcurrent
  | idle _ _ hnone => simp [hnone] at hcurrent
  | active hvoice hstate _ => exact ⟨hvoice, hstate⟩

theorem voice_of_history (h : Coherent capacity model) (hhistory : model.history ≠ []) :
    model.voiceChannelId.isSome = true := by
  cases h.phase with
  | disconnected _ _ _ _ hnone => contradiction
  | idle hvoice => exact hvoice
  | active hvoice => exact hvoice

theorem current_of_state (h : Coherent capacity model)
    (hstate : model.state = .playing ∨ model.state = .paused) :
    ∃ active, model.current = some active := by
  cases h.phase with
  | disconnected _ hother => rw [hother] at hstate; simp at hstate
  | idle _ hother => rw [hother] at hstate; simp at hstate
  | active _ _ hcurrent => exact Option.isSome_iff_exists.mp hcurrent

/-- The revision and the settings play no part, and the queue may lose or reorder tracks. -/
theorem congr (h : Coherent capacity model) (hvoice : model'.voiceChannelId = model.voiceChannelId)
    (hstate : model'.state = model.state) (hcurrent : model'.current = model.current)
    (hqueue : model'.queue.length ≤ model.queue.length)
    (hhistory : model'.history = model.history) : Coherent capacity model' := by
  have hempty : model.queue = [] → model'.queue = [] := by
    intro hnil
    rw [hnil] at hqueue
    exact List.eq_nil_of_length_eq_zero (Nat.le_zero.mp hqueue)
  refine ⟨?_, hqueue.trans h.queue_le, hhistory ▸ h.history_le⟩
  cases h.phase with
  | disconnected hv hs hc hq hh =>
    exact .disconnected (hvoice.trans hv) (hstate.trans hs) (hcurrent.trans hc) (hempty hq)
      (hhistory.trans hh)
  | idle hv hs hc hq =>
    exact .idle (hvoice ▸ hv) (hstate.trans hs) (hcurrent.trans hc) (hempty hq)
  | active hv hs hc => exact .active (hvoice ▸ hv) (hstate ▸ hs) (hcurrent ▸ hc)

theorem change {cause : Cause} {calls : List CallRecord} (hpos : 0 < capacity)
    (h : Coherent capacity model) (hchange : Change capacity model cause calls model') :
    Coherent capacity model' := by
  have hpush := fun track => pushHistory_length_le hpos h.history_le track
  cases hchange with
  | connected channel hvoice =>
    cases h.phase with
    | disconnected _ _ hcurrent hqueue _ =>
      exact ⟨.idle rfl rfl hcurrent hqueue, h.queue_le, h.history_le⟩
    | idle hsome => simp [hvoice] at hsome
    | active hsome => simp [hvoice] at hsome
  | observed channel _ =>
    cases h.phase with
    | disconnected _ _ hcurrent hqueue _ =>
      exact ⟨.idle rfl (by simp [hcurrent]) hcurrent hqueue, h.queue_le, h.history_le⟩
    | idle _ _ hcurrent hqueue =>
      exact ⟨.idle rfl (by simp [hcurrent]) hcurrent hqueue, h.queue_le, h.history_le⟩
    | active _ hstate hcurrent =>
      have hsome := Option.isSome_iff_ne_none.mp hcurrent
      exact ⟨.active rfl (by simpa [hsome] using hstate) hcurrent, h.queue_le, h.history_le⟩
  | left => exact ⟨.disconnected rfl rfl rfl rfl rfl, Nat.zero_le _, Nat.zero_le _⟩
  | queued tracks hcurrent hnew hroom =>
    obtain ⟨active, hactive⟩ := Option.isSome_iff_exists.mp hcurrent
    have hvoice := h.voice_of_current hactive
    refine ⟨.active hvoice.1 hvoice.2 hcurrent, ?_, h.history_le⟩
    rw [insertUpcoming_foldl_length]
    omega
  | started first rest generation now hvoice hcurrent hnew hroom =>
    refine ⟨.active hvoice (Or.inl rfl) rfl, ?_, h.history_le⟩
    have hqueue := h.queue_le
    rw [insertUpcoming_foldl_length]
    omega
  | removed trackId index hindex =>
    exact h.congr rfl rfl rfl (List.length_eraseIdx_le _ _) rfl
  | moved trackId beforeTrackId source destination track hsource hdestination =>
    refine h.congr rfl rfl rfl ?_ rfl
    exact (insertIdx_eraseIdx_perm hsource hdestination).length_eq.le
  | resumed active now hcurrent =>
    exact ⟨.active (h.voice_of_current hcurrent).1 (Or.inl rfl) rfl, h.queue_le, h.history_le⟩
  | paused active now hcurrent =>
    exact ⟨.active (h.voice_of_current hcurrent).1 (Or.inr rfl) rfl, h.queue_le, h.history_le⟩
  | stopped calls hcalls hstate =>
    refine ⟨.idle ?_ rfl rfl rfl, Nat.zero_le _, Nat.zero_le _⟩
    cases h.phase with
    | disconnected _ hother => contradiction
    | idle hvoice => exact hvoice
    | active hvoice => exact hvoice
  | skipped active track rest generation now hcurrent hqueue =>
    have hlength := h.queue_le
    rw [hqueue, List.length_cons] at hlength
    refine ⟨.active (h.voice_of_current hcurrent).1 (Or.inl rfl) rfl, ?_, hpush _⟩
    show rest.length ≤ capacity
    omega
  | skippedLast active hcurrent hqueue =>
    exact ⟨.idle (h.voice_of_current hcurrent).1 rfl rfl hqueue, h.queue_le, hpush _⟩
  | wentBack previous generation now hlast hroom =>
    have hhistory : model.history ≠ [] := by
      intro hempty
      simp [hempty] at hlast
    have hlength := h.history_le
    refine ⟨.active (h.voice_of_history hhistory) (Or.inl rfl) rfl, hroom, ?_⟩
    rw [List.length_dropLast]
    omega
  | sought active positionMs advancing generation now hcurrent =>
    have hvoice := h.voice_of_current hcurrent
    exact ⟨.active hvoice.1 hvoice.2 rfl, h.queue_le, h.history_le⟩
  | volumeSet volume => exact h.congr rfl rfl rfl le_rfl rfl
  | repeatSet mode => exact h.congr rfl rfl rfl le_rfl rfl
  | shuffleSet enabled queue hqueue => exact h.congr rfl rfl rfl hqueue.length_eq.le rfl
  | hrirSet preset => exact h.congr rfl rfl rfl le_rfl rfl
  | spatialSet enabled => exact h.congr rfl rfl rfl le_rfl rfl
  | ended active reason calls remaining history next hcurrent hnext =>
    have hvoice := (h.voice_of_current hcurrent).1
    have hqueue := h.queue_le
    have hhistory : history.length ≤ capacity := by
      rcases hnext.history with rfl | rfl
      · exact h.history_le
      · exact hpush _
    have hlength := hnext.subperm.1.length_le
    rw [List.length_append, List.length_cons] at hlength
    cases next with
    | none =>
      have hempty := hnext.subperm.2 rfl
      exact ⟨.idle hvoice rfl rfl hempty, by simp [hempty], hhistory⟩
    | some track =>
      refine ⟨.active hvoice (Or.inl rfl) rfl, ?_, hhistory⟩
      simp only [Option.map_some, Option.toList_some, List.length_singleton] at hlength
      show remaining.length ≤ capacity
      omega

end Coherent

end PepeAudio
