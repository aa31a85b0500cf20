import PepeAudio.Player.Conformance.Basic
import PepeAudio.Player.PlaybackEnd
import PepeAudio.Player.VoiceState

/-!
# Outcomes of the end of a playback and of observed voice states

The search for the next track tries candidates with the queue taken out of the
model, and only the history may change meanwhile.
-/
namespace PepeAudio

open Actor

variable {P S : Type} [PlaybackPort P] {a₀ a : Actor P S} {calls : List CallRecord}

/-- `Offered generation candidates calls next remaining generation'`: the candidates are offered
to the adapter in order, each under a generation of its own, until it accepts one. -/
inductive Offered : PlaybackGeneration → List QueueTrack → List CallRecord → Option ActiveTrack →
    List QueueTrack → PlaybackGeneration → Prop
  | exhausted (generation : PlaybackGeneration) : Offered generation [] [] none [] generation
  | accepted (track : QueueTrack) (rest : List QueueTrack) (now : ℕ)
      {generation generation' : PlaybackGeneration} (hnext : generation.next = some generation') :
      Offered generation (track :: rest) [⟨.play track generation', true⟩]
        (some (ActiveTrack.playing track generation' now)) rest generation'
  | refused (track : QueueTrack) {generation generation' last : PlaybackGeneration}
      {rest remaining : List QueueTrack} {calls : List CallRecord} {next : Option ActiveTrack}
      (hnext : generation.next = some generation')
      (h : Offered generation' rest calls next remaining last) :
      Offered generation (track :: rest) (⟨.play track generation', false⟩ :: calls) next remaining
        last
  | unnumbered (track : QueueTrack) {generation last : PlaybackGeneration}
      {rest remaining : List QueueTrack} {calls : List CallRecord} {next : Option ActiveTrack}
      (hnext : generation.next = none) (h : Offered generation rest calls next remaining last) :
      Offered generation (track :: rest) calls next remaining last

theorem Offered.firstPlayable {generation last : PlaybackGeneration}
    {candidates remaining : List QueueTrack} {next : Option ActiveTrack}
    (h : Offered generation candidates calls next remaining last) :
    FirstPlayable candidates calls next remaining := by
  induction h with
  | exhausted => exact .exhausted
  | accepted track rest now => exact .accepted track rest _ now
  | refused track _ _ ih => exact .refused track _ ih
  | unnumbered track _ _ ih => exact .unnumbered track ih

/-- An attempt costs at most one call. A refusal is reported, not returned. -/
theorem ends_tryPlay (candidate : QueueTrack) {ok : Option PlaybackGeneration → Actor P S → Prop}
    {err : Failure → Actor P S → Prop} (hunder : Underway a₀ a calls)
    (haccepted : ∀ generation a', a.playbackGeneration.next = some generation →
      a'.playbackGeneration = generation → a'.model = a.model →
      Underway a₀ a' (calls ++ [⟨.play candidate generation, true⟩]) → ok (some generation) a')
    (hrefused : ∀ generation a', a.playbackGeneration.next = some generation →
      a'.playbackGeneration = generation → a'.model = a.model →
      Underway a₀ a' (calls ++ [⟨.play candidate generation, false⟩]) → ok none a')
    (hunnumbered : ∀ a', a.playbackGeneration.next = none →
      a'.playbackGeneration = a.playbackGeneration → a'.model = a.model → Underway a₀ a' calls →
      ok none a') :
    Ends (tryPlay candidate) a ok err := by
  unfold tryPlay
  rw [ends_bind]
  refine ends_attempt (ends_nextPlaybackGeneration (fun generation hnext => ?_) fun hnone => ?_)
  · dsimp only
    rw [ends_bind]
    refine ends_background _ _ (fun playback => ?_) fun playback message => ?_
    · exact haccepted generation _ hnext rfl rfl (hunder.started hnext playback _ rfl)
    · have hfailed := hunder.started hnext playback ⟨.play candidate generation, false⟩ rfl
      exact hrefused generation _ hnext rfl rfl (hfailed.touch _ _ _)
  · exact hunnumbered _ hnone rfl rfl (hunder.touch _ _ _)

theorem ends_firstPlayable {err : Failure → Actor P S → Prop} (candidates : List QueueTrack)
    (hunder : Underway a₀ a calls) :
    Ends (firstPlayable candidates) a
      (fun next a' => a'.model = a.model ∧ ∃ tried, Underway a₀ a' (calls ++ tried) ∧
        Offered a.playbackGeneration candidates tried next.1 next.2 a'.playbackGeneration) err := by
  induction candidates generalizing a calls with
  | nil => exact ⟨rfl, [], by simpa using hunder, .exhausted _⟩
  | cons candidate candidates ih =>
    unfold firstPlayable
    rw [ends_bind]
    refine ends_tryPlay candidate hunder ?_ ?_ ?_
    · rintro generation a' hnext rfl hmodel hunder'
      exact ⟨hmodel, _, hunder'.touch _ _ _, .accepted candidate candidates _ hnext⟩
    · rintro generation a' hnext rfl hmodel hunder'
      refine (ih hunder').imp ?_ (fun _ _ h => h)
      rintro next a'' ⟨hmodel', tried, hunder'', hoffered⟩
      rw [List.append_assoc] at hunder''
      exact ⟨hmodel'.trans hmodel, _, hunder'', .refused candidate hnext hoffered⟩
    · intro a' hnone hgeneration hmodel hunder'
      refine (ih hunder').imp ?_ (fun _ _ h => h)
      rintro next a'' ⟨hmodel', tried, hunder'', hoffered⟩
      rw [hgeneration] at hoffered
      exact ⟨hmodel'.trans hmodel, tried, hunder'', .unnumbered candidate hnone hoffered⟩

/-- The tracks that are offered when `finished` has ended, in order. -/
def endCandidates (mode : RepeatMode) (natural : Bool) (finished : QueueTrack)
    (queue : List QueueTrack) : List QueueTrack :=
  match natural, mode with
  | true, .track => finished :: queue
  | true, .queue => queue ++ [finished]
  | true, .off => queue
  | false, _ => queue

/-- How the search for what follows `finished` ends: only the history of the model may change. -/
def Succeeds (a₀ a : Actor P S) (natural : Bool) (finished : QueueTrack) (queue : List QueueTrack)
    (next : Option ActiveTrack × List QueueTrack) (a' : Actor P S) : Prop :=
  ∃ tried history, Underway a₀ a' tried ∧ a'.model = { a.model with history := history } ∧
    Succession a₀.config.maxQueuedTracks a.model.repeatMode natural finished queue
      a.model.history tried next.1 next.2 history ∧
    Offered a.playbackGeneration (endCandidates a.model.repeatMode natural finished queue) tried
      next.1 next.2 a'.playbackGeneration

/-- The finished track is remembered, then the candidates are tried. -/
theorem ends_remembered {finished : QueueTrack} {queue candidates : List QueueTrack}
    {tried : List CallRecord} {err : Failure → Actor P S → Prop} {a' : Actor P S}
    (hunder : Underway a₀ a' tried) (hmodel : a'.model = a.model)
    (hnext : ∀ calls next remaining, FirstPlayable candidates calls next remaining →
      Succession a₀.config.maxQueuedTracks a.model.repeatMode true finished queue a.model.history
        (tried ++ calls) next remaining
        (pushHistory a₀.config.maxQueuedTracks a.model.history finished))
    (hoffered : ∀ calls next remaining last,
      Offered a'.playbackGeneration candidates calls next remaining last →
      Offered a.playbackGeneration (endCandidates a.model.repeatMode true finished queue)
        (tried ++ calls) next remaining last) :
    Ends (do rememberTrack finished; firstPlayable candidates) a'
      (Succeeds a₀ a true finished queue) err := by
  unfold rememberTrack
  rw [ends_bind, ends_modify]
  refine (ends_firstPlayable candidates (hunder.touch _ _ _)).imp ?_ (fun _ _ h => h)
  rintro next a'' ⟨hmodel', calls, hunder', hfirst⟩
  refine ⟨tried ++ calls, _, hunder', ?_, hnext calls next.1 next.2 hfirst.firstPlayable,
    hoffered calls next.1 next.2 _ hfirst⟩
  rw [hmodel', hmodel, hunder.config]

theorem ends_restartOrAdvance {finished : QueueTrack} {queue : List QueueTrack}
    {err : Failure → Actor P S → Prop} (hunder : Underway a₀ a [])
    (hmode : a.model.repeatMode = .track ∨ a.model.repeatMode = .queue ∧ queue = []) :
    Ends (restartOrAdvance finished queue) a (Succeeds a₀ a true finished queue) err := by
  have hcandidates : endCandidates a.model.repeatMode true finished queue = finished :: queue := by
    rcases hmode with hmode | ⟨hmode, rfl⟩ <;> rw [hmode] <;> rfl
  unfold restartOrAdvance
  rw [ends_bind]
  refine ends_tryPlay finished hunder ?_ ?_ ?_
  · rintro generation a' hnext rfl hmodel hunder'
    refine ⟨_, a.model.history, hunder'.touch _ _ _, hmodel, .restarted _ _ rfl hmode, ?_⟩
    rw [hcandidates]
    exact .accepted finished queue _ hnext
  · rintro generation a' hnext rfl hmodel hunder'
    refine ends_remembered hunder' hmodel (fun calls next remaining hfirst => ?_)
      fun calls next remaining last hoffered => ?_
    · exact .restartRefused rfl hmode (Or.inr ⟨_, rfl⟩) hfirst
    · rw [hcandidates]
      exact .refused finished hnext hoffered
  · intro a' hnone hgeneration hmodel hunder'
    refine ends_remembered hunder' hmodel (fun calls next remaining hfirst => ?_)
      fun calls next remaining last hoffered => ?_
    · exact .restartRefused rfl hmode (Or.inl rfl) hfirst
    · rw [hcandidates]
      exact .unnumbered finished hnone (hgeneration ▸ hoffered)

theorem ends_afterNaturalEnd {finished : QueueTrack} {queue : List QueueTrack}
    {err : Failure → Actor P S → Prop} (hunder : Underway a₀ a []) :
    Ends (afterNaturalEnd finished queue) a (Succeeds a₀ a true finished queue) err := by
  unfold afterNaturalEnd
  rw [ends_bind, ends_getModel]
  cases hmode : a.model.repeatMode with
  | track => exact ends_restartOrAdvance hunder (Or.inl hmode)
  | queue =>
    by_cases hempty : queue.isEmpty = true
    · rw [if_pos hempty]
      exact ends_restartOrAdvance hunder (Or.inr ⟨hmode, List.isEmpty_iff.mp hempty⟩)
    · rw [if_neg hempty]
      refine ends_remembered hunder rfl (fun calls next remaining hfirst => ?_)
        fun calls next remaining last hoffered => ?_
      · exact .cycled rfl hmode (fun h => hempty (List.isEmpty_iff.mpr h)) hfirst
      · rw [hmode]
        exact hoffered
  | off =>
    refine ends_remembered hunder rfl (fun calls next remaining hfirst => ?_)
      fun calls next remaining last hoffered => ?_
    · exact .wentOn rfl hmode hfirst
    · rw [hmode]
      exact hoffered

variable [SnapshotPublisher S]

theorem conforms_playbackEnded (identity : PlaybackIdentity) (reason : PlaybackEndReason) :
    Conforms a (.playbackEnded identity reason) (playbackEnded identity reason) := by
  unfold playbackEnded Conforms
  rw [continues_getModel]
  cases hcurrent : a.model.current with
  | none => exact conforms_currentSnapshot a
  | some active =>
    dsimp only
    by_cases hidentity : active.identity ≠ identity
    · rw [if_pos hidentity]
      exact conforms_currentSnapshot a
    · rw [if_neg hidentity]
      refine conforms_nextRevision fun next hnext => ?_
      unfold Conforms
      rw [continues_getModel, continues_getModel, continues_modifyModel]
      have hunder := (Underway.refl a).touch { a.model with current := none, queue := [] }
        a.clock a.events
      have hfinish : ∀ next' a', Succeeds a { a with
          model := { a.model with current := none, queue := [] } } reason.isNatural active.track
          a.model.queue next' a' → Continues a a' (.playbackEnded identity reason) (do
            modifyModel fun model =>
              { model with
                queue := next'.2
                current := next'.1
                state := if next'.1.isSome then .playing else .idleConnected }
            finishChange a.model.isIdleConnected next) := by
        rintro next' a' ⟨tried, history, hunder', hmodel, hsuccession, -⟩
        rw [continues_modifyModel, hmodel]
        refine (hunder'.touch _ _ _).finished hnext ?_
        rw [← not_not.mp hidentity]
        exact .ended active reason tried next'.2 history next'.1 hcurrent hsuccession
      cases hreason : reason.isNatural with
      | true =>
        rw [hreason] at hfinish
        unfold Continues
        rw [if_pos rfl, ends_bind]
        exact (ends_afterNaturalEnd hunder).imp hfinish fun _ _ h => h
      | false =>
        rw [hreason] at hfinish
        unfold Continues
        rw [if_neg Bool.false_ne_true, ends_bind]
        refine (ends_firstPlayable a.model.queue hunder).imp ?_ fun _ _ h => h
        rintro next' a' ⟨hmodel, tried, hunder', hfirst⟩
        exact hfinish next' a' ⟨tried, a.model.history, hunder', hmodel,
          .brokenOff rfl hfirst.firstPlayable, hfirst⟩

omit [SnapshotPublisher S] in
theorem ends_disconnectBestEffort {ok : Unit → Actor P S → Prop}
    {err : Failure → Actor P S → Prop} (hunder : Underway a₀ a calls)
    (h : ∀ succeeded a', a'.model = a.model →
      Underway a₀ a' (calls ++ [⟨.disconnect, succeeded⟩]) → ok () a') :
    Ends disconnectBestEffort a ok err := by
  unfold disconnectBestEffort
  rw [ends_bind]
  refine ends_background _ _ (fun playback => ?_) fun playback message => ?_
  · exact h true _ rfl (hunder.called playback _ rfl)
  · have hfailed := hunder.called playback ⟨.disconnect, false⟩ rfl
    exact h false _ rfl (hfailed.touch _ _ _)

theorem conforms_reconcileVoiceChannel (observedChannel : Option ChannelId) :
    Conforms a (.observed observedChannel) (reconcileVoiceChannel observedChannel) := by
  unfold reconcileVoiceChannel Conforms
  rw [continues_getModel]
  by_cases hsame : a.model.voiceChannelId = observedChannel
  · rw [if_pos hsame]
    exact conforms_currentSnapshot a
  rw [if_neg hsame]
  refine conforms_nextRevision fun next hnext => ?_
  unfold Conforms
  rw [continues_getModel]
  have hleft : ∀ tried a', (∀ record ∈ tried, record.call.isVoice = true) →
      a'.model = a.model → Underway a a' tried → Continues a a' (.observed observedChannel) (do
        modifyModel clearDisconnected
        finishChange a.model.isIdleConnected next) := by
    intro tried a' hvoice hmodel hunder
    rw [continues_modifyModel, hmodel]
    exact (hunder.touch _ _ _).finished hnext (.left _ tried (Or.inr (Or.inr ⟨_, rfl⟩)) hvoice)
  cases observedChannel with
  | some channel =>
    unfold Continues connectObservedChannel
    rw [ends_bind, ends_bind]
    refine ends_background _ _ (fun playback => ?_) fun playback message => ?_
    · have hunder := (Underway.refl a).called playback ⟨.connect channel, true⟩ rfl
      exact (hunder.touch _ _ _).finished hnext (.observed channel hsame)
    · have hfailed := (Underway.refl a).called playback ⟨.connect channel, false⟩ rfl
      rw [if_neg Bool.false_ne_true, ends_bind]
      refine ends_disconnectBestEffort (hfailed.touch _ _ _) fun succeeded a' hmodel hunder => ?_
      exact hleft _ a' (by simp [PlaybackCall.isVoice]) hmodel hunder
  | none =>
    unfold Continues
    dsimp only
    rw [ends_bind]
    refine ends_disconnectBestEffort (Underway.refl a) fun succeeded a' hmodel hunder => ?_
    exact hleft _ a' (by simp [PlaybackCall.isVoice]) hmodel hunder

end PepeAudio
