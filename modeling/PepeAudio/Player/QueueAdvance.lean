import PepeAudio.Player.PublicShape

/-!
# The queue across the end of a track

What follows a finished track is the first candidate the adapter accepts, and
what is queued then is exactly the rest of the candidates. A playback that broke
off is followed by the queue alone. Its track can only come back if the queue
holds a second copy of it, which takes a step back to the current track.
-/
namespace PepeAudio

open Actor

variable {P S : Type}

/-- The adapter was asked to play the track and refused. -/
def Refused (track : QueueTrack) (record : CallRecord) : Prop :=
  ∃ generation, record = ⟨.play track generation, false⟩

/-- The candidates up to the first accepted one are gone, and those after it are left in their
order. Only when `exhausted` is a candidate passed over without an attempt. -/
inductive Settled (candidates : List QueueTrack) (exhausted : Prop) :
    List CallRecord → Option ActiveTrack → List QueueTrack → Prop
  | found (refused : List QueueTrack) (track : QueueTrack) (rest : List QueueTrack)
      (generation : PlaybackGeneration) (now : ℕ) {calls : List CallRecord}
      (hcandidates : candidates = refused ++ track :: rest)
      (hcalls : List.Forall₂ Refused refused calls) :
      Settled candidates exhausted (calls ++ [⟨.play track generation, true⟩])
        (some (ActiveTrack.playing track generation now)) rest
  | silent (refused unoffered : List QueueTrack) {calls : List CallRecord}
      (hcandidates : candidates = refused ++ unoffered)
      (hcalls : List.Forall₂ Refused refused calls) (hleft : unoffered ≠ [] → exhausted) :
      Settled candidates exhausted calls none []

namespace Settled

variable {candidates remaining : List QueueTrack} {exhausted : Prop} {calls : List CallRecord}
  {next : Option ActiveTrack}

theorem refused {track : QueueTrack} (generation : PlaybackGeneration)
    (h : Settled candidates exhausted calls next remaining) :
    Settled (track :: candidates) exhausted (⟨.play track generation, false⟩ :: calls) next
      remaining := by
  cases h with
  | found refused other rest number now hcandidates hcalls =>
    rw [hcandidates]
    exact .found (track :: refused) other _ number now rfl (.cons ⟨generation, rfl⟩ hcalls)
  | silent refused unoffered hcandidates hcalls hleft =>
    rw [hcandidates]
    exact .silent (track :: refused) unoffered rfl (.cons ⟨generation, rfl⟩ hcalls) hleft

/-- There is at most one attempt for each candidate. -/
theorem calls_length_le (h : Settled candidates exhausted calls next remaining) :
    calls.length ≤ candidates.length := by
  cases h with
  | found refused track rest generation now hcandidates hcalls =>
    have hlength := hcalls.length_eq
    rw [hcandidates]
    simp only [List.length_append, List.length_cons, List.length_nil]
    omega
  | silent refused unoffered hcandidates hcalls =>
    have hlength := hcalls.length_eq
    rw [hcandidates, List.length_append]
    omega

/-- What is current afterwards was one of the candidates. -/
theorem mem_of_current (h : Settled candidates exhausted calls next remaining)
    {active : ActiveTrack} (hactive : active ∈ next) : active.track ∈ candidates := by
  cases h with
  | found refused track rest generation now hcandidates hcalls =>
    obtain rfl := Option.some.inj hactive
    rw [hcandidates]
    exact List.mem_append_right _ List.mem_cons_self
  | silent => contradiction

end Settled

namespace Offered

variable {generation last : PlaybackGeneration} {candidates remaining : List QueueTrack}
  {calls : List CallRecord} {next : Option ActiveTrack}

/-- Without a generation nothing is offered. -/
theorem of_exhausted (h : Offered generation candidates calls next remaining last)
    (hnone : generation.next = none) : calls = [] ∧ next = none ∧ remaining = [] ∧
      last = generation := by
  induction h with
  | exhausted => exact ⟨rfl, rfl, rfl, rfl⟩
  | accepted _ _ _ hnext =>
    rw [hnone] at hnext
    contradiction
  | refused _ hnext =>
    rw [hnone] at hnext
    contradiction
  | unnumbered _ _ _ ih => exact ih hnone

theorem settled (h : Offered generation candidates calls next remaining last) :
    Settled candidates (last.next = none) calls next remaining := by
  induction h with
  | exhausted => exact .silent [] [] rfl .nil fun h => absurd rfl h
  | accepted track rest now => exact .found [] track rest _ now rfl .nil
  | refused track _ _ ih => exact ih.refused _
  | unnumbered track hnone h =>
    obtain ⟨rfl, rfl, rfl, rfl⟩ := h.of_exhausted hnone
    exact .silent [] _ rfl .nil fun _ => hnone

end Offered

/-- How the end of `active` is answered: the adapter calls made for it, the track that follows
and the tracks that stay in the queue. -/
def Advanced (a : Actor P S) (active : ActiveTrack) (reason : PlaybackEndReason)
    (a' : Actor P S) : Prop :=
  ∃ calls, a'.calls = a.calls ++ calls ∧
    Settled (endCandidates a.model.repeatMode reason.isNatural active.track a.model.queue)
      (a'.playbackGeneration.next = none) calls a'.model.current a'.model.queue

/-- Nothing follows from the event. -/
structure Untouched (a a' : Actor P S) : Prop where
  model : a'.model = a.model
  calls : a'.calls = a.calls

variable [PlaybackPort P] [SnapshotPublisher S]

theorem ends_playbackEnded {a : Actor P S} {active : ActiveTrack} {next : StateRevision}
    (reason : PlaybackEndReason) (hcurrent : a.model.current = some active)
    (hnext : a.model.revision.checkedNext = some next) :
    Ends (playbackEnded active.identity reason) a (fun _ => Advanced a active reason)
      (fun _ => Advanced a active reason) := by
  have hfinish : ∀ next' a', Succeeds a { a with
      model := { a.model with current := none, queue := [] } } reason.isNatural active.track
      a.model.queue next' a' → Ends (do
        modifyModel fun model =>
          { model with
            queue := next'.2
            current := next'.1
            state := if next'.1.isSome then .playing else .idleConnected }
        finishChange a.model.isIdleConnected next) a' (fun _ => Advanced a active reason)
        (fun _ => Advanced a active reason) := by
    rintro next' a' ⟨tried, history, hunder, hmodel, -, hoffered⟩
    have hcommit : ∀ {result : Except Failure PlayerSnapshot} {model : PlayerModel}
        (a'' : Actor P S), Committed a.idleTimer a a'' model result →
        a''.calls = a'.calls → a''.playbackGeneration = a'.playbackGeneration →
        model.current = next'.1 → model.queue = next'.2 → Advanced a active reason a'' := by
      intro result model a'' hcommit hcalls hgeneration hcurrent' hqueue'
      obtain ⟨revision, -, hmodel'⟩ := hcommit.revision
      refine ⟨tried, hcalls.trans hunder.calls, ?_⟩
      rw [hmodel', hgeneration]
      dsimp only
      rw [hcurrent', hqueue']
      exact hoffered.settled
    rw [ends_bind, ends_modifyModel]
    refine finishChange_ends hnext hunder.idleTimer hunder.published ?_ ?_
    · intro snapshot a'' h _ _ hcalls hgeneration
      exact hcommit a'' h hcalls hgeneration rfl rfl
    · intro failure a'' h _ _ hcalls hgeneration
      exact hcommit a'' h hcalls hgeneration rfl rfl
  have hunder := (Underway.refl a).touch { a.model with current := none, queue := [] } a.clock
    a.events
  unfold playbackEnded
  rw [ends_bind, ends_getModel, hcurrent]
  dsimp only
  rw [if_neg (not_not.mpr rfl), ends_bind]
  refine ends_nextRevision (fun next' hnext' => ?_) fun hnone => ?_
  · obtain rfl := Option.some.inj (hnext'.symm.trans hnext)
    rw [ends_bind, ends_getModel, ends_bind, ends_getModel, ends_bind, ends_modifyModel]
    cases hreason : reason.isNatural with
    | true =>
      rw [hreason] at hfinish
      rw [if_pos rfl, ends_bind]
      exact (ends_afterNaturalEnd hunder).imp hfinish fun _ _ h => h
    | false =>
      rw [hreason] at hfinish
      rw [if_neg Bool.false_ne_true, ends_bind]
      refine (ends_firstPlayable a.model.queue hunder).imp ?_ fun _ _ h => h
      rintro next' a' ⟨hmodel, tried, hunder', hoffered⟩
      exact hfinish next' a' ⟨tried, a.model.history, hunder', hmodel,
        .brokenOff rfl hoffered.firstPlayable, hoffered⟩
  · rw [hnone] at hnext
    contradiction

/-- An end event that names another playback, or that no revision is left for. -/
theorem ends_playbackEnded_ignored {a : Actor P S} {identity : PlaybackIdentity}
    (reason : PlaybackEndReason)
    (h : (∀ active, a.model.current = some active → active.identity ≠ identity) ∨
      a.model.revision.checkedNext = none) :
    Ends (playbackEnded identity reason) a (fun _ => Untouched a) (fun _ => Untouched a) := by
  unfold playbackEnded
  rw [ends_bind, ends_getModel]
  cases hcurrent : a.model.current with
  | none => exact ⟨rfl, rfl⟩
  | some active =>
    dsimp only
    rw [ends_ite]
    by_cases hidentity : active.identity ≠ identity
    · rw [if_pos hidentity]
      exact ⟨rfl, rfl⟩
    · rw [if_neg hidentity, ends_bind]
      refine ends_nextRevision (fun next hnext => ?_) fun _ => ⟨rfl, rfl⟩
      rcases h with hstale | hnone
      · exact absurd (hstale active hcurrent) hidentity
      · rw [hnone] at hnext
        contradiction

/-- The player after it was told that a playback has ended. -/
def Player.told (player : Player P S) (identity : PlaybackIdentity)
    (reason : PlaybackEndReason) : Player P S :=
  (player.step (.request (.playbackEnded identity reason))).2

variable {setup : PlayerSetup P S} {taken : List (Taken (Player P S) (Input × Reply))}
  {player : Player P S}

theorem Player.told_running {config : PlayerConfig} (h : player.Sound config)
    (hrunning : player.status = .running) (identity : PlaybackIdentity)
    (reason : PlaybackEndReason) : (player.told identity reason).status = .running := by
  have hturned := Player.step_turned hrunning h.coherent
    (.request (.playbackEnded identity reason))
  unfold Player.told
  generalize (player.step (.request (.playbackEnded identity reason))).1 = reply at hturned
  generalize (player.step (.request (.playbackEnded identity reason))).2 = player' at hturned
  cases hturned with
  | answered => rfl

/-- The end of the current playback leaves exactly the candidates after the first accepted one,
in their order, with at most one attempt for each candidate. Any other end event touches nothing.
In a run that never goes back to the current track, a playback that broke off is not followed by
its own track. -/
theorem track_end_conserves_queue (run : setup.Runs taken player)
    (hrunning : player.status = .running) (identity : PlaybackIdentity)
    (reason : PlaybackEndReason) :
    (player.told identity reason).status = .running ∧
    (player.told identity reason).actor.model.queue.length ≤ setup.config.maxQueuedTracks ∧
    ((∀ active, player.actor.model.current = some active → active.identity ≠ identity) ∨
      player.actor.model.revision.checkedNext = none →
        Untouched player.actor (player.told identity reason).actor) ∧
    ∀ active, player.actor.model.current = some active → active.identity = identity →
      player.actor.model.revision.checkedNext.isSome = true →
      ∃ calls, (player.told identity reason).actor.calls = player.actor.calls ++ calls ∧
        calls.length ≤ (endCandidates player.actor.model.repeatMode reason.isNatural active.track
          player.actor.model.queue).length ∧
        Settled (endCandidates player.actor.model.repeatMode reason.isNatural active.track
            player.actor.model.queue)
          ((player.told identity reason).actor.playbackGeneration.next = none) calls
          (player.told identity reason).actor.model.current
          (player.told identity reason).actor.model.queue ∧
        ((∀ t ∈ taken, ¬ t.before.RequeuesCurrent t.label.1) → reason.isNatural = false →
          ∀ next ∈ (player.told identity reason).actor.model.current,
            next.track.trackId ≠ active.track.trackId) := by
  have hsound := run.sound
  have hstep : Follows Player.step player (.request (.playbackEnded identity reason),
      (player.step (.request (.playbackEnded identity reason))).1)
      (player.told identity reason) := rfl
  have hafter : (player.told identity reason).Sound setup.config := hsound.next hstep
  refine ⟨Player.told_running hsound hrunning identity reason, ?_, ?_, ?_⟩
  · exact hafter.config ▸ hafter.coherent.queue_le
  · intro hignored
    exact Player.step_handled hrunning rfl (ends_playbackEnded_ignored reason hignored)
  · rintro active hcurrent rfl hrevision
    obtain ⟨revision, hnext⟩ := Option.isSome_iff_exists.mp hrevision
    obtain ⟨calls, hcalls, hsettled⟩ : Advanced player.actor active reason
        (player.told active.identity reason).actor :=
      Player.step_handled hrunning rfl (ends_playbackEnded reason hcurrent hnext)
    refine ⟨calls, hcalls, hsettled.calls_length_le, hsettled, ?_⟩
    intro hkeeps hreason next hfollows
    have hshape := ((publicShape_iff run).mpr hkeeps).2
    have hqueued := hsettled.mem_of_current hfollows
    rw [hreason] at hqueued
    exact hshape.notQueued active hcurrent next.track hqueued

/-- Three tracks under `RepeatMode.queue`. -/
def threeTracks : List Input :=
  [.request (.connect ⟨.MIN⟩ ⟨0⟩),
    .request (.enqueue (.scripted 1) ⟨1⟩),
    .request (.enqueue (.scripted 2) ⟨2⟩),
    .request (.enqueue (.scripted 3) ⟨3⟩),
    .request (.apply (.scripted 1 4 (.setRepeat .queue)))]

/-- The player of these tracks; its adapter refuses the second one. -/
def refusingSecond : Player ScriptedPlayback Unit :=
  PlayerSetup.after [true, true, true, true, false] threeTracks

theorem refusingSecond_run : ∃ taken,
    (PlayerSetup.scripted [true, true, true, true, false]).Runs taken refusingSecond :=
  ⟨_, run_record Player.step _ threeTracks⟩

theorem track_end_conserves_queue_refusingSecond :
    (refusingSecond.told ⟨Uuid.fromU128 1, ⟨1⟩⟩ .natural).actor.model.tracks =
        [.scripted 3, .scripted 1] ∧
      ∃ calls, Settled
        (endCandidates refusingSecond.actor.model.repeatMode true (.scripted 1)
          refusingSecond.actor.model.queue)
        ((refusingSecond.told ⟨Uuid.fromU128 1, ⟨1⟩⟩ .natural).actor.playbackGeneration.next = none)
        calls (refusingSecond.told ⟨Uuid.fromU128 1, ⟨1⟩⟩ .natural).actor.model.current
        (refusingSecond.told ⟨Uuid.fromU128 1, ⟨1⟩⟩ .natural).actor.model.queue := by
  obtain ⟨taken, run⟩ := refusingSecond_run
  have hcurrent : refusingSecond.actor.model.current =
      some (ActiveTrack.playing (.scripted 1) ⟨1⟩ 2) := by decide +kernel
  have hstatus : refusingSecond.status = .running := by decide +kernel
  have hrevision : refusingSecond.actor.model.revision.checkedNext.isSome = true := by
    decide +kernel
  have hend := (track_end_conserves_queue run hstatus ⟨Uuid.fromU128 1, ⟨1⟩⟩ .natural).2.2.2 _
    hcurrent rfl hrevision
  exact ⟨by decide +kernel, hend.imp fun _ h => h.2.2.1⟩

/-- After a step back to the current track, the playback that breaks off is restarted from the
copy in the queue. -/
theorem broken_off_restarted :
    ¬ ∀ (P S : Type) [PlaybackPort P] [SnapshotPublisher S] (setup : PlayerSetup P S)
      (taken : List (Taken (Player P S) (Input × Reply))) (player : Player P S),
      setup.Runs taken player → player.status = .running →
      ∀ active, player.actor.model.current = some active → ∀ reason : PlaybackEndReason,
        reason.isNatural = false →
        ∀ next ∈ (player.told active.identity reason).actor.model.current,
          next.track.trackId ≠ active.track.trackId := by
  intro h
  have hrun := run_record Player.step (PlayerSetup.scripted []).player cycledAndBack
  have hcurrent : (PlayerSetup.after [] cycledAndBack).actor.model.current =
      some (ActiveTrack.playing (.scripted 1) ⟨4⟩ 14) := by decide +kernel
  have hagain : ((PlayerSetup.after [] cycledAndBack).told
      (ActiveTrack.playing (.scripted 1) ⟨4⟩ 14).identity .workerFailed).actor.model.current =
        some (ActiveTrack.playing (.scripted 1) ⟨5⟩ 16) := by decide +kernel
  have hstatus : (PlayerSetup.after [] cycledAndBack).status = .running := by decide +kernel
  exact h ScriptedPlayback Unit (PlayerSetup.scripted []) _ (PlayerSetup.after [] cycledAndBack)
    hrun hstatus _ hcurrent .workerFailed rfl _ hagain rfl

end PepeAudio
