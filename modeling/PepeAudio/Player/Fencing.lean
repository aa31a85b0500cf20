import PepeAudio.Player.Safety

/-!
# Playback generations fence off old end events

Every call that starts playback gets a generation above all earlier ones, and a
current track carries the generation of the call that started it. An end event
therefore moves the queue on at most once for each generation, in whatever order
and however often the events arrive.
-/
namespace PepeAudio

open Actor

variable {P S : Type}

theorem mem_generations {record : CallRecord} {calls : List CallRecord}
    {generation : PlaybackGeneration} (hmem : record ∈ calls)
    (hgeneration : record.call.generation = some generation) :
    generation.toNat ∈ generations calls := by
  refine List.mem_filterMap.mpr ⟨record, hmem, ?_⟩
  rw [hgeneration]
  rfl

theorem FirstPlayable.generation {candidates remaining : List QueueTrack} {calls : List CallRecord}
    {next : Option ActiveTrack} (h : FirstPlayable candidates calls next remaining)
    {active : ActiveTrack} (hnext : next = some active) :
    active.generation.toNat ∈ generations calls := by
  induction h with
  | exhausted => contradiction
  | accepted track rest generation now =>
    obtain rfl := Option.some.inj hnext
    exact mem_generations List.mem_cons_self rfl
  | refused track generation _ ih =>
    exact List.mem_of_mem_tail (l := generation.toNat :: _) (ih hnext)
  | unnumbered track _ ih => exact ih hnext

theorem Succession.generation {capacity : ℕ} {mode : RepeatMode} {natural : Bool}
    {finished : QueueTrack} {queue history remaining history' : List QueueTrack}
    {calls : List CallRecord} {next : Option ActiveTrack}
    (h : Succession capacity mode natural finished queue history calls next remaining history')
    {active : ActiveTrack} (hnext : next = some active) :
    active.generation.toNat ∈ generations calls := by
  cases h with
  | brokenOff _ hfirst => exact hfirst.generation hnext
  | restarted generation now =>
    obtain rfl := Option.some.inj hnext
    exact mem_generations List.mem_cons_self rfl
  | restartRefused _ _ _ hfirst =>
    rw [generations_append]
    exact List.mem_append_right _ (hfirst.generation hnext)
  | cycled _ _ _ hfirst => exact hfirst.generation hnext
  | wentOn _ _ hfirst => exact hfirst.generation hnext

/-- A change keeps the generation of the current track or gives it that of one of its calls. -/
theorem Change.generation {capacity : ℕ} {model model' : PlayerModel} {cause : Cause}
    {calls : List CallRecord} (h : Change capacity model cause calls model') {active' : ActiveTrack}
    (hactive' : model'.current = some active') :
    (∃ active, model.current = some active ∧ active.generation = active'.generation) ∨
      active'.generation.toNat ∈ generations calls := by
  have hkept : ∀ {active : ActiveTrack}, model.current = some active →
      active.generation = active'.generation →
      (∃ active, model.current = some active ∧ active.generation = active'.generation) ∨
        active'.generation.toNat ∈ generations calls :=
    fun hcurrent heq => Or.inl ⟨_, hcurrent, heq⟩
  have hstarted : ∀ {operation : PlaybackCall}, calls = [⟨operation, true⟩] →
      operation.generation = some active'.generation →
      (∃ active, model.current = some active ∧ active.generation = active'.generation) ∨
        active'.generation.toNat ∈ generations calls := by
    intro operation hcalls hoperation
    rw [hcalls]
    exact Or.inr (mem_generations List.mem_cons_self hoperation)
  cases h with
  | connected | observed | queued | removed | moved | volumeSet | repeatSet | shuffleSet | hrirSet
  | spatialSet => exact hkept hactive' rfl
  | left | stopped | skippedLast => exact nomatch hactive'
  | resumed active now hcurrent | paused active now hcurrent =>
    obtain rfl := Option.some.inj hactive'
    exact hkept hcurrent rfl
  | started | skipped | wentBack | sought =>
    obtain rfl := Option.some.inj hactive'
    exact hstarted rfl rfl
  | ended active reason calls remaining history next hcurrent hnext =>
    exact Or.inr (hnext.generation hactive')

/-- An end event only touches the track it names, and what follows has a new generation. -/
theorem Change.ended_generation {capacity : ℕ} {model model' : PlayerModel}
    {identity : PlaybackIdentity} {reason : PlaybackEndReason} {calls : List CallRecord}
    (h : Change capacity model (.playbackEnded identity reason) calls model') :
    (∃ active, model.current = some active ∧ active.identity = identity) ∧
      ∀ active', model'.current = some active' →
        active'.generation.toNat ∈ generations calls := by
  generalize hcause : Cause.playbackEnded identity reason = cause at h
  cases h with
  | left _ _ hleft => rcases hleft with h | h | ⟨_, h⟩ <;> simp [← hcause] at h
  | ended active reason' calls remaining history next hcurrent hnext =>
    injection hcause with hidentity
    exact ⟨⟨active, hcurrent, hidentity.symm⟩, fun active' hactive' => hnext.generation hactive'⟩
  | _ => contradiction

/-- The generations of a player: all used ones increase and none is above the counter, the one
of the current track included. -/
structure Player.Numbered (player : Player P S) : Prop where
  increasing : (generations player.actor.calls).Pairwise (· < ·)
  bounded : ∀ n ∈ generations player.actor.calls, n ≤ player.actor.playbackGeneration.toNat
  current : ∀ active ∈ player.actor.model.current,
    active.generation.toNat ≤ player.actor.playbackGeneration.toNat

/-- Between two states of a run, a current track with an old generation is still the same. -/
structure Player.Later (player player' : Player P S) : Prop where
  le : player.actor.playbackGeneration.toNat ≤ player'.actor.playbackGeneration.toNat
  current : ∀ active' ∈ player'.actor.model.current,
    (∃ active ∈ player.actor.model.current, active.generation = active'.generation) ∨
      player.actor.playbackGeneration.toNat < active'.generation.toNat

theorem Player.Later.refl (player : Player P S) : player.Later player :=
  ⟨le_rfl, fun active' hactive' => Or.inl ⟨active', hactive', rfl⟩⟩

theorem Player.Later.trans {p p' p'' : Player P S} (h : p.Later p') (h' : p'.Later p'') :
    p.Later p'' := by
  refine ⟨h.le.trans h'.le, ?_⟩
  intro active'' hactive''
  rcases h'.current active'' hactive'' with ⟨active', hactive', hsame⟩ | hlt
  · rcases h.current active' hactive' with ⟨active, hactive, heq⟩ | hlt
    · exact Or.inl ⟨active, hactive, heq.trans hsame⟩
    · exact Or.inr (hsame ▸ hlt)
  · exact Or.inr (lt_of_le_of_lt h.le hlt)

theorem Turned.later {player player' : Player P S} {input : Input} {reply : Reply}
    (h : Turned player.actor input reply player') : player.Later player' := by
  cases h.moved with
  | kept hmodel hmade =>
    refine ⟨hmade.fresh.le, fun active' hactive' => Or.inl ⟨active', ?_, rfl⟩⟩
    rwa [hmodel] at hactive'
  | changed next hasks hmade hchange _ hmodel =>
    refine ⟨hmade.fresh.le, fun active' hactive' => ?_⟩
    rw [hmodel] at hactive'
    refine (hchange.generation hactive').imp ?_ ?_
    · exact fun ⟨active, hactive, hsame⟩ => ⟨active, hactive, hsame⟩
    · exact fun hmem => (hmade.fresh.bounds _ hmem).1

theorem Player.Numbered.next {player player' : Player P S} {input : Input} {reply : Reply}
    (h : player.Numbered) (hturned : Turned player.actor input reply player') :
    player'.Numbered := by
  have happend : ∀ {calls : List CallRecord}, Made player.actor player'.actor calls →
      (generations player'.actor.calls).Pairwise (· < ·) ∧
        ∀ n ∈ generations player'.actor.calls, n ≤ player'.actor.playbackGeneration.toNat := by
    intro calls hmade
    rw [hmade.calls, generations_append]
    have hle := hmade.fresh.le
    refine ⟨List.pairwise_append.mpr ⟨h.increasing, hmade.fresh.increasing, ?_⟩, ?_⟩
    · intro n hn m hm
      have hn := h.bounded n hn
      have hm := (hmade.fresh.bounds m hm).1
      omega
    · intro n hn
      rcases List.mem_append.mp hn with hn | hn
      · exact (h.bounded n hn).trans hle
      · exact (hmade.fresh.bounds n hn).2
  cases hturned.moved with
  | kept hmodel hmade =>
    refine ⟨(happend hmade).1, (happend hmade).2, fun active hactive => ?_⟩
    rw [hmodel] at hactive
    exact (h.current active hactive).trans hmade.fresh.le
  | changed next hasks hmade hchange _ hmodel =>
    refine ⟨(happend hmade).1, (happend hmade).2, fun active' hactive' => ?_⟩
    rw [hmodel] at hactive'
    rcases hchange.generation hactive' with ⟨active, hactive, hsame⟩ | hmem
    · rw [← hsame]
      exact (h.current active hactive).trans hmade.fresh.le
    · exact (hmade.fresh.bounds _ hmem).2

/-- The step is an end event of the generation that changes the model. -/
def EndedBy (t : Taken (Player P S) (Input × Reply)) (generation : PlaybackGeneration) : Prop :=
  ∃ trackId reason, t.label.1 = .request (.playbackEnded ⟨trackId, generation⟩ reason) ∧
    t.after.actor.model ≠ t.before.actor.model

/-- An end event that changes the model names the current track, and replaces it. -/
theorem Turned.ended {player player' : Player P S} {identity : PlaybackIdentity}
    {reason : PlaybackEndReason} {reply : Reply}
    (h : Turned player.actor (.request (.playbackEnded identity reason)) reply player')
    (hchanged : player'.actor.model ≠ player.actor.model) :
    (∃ active ∈ player.actor.model.current, active.identity = identity) ∧
      ∀ active' ∈ player'.actor.model.current,
        player.actor.playbackGeneration.toNat < active'.generation.toNat := by
  cases h.moved with
  | kept hmodel => contradiction
  | changed next hasks hmade hchange _ hmodel =>
    cases hasks with
    | request hcause =>
      obtain rfl := Option.some.inj hcause
      obtain ⟨hactive, hnew⟩ := hchange.ended_generation
      refine ⟨hactive, fun active' hactive' => ?_⟩
      rw [hmodel] at hactive'
      exact (hmade.fresh.bounds _ (hnew active' hactive')).1

variable [PlaybackPort P] [SnapshotPublisher S]

theorem Player.Sound.later {config : PlayerConfig} {player player' : Player P S}
    {label : Input × Reply} (h : player.Sound config)
    (hstep : Follows Player.step player label player') : player.Later player' := by
  rcases h.step_cases hstep with hturned | ⟨rfl, -⟩
  · exact hturned.later
  · exact .refl _

/-- An end event of another playback is answered from the model. -/
theorem ends_playbackEnded_stale {a : Actor P S} {identity : PlaybackIdentity}
    {reason : PlaybackEndReason} {ok : PlayerSnapshot → Actor P S → Prop}
    {err : Failure → Actor P S → Prop}
    (hstale : ∀ active ∈ a.model.current, active.identity ≠ identity)
    (h : ok (a.model.snapshot a.clock.head) { a with clock := a.clock.tail }) :
    Ends (playbackEnded identity reason) a ok err := by
  unfold playbackEnded
  rw [ends_bind, ends_getModel]
  cases hcurrent : a.model.current with
  | none => exact h
  | some active =>
    dsimp only
    rw [if_pos (hstale active hcurrent)]
    exact h

/-- All a stale end event does is to read the clock. -/
theorem Player.step_stale {player : Player P S} {identity : PlaybackIdentity}
    (reason : PlaybackEndReason)
    (hstale : ∀ active ∈ player.actor.model.current, active.identity ≠ identity) :
    ∃ clock, (player.step (.request (.playbackEnded identity reason))).2 =
      { player with actor := { player.actor with clock := clock } } := by
  by_cases hstatus : player.status = .running
  · have hturn : Ends (turn (.request (.playbackEnded identity reason))) player.actor
        (fun answer a' => answer.2 = false ∧
          a' = { player.actor with clock := player.actor.clock.tail }) (fun _ _ => False) := by
      refine (ends_bind _ _).mpr ((ends_bind _ _).mpr (ends_attempt ?_))
      exact ends_playbackEnded_stale hstale ⟨rfl, rfl⟩
    refine ⟨player.actor.clock.tail, ?_⟩
    unfold Player.step
    rw [hstatus]
    dsimp only
    cases hresult : turn (.request (.playbackEnded identity reason)) player.actor with
    | ok answer a' =>
      obtain ⟨hends, rfl⟩ := hturn.of_ok hresult
      dsimp only
      rw [hends, if_neg Bool.false_ne_true]
    | error failure a' => exact (hturn.of_error hresult).elim
  · refine ⟨player.actor.clock, ?_⟩
    rw [Player.step_ended hstatus]

variable {setup : PlayerSetup P S} {taken : List (Taken (Player P S) (Input × Reply))}
  {player : Player P S}

theorem PlayerSetup.Runs.numbered (run : setup.Runs taken player) : player.Numbered := by
  refine run.history (I := fun _ player => player.Numbered) ?_ ?_
  · obtain ⟨publisher, events, hplayer⟩ := setup.player_eq
    rw [hplayer]
    refine ⟨List.Pairwise.nil, ?_, ?_⟩
    · intro n hn
      contradiction
    · intro active hactive
      contradiction
  · intro taken s l s' hrun h hstep
    rcases (PlayerSetup.Runs.sound hrun).step_cases hstep with hturned | ⟨rfl, -⟩
    · exact h.next hturned
    · exact h

/-- What a step ended by a generation says about the tracks before and after it. -/
theorem EndedBy.replaced {t : Taken (Player P S) (Input × Reply)} {generation : PlaybackGeneration}
    (h : EndedBy t generation) (hsound : t.before.Sound setup.config)
    (hstep : Follows Player.step t.before t.label t.after) :
    (∃ active ∈ t.before.actor.model.current, active.generation = generation) ∧
      ∀ active' ∈ t.after.actor.model.current,
        t.before.actor.playbackGeneration.toNat < active'.generation.toNat := by
  obtain ⟨trackId, reason, hinput, hchanged⟩ := h
  rcases hsound.step_cases hstep with hturned | ⟨hsame, -⟩
  · rw [hinput] at hturned
    obtain ⟨⟨active, hactive, hidentity⟩, hnew⟩ := hturned.ended hchanged
    exact ⟨⟨active, hactive, congrArg PlaybackIdentity.generation hidentity⟩, hnew⟩
  · rw [hsame] at hchanged
    contradiction

/-- Along every run the generations handed to the adapter strictly increase, an end event that
does not name the current playback changes nothing but the clock, and no generation moves the
queue on twice. -/
theorem generations_fence (run : setup.Runs taken player) :
    (generations player.actor.calls).Pairwise (· < ·) ∧
    (∀ identity reason, (∀ active ∈ player.actor.model.current, active.identity ≠ identity) →
      ∃ clock, (player.step (.request (.playbackEnded identity reason))).2 =
        { player with actor := { player.actor with clock := clock } }) ∧
    taken.Pairwise fun t t' => ∀ generation, EndedBy t generation → ¬ EndedBy t' generation := by
  refine ⟨run.numbered.increasing, fun identity reason => Player.step_stale reason, ?_⟩
  have hlater : taken.Pairwise fun t t' => t.after.Later t'.before := by
    refine run.pairwise (fun s => .refl s) (fun a b c h h' => h.trans h') ?_
    rintro s l s' ⟨earlier, hearlier⟩ hstep
    exact (PlayerSetup.Runs.sound hearlier).later hstep
  refine hlater.imp_of_mem ?_
  intro t t' ht ht' hbetween generation hended hended'
  obtain ⟨⟨earlier, hearlier⟩, hstep⟩ := run.taken_next ht
  obtain ⟨⟨earlier', hearlier'⟩, hstep'⟩ := run.taken_next ht'
  obtain ⟨⟨active, hactive, rfl⟩, hnew⟩ := hended.replaced (PlayerSetup.Runs.sound hearlier) hstep
  obtain ⟨⟨active', hactive', hsame⟩, -⟩ :=
    hended'.replaced (PlayerSetup.Runs.sound hearlier') hstep'
  have hused := (PlayerSetup.Runs.numbered hearlier).current active hactive
  have hle := ((PlayerSetup.Runs.sound hearlier).later hstep).le
  -- the second event names a track that was current before the first one or has started since
  rcases hbetween.current active' hactive' with ⟨between, hmem, heq⟩ | hlt
  · have hgreater := hnew between hmem
    rw [heq, hsame] at hgreater
    omega
  · rw [hsame] at hlt
    omega

/-- A track that plays three times, and a second end event for its first playback. -/
def endedTwice : List Input :=
  [.request (.connect ⟨.MIN⟩ ⟨0⟩),
    .request (.enqueue (.scripted 1) ⟨1⟩),
    .request (.apply (.scripted 1 2 (.setRepeat .track))),
    .request (.playbackEnded ⟨Uuid.fromU128 1, ⟨1⟩⟩ .natural),
    .request (.playbackEnded ⟨Uuid.fromU128 1, ⟨1⟩⟩ .natural),
    .request (.playbackEnded ⟨Uuid.fromU128 1, ⟨2⟩⟩ .natural)]

theorem generations_fence_endedTwice :
    generations (PlayerSetup.after [] endedTwice).actor.calls = [1, 2, 3] ∧
      (generations (PlayerSetup.after [] endedTwice).actor.calls).Pairwise (· < ·) :=
  ⟨by decide +kernel,
    (generations_fence (run_record Player.step (PlayerSetup.scripted []).player endedTwice)).1⟩

end PepeAudio
