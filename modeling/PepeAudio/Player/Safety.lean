import PepeAudio.Player.Conformance.Runtime

/-!
# Safety of whole runs

Every transition of a run is a turn of a coherent actor or a step of a task that
has ended. From this alone the model stays coherent and no handler panics,
whatever the inputs are and whichever adapter calls fail.
-/
namespace PepeAudio

open Actor

variable {P S : Type}

/-- The inputs that may lead `a` to a change with the given cause. -/
inductive Asks (a : Actor P S) : Input → Cause → Prop
  | request {request : PlayerRequest} {cause : Cause} (hcause : request.cause = some cause) :
      Asks a (.request request) cause
  | apply {envelope : CommandEnvelope} (hunknown : envelope.idempotencyKey ∉ a.recentIdempotency)
      (hrevision : envelope.expectedRevision = a.model.revision) :
      Asks a (.request (.apply envelope)) (.command envelope.command)
  | expired (generation : IdleGeneration) : Asks a (.idleExpired generation) .leave
  | shutdown : Asks a (.request .shutdown) .leave
  | requestsClosed : Asks a .requestsClosed .leave

/-- Only an accepted command is carried out. -/
theorem Asks.command {a : Actor P S} {input : Input} {command : PlayerCommand}
    (h : Asks a input (.command command)) :
    ∃ envelope, input = .request (.apply envelope) ∧ envelope.command = command ∧
      envelope.idempotencyKey ∉ a.recentIdempotency ∧
      envelope.expectedRevision = a.model.revision := by
  generalize hcause : Cause.command command = cause at h
  cases h with
  | @request request _ hrequest =>
    rw [← hcause] at hrequest
    cases request <;> simp [PlayerRequest.cause] at hrequest
  | apply hunknown hrevision =>
    injection hcause with hcommand
    exact ⟨_, rfl, hcommand.symm, hunknown, hrevision⟩
  | expired | shutdown | requestsClosed => contradiction

/-- Only the report of a voice state is answered by observing it. -/
theorem Asks.observed {a : Actor P S} {input : Input} {channelId : Option ChannelId}
    (h : Asks a input (.observed channelId)) :
    input = .request (.reconcileVoiceChannel channelId) := by
  generalize hcause : Cause.observed channelId = cause at h
  cases h with
  | @request request _ hrequest =>
    subst hcause
    cases request <;> simp [PlayerRequest.cause] at hrequest
    rw [hrequest]
  | apply | expired | shutdown | requestsClosed => contradiction

/-- The actor after a turn: its model is the old one, or a changed one with the next revision. -/
inductive Moved (a : Actor P S) (input : Input) (a' : Actor P S) : Prop
  | kept {calls : List CallRecord} (hmodel : a'.model = a.model) (hmade : Made a a' calls)
      (hcalls : Tentative a.model calls)
  | changed {cause : Cause} {calls : List CallRecord} {model : PlayerModel} (next : StateRevision)
      (hasks : Asks a input cause) (hmade : Made a a' calls)
      (hchange : Change a.config.maxQueuedTracks a.model cause calls model)
      (hnext : a.model.revision.checkedNext = some next)
      (hmodel : a'.model = { model with revision := next })

/-- Nothing but clocks, events and remembered keys is touched. -/
theorem Moved.idle {a a' : Actor P S} (input : Input) (hmodel : a'.model = a.model)
    (hconfig : a'.config = a.config) (hgeneration : a'.playbackGeneration = a.playbackGeneration)
    (hcalls : a'.calls = a.calls) : Moved a input a' := by
  have hmade : Made a a [] := ⟨rfl, Fresh.idle rfl, by simp⟩
  exact .kept hmodel (hmade.congr hconfig hgeneration hcalls) (Or.inl (by simp))

theorem Moved.congr {a b b' : Actor P S} {input : Input} (h : Moved a input b)
    (hmodel : b'.model = b.model) (hconfig : b'.config = b.config)
    (hgeneration : b'.playbackGeneration = b.playbackGeneration) (hcalls : b'.calls = b.calls) :
    Moved a input b' := by
  cases h with
  | kept hkept hmade htentative =>
    exact .kept (hmodel.trans hkept) (hmade.congr hconfig hgeneration hcalls) htentative
  | changed next hasks hmade hchange hnext hchanged =>
    exact .changed next hasks (hmade.congr hconfig hgeneration hcalls) hchange hnext
      (hmodel.trans hchanged)

/-- Joining and leaving a channel touches no setting. -/
theorem tentative_voice {model : PlayerModel} {calls : List CallRecord}
    (hcalls : ∀ record ∈ calls, record.call.isVoice = true) : Tentative model calls := by
  refine Or.inl fun record hrecord hsetting => ?_
  have hvoice := hcalls record hrecord
  cases hcall : record.call <;> simp [hcall, PlaybackCall.isVoice, PlaybackCall.isSetting] at *

theorem Change.leave {capacity : ℕ} {model : PlayerModel} {calls : List CallRecord}
    (hcalls : ∀ record ∈ calls, record.call.isVoice = true) :
    Change capacity model .leave calls (clearDisconnected model) :=
  .left .leave calls (Or.inr (Or.inl rfl)) hcalls

theorem Outcome.moved {a a' : Actor P S} {cause : Cause} {input : Input}
    {result : Except Failure PlayerSnapshot} (h : Outcome a cause result a')
    (hasks : Asks a input cause) : Moved a input a' := by
  cases h with
  | unchanged reading hkept hframe =>
    exact .kept hkept.model hframe.toMade (Or.inl (by simp))
  | rejected error hkept hframe hcalls => exact .kept hkept.model hframe.toMade hcalls
  | committed hchange hframe hcommit =>
    obtain ⟨next, hnext, hmodel⟩ := hcommit.revision
    exact .changed next hasks hframe.toMade hchange hnext hmodel

theorem ShutDown.moved {a a' : Actor P S} {report : ShutdownReport} {input : Input}
    (h : ShutDown a report a') (hasks : Asks a input .leave) : Moved a input a' := by
  cases h with
  | refused message hkept hframe hcalls =>
    exact .kept hkept.model hframe.toMade (tentative_voice hcalls)
  | closed hmodel _ _ _ hframe hcalls =>
    exact .kept hmodel hframe.toMade (tentative_voice hcalls)
  | left next reading hnext hmodel _ _ hframe hcalls =>
    exact .changed next hasks hframe.toMade (.leave hcalls) hnext hmodel

theorem Expired.moved {a a' : Actor P S} {generation : IdleGeneration} {ends : Bool}
    (h : Expired a generation ends a') : Moved a (.idleExpired generation) a' := by
  have hvoice : ∀ succeeded, ∀ record ∈ [(⟨.disconnect, succeeded⟩ : CallRecord)],
      record.call.isVoice = true := by simp [PlaybackCall.isVoice]
  cases h with
  | stale | exhausted => exact .idle _ rfl rfl rfl rfl
  | rearmed _ _ hmodel _ _ hframe =>
    exact .kept hmodel hframe.toMade (tentative_voice (hvoice false))
  | left next reading _ _ hnext hmodel _ _ hframe =>
    exact .changed next (.expired generation) hframe.toMade (.leave (hvoice true)) hnext hmodel

theorem Turned.moved {a : Actor P S} {input : Input} {reply : Reply} {player : Player P S}
    (h : Turned a input reply player) : Moved a input player.actor := by
  cases h with
  | answered hcause houtcome => exact houtcome.moved (.request hcause)
  | replayed | invalid | observed => exact .idle _ rfl rfl rfl rfl
  | accepted haccepted =>
    have hmoved := haccepted.outcome.moved (.apply haccepted.unknown haccepted.revision)
    exact hmoved.congr rfl rfl rfl rfl
  | failed haccepted =>
    exact haccepted.outcome.moved (.apply haccepted.unknown haccepted.revision)
  | stayed hexpired => exact hexpired.moved
  | expired _ hexpired => exact hexpired.moved.congr rfl rfl rfl rfl
  | shutDown hshut => exact hshut.moved .shutdown
  | requestsClosed hshut => exact hshut.moved .requestsClosed

theorem Moved.config {a a' : Actor P S} {input : Input} (h : Moved a input a') :
    a'.config = a.config := by
  cases h with
  | kept _ hmade => exact hmade.config
  | changed _ _ hmade => exact hmade.config

theorem Turned.not_panicked {a : Actor P S} {input : Input} {reply : Reply} {player : Player P S}
    (h : Turned a input reply player) : player.status ≠ .panicked := by
  cases h with
  | shutDown => split <;> simp
  | answered | replayed | accepted | invalid | failed => simp
  | observed | stayed | expired | requestsClosed => simp

/-- What holds of a player between two steps. -/
structure Player.Sound (config : PlayerConfig) (player : Player P S) : Prop where
  config : player.actor.config = config
  coherent : Coherent player.actor.config.maxQueuedTracks player.actor.model
  status : player.status ≠ .panicked

section Runs

variable [PlaybackPort P] [SnapshotPublisher S]

/-- A task that has ended takes no input any more. -/
theorem Player.step_ended {player : Player P S} (h : player.status ≠ .running) (input : Input) :
    player.step input = (Reply.none, player) := by
  unfold Player.step
  split
  · contradiction
  · rfl

/-- A step of a sound player is a turn, or no step at all once its task has ended. -/
theorem Player.Sound.step_cases {config : PlayerConfig} {player player' : Player P S}
    {label : Input × Reply} (h : player.Sound config)
    (hstep : Follows Player.step player label player') :
    Turned player.actor label.1 label.2 player' ∨ player' = player ∧ label.2 = .none := by
  obtain ⟨input, reply⟩ := label
  by_cases hstatus : player.status = .running
  · have hturned := Player.step_turned hstatus h.coherent input
    rw [show player.step input = (reply, player') from hstep] at hturned
    exact Or.inl hturned
  · obtain ⟨hreply, hplayer⟩ := Prod.mk.inj ((Player.step_ended hstatus input).symm.trans hstep)
    exact Or.inr ⟨hplayer.symm, hreply.symm⟩

theorem Player.Sound.next {config : PlayerConfig} {player player' : Player P S}
    {label : Input × Reply} (h : player.Sound config)
    (hstep : Follows Player.step player label player') : player'.Sound config := by
  rcases h.step_cases hstep with hturned | ⟨rfl, -⟩
  · have hconfig := hturned.moved.config
    refine ⟨hconfig.trans h.config, ?_, hturned.not_panicked⟩
    rw [hconfig]
    cases hturned.moved with
    | kept hmodel => exact hmodel ▸ h.coherent
    | changed next _ _ hchange _ hmodel =>
      have hcoherent := h.coherent.change player.actor.config.maxQueuedTracks_pos hchange
      exact hmodel ▸ hcoherent.congr rfl rfl rfl le_rfl rfl
  · exact h

omit [PlaybackPort P] in
/-- A started player has published its first snapshot and done nothing else. -/
theorem PlayerSetup.player_eq (setup : PlayerSetup P S) :
    ∃ publisher events, setup.player =
      ⟨{ Actor.new setup.guildId setup.initialRevision setup.playback setup.publisher setup.config
          setup.clock.tail with
          publisher := publisher
          events := events
          published :=
            [(PlayerModel.new setup.guildId setup.initialRevision).snapshot setup.clock.head] },
        .running⟩ := by
  let actor := Actor.new setup.guildId setup.initialRevision setup.playback setup.publisher
    setup.config setup.clock
  have hstart : Ends (do let initial ← currentSnapshot; publish initial : ActorM P S Unit) actor
      (fun _ a' => ∃ publisher events, a' = { actor with
        clock := actor.clock.tail
        publisher := publisher
        events := events
        published := [actor.model.snapshot actor.clock.head] }) (fun _ _ => False) := by
    rw [ends_bind, ends_currentSnapshot]
    exact ends_publish _ fun publisher events => ⟨publisher, events, rfl⟩
  unfold PlayerSetup.player Player.start
  dsimp only
  cases hresult : (do let initial ← currentSnapshot; publish initial : ActorM P S Unit) actor with
  | ok _ a' =>
    obtain ⟨publisher, events, rfl⟩ := hstart.of_ok hresult
    exact ⟨publisher, events, rfl⟩
  | error failure a' => exact (hstart.of_error hresult).elim

theorem PlayerSetup.Runs.sound {setup : PlayerSetup P S}
    {taken : List (Taken (Player P S) (Input × Reply))} {player : Player P S}
    (run : setup.Runs taken player) : player.Sound setup.config := by
  refine run.invariant ?_ fun s l s' h hstep => h.next hstep
  obtain ⟨publisher, events, hplayer⟩ := setup.player_eq
  rw [hplayer]
  exact ⟨rfl, Coherent.new _ _ _, by simp⟩

end Runs

section Coherence

variable {capacity : ℕ} {model : PlayerModel}

theorem Coherent.voice_none_iff (h : Coherent capacity model) :
    model.voiceChannelId = none ↔ model.state = .disconnected := by
  cases h.phase with
  | disconnected hvoice hstate => simp [hvoice, hstate]
  | idle hvoice hstate => simp [hstate, Option.isSome_iff_ne_none.mp hvoice]
  | active hvoice hstate =>
    have hsome := Option.isSome_iff_ne_none.mp hvoice
    rcases hstate with hstate | hstate <;> simp [hsome, hstate]

theorem Coherent.cleared (h : Coherent capacity model) (hvoice : model.voiceChannelId = none) :
    model.current = none ∧ model.queue = [] ∧ model.history = [] := by
  cases h.phase with
  | disconnected _ _ hcurrent hqueue hhistory => exact ⟨hcurrent, hqueue, hhistory⟩
  | idle hsome => simp [hvoice] at hsome
  | active hsome => simp [hvoice] at hsome

theorem Coherent.active_iff (h : Coherent capacity model) :
    model.state = .playing ∨ model.state = .paused ↔ model.current.isSome = true := by
  cases h.phase with
  | disconnected _ hstate hcurrent => simp [hstate, hcurrent]
  | idle _ hstate hcurrent => simp [hstate, hcurrent]
  | active _ hstate hcurrent => simp [hstate, hcurrent]

theorem Coherent.idle_iff (h : Coherent capacity model) :
    model.state = .idleConnected ↔
      model.voiceChannelId.isSome = true ∧ model.current = none ∧ model.queue = [] := by
  cases h.phase with
  | disconnected hvoice hstate => simp [hvoice, hstate]
  | idle hvoice hstate hcurrent hqueue => simp [hvoice, hstate, hcurrent, hqueue]
  | active hvoice hstate hcurrent =>
    have hsome := Option.isSome_iff_ne_none.mp hcurrent
    rcases hstate with hstate | hstate <;> simp [hsome, hstate]

variable [PlaybackPort P] [SnapshotPublisher S]

theorem Coherent.execute_not_panic {actor a' : Actor P S}
    (h : Coherent actor.config.maxQueuedTracks actor.model) {command : PlayerCommand}
    {reading : Reading} {idempotencyKey : Uuid} {message : String}
    (hvalid : command.validateAgainst (actor.model.snapshot reading) = .ok ()) :
    execute command idempotencyKey actor ≠ .error (.panic message) a' := by
  intro hpanic
  have houtcome := (conforms_execute idempotencyKey h hvalid).of_error hpanic
  exact Outcome.not_panic houtcome

/-- In every state a player reaches, voice channel, state, current track, queue and history fit
together and stay within the limit; no command that passes validation panics, and no turn did. -/
theorem reachable_coherent {setup : PlayerSetup P S}
    {taken : List (Taken (Player P S) (Input × Reply))} {player : Player P S}
    (run : setup.Runs taken player) :
    (player.actor.model.voiceChannelId = none ↔ player.actor.model.state = .disconnected) ∧
    (player.actor.model.voiceChannelId = none →
      player.actor.model.current = none ∧ player.actor.model.queue = [] ∧
        player.actor.model.history = []) ∧
    (player.actor.model.state = .playing ∨ player.actor.model.state = .paused ↔
      player.actor.model.current.isSome = true) ∧
    (player.actor.model.state = .idleConnected ↔
      player.actor.model.voiceChannelId.isSome = true ∧ player.actor.model.current = none ∧
        player.actor.model.queue = []) ∧
    player.actor.model.queue.length ≤ setup.config.maxQueuedTracks ∧
    player.actor.model.history.length ≤ setup.config.maxQueuedTracks ∧
    (∀ command reading idempotencyKey message a',
      PlayerCommand.validateAgainst (player.actor.model.snapshot reading) command = .ok () →
      execute command idempotencyKey player.actor ≠ .error (.panic message) a') ∧
    player.status ≠ .panicked := by
  have hsound := run.sound
  have hcoherent := hsound.coherent
  have hconfig := hsound.config
  refine ⟨hcoherent.voice_none_iff, hcoherent.cleared, hcoherent.active_iff, hcoherent.idle_iff,
    hconfig ▸ hcoherent.queue_le, hconfig ▸ hcoherent.history_le, ?_, hsound.status⟩
  intro command reading idempotencyKey message a' hvalid
  exact hcoherent.execute_not_panic hvalid

end Coherence

/-- A connected player that plays one track and is paused. -/
def pausedTrack : List Input :=
  [.request (.connect ⟨.MIN⟩ ⟨0⟩),
    .request (.enqueue (.scripted 1) ⟨1⟩),
    .request (.apply (.scripted 1 2 .pause))]

theorem reachable_coherent_pausedTrack :
    (PlayerSetup.after [] pausedTrack).actor.model.state = .paused ∧
      (PlayerSetup.after [] pausedTrack).actor.model.current.isSome = true :=
  have hpaused : (PlayerSetup.after [] pausedTrack).actor.model.state = .paused := by
    decide +kernel
  have run := run_record Player.step (PlayerSetup.scripted []).player pausedTrack
  ⟨hpaused, (reachable_coherent run).2.2.1.mp (Or.inr hpaused)⟩

end PepeAudio
