import PepeAudio.Bot.PlayerRegistry
import PepeAudio.Player.Revisions

/-!
# One actor of a guild

What an actor of the factory keeps while it runs, whoever holds its handles. An
actor without a voice channel and without an idle timer has nothing to do when
its handles are gone; one that is not in the registry is either such an actor or
has ended.
-/
namespace PepeAudio

open Actor

variable {P S : Type}

/-- The player is in no channel, and its idle timer is stopped. -/
structure Actor.Unconnected (a : Actor P S) : Prop where
  voice : a.model.voiceChannelId = none
  timer : a.idleTimer.active = false

/-- The commands that `initialize` sends. -/
def PlayerCommand.isSetting : PlayerCommand → Bool
  | .setVolume _ | .setHrir _ | .setSpatialAudio _ => true
  | _ => false

/-- The inputs that ask nothing of a player outside voice. -/
def Input.isPassive : Input → Bool
  | .request .snapshot | .request .shutdown | .idleExpired _ | .requestsClosed => true
  | _ => false

/-- A step of a sound player is a turn, or its task has ended. -/
theorem Player.Sound.turned_or_ended [PlaybackPort P] [SnapshotPublisher S] {player : Player P S}
    {config : PlayerConfig} (hsound : player.Sound config) (input : Input) :
    Turned player.actor input (player.step input).1 (player.step input).2 ∨
      player.status ≠ .running ∧ player.step input = (.none, player) := by
  by_cases hrunning : player.status = .running
  · exact .inl (Player.step_turned hrunning hsound.coherent input)
  · exact .inr ⟨hrunning, Player.step_ended hrunning input⟩

namespace Actor.Unconnected

variable {a a' : Actor P S}

theorem not_idle (h : a.Unconnected) : a.model.isIdleConnected = false := by
  simp [PlayerModel.isIdleConnected, h.voice]

theorem kept (h : a.Unconnected) (hkept : Kept a a') : a'.Unconnected := by
  constructor
  · rw [hkept.model]
    exact h.voice
  · rw [hkept.idleTimer]
    exact h.timer

/-- A setting leaves the voice channel as it is. -/
theorem change {capacity : ℕ} {model model' : PlayerModel} {command : PlayerCommand}
    {calls : List CallRecord} (hsetting : command.isSetting = true)
    (hchange : Change capacity model (.command command) calls model') :
    model'.voiceChannelId = model.voiceChannelId := by
  generalize hcause : Cause.command command = cause at hchange
  cases hchange with
  | volumeSet | hrirSet | spatialSet => rfl
  | left _ _ hleft =>
    subst hcause
    simp only [Cause.command.injEq, reduceCtorEq, exists_const, or_false] at hleft
    subst hleft
    contradiction
  | connected | observed | queued | started | ended => contradiction
  | removed | moved | resumed | paused | stopped | skipped | skippedLast | wentBack | sought
  | repeatSet | shuffleSet =>
    obtain rfl := Cause.command.inj hcause
    contradiction

theorem outcome (h : a.Unconnected) {command : PlayerCommand}
    {result : Except Failure PlayerSnapshot}
    (hsetting : command.isSetting = true) (houtcome : Outcome a (.command command) result a') :
    a'.Unconnected := by
  cases houtcome with
  | unchanged reading hkept => exact h.kept hkept
  | rejected error hkept => exact h.kept hkept
  | @committed _ calls model _ hchange hframe hcommit =>
    obtain ⟨next, -, hmodel⟩ := hcommit.revision
    have hvoice : model.voiceChannelId = none := (change hsetting hchange).trans h.voice
    constructor
    · rw [hmodel]
      exact hvoice
    · have hidle : model.isIdleConnected = false := by
        simp [PlayerModel.isIdleConnected, hvoice]
      rw [hcommit.idleTimer, hidle, reconciled_stopped h.timer]
      exact h.timer

section Steps

variable [PlaybackPort P] [SnapshotPublisher S] {player : Player P S} {config : PlayerConfig}

/-- A passive input changes nothing of a player outside voice. -/
theorem step_kept (hsound : player.Sound config) (h : player.actor.Unconnected) {input : Input}
    (hpassive : input.isPassive = true) : Kept player.actor (player.step input).2.actor := by
  by_cases hrunning : player.status = .running
  · have hkept : Ends (turn input) player.actor (fun _ a' => Kept player.actor a')
        (fun _ _ => False) := by
      cases input with
      | request request =>
        cases request with
        | snapshot => exact ⟨rfl, rfl, rfl⟩
        | shutdown =>
          refine (ends_bind _ _).mpr ((ends_gracefulShutdown_left hsound.coherent.phase h.voice
            h.timer).imp ?_ fun _ _ h => h)
          rintro report a' ⟨events, rfl⟩
          exact ⟨rfl, rfl, rfl⟩
        | _ => contradiction
      | idleExpired generation =>
        refine (ends_bind _ _).mpr (ends_handleIdleExpiration.imp ?_ fun _ _ h => h)
        intro ends a' hexpired
        cases hexpired with
        | stale events hstale => exact ⟨rfl, rfl, rfl⟩
        | exhausted _ hidle | rearmed _ hidle | left _ _ _ hidle =>
          rw [h.not_idle] at hidle
          contradiction
      | requestsClosed =>
        refine (ends_bind _ _).mpr ((ends_gracefulShutdown_left hsound.coherent.phase h.voice
          h.timer).imp ?_ fun _ _ h => h)
        rintro report a' ⟨events, rfl⟩
        exact ⟨rfl, rfl, rfl⟩
    unfold Player.step
    rw [hrunning]
    dsimp only
    cases hresult : turn input player.actor with
    | ok answer a' => exact hkept.of_ok hresult
    | error failure a' => exact (hkept.of_error hresult).elim
  · rw [Player.step_ended hrunning]
    exact ⟨rfl, rfl, rfl⟩

/-- A player outside voice is still there after a setting, however it was answered. -/
theorem step_setting (hsound : player.Sound config) (h : player.actor.Unconnected)
    {envelope : CommandEnvelope} (hsetting : envelope.command.isSetting = true) :
    (player.step (.request (.apply envelope))).2.actor.Unconnected := by
  rcases hsound.turned_or_ended (.request (.apply envelope)) with hturned | ⟨-, hsame⟩
  · generalize (player.step (.request (.apply envelope))).1 = reply at hturned
    generalize (player.step (.request (.apply envelope))).2 = player' at hturned
    cases hturned with
    | answered hcause => contradiction
    | replayed | invalid => exact ⟨h.voice, h.timer⟩
    | accepted haccepted =>
      have hafter := h.outcome hsetting haccepted.outcome
      exact ⟨hafter.voice, hafter.timer⟩
    | failed haccepted => exact h.outcome hsetting haccepted.outcome
  · rw [hsame]
    exact h

end Steps

end Actor.Unconnected

namespace SpawnedActor

variable {actor actor' : SpawnedActor P S} {guildId : GuildId} {mark mark' : WithBot ℕ}

/-- The revision of the player as a number. -/
def revision (actor : SpawnedActor P S) : ℕ := actor.player.actor.model.revision.toNat

/-- What holds of an actor while the mailbox of its guild is at `mark`. -/
structure Fit (guildId : GuildId) (mark : WithBot ℕ) (actor : SpawnedActor P S) : Prop where
  sound : actor.player.Sound actor.player.actor.config
  guild : actor.player.actor.model.guildId = guildId
  published : ∀ snapshot ∈ actor.player.actor.published,
    snapshot.guildId = guildId ∧ snapshot.revision.toNat ≤ actor.revision
  publishing : ∀ snapshot ∈ actor.publishing, snapshot ∈ actor.player.actor.published
  handed : ∀ snapshot ∈ actor.player.actor.published,
    snapshot ∈ actor.publishing ∨ (snapshot.revision.toNat : WithBot ℕ) ≤ mark
  unconnected : actor.handles ≠ .shared → actor.player.actor.Unconnected

theorem Fit.mono (h : actor.Fit guildId mark) (hle : mark ≤ mark') : actor.Fit guildId mark' := by
  refine ⟨h.sound, h.guild, h.published, h.publishing, ?_, h.unconnected⟩
  intro snapshot hsnapshot
  exact (h.handed snapshot hsnapshot).imp_right fun hbefore => hbefore.trans hle

/-- All that the earlier actor has published is older than the later one. -/
structure Precedes (earlier later : SpawnedActor P S) : Prop where
  revision : ∀ snapshot ∈ earlier.player.actor.published, snapshot.revision.toNat < later.revision
  published : ∀ snapshot ∈ earlier.player.actor.published,
    ∀ snapshot' ∈ later.player.actor.published,
      snapshot.revision.toNat < snapshot'.revision.toNat

/-- An actor has moved on, with what it has published since. -/
structure Grows (actor actor' : SpawnedActor P S) : Prop where
  revision : actor.revision ≤ actor'.revision
  published : ∀ snapshot ∈ actor'.player.actor.published,
    snapshot ∈ actor.player.actor.published ∨ actor.revision < snapshot.revision.toNat

theorem Grows.of_player_eq (h : actor'.player = actor.player) : actor.Grows actor' := by
  refine ⟨by simp [SpawnedActor.revision, h], ?_⟩
  intro snapshot hsnapshot
  rw [h] at hsnapshot
  exact .inl hsnapshot

theorem Precedes.grows {earlier : SpawnedActor P S} (h : earlier.Precedes actor)
    (hgrows : actor.Grows actor') : earlier.Precedes actor' := by
  constructor
  · intro snapshot hsnapshot
    exact (h.revision snapshot hsnapshot).trans_le hgrows.revision
  · intro snapshot hsnapshot snapshot' hsnapshot'
    rcases hgrows.published snapshot' hsnapshot' with hbefore | hnew
    · exact h.published snapshot hsnapshot snapshot' hbefore
    · exact (h.revision snapshot hsnapshot).trans hnew

theorem Precedes.of_published {later : SpawnedActor P S} (h : actor.Precedes later)
    (hpublished : actor'.player.actor.published = actor.player.actor.published) :
    actor'.Precedes later := by
  constructor
  · rw [hpublished]
    exact h.revision
  · rw [hpublished]
    exact h.published

/-- An actor that has ended, or that nobody can reach any more. -/
structure Finished (actor : SpawnedActor P S) : Prop where
  publishing : actor.publishing = []
  unreachable : actor.player.status ≠ .running ∨ actor.handles = .dropped

theorem guildId_change {capacity : ℕ} {model model' : PlayerModel} {cause : Cause}
    {calls : List CallRecord} (hchange : Change capacity model cause calls model') :
    model'.guildId = model.guildId := by
  cases hchange <;> rfl

section Turns

variable [PlaybackPort P] [SnapshotPublisher S] {input : Input}

/-- What a step of a sound player does to its model and its snapshots. -/
theorem step_advance {player : Player P S} {config : PlayerConfig} (hsound : player.Sound config)
    (input : Input) : Advance player.actor (player.step input).2.actor ∧
      (player.step input).2.actor.model.guildId = player.actor.model.guildId ∧
      (player.step input).2.actor.config = player.actor.config ∧
      (player.step input).2.Sound config := by
  have hfollows : Follows Player.step player (input, (player.step input).1)
      (player.step input).2 := rfl
  have hnext := hsound.next hfollows
  rcases hsound.turned_or_ended input with hturned | ⟨-, hsame⟩
  · refine ⟨hturned.advance.1, ?_, hturned.moved.config, hnext⟩
    cases hturned.moved with
    | kept hmodel => rw [hmodel]
    | changed next _ _ hchange _ hmodel =>
      rw [hmodel]
      exact (guildId_change hchange :)
  · rw [hsame]
    exact ⟨.kept rfl rfl, rfl, rfl, hsound⟩

theorem turn_publishing (hadvance : Advance actor.player.actor (actor.turn input).2.player.actor) :
    (actor.turn input).2.player.actor.published =
      actor.player.actor.published ++ (actor.turn input).2.publishing := by
  have hdrop : (actor.turn input).2.publishing =
      (actor.turn input).2.player.actor.published.drop actor.player.actor.published.length := rfl
  rw [hdrop]
  cases hadvance with
  | kept _ hpublished | silent _ hpublished => simp [hpublished]
  | announced _ reading hpublished => simp [hpublished]

/-- A turn of an actor that has handed over all its snapshots. -/
theorem Fit.turn (h : actor.Fit guildId mark) (hidle : actor.publishing = [])
    (hunconnected : actor.handles ≠ .shared → (actor.turn input).2.player.actor.Unconnected) :
    (actor.turn input).2.Fit guildId mark ∧ actor.Grows (actor.turn input).2 := by
  obtain ⟨hadvance, hguild, hconfig, hsound⟩ := step_advance h.sound input
  have hall := turn_publishing hadvance
  have hrevision : actor.revision ≤ (actor.turn input).2.revision := by
    cases hadvance with
    | kept hmodel => exact (congrArg (fun model => model.revision.toNat) hmodel).ge
    | silent hnext | announced hnext =>
      rw [show (actor.turn input).2.revision = actor.revision + 1 from hnext]
      exact Nat.le_succ _
  have hnew : ∀ snapshot ∈ (actor.turn input).2.publishing, snapshot.guildId = guildId ∧
      actor.revision < snapshot.revision.toNat ∧
      snapshot.revision.toNat ≤ (actor.turn input).2.revision := by
    have hdrop : (actor.turn input).2.publishing =
        (actor.turn input).2.player.actor.published.drop
          actor.player.actor.published.length := rfl
    intro snapshot hsnapshot
    rw [hdrop] at hsnapshot
    cases hadvance with
    | kept _ hpublished =>
      rw [show (actor.turn input).2.player.actor.published = _ from hpublished] at hsnapshot
      simp at hsnapshot
    | silent _ hpublished =>
      rw [show (actor.turn input).2.player.actor.published = _ from hpublished] at hsnapshot
      simp at hsnapshot
    | announced hnext reading hpublished =>
      rw [show (actor.turn input).2.player.actor.published = _ from hpublished] at hsnapshot
      simp only [List.drop_left', List.mem_singleton] at hsnapshot
      subst hsnapshot
      have hlt : actor.revision < (actor.turn input).2.revision := by
        rw [show (actor.turn input).2.revision = actor.revision + 1 from hnext]
        exact Nat.lt_succ_self _
      exact ⟨hguild.trans h.guild, hlt, le_rfl⟩
  constructor
  · refine ⟨?_, hguild.trans h.guild, ?_, ?_, ?_, hunconnected⟩
    · rw [show (actor.turn input).2.player.actor.config = _ from hconfig]
      exact hsound
    · intro snapshot hsnapshot
      rw [hall, List.mem_append] at hsnapshot
      rcases hsnapshot with hbefore | hpublishing
      · obtain ⟨hsame, hle⟩ := h.published snapshot hbefore
        exact ⟨hsame, hle.trans hrevision⟩
      · obtain ⟨hsame, -, hle⟩ := hnew snapshot hpublishing
        exact ⟨hsame, hle⟩
    · intro snapshot hsnapshot
      rw [hall]
      exact List.mem_append_right _ hsnapshot
    · intro snapshot hsnapshot
      rw [hall, List.mem_append] at hsnapshot
      rcases hsnapshot with hbefore | hpublishing
      · have hhanded := h.handed snapshot hbefore
        rw [hidle] at hhanded
        exact .inr (hhanded.resolve_left (by simp))
      · exact .inl hpublishing
  · refine ⟨hrevision, ?_⟩
    intro snapshot hsnapshot
    rw [hall, List.mem_append] at hsnapshot
    exact hsnapshot.imp_right fun hpublishing => (hnew snapshot hpublishing).2.1

/-- An actor outside voice stays there when asked for a snapshot, for its end or for nothing. -/
theorem Fit.passive (h : actor.Fit guildId mark) (hpassive : input.isPassive = true) :
    actor.handles ≠ .shared → (actor.turn input).2.player.actor.Unconnected := by
  intro hhandles
  have hunconnected := h.unconnected hhandles
  exact hunconnected.kept (Unconnected.step_kept h.sound hunconnected hpassive)

theorem Fit.setting (h : actor.Fit guildId mark) {envelope : CommandEnvelope}
    (hsetting : envelope.command.isSetting = true) : actor.handles ≠ .shared →
      (actor.turn (.request (.apply envelope))).2.player.actor.Unconnected :=
  fun hhandles => Unconnected.step_setting h.sound (h.unconnected hhandles) hsetting

/-- What may happen to an actor of its own accord keeps it outside voice. -/
theorem Fit.accepts (h : actor.Fit guildId mark) (haccepts : actor.accepts input = true) :
    actor.handles ≠ .shared → (actor.turn input).2.player.actor.Unconnected := by
  intro hhandles
  refine h.passive ?_ hhandles
  cases input with
  | request request => simp [SpawnedActor.accepts, hhandles] at haccepts
  | idleExpired | requestsClosed => rfl

/-- An actor that has ended stays as it is. -/
theorem turn_ended (hended : actor.player.status ≠ .running) :
    actor.turn input = (.none, { actor with publishing := [] }) := by
  simp [SpawnedActor.turn, Player.step_ended hended]

/-- A finished actor changes nothing and publishes nothing, whatever it is given. -/
theorem Finished.turn (hfit : actor.Fit guildId mark) (h : actor.Finished)
    (hpassive : actor.accepts input = true ∨ input.isPassive = true) :
    Kept actor.player.actor (actor.turn input).2.player.actor ∧ (actor.turn input).2.Finished := by
  rcases h.unreachable with hended | hdropped
  · rw [turn_ended hended]
    exact ⟨⟨rfl, rfl, rfl⟩, rfl, .inl hended⟩
  · have hinput : input.isPassive = true := by
      refine hpassive.elim (fun haccepts => ?_) id
      cases input with
      | request request => simp [SpawnedActor.accepts, hdropped] at haccepts
      | idleExpired | requestsClosed => rfl
    have hunconnected := hfit.unconnected (by simp [hdropped])
    have hkept := Unconnected.step_kept hfit.sound hunconnected hinput
    refine ⟨hkept, ?_, .inr hdropped⟩
    simp only [SpawnedActor.turn, hkept.published, List.drop_length]

/-- A task that still runs has a snapshot to give. -/
theorem Fit.ended_of_silent (h : actor.Fit guildId mark)
    (hreply : ∀ snapshot, (actor.turn (.request .snapshot)).1 ≠ .snapshot snapshot) :
    actor.player.status ≠ .running := by
  intro hrunning
  have hturned := Player.step_turned hrunning h.sound.coherent (.request .snapshot)
  have hanswer : (actor.turn (.request .snapshot)).1 = (actor.player.step (.request .snapshot)).1 :=
    rfl
  rw [hanswer] at hreply
  generalize (actor.player.step (.request .snapshot)).1 = reply at hturned hreply
  generalize (actor.player.step (.request .snapshot)).2 = player' at hturned
  cases hturned with
  | answered hcause => contradiction
  | observed => exact hreply _ rfl

/-- An actor that does not report a failure has shut down. -/
theorem Fit.ended_of_shutdown (h : actor.Fit guildId mark)
    (hreply : ∀ error revision,
      (actor.turn (.request .shutdown)).1 ≠ .shutdown ⟨some error, revision⟩) :
    (actor.turn (.request .shutdown)).2.player.status ≠ .running := by
  by_cases hrunning : actor.player.status = .running
  · have hturned := Player.step_turned hrunning h.sound.coherent (.request .shutdown)
    have hanswer : (actor.turn (.request .shutdown)).1 =
        (actor.player.step (.request .shutdown)).1 := rfl
    have hplayer : (actor.turn (.request .shutdown)).2.player =
        (actor.player.step (.request .shutdown)).2 := rfl
    rw [hanswer] at hreply
    rw [hplayer]
    generalize (actor.player.step (.request .shutdown)).1 = reply at hturned hreply
    generalize (actor.player.step (.request .shutdown)).2 = player' at hturned
    cases hturned with
    | answered hcause => contradiction
    | @shutDown report a' hshut =>
      obtain ⟨disconnectError, revision⟩ := report
      cases disconnectError with
      | none => simp
      | some error => exact absurd rfl (hreply error revision)
  · rw [turn_ended hrunning]
    exact hrunning

end Turns

section Spawn

variable [SnapshotPublisher S]

theorem spawn_fit (setup : PlayerSetup P S) (settingsPublisher : ℕ) (mark : WithBot ℕ) :
    (spawn setup settingsPublisher).Fit setup.guildId mark ∧
      (spawn setup settingsPublisher).revision = setup.initialRevision.toNat ∧
      ∀ snapshot ∈ (spawn setup settingsPublisher).player.actor.published,
        snapshot.revision = setup.initialRevision := by
  obtain ⟨publisher, events, hplayer⟩ := setup.player_eq
  have hspawn : (spawn setup settingsPublisher).player = setup.player := rfl
  have hpublishing : (spawn setup settingsPublisher).publishing =
      (spawn setup settingsPublisher).player.actor.published := rfl
  have hpublished : ∀ snapshot ∈ (spawn setup settingsPublisher).player.actor.published,
      snapshot = (PlayerModel.new setup.guildId setup.initialRevision).snapshot
        setup.clock.head := by
    intro snapshot hsnapshot
    rw [hspawn, hplayer] at hsnapshot
    exact List.mem_singleton.mp hsnapshot
  have hrevision : (spawn setup settingsPublisher).revision = setup.initialRevision.toNat := by
    rw [SpawnedActor.revision, hspawn, hplayer]
    rfl
  refine ⟨⟨?_, ?_, ?_, ?_, ?_, fun _ => ?_⟩, hrevision, ?_⟩
  · rw [hspawn, hplayer]
    exact ⟨rfl, Coherent.new _ _ _, by simp⟩
  · rw [hspawn, hplayer]
    rfl
  · intro snapshot hsnapshot
    rw [hrevision, hpublished snapshot hsnapshot]
    exact ⟨rfl, le_rfl⟩
  · intro snapshot hsnapshot
    rwa [hpublishing] at hsnapshot
  · intro snapshot hsnapshot
    rw [hpublishing]
    exact .inl hsnapshot
  · rw [hspawn, hplayer]
    exact ⟨rfl, rfl⟩
  · intro snapshot hsnapshot
    rw [hpublished snapshot hsnapshot]
    rfl

end Spawn

/-- The oldest snapshot that is still to be handed over has reached the mailbox. -/
theorem Fit.handOver (h : actor.Fit guildId mark) {snapshot : PlayerSnapshot}
    {publishing : List PlayerSnapshot} (hpublishing : actor.publishing = snapshot :: publishing)
    (hle : mark ≤ mark') (hmark : (snapshot.revision.toNat : WithBot ℕ) ≤ mark') :
    { actor with publishing }.Fit guildId mark' := by
  refine ⟨h.sound, h.guild, h.published, ?_, ?_, h.unconnected⟩
  · intro other hother
    refine h.publishing other ?_
    rw [hpublishing]
    exact List.mem_cons_of_mem _ hother
  · intro other hother
    rcases h.handed other hother with hlater | hbefore
    · rw [hpublishing] at hlater
      rcases List.mem_cons.mp hlater with rfl | hlater
      · exact .inr hmark
      · exact .inl hlater
    · exact .inr (hbefore.trans hle)

/-- Handles of an actor are given away or dropped. -/
theorem Fit.withHandles (h : actor.Fit guildId mark) (handles : Handles)
    (hhandles : handles = .shared ∨ actor.handles ≠ .shared) :
    { actor with handles }.Fit guildId mark := by
  refine ⟨h.sound, h.guild, h.published, h.publishing, h.handed, ?_⟩
  intro hnot
  exact h.unconnected (hhandles.resolve_left hnot)

end SpawnedActor

end PepeAudio
