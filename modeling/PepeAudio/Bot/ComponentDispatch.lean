import PepeAudio.Bot.Authorization
import PepeAudio.Bot.NowPanelControls
import PepeAudio.Bot.PlayerClient

/-!
# Dispatch of a used control

A control that is used is checked, authorized and mapped to a command while the player goes
on. The command is executed only as long as the player is as it was when it was read, and
only for somebody who may give it.
-/
namespace PepeAudio.Authorization

open NowPanel Actor

inductive ComponentInteractionDataKind where
  | button
  | stringSelect (values : List String)
  | other
  deriving DecidableEq, Repr

structure ComponentInteraction where
  customId : String
  guildId : Option GuildId
  userId : UserId
  kind : ComponentInteractionDataKind
  deriving DecidableEq, Repr

inductive ComponentDispatchError where
  | invalidComponent
  | guildOnly
  | voicePolicy
  | noPlayer
  | staleOrInvalid
  | playerUnavailable
  deriving DecidableEq, Repr

def interactionInput : ComponentInteractionDataKind →
    Except ComponentDispatchError InteractionInput
  | .button => .ok .button
  | .stringSelect [value] => .ok (.select value)
  | _ => .error .invalidComponent

/-- Where a dispatch waits. -/
inductive Dispatching where
  /-- For the player of the guild. -/
  | received
  /-- For its snapshot. -/
  | opened (decoded : DecodedComponentId)
  /-- For the policy of the guild and the voice context. -/
  | observed (decoded : DecodedComponentId) (snapshot : PlayerSnapshot)
  | applying (decoded : DecodedComponentId) (snapshot : PlayerSnapshot) (envelope : CommandEnvelope)
  | finished (result : Except ComponentDispatchError PlayerSnapshot)

inductive DispatchEvent where
  | opened (found : Bool)
  /-- The settings as the database answers them, and the cache, the clock and the random ids after
  that. -/
  | facts (cache : GuildCache) (settings : Except StorageError (Option GuildSettings))
      (commandId idempotencyKey : Uuid) (deadline : UnixTimeMillis)

namespace Dispatching

variable (hash : KeyedHash) (base64 : Base64Codec) (codec : ComponentIdCodec)
  (component : ComponentInteraction)

/-- The checks before the first await. -/
def decodeComponent : Except ComponentDispatchError DecodedComponentId := do
  let decoded ← (codec.decode hash base64 component.customId).mapError fun _ => .invalidComponent
  let guildId ← okOr component.guildId .guildOnly
  if guildId ≠ decoded.guildId then .error .invalidComponent else pure decoded

/-- What follows the last of the facts. -/
def prepare (decoded : DecodedComponentId) (snapshot : PlayerSnapshot) (cache : GuildCache)
    (settings : Except StorageError (Option GuildSettings)) (commandId idempotencyKey : Uuid)
    (deadline : UnixTimeMillis) : Except ComponentDispatchError CommandEnvelope := do
  let settings ← settings.mapError fun _ => .playerUnavailable
  let policy := GuildControlPolicy.ofSettings settings
  let voice ← (currentVoiceContext cache decoded.guildId component.userId policy).mapError
    fun _ => .voicePolicy
  if !authorizeComponent voice policy snapshot.voiceChannelId decoded.action then
    .error .voicePolicy
  else
    let input ← interactionInput component.kind
    (mapInteraction commandId idempotencyKey decoded input voice.actorUserId snapshot
      deadline).mapError fun _ => .staleOrInvalid

def request : Dispatching → Option PlayerRequest
  | opened _ => some .snapshot
  | applying _ _ envelope => some (.apply envelope)
  | _ => none

def answered (reply : Reply) : Dispatching → Dispatching
  | opened decoded =>
    match snapshotResult reply with
    | .error _ => finished (.error .playerUnavailable)
    | .ok snapshot => observed decoded snapshot
  | applying _ _ _ =>
    match mutationResult reply with
    | .error _ => finished (.error .staleOrInvalid)
    | .ok updated => finished (.ok updated)
  | dispatching => dispatching

def advance : Dispatching → DispatchEvent → Dispatching
  | received, .opened found =>
    match decodeComponent hash base64 codec component with
    | .error error => finished (.error error)
    | .ok decoded => if found then opened decoded else finished (.error .noPlayer)
  | observed decoded snapshot, .facts cache settings commandId idempotencyKey deadline =>
    match prepare component decoded snapshot cache settings commandId idempotencyKey deadline with
    | .error error => finished (.error error)
    | .ok envelope => applying decoded snapshot envelope
  | dispatching, _ => dispatching

/-- `apply_component`, up to the new panel. -/
def client : Client Dispatching DispatchEvent where
  request := request
  answered := answered
  advance := advance hash base64 codec component

variable {hash base64 codec component} {decoded : DecodedComponentId} {snapshot : PlayerSnapshot}

theorem decodeComponent_ok (h : decodeComponent hash base64 codec component = .ok decoded) :
    codec.decode hash base64 component.customId = .ok decoded ∧
      component.guildId = some decoded.guildId := by
  obtain ⟨_, hdecoded, h⟩ := bind_eq_ok h
  obtain ⟨guildId, hguildId, h⟩ := bind_eq_ok h
  split_ifs at h with hguild
  cases h
  refine ⟨?_, ?_⟩
  · exact mapError_eq_ok hdecoded
  · rw [okOr_eq_ok hguildId, not_not.mp hguild]

/-- Who uses the control may give the command, in the channel of the player, and the control was
made for what the snapshot shows. -/
structure Prepared (component : ComponentInteraction) (decoded : DecodedComponentId)
    (snapshot : PlayerSnapshot) (cache : GuildCache) (settings : Option GuildSettings)
    (command : PlayerCommand) : Prop where
  guild : decoded.guildId = snapshot.guildId
  revision : decoded.revision = snapshot.revision
  mapped : ∃ input, interactionInput component.kind = .ok input ∧
    mapAction decoded.action input snapshot = .ok command
  authorized : Authorized cache decoded.guildId component.userId (.ofSettings settings) command
  channel : ∃ voice, currentVoiceContext cache decoded.guildId component.userId
      (.ofSettings settings) = .ok voice ∧
    voice.actorVoiceChannelId = snapshot.voiceChannelId

/-- What the actor asks for at a revision that it has seen. -/
def commanded (component : ComponentInteraction) (decoded : DecodedComponentId)
    (commandId idempotencyKey : Uuid) (deadline : UnixTimeMillis) (command : PlayerCommand) :
    CommandEnvelope :=
  ⟨commandId, idempotencyKey, decoded.guildId, some component.userId, decoded.revision, deadline,
    command⟩

theorem prepare_ok {cache : GuildCache} {settings : Except StorageError (Option GuildSettings)}
    {commandId idempotencyKey : Uuid} {deadline : UnixTimeMillis} {envelope : CommandEnvelope}
    (h : prepare component decoded snapshot cache settings commandId idempotencyKey deadline =
      .ok envelope) :
    ∃ row command, settings = .ok row ∧
      envelope = commanded component decoded commandId idempotencyKey deadline command ∧
      Prepared component decoded snapshot cache row command := by
  obtain ⟨row, hrow, h⟩ := bind_eq_ok h
  obtain ⟨voice, hvoice, h⟩ := bind_eq_ok h
  replace hvoice := mapError_eq_ok hvoice
  split_ifs at h with hauthorized
  obtain ⟨input, hinput, h⟩ := bind_eq_ok h
  replace h := mapError_eq_ok h
  unfold mapInteraction at h
  split_ifs at h with hguild hrevision
  obtain ⟨command, hmap, h⟩ := bind_eq_ok h
  cases h
  rw [Bool.not_eq_true', Bool.not_eq_false, authorizeComponent_iff hmap] at hauthorized
  have hactor : voice.actorUserId = component.userId := by
    obtain ⟨_, _, _, _, rfl⟩ := currentVoiceContext_eq_ok.mp hvoice
    rfl
  refine ⟨row, command, mapError_eq_ok hrow, ?_, {
    guild := not_not.mp hguild
    revision := not_not.mp hrevision
    mapped := ⟨input, hinput, hmap⟩
    authorized := ⟨voice, hvoice, hauthorized.2⟩
    channel := ⟨voice, hvoice, hauthorized.1.symm⟩ }⟩
  rw [commanded, hactor, not_not.mp hguild, not_not.mp hrevision]

variable {P S : Type}

variable (hash base64 codec component) in
/-- What a dispatch knows where it waits, by the events so far. -/
def Knows (events : List (ClientEvent DispatchEvent)) (player : Player P S) : Dispatching → Prop
  | received => True
  | opened decoded => decodeComponent hash base64 codec component = .ok decoded
  | observed decoded snapshot =>
    decodeComponent hash base64 codec component = .ok decoded ∧ Seen player snapshot
  | applying decoded snapshot envelope =>
    decodeComponent hash base64 codec component = .ok decoded ∧ Seen player snapshot ∧
      ∃ cache settings commandId idempotencyKey deadline command,
        .outside (.facts cache (.ok settings) commandId idempotencyKey deadline) ∈ events ∧
        envelope = commanded component decoded commandId idempotencyKey deadline command ∧
        Prepared component decoded snapshot cache settings command
  | finished _ => True

section steps
variable {events : List (ClientEvent DispatchEvent)} {event : ClientEvent DispatchEvent}
  {player player' : Player P S} {stage : Dispatching} {config : PlayerConfig}

theorem Knows.mono (h : Knows hash base64 codec component events player stage) :
    Knows hash base64 codec component (events ++ [event]) player stage := by
  cases stage with
  | applying decoded snapshot envelope =>
    obtain ⟨hdecoded, hseen, cache, settings, commandId, idempotencyKey, deadline, command, hmem,
      h⟩ := h
    exact ⟨hdecoded, hseen, cache, settings, commandId, idempotencyKey, deadline, command,
      List.mem_append_left _ hmem, h⟩
  | received | opened decoded | observed decoded snapshot | finished result => exact h

theorem Knows.advance {outside : DispatchEvent}
    (h : Knows hash base64 codec component events player stage) :
    Knows hash base64 codec component (events ++ [.outside outside]) player
      (Dispatching.advance hash base64 codec component stage outside) := by
  cases stage with
  | received =>
    cases outside with
    | opened found =>
      rw [Dispatching.advance]
      cases hdecoded : decodeComponent hash base64 codec component with
      | error error => trivial
      | ok decoded =>
        cases found with
        | true => exact hdecoded
        | false => trivial
    | facts cache settings commandId idempotencyKey deadline => trivial
  | observed decoded snapshot =>
    cases outside with
    | opened found => exact h
    | facts cache settings commandId idempotencyKey deadline =>
      rw [Dispatching.advance]
      cases hprepared : prepare component decoded snapshot cache settings commandId idempotencyKey
        deadline with
      | error error => trivial
      | ok envelope =>
        obtain ⟨row, command, rfl, henvelope, hcommand⟩ := prepare_ok hprepared
        exact ⟨h.1, h.2, cache, row, commandId, idempotencyKey, deadline, command, by simp,
          henvelope, hcommand⟩
  | opened decoded | applying decoded snapshot envelope | finished result => exact h.mono

variable [PlaybackPort P] [SnapshotPublisher S]

/-- While a dispatch waits, what it knows lasts. -/
theorem Knows.wait (hplayer : player' = player ∨
      (player.Sound config ∧ ∃ label, Follows Player.step player label player'))
    (h : Knows hash base64 codec component events player stage) :
    Knows hash base64 codec component (events ++ [event]) player' stage := by
  refine Knows.mono ?_
  have hseen {snapshot : PlayerSnapshot} (h : Seen player snapshot) : Seen player' snapshot := by
    rcases hplayer with rfl | ⟨hsound, label, hfollows⟩
    · exact h
    · exact h.next hsound hfollows
  cases stage with
  | received => trivial
  | opened decoded => exact h
  | observed decoded snapshot => exact ⟨h.1, hseen h.2⟩
  | applying decoded snapshot envelope => exact ⟨h.1, hseen h.2.1, h.2.2⟩
  | finished result => trivial

theorem Knows.answered {command : PlayerRequest} (hrequest : stage.request = some command)
    (h : Knows hash base64 codec component events player stage) :
    Knows hash base64 codec component (events ++ [event]) (player.step (.request command)).2
      (stage.answered (player.step (.request command)).1) := by
  cases stage with
  | opened decoded =>
    cases hrequest
    rw [Dispatching.answered]
    cases hresult : snapshotResult (player.step (.request .snapshot)).1 with
    | error error => trivial
    | ok snapshot => exact ⟨h, (step_reads player).2 snapshot hresult⟩
  | applying decoded snapshot envelope =>
    rw [Dispatching.answered]
    cases mutationResult (player.step (.request command)).1 <;> trivial
  | received | observed decoded snapshot | finished result => cases hrequest

end steps

section runs
variable [PlaybackPort P] [SnapshotPublisher S] {setup : PlayerSetup P S}
  {taken earlier later : List (Taken (Attended P S Dispatching) (ClientEvent DispatchEvent))}
  {t : Taken (Attended P S Dispatching) (ClientEvent DispatchEvent)}
  {attended : Attended P S Dispatching}

theorem knows_of_runs
    (run : (client hash base64 codec component).Runs .received setup taken attended) :
    Knows hash base64 codec component (taken.map Taken.label) attended.player attended.stage := by
  refine Client.Runs.traced (I := Knows hash base64 codec component) run trivial ?_ ?_ ?_
  · intro events event player player' stage _ hplayer h
    exact h.wait hplayer
  · intro events player stage command _ hrequest h
    exact h.answered hrequest
  · intro events player stage event h
    exact h.advance

theorem answered_applying (decoded : DecodedComponentId) (snapshot : PlayerSnapshot)
    (envelope : CommandEnvelope) (reply : Reply) :
    ∃ result, (applying decoded snapshot envelope).answered reply = .finished result := by
  rw [answered]
  cases mutationResult reply with
  | error error => exact ⟨_, rfl⟩
  | ok updated => exact ⟨_, rfl⟩

/-- A control that is used is executed at most once, and when it changes the player, then the id
is authentic and made for the player at its revision, the command is the one that the control
stands for there, and by the facts of the guild the actor was in the channel of the player and
authorized to give it. -/
theorem dispatch_changes_authorized
    (run : (client hash base64 codec component).Runs .received setup (earlier ++ t :: later)
      attended) (hlabel : t.label = .handled)
    (hchanged : t.after.player.actor.model ≠ t.before.player.actor.model) :
    (∃ decoded input snapshot cache settings commandId idempotencyKey deadline command,
      codec.decode hash base64 component.customId = .ok decoded ∧
      component.guildId = some decoded.guildId ∧
      decoded.guildId = t.before.player.actor.model.guildId ∧
      decoded.revision = t.before.player.actor.model.revision ∧
      interactionInput component.kind = .ok input ∧
      snapshot.timeless = t.before.player.actor.model.timeless ∧
      mapAction decoded.action input snapshot = .ok command ∧
      t.after.player = (t.before.player.step (.request (.apply
        (commanded component decoded commandId idempotencyKey deadline command)))).2 ∧
      .outside (.facts cache (.ok settings) commandId idempotencyKey deadline) ∈
        earlier.map Taken.label ∧
      Authorized cache decoded.guildId component.userId (.ofSettings settings) command ∧
      ∃ voice, currentVoiceContext cache decoded.guildId component.userId (.ofSettings settings) =
          .ok voice ∧
        voice.actorVoiceChannelId = t.before.player.actor.model.voiceChannelId) ∧
      ∀ u ∈ later, u.label = .handled → u.after = u.before := by
  obtain ⟨hearlier, hnext⟩ := Run.split run
  have hsound := Client.Runs.sound hearlier
  have hknows := knows_of_runs hearlier
  rw [hlabel] at hnext
  cases hstage : t.before.stage with
  | received | observed decoded snapshot | finished result =>
    rw [Client.step_unrequested (by rw [hstage]; rfl)] at hnext
    exact absurd (by rw [hnext]) hchanged
  | opened decoded =>
    rw [Client.step_handled (by rw [hstage]; rfl)] at hnext
    exact absurd (by rw [← hnext, (step_reads _).1]) hchanged
  | applying decoded snapshot envelope =>
    rw [Client.step_handled (by rw [hstage]; rfl)] at hnext
    rw [hstage] at hknows
    obtain ⟨hdecoded, hseen, cache, settings, commandId, idempotencyKey, deadline, command, hmem,
      rfl, hprepared⟩ := hknows
    have hplayer := congrArg Attended.player hnext
    have hrevision : decoded.revision = t.before.player.actor.model.revision := by
      rw [← hplayer] at hchanged
      exact hsound.revision_of_change hchanged
    have hcurrent := hseen.current (hprepared.revision.symm.trans hrevision)
    obtain ⟨hid, hguild⟩ := decodeComponent_ok hdecoded
    obtain ⟨input, hinput, hmapped⟩ := hprepared.mapped
    obtain ⟨voice, hvoice, hchannel⟩ := hprepared.channel
    refine ⟨⟨decoded, input, snapshot, cache, settings, commandId, idempotencyKey, deadline,
      command, hid, hguild, ?_, hrevision, hinput, hcurrent, hmapped, hplayer.symm, hmem,
      hprepared.authorized, voice, hvoice, ?_⟩, ?_⟩
    · exact hprepared.guild.trans (congrArg PlayerSnapshot.guildId hcurrent)
    · exact hchannel.trans (congrArg PlayerSnapshot.voiceChannelId hcurrent)
    · obtain ⟨result, hresult⟩ := answered_applying decoded snapshot
        (commanded component decoded commandId idempotencyKey deadline command)
        (t.before.player.step (.request (.apply
          (commanded component decoded commandId idempotencyKey deadline command)))).1
      rw [← hstage] at hresult
      have hhalted : (client hash base64 codec component).Halted t.after.stage := by
        rw [← hnext]
        show Client.Halted _ (Dispatching.answered _ _)
        rw [hresult]
        exact ⟨rfl, fun _ => rfl⟩
      exact (run.halted hhalted).2

/-- Everybody is in one channel. -/
def oneChannel : GuildCache :=
  ⟨fun _ => some ⟨fun userId => some ⟨some ⟨.MIN⟩, some ⟨userId, []⟩⟩, fun _ => none,
    fun _ => false⟩, ⟨.MIN⟩⟩

/-- The button of a track that plays, made at the revision two. -/
def pauseButton : ComponentInteraction :=
  ⟨exampleCodec.encode (fun _ _ => Vector.replicate 32 0) Base64.urlSafeNoPad .playPause ⟨.MIN⟩ ⟨2⟩,
    some ⟨.MIN⟩, ⟨.MIN⟩, .button⟩

def pauseClient : Client Dispatching DispatchEvent :=
  client (fun _ _ => Vector.replicate 32 0) Base64.urlSafeNoPad exampleCodec pauseButton

/-- Up to the command that goes to the player. -/
def pauseEvents : List (ClientEvent DispatchEvent) :=
  [.other (.request (.connect ⟨.MIN⟩ ⟨0⟩)), .other (.request (.enqueue (.scripted 1) ⟨1⟩)),
    .outside (.opened true), .handled,
    .outside (.facts oneChannel (.ok none) (.fromU128 1) (.fromU128 2) ⟨1000000⟩)]

def pausePrepared : List (Taken (Attended ScriptedPlayback Unit Dispatching)
    (ClientEvent DispatchEvent)) × Attended ScriptedPlayback Unit Dispatching :=
  replay pauseClient.step ⟨(PlayerSetup.scripted []).player, .received⟩ pauseEvents

/-- The button is used and its command reaches the player, but not a second time. -/
theorem dispatch_changes_authorized_pause :
    (∃ decoded input snapshot cache settings commandId idempotencyKey deadline command,
      exampleCodec.decode (fun _ _ => Vector.replicate 32 0) Base64.urlSafeNoPad
        pauseButton.customId = .ok decoded ∧
      decoded.guildId = pausePrepared.2.player.actor.model.guildId ∧
      decoded.revision = pausePrepared.2.player.actor.model.revision ∧
      interactionInput pauseButton.kind = .ok input ∧
      snapshot.timeless = pausePrepared.2.player.actor.model.timeless ∧
      mapAction decoded.action input snapshot = .ok command ∧
      (pauseClient.step pausePrepared.2 .handled).player =
        (pausePrepared.2.player.step (.request (.apply
          (commanded pauseButton decoded commandId idempotencyKey deadline command)))).2 ∧
      Authorized cache decoded.guildId pauseButton.userId (.ofSettings settings) command ∧
      ∃ voice, currentVoiceContext cache decoded.guildId pauseButton.userId
          (.ofSettings settings) = .ok voice ∧
        voice.actorVoiceChannelId = pausePrepared.2.player.actor.model.voiceChannelId) ∧
    pauseClient.step (pauseClient.step pausePrepared.2 .handled) .handled =
      pauseClient.step pausePrepared.2 .handled := by
  generalize hpaused : pauseClient.step pausePrepared.2 .handled = paused
  have run : pauseClient.Runs .received (PlayerSetup.scripted [])
      (pausePrepared.1 ++ [⟨pausePrepared.2, .handled, paused⟩] ++
        [⟨paused, .handled, pauseClient.step paused .handled⟩])
      (pauseClient.step paused .handled) :=
    Run.snoc (Run.snoc (run_replay pauseClient.step _ pauseEvents) hpaused) rfl
  rw [List.append_assoc] at run
  have hrevision : paused.player.actor.model.revision ≠
      pausePrepared.2.player.actor.model.revision := by
    rw [← hpaused]
    decide +kernel
  have hchanged := fun hsame => hrevision (congrArg PlayerModel.revision hsame)
  obtain ⟨⟨decoded, input, snapshot, cache, settings, commandId, idempotencyKey, deadline, command,
    hid, -, hguild, hcurrent, hinput, hshown, hmapped, hplayer, -, hauthorized, hchannel⟩,
    honce⟩ := dispatch_changes_authorized run rfl hchanged
  exact ⟨⟨decoded, input, snapshot, cache, settings, commandId, idempotencyKey, deadline, command,
    hid, hguild, hcurrent, hinput, hshown, hmapped, hplayer, hauthorized, hchannel⟩,
    honce _ (List.mem_singleton_self _) rfl⟩

end runs

end Dispatching
end PepeAudio.Authorization
