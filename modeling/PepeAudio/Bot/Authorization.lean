import PepeAudio.Bot.NowPanel
import PepeAudio.Storage.CommandAdmission
import PepeAudio.Storage.GuildSettings
import PepeAudio.Worker.CommandLoop

/-!
# Who may control a player

A command reaches a player as a slash command, by a control of a panel or from the
dashboard. Each of these ways checks the cached facts of the guild and its settings in
its own order and with its own functions. `Authorized` says once what it takes, and
the ways decide it alike.
-/
namespace PepeAudio.Authorization

open NowPanel

structure CachedMember where
  userId : UserId
  roles : List UInt64
  deriving DecidableEq, Repr

structure CachedVoiceState where
  channelId : Option ChannelId
  /-- The member as it was when the state was sent. -/
  member : Option CachedMember
  deriving DecidableEq, Repr

structure CachedGuild where
  voiceStates : UserId → Option CachedVoiceState
  members : UserId → Option CachedMember
  /-- Whether the permissions of a member hold `MANAGE_GUILD`. -/
  managesGuild : CachedMember → Bool

structure GuildCache where
  guild : GuildId → Option CachedGuild
  currentUser : UserId

/-- The member that was updated last; the copy in a voice state may be older. -/
def currentCachedMember (guild : CachedGuild) (actorId : UserId)
    (voiceStateMember : Option CachedMember) : Option CachedMember :=
  (guild.members actorId).or voiceStateMember

abbrev StoredControlPolicy := PepeAudio.ControlPolicy

structure GuildControlPolicy where
  control : StoredControlPolicy
  djRoleId : Option UInt64
  deriving DecidableEq, Repr

namespace GuildControlPolicy

def default : GuildControlPolicy := ⟨.sameVoiceChannel, none⟩

def ofSettings (settings : Option GuildSettings) : GuildControlPolicy :=
  settings.elim default fun item => ⟨item.controlPolicy, item.djRoleId⟩

def hasDjRole (policy : GuildControlPolicy) (actorRoleIds : List UInt64) : Bool :=
  policy.djRoleId.any fun configured => configured ∈ actorRoleIds

def allowsControl (policy : GuildControlPolicy) (managesGuild hasDjRole : Bool) : Bool :=
  match policy.control with
  | .sameVoiceChannel => true
  | .djOnly => managesGuild || hasDjRole
  | .manageGuild => managesGuild

end GuildControlPolicy

inductive ControlPolicy where
  | actorInVoice
  | sameVoiceChannel
  | privilegedSameVoiceChannel
  deriving DecidableEq, Repr

structure VoiceContext where
  actorUserId : UserId
  actorVoiceChannelId : Option ChannelId
  botVoiceChannelId : Option ChannelId
  hasManageGuild : Bool
  hasDjRole : Bool
  deriving DecidableEq, Repr

inductive VoicePolicyError where
  | actorNotInVoice
  | differentVoiceChannel
  | missingPrivilege
  deriving DecidableEq, Repr

inductive CurrentVoiceFactsError where
  | guildUnavailable
  | memberUnavailable
  deriving DecidableEq, Repr

def currentVoiceContext (cache : GuildCache) (guildId : GuildId) (actorId : UserId)
    (policy : GuildControlPolicy) : Except CurrentVoiceFactsError VoiceContext := do
  let guild ← okOr (cache.guild guildId) .guildUnavailable
  let actorState := guild.voiceStates actorId
  let member ← okOr (currentCachedMember guild actorId (actorState.bind (·.member)))
    .memberUnavailable
  pure {
    actorUserId := actorId
    actorVoiceChannelId := actorState.bind (·.channelId)
    botVoiceChannelId := (guild.voiceStates cache.currentUser).bind (·.channelId)
    hasManageGuild := guild.managesGuild member
    hasDjRole := policy.hasDjRole member.roles }

def authorizeVoiceControl (context : VoiceContext) (policy : ControlPolicy) :
    Except VoicePolicyError ChannelId :=
  match context.actorVoiceChannelId with
  | none => .error .actorNotInVoice
  | some actor =>
    let joined := match policy, context.botVoiceChannelId with
      | .actorInVoice, none => true
      | _, some bot => bot == actor
      | _, none => false
    if !joined then .error .differentVoiceChannel
    else if policy = .privilegedSameVoiceChannel ∧
        (context.hasManageGuild || context.hasDjRole) = false then .error .missingPrivilege
    else .ok actor

def authorizeGuildControl (context : VoiceContext) (policy : GuildControlPolicy) :
    Except VoicePolicyError ChannelId := do
  let channel ← authorizeVoiceControl context .sameVoiceChannel
  if policy.allowsControl context.hasManageGuild context.hasDjRole then pure channel
  else .error .missingPrivilege

def authorizePlay (voice : VoiceContext) (policy : GuildControlPolicy) :
    Except VoicePolicyError ChannelId :=
  if !policy.allowsControl voice.hasManageGuild voice.hasDjRole then .error .missingPrivilege
  else authorizeVoiceControl voice .actorInVoice

def ensureActiveChannel (playerChannel actorChannel : Option ChannelId) : Bool :=
  playerChannel == actorChannel && playerChannel.isSome

/-- `/stop` and `/leave`: the policy first, then the channel of the player. -/
def authorizeStop (voice : VoiceContext) (playerChannel : Option ChannelId) : Bool :=
  (authorizeVoiceControl voice .privilegedSameVoiceChannel).isOk &&
    ensureActiveChannel playerChannel voice.actorVoiceChannelId

/-- The checks of a control before it is mapped to a command, with the channel of the player. -/
def authorizeComponent (voice : VoiceContext) (policy : GuildControlPolicy)
    (playerChannel : Option ChannelId) (action : ComponentAction) : Bool :=
  playerChannel == voice.actorVoiceChannelId &&
    if action = .stop then (authorizeVoiceControl voice .privilegedSameVoiceChannel).isOk
    else (authorizeGuildControl voice policy).isOk

structure DiscordCommandAuthorizer where
  shardTotal : UInt32
  /-- The first of the owned shards and the one behind the last. -/
  ownedShards : UInt32 × UInt32

inductive CachedFacts where
  | available (managesGuild : Bool) (roles : List UInt64)
  | denied
  | unavailable
  deriving DecidableEq, Repr

def cachedVoiceFacts (cache : GuildCache) (guildId : GuildId) (actorId : UserId)
    (allowAbsentBot : Bool) : CachedFacts :=
  match cache.guild guildId with
  | none => .unavailable
  | some guild =>
    match guild.voiceStates actorId with
    | none => .denied
    | some actorState =>
      match actorState.channelId with
      | none => .denied
      | some actorChannel =>
        let botChannel := (guild.voiceStates cache.currentUser).bind (·.channelId)
        if botChannel.isNone && !allowAbsentBot then .denied
        else if botChannel.any (actorChannel != ·) then .denied
        else match currentCachedMember guild actorId actorState.member with
          | none => .unavailable
          | some member => .available (guild.managesGuild member) member.roles

def isEnqueueMedia : PlayerCommand → Bool
  | .enqueueMedia _ => true
  | _ => false

/-- The settings are what the database answers. -/
def authorize (authorizer : DiscordCommandAuthorizer) (cache : GuildCache)
    (settings : Except StorageError (Option GuildSettings)) (envelope : CommandEnvelope) :
    CommandAuthorization :=
  let shard := shardId envelope.guildId authorizer.shardTotal
  if ¬ (authorizer.ownedShards.1 ≤ shard ∧ shard < authorizer.ownedShards.2) then .denied
  else match envelope.actorUserId with
    | none => .denied
    | some actor =>
      match cachedVoiceFacts cache envelope.guildId actor (isEnqueueMedia envelope.command) with
      | .denied => .denied
      | .unavailable => .retryableFailure
      | .available managesGuild roles =>
        match settings with
        | .error _ => .retryableFailure
        | .ok settings =>
          let hasDjRole := (settings.bind (·.djRoleId)).any fun role => roles.any (· == role)
          let privileged := managesGuild || hasDjRole
          if envelope.command = .stop ∨ envelope.command = .disconnect then
            if privileged then .allowed else .denied
          else match settings.elim .sameVoiceChannel (·.controlPolicy) with
            | .sameVoiceChannel => .allowed
            | .djOnly => if privileged then .allowed else .denied
            | .manageGuild => if managesGuild then .allowed else .denied

/-- The actor is in the channel of the bot, or in some channel for a command that makes the bot
join; what ends the session takes a privilege, and anything else what the settings say. -/
structure MayControl (policy : GuildControlPolicy) (voice : VoiceContext)
    (command : PlayerCommand) : Prop where
  inChannel : ∃ channel, voice.actorVoiceChannelId = some channel ∧
    (voice.botVoiceChannelId = some channel ∨
      voice.botVoiceChannelId = none ∧ ∃ input, command = .enqueueMedia input)
  privileged : command = .stop ∨ command = .disconnect →
    voice.hasManageGuild = true ∨ voice.hasDjRole = true
  djOnly : command ≠ .stop → command ≠ .disconnect → policy.control = .djOnly →
    voice.hasManageGuild = true ∨ voice.hasDjRole = true
  manageGuild : command ≠ .stop → command ≠ .disconnect → policy.control = .manageGuild →
    voice.hasManageGuild = true

/-- By the facts that are cached about the guild and the member. -/
def Authorized (cache : GuildCache) (guildId : GuildId) (actor : UserId)
    (policy : GuildControlPolicy) (command : PlayerCommand) : Prop :=
  ∃ voice, currentVoiceContext cache guildId actor policy = .ok voice ∧
    MayControl policy voice command

theorem isOk_iff {ε α : Type} {x : Except ε α} : x.isOk = true ↔ ∃ a, x = .ok a := by
  cases x <;> simp [Except.isOk, Except.toBool]

section policies
variable {policy : GuildControlPolicy} {voice : VoiceContext} {command : PlayerCommand}

theorem authorizeVoiceControl_eq_ok {control : ControlPolicy} {channel : ChannelId} :
    authorizeVoiceControl voice control = .ok channel ↔
      voice.actorVoiceChannelId = some channel ∧
      (voice.botVoiceChannelId = some channel ∨
        control = .actorInVoice ∧ voice.botVoiceChannelId = none) ∧
      (control = .privilegedSameVoiceChannel →
        voice.hasManageGuild = true ∨ voice.hasDjRole = true) := by
  unfold authorizeVoiceControl
  cases hactor : voice.actorVoiceChannelId with
  | none => simp
  | some actor =>
    cases hbot : voice.botVoiceChannelId with
    | none => cases control <;> simp
    | some bot =>
      by_cases hsame : bot = actor
      · subst hsame
        cases control with
        | privilegedSameVoiceChannel =>
          cases voice.hasManageGuild <;> cases voice.hasDjRole <;> simp
        | _ => simp
      · have hother : ¬ (actor = channel ∧ bot = channel) := by
          rintro ⟨rfl, rfl⟩
          exact hsame rfl
        cases control <;> simp_all

theorem allowsControl_iff {managesGuild hasDjRole : Bool} :
    policy.allowsControl managesGuild hasDjRole = true ↔
      (policy.control = .djOnly → managesGuild = true ∨ hasDjRole = true) ∧
      (policy.control = .manageGuild → managesGuild = true) := by
  unfold GuildControlPolicy.allowsControl
  cases policy.control <;> simp

/-- A command that neither joins nor ends the session takes the channel of the bot and what the
settings say. -/
theorem authorizeGuildControl_iff (hstop : command ≠ .stop) (hdisconnect : command ≠ .disconnect)
    (hjoin : ∀ input, command ≠ .enqueueMedia input) :
    (∃ channel, authorizeGuildControl voice policy = .ok channel) ↔
      MayControl policy voice command := by
  have hcontrol : (∃ channel, authorizeGuildControl voice policy = .ok channel) ↔
      (∃ channel, authorizeVoiceControl voice .sameVoiceChannel = .ok channel) ∧
        policy.allowsControl voice.hasManageGuild voice.hasDjRole = true := by
    unfold authorizeGuildControl
    cases authorizeVoiceControl voice .sameVoiceChannel with
    | error error => simp [bind, Except.bind]
    | ok channel =>
      cases policy.allowsControl voice.hasManageGuild voice.hasDjRole <;>
        simp [bind, Except.bind, pure, Except.pure]
  rw [hcontrol, allowsControl_iff]
  simp only [authorizeVoiceControl_eq_ok]
  constructor
  · rintro ⟨⟨channel, hactor, hbot, -⟩, hdj, hmanage⟩
    refine ⟨⟨channel, hactor, .inl (by simpa using hbot)⟩, ?_, fun _ _ => hdj, fun _ _ => hmanage⟩
    rintro (h | h)
    · exact absurd h hstop
    · exact absurd h hdisconnect
  · rintro ⟨⟨channel, hactor, hbot⟩, -, hdj, hmanage⟩
    refine ⟨⟨channel, hactor, ?_, by simp⟩, hdj hstop hdisconnect, hmanage hstop hdisconnect⟩
    rcases hbot with hbot | ⟨-, input, hinput⟩
    · exact .inl hbot
    · exact absurd hinput (hjoin input)

theorem authorizePlay_iff (input : String) :
    (∃ channel, authorizePlay voice policy = .ok channel) ↔
      MayControl policy voice (.enqueueMedia input) := by
  have hplay : (∃ channel, authorizePlay voice policy = .ok channel) ↔
      policy.allowsControl voice.hasManageGuild voice.hasDjRole = true ∧
        ∃ channel, authorizeVoiceControl voice .actorInVoice = .ok channel := by
    unfold authorizePlay
    cases policy.allowsControl voice.hasManageGuild voice.hasDjRole <;> simp
  rw [hplay, allowsControl_iff]
  simp only [authorizeVoiceControl_eq_ok]
  constructor
  · rintro ⟨⟨hdj, hmanage⟩, channel, hactor, hbot, -⟩
    refine ⟨⟨channel, hactor, ?_⟩, by simp, fun _ _ => hdj, fun _ _ => hmanage⟩
    exact hbot.imp_right fun hnone => ⟨hnone.2, input, rfl⟩
  · rintro ⟨⟨channel, hactor, hbot⟩, -, hdj, hmanage⟩
    refine ⟨⟨hdj (by simp) (by simp), hmanage (by simp) (by simp)⟩, channel, hactor, ?_, by simp⟩
    exact hbot.imp_right fun hnone => ⟨trivial, hnone.1⟩

variable (policy) in
theorem authorizeVoiceControl_privileged_iff (hends : command = .stop ∨ command = .disconnect) :
    (∃ channel, authorizeVoiceControl voice .privilegedSameVoiceChannel = .ok channel) ↔
      MayControl policy voice command := by
  simp only [authorizeVoiceControl_eq_ok]
  constructor
  · rintro ⟨channel, hactor, hbot, hprivileged⟩
    refine ⟨⟨channel, hactor, .inl (by simpa using hbot)⟩, fun _ => hprivileged trivial, ?_, ?_⟩
    all_goals
      intro hstop hdisconnect
      rcases hends with h | h <;> contradiction
  · rintro ⟨⟨channel, hactor, hbot⟩, hprivileged, -, -⟩
    refine ⟨channel, hactor, ?_, fun _ => hprivileged hends⟩
    rcases hbot with hbot | ⟨-, input, rfl⟩
    · exact .inl hbot
    · simp at hends

variable (policy) in
/-- A member who may end the session has a channel, so the player has to be in that one. -/
theorem authorizeStop_iff (hends : command = .stop ∨ command = .disconnect)
    (playerChannel : Option ChannelId) :
    authorizeStop voice playerChannel = true ↔
      playerChannel = voice.actorVoiceChannelId ∧ MayControl policy voice command := by
  rw [authorizeStop, ensureActiveChannel, Bool.and_eq_true, Bool.and_eq_true, isOk_iff,
    authorizeVoiceControl_privileged_iff policy hends, beq_iff_eq]
  constructor
  · rintro ⟨hmay, hsame, -⟩
    exact ⟨hsame, hmay⟩
  · rintro ⟨rfl, hmay⟩
    obtain ⟨channel, hactor, -⟩ := hmay.inChannel
    exact ⟨hmay, rfl, by rw [hactor]; rfl⟩

/-- The stop button is mapped to the command that ends a session, and no other control to one that
ends it or joins. -/
theorem mapAction_command {action : ComponentAction} {input : InteractionInput}
    {snapshot : PlayerSnapshot} (hmap : mapAction action input snapshot = .ok command) :
    (action = .stop ↔ command = .stop) ∧ command ≠ .disconnect ∧
      ∀ input, command ≠ .enqueueMedia input := by
  unfold mapAction at hmap
  split at hmap
  · split_ifs at hmap <;> cases hmap <;> simp
  · cases hmap
    simp
  · cases hmap
    simp
  · cases hmap
    simp
  · cases hmap
    simp
  · cases hmap
    simp
  · cases hmap
    simp
  · obtain ⟨percent, -, hmap⟩ := bind_eq_ok hmap
    obtain ⟨volume, -, hmap⟩ := bind_eq_ok hmap
    cases hmap
    simp
  · split_ifs at hmap
    · cases hmap
      simp
    · obtain ⟨preset, -, hmap⟩ := bind_eq_ok hmap
      cases hmap
      simp
  · cases hmap

theorem mapError_eq_ok {ε ε' α : Type} {x : Except ε α} {f : ε → ε'} {a : α}
    (h : x.mapError f = .ok a) : x = .ok a := by
  cases x with
  | error error => contradiction
  | ok b => exact congrArg Except.ok (Except.ok.inj h)

theorem authorizeComponent_iff {action : ComponentAction} {input : InteractionInput}
    {snapshot : PlayerSnapshot} (hmap : mapAction action input snapshot = .ok command)
    (playerChannel : Option ChannelId) :
    authorizeComponent voice policy playerChannel action = true ↔
      playerChannel = voice.actorVoiceChannelId ∧ MayControl policy voice command := by
  obtain ⟨hstop, hdisconnect, hjoin⟩ := mapAction_command hmap
  rw [authorizeComponent, Bool.and_eq_true, beq_iff_eq]
  refine and_congr_right fun _ => ?_
  by_cases hends : action = .stop
  · rw [if_pos hends, isOk_iff]
    exact authorizeVoiceControl_privileged_iff policy (.inl (hstop.mp hends))
  · rw [if_neg hends, isOk_iff]
    exact authorizeGuildControl_iff (fun h => hends (hstop.mpr h)) hdisconnect hjoin

/-- What the dashboard decides once the facts and the settings are there. -/
theorem decision_allowed_iff {settings : Option GuildSettings} {managesGuild hasDjRole : Bool} :
    (if command = .stop ∨ command = .disconnect then
        if managesGuild || hasDjRole then CommandAuthorization.allowed else .denied
      else match settings.elim .sameVoiceChannel (·.controlPolicy) with
        | .sameVoiceChannel => .allowed
        | .djOnly => if managesGuild || hasDjRole then .allowed else .denied
        | .manageGuild => if managesGuild then .allowed else .denied) = .allowed ↔
      (command = .stop ∨ command = .disconnect → managesGuild = true ∨ hasDjRole = true) ∧
      (command ≠ .stop → command ≠ .disconnect →
        (GuildControlPolicy.ofSettings settings).allowsControl managesGuild hasDjRole = true) := by
  have hcontrol : settings.elim .sameVoiceChannel (·.controlPolicy) =
      (GuildControlPolicy.ofSettings settings).control := by
    cases settings <;> rfl
  rw [hcontrol]
  by_cases hends : command = .stop ∨ command = .disconnect
  · rw [if_pos hends]
    have hnever : ¬ (command ≠ .stop ∧ command ≠ .disconnect) := by
      rw [← not_or]
      exact not_not.mpr hends
    cases managesGuild <;> cases hasDjRole <;> simp [hends] <;> tauto
  · rw [if_neg hends]
    have hnot := not_or.mp hends
    simp only [hnot.1, hnot.2, ne_eq, not_false_eq_true, true_implies,
      GuildControlPolicy.allowsControl]
    cases (GuildControlPolicy.ofSettings settings).control <;> cases managesGuild <;>
      cases hasDjRole <;> simp

end policies

section facts
variable {cache : GuildCache} {guildId : GuildId} {actorId : UserId}

theorem currentVoiceContext_eq_ok {policy : GuildControlPolicy} {voice : VoiceContext} :
    currentVoiceContext cache guildId actorId policy = .ok voice ↔
      ∃ guild member, cache.guild guildId = some guild ∧
        currentCachedMember guild actorId ((guild.voiceStates actorId).bind (·.member)) =
          some member ∧
        voice = ⟨actorId, (guild.voiceStates actorId).bind (·.channelId),
          (guild.voiceStates cache.currentUser).bind (·.channelId), guild.managesGuild member,
          policy.hasDjRole member.roles⟩ := by
  unfold currentVoiceContext
  cases hguild : cache.guild guildId with
  | none => simp [okOr, bind, Except.bind]
  | some guild =>
    cases hmember : currentCachedMember guild actorId
      ((guild.voiceStates actorId).bind (·.member)) with
    | none => simp [okOr, bind, Except.bind, hmember]
    | some member =>
      simp [okOr, bind, Except.bind, pure, Except.pure, hmember]
      exact eq_comm

theorem cachedVoiceFacts_available {guild : CachedGuild} (hguild : cache.guild guildId = some guild)
    {allowAbsentBot managesGuild : Bool} {roles : List UInt64} :
    cachedVoiceFacts cache guildId actorId allowAbsentBot = .available managesGuild roles ↔
      ∃ member channel, currentCachedMember guild actorId
          ((guild.voiceStates actorId).bind (·.member)) = some member ∧
        (guild.voiceStates actorId).bind (·.channelId) = some channel ∧
        ((guild.voiceStates cache.currentUser).bind (·.channelId) = some channel ∨
          (guild.voiceStates cache.currentUser).bind (·.channelId) = none ∧
            allowAbsentBot = true) ∧
        guild.managesGuild member = managesGuild ∧ member.roles = roles := by
  unfold cachedVoiceFacts
  rw [hguild]
  dsimp only
  generalize (guild.voiceStates cache.currentUser).bind (·.channelId) = botChannel
  cases hstate : guild.voiceStates actorId with
  | none => simp
  | some state =>
    cases hchannel : state.channelId with
    | none => simp [hchannel]
    | some channel =>
      simp only [Option.bind_some, hchannel]
      cases hmember : currentCachedMember guild actorId state.member with
      | none => split_ifs <;> simp
      | some member =>
        cases botChannel with
        | none => cases allowAbsentBot <;> simp
        | some bot =>
          by_cases hsame : channel = bot
          · simp [hsame]
          · simp [hsame, Ne.symm hsame]

theorem isEnqueueMedia_iff {command : PlayerCommand} :
    isEnqueueMedia command = true ↔ ∃ input, command = .enqueueMedia input := by
  cases command <;> simp [isEnqueueMedia]

/-- A member is authorized as long as the cached facts suffice and the settings allow it. -/
theorem authorized_iff {settings : Option GuildSettings} {command : PlayerCommand} :
    Authorized cache guildId actorId (.ofSettings settings) command ↔
      ∃ managesGuild roles, cachedVoiceFacts cache guildId actorId (isEnqueueMedia command) =
          .available managesGuild roles ∧
        (command = .stop ∨ command = .disconnect → managesGuild = true ∨
          (GuildControlPolicy.ofSettings settings).hasDjRole roles = true) ∧
        (command ≠ .stop → command ≠ .disconnect →
          (GuildControlPolicy.ofSettings settings).allowsControl managesGuild
            ((GuildControlPolicy.ofSettings settings).hasDjRole roles) = true) := by
  simp only [Authorized, currentVoiceContext_eq_ok, allowsControl_iff]
  cases hguild : cache.guild guildId with
  | none => simp [cachedVoiceFacts, hguild]
  | some guild =>
    simp only [cachedVoiceFacts_available hguild, isEnqueueMedia_iff]
    constructor
    · rintro ⟨voice, ⟨guild', member, hguild', hmember, rfl⟩, ⟨channel, hactor, hbot⟩,
        hprivileged, hdj, hmanage⟩
      cases hguild'
      exact ⟨_, _, ⟨member, channel, hmember, hactor, hbot, rfl, rfl⟩, hprivileged,
        fun hstop hdisconnect => ⟨hdj hstop hdisconnect, hmanage hstop hdisconnect⟩⟩
    · rintro ⟨_, _, ⟨member, channel, hmember, hactor, hbot, rfl, rfl⟩, hprivileged, hallowed⟩
      exact ⟨_, ⟨guild, member, rfl, hmember, rfl⟩, ⟨channel, hactor, hbot⟩, hprivileged,
        fun hstop hdisconnect => (hallowed hstop hdisconnect).1,
        fun hstop hdisconnect => (hallowed hstop hdisconnect).2⟩

theorem authorize_allowed_iff {authorizer : DiscordCommandAuthorizer}
    {settings : Option GuildSettings} {envelope : CommandEnvelope} :
    authorize authorizer cache (.ok settings) envelope = .allowed ↔
      (authorizer.ownedShards.1 ≤ shardId envelope.guildId authorizer.shardTotal ∧
        shardId envelope.guildId authorizer.shardTotal < authorizer.ownedShards.2) ∧
      ∃ actor, envelope.actorUserId = some actor ∧ Authorized cache envelope.guildId actor
        (.ofSettings settings) envelope.command := by
  unfold authorize
  dsimp only
  by_cases howned : authorizer.ownedShards.1 ≤ shardId envelope.guildId authorizer.shardTotal ∧
      shardId envelope.guildId authorizer.shardTotal < authorizer.ownedShards.2
  · rw [if_neg (not_not.mpr howned)]
    cases hactor : envelope.actorUserId with
    | none => simp
    | some actor =>
      have hdjRole (roles : List UInt64) :
          (settings.bind (·.djRoleId)).any (fun role => roles.any (· == role)) =
            (GuildControlPolicy.ofSettings settings).hasDjRole roles := by
        have hmem (role : UInt64) : roles.any (· == role) = decide (role ∈ roles) := by
          rw [Bool.eq_iff_iff]
          simp
        simp only [hmem]
        cases settings <;> rfl
      simp only [howned, true_and, Option.some.injEq, exists_eq_left', authorized_iff, and_self]
      cases hfacts : cachedVoiceFacts cache envelope.guildId actor
          (isEnqueueMedia envelope.command) with
      | denied => simp
      | unavailable => simp
      | available managesGuild roles =>
        simp only [hdjRole]
        rw [decision_allowed_iff]
        simp
  · rw [if_pos howned]
    simp [howned]

end facts

/-- Where the cache has the actor. -/
def cachedChannel (cache : GuildCache) (guildId : GuildId) (actor : UserId) : Option ChannelId :=
  ((cache.guild guildId).bind (·.voiceStates actor)).bind (·.channelId)

theorem currentVoiceContext_channel {cache : GuildCache} {guildId : GuildId} {actor : UserId}
    {policy : GuildControlPolicy} {voice : VoiceContext}
    (h : currentVoiceContext cache guildId actor policy = .ok voice) :
    voice.actorVoiceChannelId = cachedChannel cache guildId actor := by
  obtain ⟨guild, member, hguild, -, rfl⟩ := currentVoiceContext_eq_ok.mp h
  rw [cachedChannel, hguild, Option.bind_some]

/-- A check of the player's channel and the policy is one of the cached channel and the policy. -/
theorem exists_sameChannel_iff {cache : GuildCache} {guildId : GuildId} {actor : UserId}
    {policy : GuildControlPolicy} {command : PlayerCommand} {playerChannel : Option ChannelId} :
    (∃ voice, currentVoiceContext cache guildId actor policy = .ok voice ∧
        playerChannel = voice.actorVoiceChannelId ∧ MayControl policy voice command) ↔
      playerChannel = cachedChannel cache guildId actor ∧
        Authorized cache guildId actor policy command := by
  constructor
  · rintro ⟨voice, hvoice, hsame, hmay⟩
    exact ⟨hsame.trans (currentVoiceContext_channel hvoice), voice, hvoice, hmay⟩
  · rintro ⟨hsame, voice, hvoice, hmay⟩
    exact ⟨voice, hvoice, hsame.trans (currentVoiceContext_channel hvoice).symm, hmay⟩

/-- Slash commands, the controls of a panel and the dashboard decide alike who may control a
player, from the same cache and the same settings; what ends a session by a slash command and the
controls of a panel also take the channel of the player. -/
theorem authorization_paths_agree (cache : GuildCache) (guildId : GuildId) (actor : UserId)
    (settings : Option GuildSettings) :
    (∀ input, (∃ voice channel, currentVoiceContext cache guildId actor (.ofSettings settings) =
          .ok voice ∧ authorizePlay voice (.ofSettings settings) = .ok channel) ↔
        Authorized cache guildId actor (.ofSettings settings) (.enqueueMedia input)) ∧
      (∀ command playerChannel, command = .stop ∨ command = .disconnect →
        ((∃ voice, currentVoiceContext cache guildId actor (.ofSettings settings) = .ok voice ∧
            authorizeStop voice playerChannel = true) ↔
          playerChannel = cachedChannel cache guildId actor ∧
            Authorized cache guildId actor (.ofSettings settings) command)) ∧
      (∀ action input snapshot command, mapAction action input snapshot = .ok command →
        ((∃ voice, currentVoiceContext cache guildId actor (.ofSettings settings) = .ok voice ∧
            authorizeComponent voice (.ofSettings settings) snapshot.voiceChannelId action =
              true) ↔
          snapshot.voiceChannelId = cachedChannel cache guildId actor ∧
            Authorized cache guildId actor (.ofSettings settings) command)) ∧
      ∀ authorizer envelope, envelope.guildId = guildId → envelope.actorUserId = some actor →
        authorizer.ownedShards.1 ≤ shardId guildId authorizer.shardTotal →
        shardId guildId authorizer.shardTotal < authorizer.ownedShards.2 →
        (authorize authorizer cache (.ok settings) envelope = .allowed ↔
          Authorized cache guildId actor (.ofSettings settings) envelope.command) := by
  refine ⟨?_, ?_, ?_, ?_⟩
  · intro input
    simp only [exists_and_left, authorizePlay_iff input]
    rfl
  · intro command playerChannel hends
    simp only [authorizeStop_iff (.ofSettings settings) hends]
    exact exists_sameChannel_iff
  · intro action input snapshot command hmap
    simp only [authorizeComponent_iff hmap]
    exact exists_sameChannel_iff
  · rintro authorizer envelope rfl hactor hfirst hlast
    rw [authorize_allowed_iff, hactor]
    simp [hfirst, hlast]

end PepeAudio.Authorization
