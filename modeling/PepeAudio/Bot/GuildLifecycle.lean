import PepeAudio.Core.Identifier
import PepeAudio.Lib.HashSet
import PepeAudio.Lib.Run

/-!
# The guild lifecycle actor

One task keeps which guilds each gateway shard owns, and makes snapshots and
presence follow. A command changes the desired state at once and then runs up to
three rounds over the guilds it affected; a timer runs single rounds over all
that is pending. The actor awaits each of its calls, so that nothing happens
between the rounds of a command.
-/
namespace PepeAudio

structure GuildLifecycleError where
  deriving DecidableEq, Repr

inductive AdvertisementStage where
  | needsInvalidation
  | needsPresence
  | advertised
  deriving DecidableEq, Repr

abbrev OwnedGuilds := AList fun _ : UInt32 => HashSet GuildId

structure LifecycleState where
  owned : OwnedGuilds
  advertisements : AList fun _ : GuildId => AdvertisementStage
  pendingAbsence : HashSet GuildId

namespace LifecycleState

def default : LifecycleState := ⟨∅, ∅, ∅⟩

def isDesired (state : LifecycleState) (guildId : GuildId) : Bool :=
  state.owned.entries.any fun shard => decide (guildId ∈ shard.2)

def atStage (state : LifecycleState) (stage : AdvertisementStage) (guildId : GuildId) : Bool :=
  state.advertisements.lookup guildId = some stage

/-- One turn of the loop of `apply_desired_state`, and whether it removes an advertisement. -/
def applyDesired (guildId : GuildId) (state : LifecycleState) : Bool × LifecycleState :=
  if state.isDesired guildId then
    (false, { state with
      pendingAbsence := state.pendingAbsence.remove guildId
      advertisements :=
        if (state.advertisements.lookup guildId).isSome then state.advertisements
        else state.advertisements.insert guildId .needsInvalidation })
  else
    ((state.advertisements.lookup guildId).isSome, { state with
      advertisements := state.advertisements.erase guildId
      pendingAbsence := state.pendingAbsence.insert guildId })

def applyDesiredState : List GuildId → LifecycleState → List GuildId × LifecycleState
  | [], state => ([], state)
  | guildId :: affected, state =>
    let turn := state.applyDesired guildId
    let rest := applyDesiredState affected turn.2
    (if turn.1 then guildId :: rest.1 else rest.1, rest.2)

/-- The affected guilds and the removed ones. -/
def reconcileShard (shardId : UInt32) (guilds : HashSet GuildId) (state : LifecycleState) :
    (HashSet GuildId × List GuildId) × LifecycleState :=
  let previous := (state.owned.lookup shardId).getD ∅
  let owned :=
    if guilds.isEmpty then state.owned.erase shardId else state.owned.insert shardId guilds
  let affected := previous.union guilds
  let applied := { state with owned }.applyDesiredState affected.elems
  ((affected, applied.1), applied.2)

def present (shardId : UInt32) (guildId : GuildId) (state : LifecycleState) :
    HashSet GuildId × LifecycleState :=
  let guilds := ((state.owned.lookup shardId).getD ∅).insert guildId
  let affected := HashSet.singleton guildId
  let applied := { state with owned := state.owned.insert shardId guilds }.applyDesiredState
    affected.elems
  (affected, applied.2)

/-- What `absent` makes of the shards. -/
def leaveShard (shardId : UInt32) (guildId : GuildId) (owned : OwnedGuilds) : OwnedGuilds :=
  match owned.lookup shardId with
  | some guilds =>
    let left := guilds.remove guildId
    if left.isEmpty then owned.erase shardId else owned.insert shardId left
  | none => owned

def absent (shardId : UInt32) (guildId : GuildId) (state : LifecycleState) :
    (HashSet GuildId × Bool) × LifecycleState :=
  let affected := HashSet.singleton guildId
  let applied := { state with owned := leaveShard shardId guildId state.owned }.applyDesiredState
    affected.elems
  ((affected, decide (guildId ∈ applied.1)), applied.2)

def pending (state : LifecycleState) : HashSet GuildId :=
  .collect ((state.advertisements.entries.filterMap fun entry =>
    if entry.2 ≠ .advertised then some entry.1 else none) ++ state.pendingAbsence.elems)

def ownedOnShard (shardId : UInt32) (state : LifecycleState) : List GuildId :=
  ((state.owned.lookup shardId).map HashSet.elems).getD []

end LifecycleState

/-- The answer to a presence request. One that fails may have been performed all the same: the
runtime takes the guild up or drops it before it calls the store. -/
inductive PresenceReply where
  | ok
  | failed (performed : Bool)
  deriving DecidableEq, Repr

namespace PresenceReply

def isOk : PresenceReply → Bool
  | ok => true
  | failed _ => false

def performed : PresenceReply → Bool
  | ok => true
  | failed performed => performed

theorem performed_of_isOk {reply : PresenceReply} (h : reply.isOk = true) :
    reply.performed = true := by
  cases reply with
  | ok => rfl
  | failed performed => contradiction

end PresenceReply

/-- What the backends answer in one round, which asks each of them at most once for a guild. -/
structure RoundReplies where
  invalidate : GuildId → Bool
  present : GuildId → PresenceReply
  absent : GuildId → PresenceReply

inductive BackendCall where
  | invalidate (guildId : GuildId) (success : Bool)
  | present (guildId : GuildId) (reply : PresenceReply)
  | absent (guildId : GuildId) (reply : PresenceReply)
  deriving DecidableEq, Repr

def BackendCall.succeeded : BackendCall → Bool
  | invalidate _ success => success
  | present _ reply => reply.isOk
  | absent _ reply => reply.isOk

/-- A round with what it leaves pending. -/
structure LifecycleRound where
  affected : HashSet GuildId
  calls : List BackendCall
  pending : HashSet GuildId

inductive LifecycleCommand where
  | reconcileShard (shardId : UInt32) (guilds : HashSet GuildId)
  | present (shardId : UInt32) (guildId : GuildId)
  | absent (shardId : UInt32) (guildId : GuildId)
  | owned (shardId : UInt32)
  | shutdown

inductive LifecycleReply where
  | reconciled (removed : List GuildId) (update : Except GuildLifecycleError Unit)
  | presented (result : Except GuildLifecycleError Unit)
  | absence (noLongerOwned : Bool) (update : Except GuildLifecycleError Unit)
  | owned (guilds : List GuildId)
  | shutdown
  | none

inductive LifecycleInput where
  /-- The replies are those to the first, the second and the third round. -/
  | command (command : LifecycleCommand) (backend : ℕ → RoundReplies)
  | tick (backend : RoundReplies)
  /-- The last handle is dropped. -/
  | closed

structure LifecycleOutput where
  reply : LifecycleReply
  rounds : List LifecycleRound

/-- The actor, with the guilds that the presence runtime holds present. -/
structure GuildLifecycle where
  state : LifecycleState
  presence : HashSet GuildId
  running : Bool

namespace GuildLifecycle

def start : GuildLifecycle := ⟨.default, ∅, true⟩

/-- The number of `short_delays`. -/
def SHORT_DELAYS : ℕ := 2

def invalidations (replies : RoundReplies) (affected : HashSet GuildId)
    (lifecycle : GuildLifecycle) : List BackendCall × GuildLifecycle :=
  let guilds := affected.elems.filter (lifecycle.state.atStage .needsInvalidation)
  let succeeded := guilds.filter replies.invalidate
  (guilds.map fun guildId => .invalidate guildId (replies.invalidate guildId),
    { lifecycle with
      state.advertisements := insertKeys succeeded .needsPresence lifecycle.state.advertisements })

def advertisements (replies : RoundReplies) (affected : HashSet GuildId)
    (lifecycle : GuildLifecycle) : List BackendCall × GuildLifecycle :=
  let guilds := affected.elems.filter (lifecycle.state.atStage .needsPresence)
  let succeeded := guilds.filter fun guildId => (replies.present guildId).isOk
  let performed := guilds.filter fun guildId => (replies.present guildId).performed
  (guilds.map fun guildId => .present guildId (replies.present guildId),
    { lifecycle with
      state.advertisements := insertKeys succeeded .advertised lifecycle.state.advertisements
      presence := lifecycle.presence.insertAll performed })

def absences (replies : RoundReplies) (affected : HashSet GuildId)
    (lifecycle : GuildLifecycle) : List BackendCall × GuildLifecycle :=
  let guilds := affected.elems.filter (· ∈ lifecycle.state.pendingAbsence)
  let succeeded := guilds.filter fun guildId => (replies.absent guildId).isOk
  let performed := guilds.filter fun guildId => (replies.absent guildId).performed
  (guilds.map fun guildId => .absent guildId (replies.absent guildId),
    { lifecycle with
      state.pendingAbsence := lifecycle.state.pendingAbsence.removeAll succeeded
      presence := lifecycle.presence.removeAll performed })

/-- What the filter at the end of a round keeps. -/
def remains (state : LifecycleState) (guildId : GuildId) : Bool :=
  if state.isDesired guildId then !state.atStage .advertised guildId
  else guildId ∈ state.pendingAbsence

def reconcileRound (replies : RoundReplies) (affected : HashSet GuildId)
    (lifecycle : GuildLifecycle) : LifecycleRound × GuildLifecycle :=
  let invalidated := lifecycle.invalidations replies affected
  let advertised := invalidated.2.advertisements replies affected
  let cleared := advertised.2.absences replies affected
  (⟨affected, invalidated.1 ++ advertised.1 ++ cleared.1,
    affected.filter (remains cleared.2.state)⟩, cleared.2)

/-- The rounds of a command: one, and another for each delay while something is pending. -/
def reconcileRounds (backend : ℕ → RoundReplies) : ℕ → HashSet GuildId → GuildLifecycle →
    (HashSet GuildId × List LifecycleRound) × GuildLifecycle
  | 0, affected, lifecycle =>
    let round := lifecycle.reconcileRound (backend 0) affected
    ((round.1.pending, [round.1]), round.2)
  | delays + 1, affected, lifecycle =>
    let round := lifecycle.reconcileRound (backend 0) affected
    if round.1.pending.isEmpty then ((round.1.pending, [round.1]), round.2)
    else
      let rest := reconcileRounds (fun n => backend (n + 1)) delays round.1.pending round.2
      ((rest.1.1, round.1 :: rest.1.2), rest.2)

def updateResult (pending : HashSet GuildId) : Except GuildLifecycleError Unit :=
  if pending.isEmpty then .ok () else .error ⟨⟩

def reconcileWithRetries (backend : ℕ → RoundReplies) (affected : HashSet GuildId)
    (lifecycle : GuildLifecycle) :
    (Except GuildLifecycleError Unit × List LifecycleRound) × GuildLifecycle :=
  let rounds := reconcileRounds backend SHORT_DELAYS affected lifecycle
  ((updateResult rounds.1.1, rounds.1.2), rounds.2)

def execute (backend : ℕ → RoundReplies) (lifecycle : GuildLifecycle) :
    LifecycleCommand → LifecycleOutput × GuildLifecycle
  | .reconcileShard shardId guilds =>
    let changed := lifecycle.state.reconcileShard shardId guilds
    let update := { lifecycle with state := changed.2 }.reconcileWithRetries backend changed.1.1
    (⟨.reconciled changed.1.2 update.1.1, update.1.2⟩, update.2)
  | .present shardId guildId =>
    let changed := lifecycle.state.present shardId guildId
    let update := { lifecycle with state := changed.2 }.reconcileWithRetries backend changed.1
    (⟨.presented update.1.1, update.1.2⟩, update.2)
  | .absent shardId guildId =>
    let changed := lifecycle.state.absent shardId guildId
    let update := { lifecycle with state := changed.2 }.reconcileWithRetries backend changed.1.1
    (⟨.absence changed.1.2 update.1.1, update.1.2⟩, update.2)
  | .owned shardId => (⟨.owned (lifecycle.state.ownedOnShard shardId), []⟩, lifecycle)
  | .shutdown => (⟨.shutdown, []⟩, { lifecycle with running := false })

def step (lifecycle : GuildLifecycle) (input : LifecycleInput) :
    LifecycleOutput × GuildLifecycle :=
  if !lifecycle.running then (⟨.none, []⟩, lifecycle)
  else
    match input with
    | .command command backend => lifecycle.execute backend command
    | .tick backend =>
      let pending := lifecycle.state.pending
      if pending.isEmpty then (⟨.none, []⟩, lifecycle)
      else
        let round := lifecycle.reconcileRound backend pending
        (⟨.none, [round.1]⟩, round.2)
    | .closed => (⟨.none, []⟩, { lifecycle with running := false })

/-- The runs of an actor from its start on. -/
def Runs (taken : List (Taken GuildLifecycle (LifecycleInput × LifecycleOutput)))
    (lifecycle : GuildLifecycle) : Prop :=
  Run (Follows step) start taken lifecycle

end GuildLifecycle

end PepeAudio
