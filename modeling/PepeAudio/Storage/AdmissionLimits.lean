import PepeAudio.Lib.FixedWindow
import PepeAudio.Storage.CommandAdmission

/-!
# What admission guarantees

The two counters are fixed-window limits, one over the actors of each guild and
one over the guilds. An attempt that is not admitted leaves nothing behind, one
that is admitted leaves a pending result and an entry.
-/
namespace PepeAudio

namespace AdmissionStore

/-- The transitions of an admission store. -/
abbrev Step := Taken AdmissionStore (AdmissionCall × Option (Except StorageError CommandEnqueue))

/-- The envelope of an attempt that was told it is enqueued. -/
def admitted : AdmissionCall × Option (Except StorageError CommandEnqueue) → Option CommandEnvelope
  | (.enqueue _ envelope _ _, some (.ok (.enqueued _))) => some envelope
  | _ => none

/-- The windows of the policy, counted from the epoch. -/
def window (t : Step) : ℕ := t.before.now / PlayerCommandRateLimit.STANDARD.windowMs

def actorEvent (l : AdmissionCall × Option (Except StorageError CommandEnqueue)) :
    WindowEvent (GuildId × UserId) :=
  match admitted l with
  | some envelope =>
    match envelope.actorUserId with
    | some actor => .admitted (envelope.guildId, actor)
    | none => .passed
  | none => .passed

def guildEvent (l : AdmissionCall × Option (Except StorageError CommandEnqueue)) :
    WindowEvent GuildId :=
  match admitted l with
  | some envelope => .admitted envelope.guildId
  | none => .passed

/-- The count of a key in the present window. -/
def used {κ : Type} (counters : ExpiringMap κ RateCounter) (now : ℕ) (key : κ) : ℕ :=
  (readCounter counters now PlayerCommandRateLimit.STANDARD.windowMs key).1

def actorView (store : AdmissionStore) : WindowView (GuildId × UserId) :=
  ⟨store.now, used store.actorCounters store.now⟩

def guildView (store : AdmissionStore) : WindowView GuildId :=
  ⟨store.now, used store.guildCounters store.now⟩

section Counters

variable {κ : Type} {counters : ExpiringMap κ RateCounter} {now now' windowMs : ℕ}

theorem now_lt_windowEndMs (now : ℕ) (hwindow : 0 < windowMs) : now < windowEndMs now windowMs := by
  have h := Nat.lt_div_mul_add (a := now) hwindow
  unfold windowEndMs
  rw [Nat.add_mul, Nat.one_mul]
  exact h

theorem windowEndMs_le (now windowMs : ℕ) : windowEndMs now windowMs ≤ now + windowMs := by
  have h := Nat.div_mul_le_self now windowMs
  unfold windowEndMs
  rw [Nat.add_mul, Nat.one_mul]
  omega

/-- Whatever a counter holds, it resets when the present window ends. -/
theorem readCounter_reset (counters : ExpiringMap κ RateCounter) (now windowMs : ℕ) (key : κ) :
    (readCounter counters now windowMs key).2 = windowEndMs now windowMs := by
  unfold readCounter
  split
  · split
    · rename_i hvalid
      exact hvalid.1
    · rfl
  · rfl

/-- The counters expire when they reset. -/
def Timely (counters : ExpiringMap κ RateCounter) : Prop :=
  ∀ key entry, counters key = some entry → entry.expiresAt = entry.value.resetAtMs

/-- In one window counts only grow. -/
theorem readCounter_later (htimely : Timely counters) (hnow : now ≤ now')
    (hsame : now' / windowMs = now / windowMs) (hwindow : 0 < windowMs) (key : κ) :
    (readCounter counters now windowMs key).1 ≤ (readCounter counters now' windowMs key).1 := by
  have hend : windowEndMs now' windowMs = windowEndMs now windowMs := by
    unfold windowEndMs
    rw [hsame]
  have hlater := now_lt_windowEndMs now' hwindow
  rw [hend] at hlater
  unfold readCounter
  rw [hend]
  cases hentry : counters key with
  | none => exact Nat.le_refl _
  | some entry =>
    have hexpiry := htimely key entry hentry
    dsimp only
    by_cases hvalid : entry.value.resetAtMs = windowEndMs now windowMs ∧
        0 < entry.expiresAt - now ∧ entry.expiresAt - now ≤ windowMs
    · have hstill : entry.value.resetAtMs = windowEndMs now windowMs ∧
          0 < entry.expiresAt - now' ∧ entry.expiresAt - now' ≤ windowMs := by
        obtain ⟨hreset, -, hlength⟩ := hvalid
        exact ⟨hreset, by omega, by omega⟩
      rw [if_pos hvalid, if_pos hstill]
    · rw [if_neg hvalid]
      exact Nat.zero_le _

variable [DecidableEq κ]

/-- A counter that has just been written for the present window is read back. -/
theorem readCounter_set_self (hwindow : 0 < windowMs) (key : κ) (count : ℕ) :
    readCounter (counters.set key ⟨count, windowEndMs now windowMs⟩ (windowEndMs now windowMs))
      now windowMs key = (count, windowEndMs now windowMs) := by
  have hlater := now_lt_windowEndMs now hwindow
  have hlength := windowEndMs_le now windowMs
  unfold readCounter
  rw [ExpiringMap.set_self]
  dsimp only
  rw [if_pos ⟨rfl, by omega, by omega⟩]

/-- Counting a key adds one to it, and to no other one. -/
theorem used_counted (counters : ExpiringMap κ RateCounter) (now : ℕ) (key : κ) :
    used (counters.set key
      ⟨used counters now key + 1, windowEndMs now PlayerCommandRateLimit.STANDARD.windowMs⟩
      (windowEndMs now PlayerCommandRateLimit.STANDARD.windowMs)) now =
      Function.update (used counters now) key (used counters now key + 1) := by
  funext key'
  by_cases hkey : key' = key
  · subst hkey
    rw [Function.update_self]
    unfold used
    rw [readCounter_set_self (by decide)]
  · rw [Function.update_of_ne hkey]
    unfold used readCounter
    rw [ExpiringMap.set_of_ne hkey]

theorem timely_set (htimely : Timely counters) (key : κ) (counter : RateCounter) :
    Timely (counters.set key counter counter.resetAtMs) := by
  intro key' entry hentry
  by_cases hkey : key' = key
  · subst hkey
    rw [ExpiringMap.set_self] at hentry
    obtain rfl := Option.some.inj hentry
    rfl
  · rw [ExpiringMap.set_of_ne hkey] at hentry
    exact htimely key' entry hentry

end Counters

/-- The attempt of an actor has been counted, below both limits. -/
structure Counted (guildId : GuildId) (actor : UserId) (store store' : AdmissionStore) : Prop where
  now : store'.now = store.now
  actorFree : used store.actorCounters store.now (guildId, actor) <
    PlayerCommandRateLimit.STANDARD.perActorPerGuild
  guildFree : used store.guildCounters store.now guildId < PlayerCommandRateLimit.STANDARD.perGuild
  actors : store'.actorCounters = store.actorCounters.set (guildId, actor)
    ⟨used store.actorCounters store.now (guildId, actor) + 1,
      windowEndMs store.now PlayerCommandRateLimit.STANDARD.windowMs⟩
    (windowEndMs store.now PlayerCommandRateLimit.STANDARD.windowMs)
  guilds : store'.guildCounters = store.guildCounters.set guildId
    ⟨used store.guildCounters store.now guildId + 1,
      windowEndMs store.now PlayerCommandRateLimit.STANDARD.windowMs⟩
    (windowEndMs store.now PlayerCommandRateLimit.STANDARD.windowMs)

/-- A command has been left in the results and in the stream of its shard. -/
structure Appended (entryId : String) (envelope : CommandEnvelope) (shard : UInt32)
    (retention : ℕ) (store store' : AdmissionStore) : Prop where
  results : store'.results = store.results.set (envelope.guildId, envelope.commandId)
    (.pending envelope.commandId envelope.guildId) (store.now + retention)
  streams : store'.streams = Function.update store.streams shard
    (store.streams shard ++ [⟨entryId, envelope⟩])

theorem retrySeconds_bounds (retryAt now : ℕ) :
    1 ≤ retrySeconds retryAt now ∧ retrySeconds retryAt now ≤ 60 := by
  unfold retrySeconds
  dsimp only
  split
  · omega
  · split
    · omega
    · omega

/-- What the script does: it refuses and changes nothing, or counts the attempt and then fails or
leaves the command behind. -/
theorem admitAndEnqueue_cases (entryId : String) (shard : UInt32) (envelope : CommandEnvelope)
    (actor : UserId) (retention : ℕ) (store : AdmissionStore) :
    let outcome := store.admitAndEnqueue .STANDARD entryId shard envelope actor retention
    (outcome.2 = store ∧ (∀ id, outcome.1 ≠ .enqueued id) ∧
      ∀ seconds, outcome.1 = .rateLimited seconds → 1 ≤ seconds ∧ seconds ≤ 60) ∨
    (store.results.get store.now (envelope.guildId, envelope.commandId) = none ∧
      Counted envelope.guildId actor store outcome.2 ∧
      ((outcome.1 = .failed ∧ outcome.2.results = store.results ∧
          outcome.2.streams = store.streams) ∨
        (outcome.1 = .enqueued entryId ∧
          Appended entryId envelope shard retention store outcome.2))) := by
  unfold admitAndEnqueue
  dsimp only
  cases hresult : store.results.get store.now (envelope.guildId, envelope.commandId) with
  | some current =>
    left
    dsimp only
    split
    · exact ⟨rfl, by simp, by simp⟩
    · exact ⟨rfl, by simp, by simp⟩
  | none =>
    dsimp only
    by_cases hfull : COMMAND_STREAM_CAPACITY ≤ (store.streams shard).length
    · left
      rw [if_pos hfull]
      exact ⟨rfl, by simp, by simp⟩
    · rw [if_neg hfull]
      split
      · left
        refine ⟨rfl, by simp, ?_⟩
        intro seconds hseconds
        rw [← AdmissionResponse.rateLimited.inj hseconds]
        exact retrySeconds_bounds _ _
      · rename_i hfree
        simp only [not_or, Nat.not_le] at hfree
        right
        refine ⟨rfl, ?_⟩
        simp only [readCounter_reset]
        by_cases hlate : 2 ^ 63 ≤ store.now + retention
        · rw [if_pos hlate]
          exact ⟨⟨rfl, hfree.1, hfree.2, rfl, rfl⟩, .inl ⟨rfl, rfl, rfl⟩⟩
        · rw [if_neg hlate]
          exact ⟨⟨rfl, hfree.1, hfree.2, rfl, rfl⟩, .inr ⟨rfl, rfl, rfl⟩⟩

theorem decodeResponse_enqueued {response : AdmissionResponse} {id : String}
    (h : decodeResponse response = .ok (.enqueued id)) : response = .enqueued id := by
  cases response with
  | enqueued entryId =>
    dsimp only [decodeResponse] at h
    split at h
    · contradiction
    · rw [CommandEnqueue.enqueued.inj (Except.ok.inj h)]
  | rateLimited seconds =>
    dsimp only [decodeResponse] at h
    split at h
    · contradiction
    · contradiction
  | pendingConflict => contradiction
  | streamCapacityExceeded => contradiction
  | alreadyPending => simp [decodeResponse] at h
  | failed => contradiction

theorem decodeResponse_rateLimited {response : AdmissionResponse} {resource : String} {seconds : ℕ}
    (h : decodeResponse response = .error (.rateLimited resource seconds)) :
    response = .rateLimited seconds := by
  cases response with
  | enqueued entryId =>
    dsimp only [decodeResponse] at h
    split at h
    · simp at h
    · contradiction
  | rateLimited seconds' =>
    dsimp only [decodeResponse] at h
    split at h
    · rw [(StorageError.rateLimited.inj (Except.error.inj h)).2]
    · simp at h
  | pendingConflict => simp [decodeResponse] at h
  | streamCapacityExceeded => simp [decodeResponse] at h
  | alreadyPending => contradiction
  | failed => simp [decodeResponse] at h

/-- What an attempt does, with the reply it gets. -/
theorem enqueueCommand_cases (entryId : String) (envelope : CommandEnvelope) (shardTotal : UInt32)
    (retention : ℕ) (store : AdmissionStore) :
    let outcome := store.enqueueCommand entryId envelope shardTotal retention
    (outcome.2 = store ∧ (∀ id, outcome.1 ≠ .ok (.enqueued id)) ∧
      ∀ resource seconds, outcome.1 = .error (.rateLimited resource seconds) →
        1 ≤ seconds ∧ seconds ≤ 60) ∨
    (0 < retention ∧ store.results.get store.now (envelope.guildId, envelope.commandId) = none ∧
      ∃ actor, envelope.actorUserId = some actor ∧
        Counted envelope.guildId actor store outcome.2 ∧
        ((outcome.1 = .error .valkey ∧ outcome.2.results = store.results ∧
            outcome.2.streams = store.streams) ∨
          (outcome.1 = decodeResponse (.enqueued entryId) ∧
            Appended entryId envelope (shardId envelope.guildId shardTotal) retention store
              outcome.2))) := by
  unfold enqueueCommand
  dsimp only
  split
  · exact .inl ⟨rfl, by simp, by simp⟩
  · split
    · exact .inl ⟨rfl, by simp, by simp⟩
    · rename_i actor hactor
      split
      · exact .inl ⟨rfl, by simp, by simp⟩
      · split
        · exact .inl ⟨rfl, by simp, by simp⟩
        · rename_i hpositive
          rcases admitAndEnqueue_cases entryId (shardId envelope.guildId shardTotal) envelope actor
            retention store with ⟨hsame, hrefused, hseconds⟩ | ⟨hfree, hcounted, hrest⟩
          · left
            refine ⟨hsame, ?_, ?_⟩
            · intro id henqueued
              exact hrefused id (decodeResponse_enqueued henqueued)
            · intro resource seconds hlimited
              exact hseconds seconds (decodeResponse_rateLimited hlimited)
          · right
            refine ⟨by omega, hfree, actor, hactor, hcounted, ?_⟩
            rcases hrest with ⟨hfailed, hresults, hstreams⟩ | ⟨henqueued, happended⟩
            · exact .inl ⟨congrArg decodeResponse hfailed, hresults, hstreams⟩
            · exact .inr ⟨congrArg decodeResponse henqueued, happended⟩

/-- Limited or known attempts change nothing, admitted ones add their command. -/
theorem enqueueCommand_effect (entryId : String) (envelope : CommandEnvelope)
    (shardTotal : UInt32) (retention : ℕ) (store : AdmissionStore) :
    let outcome := store.enqueueCommand entryId envelope shardTotal retention
    ((∃ resource seconds, outcome.1 = .error (.rateLimited resource seconds)) ∨
      (∃ result, store.results.get store.now (envelope.guildId, envelope.commandId) =
        some result) → outcome.2 = store) ∧
    (∀ id, outcome.1 = .ok (.enqueued id) →
      store.results.get store.now (envelope.guildId, envelope.commandId) = none ∧
      Appended id envelope (shardId envelope.guildId shardTotal) retention store outcome.2 ∧
      outcome.2.results.get outcome.2.now (envelope.guildId, envelope.commandId) =
        some (.pending envelope.commandId envelope.guildId)) ∧
    ∀ resource seconds, outcome.1 = .error (.rateLimited resource seconds) →
      1 ≤ seconds ∧ seconds ≤ 60 := by
  dsimp only
  rcases enqueueCommand_cases entryId envelope shardTotal retention store with
    ⟨hsame, hrefused, hseconds⟩ | ⟨hpositive, hfree, actor, -, hcounted, hrest⟩
  · refine ⟨fun _ => hsame, ?_, hseconds⟩
    intro id henqueued
    exact absurd henqueued (hrefused id)
  · have hunlimited : ∀ resource seconds,
        (store.enqueueCommand entryId envelope shardTotal retention).1 ≠
          .error (.rateLimited resource seconds) := by
      intro resource seconds hlimited
      rcases hrest with ⟨hfailed, -⟩ | ⟨hreply, -⟩
      · rw [hfailed] at hlimited
        simp at hlimited
      · rw [hreply] at hlimited
        have hresponse := decodeResponse_rateLimited hlimited
        contradiction
    refine ⟨?_, ?_, ?_⟩
    · rintro (⟨resource, seconds, hlimited⟩ | ⟨result, hknown⟩)
      · exact absurd hlimited (hunlimited resource seconds)
      · rw [hfree] at hknown
        contradiction
    · intro id henqueued
      rcases hrest with ⟨hfailed, -⟩ | ⟨hreply, happended⟩
      · rw [hfailed] at henqueued
        contradiction
      · rw [hreply] at henqueued
        obtain rfl := AdmissionResponse.enqueued.inj (decodeResponse_enqueued henqueued)
        refine ⟨hfree, happended, ?_⟩
        rw [happended.results, hcounted.now]
        exact ExpiringMap.get_set_self (by omega)
    · intro resource seconds hlimited
      exact absurd hlimited (hunlimited resource seconds)

theorem decodeResponse_ok {response : AdmissionResponse} {reply : CommandEnqueue}
    (h : decodeResponse response = .ok reply) (hrefused : ∀ id, response ≠ .enqueued id) :
    response = .alreadyPending := by
  cases response with
  | enqueued entryId => exact absurd rfl (hrefused entryId)
  | rateLimited seconds =>
    dsimp only [decodeResponse] at h
    split at h
    · contradiction
    · contradiction
  | alreadyPending => rfl
  | pendingConflict => contradiction
  | streamCapacityExceeded => contradiction
  | failed => contradiction

theorem admitAndEnqueue_alreadyPending {entryId : String} {shard : UInt32}
    {envelope : CommandEnvelope} {actor : UserId} {retention : ℕ} {store : AdmissionStore}
    (h : (store.admitAndEnqueue .STANDARD entryId shard envelope actor retention).1 =
      .alreadyPending) :
    store.results.get store.now (envelope.guildId, envelope.commandId) =
      some (.pending envelope.commandId envelope.guildId) := by
  unfold admitAndEnqueue at h
  dsimp only at h
  cases hresult : store.results.get store.now (envelope.guildId, envelope.commandId) with
  | some current =>
    rw [hresult] at h
    dsimp only at h
    split at h
    · contradiction
    · rename_i hpending
      rw [not_not.mp hpending]
  | none =>
    rw [hresult] at h
    dsimp only at h
    repeat' split at h
    all_goals contradiction

/-- The part of the store that the workers of a shard use. -/
def commandStore (shard : UInt32) (dedupe : ExpiringMap (GuildId × Uuid) LeaseValue)
    (store : AdmissionStore) : CommandStore :=
  ⟨store.now, store.results, dedupe, store.streams shard⟩

/-- A command that gets through the limits is enqueued as the command store says. -/
theorem enqueueCommand_commandStore (entryId : String) (envelope : CommandEnvelope)
    (shardTotal : UInt32) (retention : ℕ) (store : AdmissionStore)
    (dedupe : ExpiringMap (GuildId × Uuid) LeaseValue) {reply : CommandEnqueue}
    (h : (store.enqueueCommand entryId envelope shardTotal retention).1 = .ok reply) :
    (store.commandStore (shardId envelope.guildId shardTotal) dedupe).enqueueCommand entryId
        envelope retention =
      (.ok reply, (store.enqueueCommand entryId envelope shardTotal retention).2.commandStore
        (shardId envelope.guildId shardTotal) dedupe) := by
  unfold enqueueCommand at h ⊢
  unfold CommandStore.enqueueCommand
  dsimp only [commandStore] at h ⊢
  by_cases hshards : shardTotal = 0
  · rw [if_pos hshards] at h
    contradiction
  · rw [if_neg hshards] at h ⊢
    cases hactor : envelope.actorUserId with
    | none =>
      rw [hactor] at h
      contradiction
    | some actor =>
      rw [hactor] at h
      dsimp only at h ⊢
      by_cases hlong : UInt64.size ≤ retention
      · rw [if_pos hlong] at h
        contradiction
      · by_cases hzero : retention = 0
        · rw [if_neg hlong, if_pos hzero] at h
          contradiction
        · rw [if_neg hlong, if_neg hzero] at h
          rw [if_neg hlong, if_neg hzero, if_neg hlong, if_neg hzero]
          rcases admitAndEnqueue_cases entryId (shardId envelope.guildId shardTotal) envelope actor
            retention store with ⟨hsame, hrefused, -⟩ | ⟨hfree, hcounted, hrest⟩
          · generalize hresponse : (store.admitAndEnqueue .STANDARD entryId
              (shardId envelope.guildId shardTotal) envelope actor retention).1 = response at *
            have hpending := decodeResponse_ok h hrefused
            rw [hpending] at hresponse h
            rw [admitAndEnqueue_alreadyPending hresponse, hsame]
            simp only [ne_eq, not_true_eq_false, if_false]
            rw [← Except.ok.inj h]
          · rcases hrest with ⟨hfailed, -, -⟩ | ⟨henqueued, happended⟩
            · rw [hfailed] at h
              contradiction
            · rw [henqueued] at h
              have hreply : reply = .enqueued entryId := by
                dsimp only [decodeResponse] at h
                split at h
                · contradiction
                · exact (Except.ok.inj h).symm
              rw [hfree, hreply]
              simp [happended.results, happended.streams, hcounted.now]

variable {taken : List Step} {store : AdmissionStore}

/-- The counters of a reached store expire when they reset. -/
theorem Serves.timely (run : Serves taken store) :
    Timely store.actorCounters ∧ Timely store.guildCounters := by
  refine run.invariant
    (I := fun store => Timely store.actorCounters ∧ Timely store.guildCounters) ⟨?_, ?_⟩ ?_
  · intro key entry hentry
    contradiction
  · intro key entry hentry
    contradiction
  · rintro s ⟨call, reply⟩ s' ⟨hactors, hguilds⟩ hstep
    have hserved : s.serve call = (reply, s') := hstep
    cases call with
    | enqueue entryId envelope shardTotal retention =>
      obtain ⟨-, rfl⟩ := Prod.mk.inj hserved
      rcases enqueueCommand_cases entryId envelope shardTotal retention s with
        ⟨hsame, -⟩ | ⟨-, -, actor, -, hcounted, -⟩
      · rw [hsame]
        exact ⟨hactors, hguilds⟩
      · rw [hcounted.actors, hcounted.guilds]
        exact ⟨timely_set hactors _ _, timely_set hguilds _ _⟩
    | others streams results =>
      obtain ⟨-, rfl⟩ := Prod.mk.inj hserved
      exact ⟨hactors, hguilds⟩
    | elapse milliseconds =>
      obtain ⟨-, rfl⟩ := Prod.mk.inj hserved
      exact ⟨hactors, hguilds⟩

theorem admitted_eq_some {l : AdmissionCall × Option (Except StorageError CommandEnqueue)}
    {envelope : CommandEnvelope} (h : admitted l = some envelope) :
    ∃ entryId shardTotal retention id,
      l = (.enqueue entryId envelope shardTotal retention, some (.ok (.enqueued id))) := by
  unfold admitted at h
  split at h
  · obtain rfl := Option.some.inj h
    exact ⟨_, _, _, _, rfl⟩
  · contradiction

theorem le_update_succ {κ : Type} [DecidableEq κ] (used : κ → ℕ) (key key' : κ) :
    used key' ≤ Function.update used key (used key + 1) key' := by
  by_cases hkey : key' = key
  · subst hkey
    simp
  · simp [hkey]

/-- An attempt shows as admitted on both limits, or shows as time passing at most. -/
theorem serve_views {s s' : AdmissionStore}
    {l : AdmissionCall × Option (Except StorageError CommandEnqueue)}
    (htimely : Timely s.actorCounters ∧ Timely s.guildCounters) (hstep : Follows serve s l s') :
    WindowView.Next PlayerCommandRateLimit.STANDARD.windowMs
        PlayerCommandRateLimit.STANDARD.perActorPerGuild (actorView s) (actorEvent l)
        (actorView s') ∧
      WindowView.Next PlayerCommandRateLimit.STANDARD.windowMs
        PlayerCommandRateLimit.STANDARD.perGuild (guildView s) (guildEvent l) (guildView s') := by
  obtain ⟨call, reply⟩ := l
  have hserved : s.serve call = (reply, s') := hstep
  cases call with
  | enqueue entryId envelope shardTotal retention =>
    obtain ⟨hreply, hafter⟩ := Prod.mk.inj hserved
    rcases enqueueCommand_cases entryId envelope shardTotal retention s with
      ⟨hsame, hrefused, -⟩ | ⟨-, -, actor, hactor, hcounted, -⟩
    · have hpassed : admitted (.enqueue entryId envelope shardTotal retention, reply) = none := by
        refine Option.eq_none_iff_forall_ne_some.mpr ?_
        intro envelope' hadmitted
        obtain ⟨_, _, _, id, hlabel⟩ := admitted_eq_some hadmitted
        rw [(Prod.mk.inj hlabel).2] at hreply
        exact hrefused id (Option.some.inj hreply)
      rw [← hafter, hsame]
      simp only [actorEvent, guildEvent, hpassed]
      exact ⟨.passed le_rfl fun _ _ => le_rfl, .passed le_rfl fun _ _ => le_rfl⟩
    · rw [hafter] at hcounted
      have hactors : (actorView s').used = Function.update (actorView s).used
          (envelope.guildId, actor) ((actorView s).used (envelope.guildId, actor) + 1) := by
        simp only [actorView, hcounted.actors, hcounted.now, used_counted]
      have hguilds : (guildView s').used = Function.update (guildView s).used envelope.guildId
          ((guildView s).used envelope.guildId + 1) := by
        simp only [guildView, hcounted.guilds, hcounted.now, used_counted]
      have hnow : s'.now = s.now := hcounted.now
      cases hadmitted : admitted (.enqueue entryId envelope shardTotal retention, reply) with
      | none =>
        simp only [actorEvent, guildEvent, hadmitted]
        refine ⟨.passed hnow.ge fun _ key => ?_, .passed hnow.ge fun _ key => ?_⟩
        · rw [hactors]
          exact le_update_succ _ _ _
        · rw [hguilds]
          exact le_update_succ _ _ _
      | some envelope' =>
        obtain ⟨_, _, _, _, hlabel⟩ := admitted_eq_some hadmitted
        obtain ⟨-, rfl, -, -⟩ := AdmissionCall.enqueue.inj (Prod.mk.inj hlabel).1
        simp only [actorEvent, guildEvent, hadmitted, hactor]
        exact ⟨.admitted _ hnow hcounted.actorFree hactors,
          .admitted _ hnow hcounted.guildFree hguilds⟩
  | others streams results =>
    obtain ⟨-, rfl⟩ := Prod.mk.inj hserved
    exact ⟨.passed le_rfl fun _ _ => le_rfl, .passed le_rfl fun _ _ => le_rfl⟩
  | elapse milliseconds =>
    obtain ⟨-, rfl⟩ := Prod.mk.inj hserved
    have hnow : s.now ≤ s.now + milliseconds := Nat.le_add_right _ _
    exact ⟨.passed hnow fun hsame key => readCounter_later htimely.1 hnow hsame (by decide) key,
      .passed hnow fun hsame key => readCounter_later htimely.2 hnow hsame (by decide) key⟩

/-- The attempts of an actor in a guild that were admitted in a window. -/
def admittedForActor (guildId : GuildId) (actor : UserId) (window : ℕ) (taken : List Step) :
    List Step :=
  WindowView.admittedIn PlayerCommandRateLimit.STANDARD.windowMs actorView actorEvent
    (guildId, actor) window taken

def admittedForGuild (guildId : GuildId) (window : ℕ) (taken : List Step) : List Step :=
  WindowView.admittedIn PlayerCommandRateLimit.STANDARD.windowMs guildView guildEvent guildId
    window taken

/-- In every run and every one-minute window at most twenty attempts of an actor in a guild and at
most sixty attempts in a guild are admitted. An attempt that is rate limited, or whose command has
a result, changes nothing; one that is admitted adds one entry to the stream of its shard and one
pending result where there was none; and who has to wait is told between 1 and 60 seconds. -/
theorem admission_bounded (run : Serves taken store) :
    (∀ guildId actor window, (admittedForActor guildId actor window taken).length ≤ 20) ∧
    (∀ guildId window, (admittedForGuild guildId window taken).length ≤ 60) ∧
    ∀ t ∈ taken, ∀ entryId envelope shardTotal retention reply,
      t.label = (.enqueue entryId envelope shardTotal retention, some reply) →
      ((∃ resource seconds, reply = .error (.rateLimited resource seconds)) ∨
        (∃ result, t.before.results.get t.before.now (envelope.guildId, envelope.commandId) =
          some result) → t.after = t.before) ∧
      (∀ id, reply = .ok (.enqueued id) →
        t.before.results.get t.before.now (envelope.guildId, envelope.commandId) = none ∧
        Appended id envelope (shardId envelope.guildId shardTotal) retention t.before t.after ∧
        t.after.results.get t.after.now (envelope.guildId, envelope.commandId) =
          some (.pending envelope.commandId envelope.guildId)) ∧
      ∀ resource seconds, reply = .error (.rateLimited resource seconds) →
        1 ≤ seconds ∧ seconds ≤ 60 := by
  refine ⟨?_, ?_, ?_⟩
  · intro guildId actor window
    exact (WindowView.limited (fun s l s' hreached hstep =>
      (serve_views (Serves.timely hreached.choose_spec) hstep).1) run).limit (guildId, actor) window
  · intro guildId window
    exact (WindowView.limited (fun s l s' hreached hstep =>
      (serve_views (Serves.timely hreached.choose_spec) hstep).2) run).limit guildId window
  · intro t ht entryId envelope shardTotal retention reply hlabel
    have hserved : t.before.serve t.label.1 = (t.label.2, t.after) := (run.taken_next ht).2
    rw [hlabel] at hserved
    obtain ⟨hreply, hafter⟩ := Prod.mk.inj hserved
    have hreply := Option.some.inj hreply
    rw [← hafter, ← hreply]
    exact enqueueCommand_effect entryId envelope shardTotal retention t.before

/-- The attempt number `n` of one member, each with an id of its own. -/
def attempt (n : ℕ) : AdmissionCall :=
  .enqueue (toString n) ⟨.fromU128 n, .fromU128 n, ⟨.MIN⟩, some ⟨.seven⟩, ⟨0⟩, ⟨0⟩,
    .play⟩ 1 86400000

/-- One attempt too many in a window, and one more in the next window. -/
def hurried : List AdmissionCall :=
  .elapse 59000 :: (List.range 21).map attempt ++ [.elapse 1000, attempt 21]

theorem admission_bounded_hurried :
    ((record serve empty hurried).1.drop 21).map (fun t => t.label.2) =
      [some (.error (.rateLimited "player command admission" 1)), none,
        some (.ok (.enqueued "21"))] ∧
    ∀ window, (admittedForActor ⟨1, by decide⟩ ⟨7, by decide⟩ window
      (record serve empty hurried).1).length ≤ 20 :=
  ⟨by decide +kernel, fun window => (admission_bounded (run_record serve empty hurried)).1
    ⟨1, by decide⟩ ⟨7, by decide⟩ window⟩

end AdmissionStore

end PepeAudio
