import PepeAudio.Lib.LeaseSlot
import PepeAudio.Storage.Retention

/-!
# Leases on logical mutations

Any callers send the store any calls, in any order, while its clock runs. The
key of each logical mutation is a lease slot, and the replies to claims,
completions and releases are its events.
-/
namespace PepeAudio

/-- One call of a store, or time passing. -/
inductive StoreCall where
  | claim (guildId : GuildId) (idempotencyKey leaseToken : Uuid) (leaseTtl : ℕ)
  | complete (guildId : GuildId) (idempotencyKey leaseToken : Uuid) (retention : ℕ)
  | completeCommand (idempotencyKey leaseToken : Uuid) (result : CommandResult)
      (idempotencyRetention resultRetention : ℕ)
  | release (guildId : GuildId) (idempotencyKey leaseToken : Uuid)
  | storeResult (result : CommandResult) (retention : ℕ)
  | enqueue (entryId : String) (envelope : CommandEnvelope) (retention : ℕ)
  | acknowledge (entryId : String)
  | elapse (milliseconds : ℕ)

inductive StoreReply where
  | claimed (reply : Except StorageError DedupeClaim)
  | completed (reply : Except StorageError Bool)
  | commandCompleted (reply : Except StorageError CommandCompletion)
  | released (reply : Except StorageError Bool)
  | resultStored (reply : Except StorageError CommandResultWrite)
  | enqueued (reply : Except StorageError CommandEnqueue)
  | acknowledged (reply : Except StorageError Bool)
  | elapsed

def LeaseValue.owner : LeaseValue → Option Uuid
  | .lease token => some token
  | .done => none

namespace CommandStore

def serve (store : CommandStore) : StoreCall → StoreReply × CommandStore
  | .claim guildId idempotencyKey leaseToken leaseTtl =>
    let outcome := store.claimIdempotency guildId idempotencyKey leaseToken leaseTtl
    (.claimed outcome.1, outcome.2)
  | .complete guildId idempotencyKey leaseToken retention =>
    let outcome := store.completeIdempotency guildId idempotencyKey leaseToken retention
    (.completed outcome.1, outcome.2)
  | .completeCommand idempotencyKey leaseToken result idempotencyRetention resultRetention =>
    let outcome := store.completeCommand idempotencyKey leaseToken result idempotencyRetention
      resultRetention
    (.commandCompleted outcome.1, outcome.2)
  | .release guildId idempotencyKey leaseToken =>
    let outcome := store.releaseIdempotency guildId idempotencyKey leaseToken
    (.released outcome.1, outcome.2)
  | .storeResult result retention =>
    let outcome := store.storeCommandResult result retention
    (.resultStored outcome.1, outcome.2)
  | .enqueue entryId envelope retention =>
    let outcome := store.enqueueCommand entryId envelope retention
    (.enqueued outcome.1, outcome.2)
  | .acknowledge entryId =>
    let outcome := store.acknowledgeCommand entryId
    (.acknowledged outcome.1, outcome.2)
  | .elapse milliseconds => (.elapsed, { store with now := store.now + milliseconds })

/-- The calls a store has served, and where they have led. -/
def Serves (taken : List (Taken CommandStore (StoreCall × StoreReply))) (store : CommandStore) :
    Prop :=
  Run (Follows serve) empty taken store

/-- What a caller learns of a key from the reply to its call. -/
def leaseEvent (key : GuildId × Uuid) : StoreCall × StoreReply → LeaseEvent Uuid
  | (.claim guildId idempotencyKey leaseToken leaseTtl, .claimed (.ok .acquired)) =>
    if (guildId, idempotencyKey) = key then .acquired leaseToken leaseTtl else .passed
  | (.complete guildId idempotencyKey leaseToken retention, .completed (.ok true)) =>
    if (guildId, idempotencyKey) = key then .completed leaseToken retention else .passed
  | (.completeCommand idempotencyKey leaseToken result idempotencyRetention _,
      .commandCompleted (.ok .stored)) =>
    if (result.guildId, idempotencyKey) = key then .completed leaseToken idempotencyRetention
    else .passed
  | (.completeCommand idempotencyKey leaseToken result idempotencyRetention _,
      .commandCompleted (.ok .unchanged)) =>
    if (result.guildId, idempotencyKey) = key then .completed leaseToken idempotencyRetention
    else .passed
  | (.release guildId idempotencyKey leaseToken, .released (.ok true)) =>
    if (guildId, idempotencyKey) = key then .released leaseToken else .passed
  | _ => .passed

/-- The call asks to complete or release a key in the name of a token. -/
def asksToEnd (key : GuildId × Uuid) (token : Uuid) : StoreCall → Prop
  | .complete guildId idempotencyKey leaseToken _ =>
    (guildId, idempotencyKey) = key ∧ leaseToken = token
  | .completeCommand idempotencyKey leaseToken result _ _ =>
    (result.guildId, idempotencyKey) = key ∧ leaseToken = token
  | .release guildId idempotencyKey leaseToken =>
    (guildId, idempotencyKey) = key ∧ leaseToken = token
  | _ => False

/-- The slot a key is. -/
def leaseSlot (key : GuildId × Uuid) (store : CommandStore) : LeaseSlot Uuid :=
  ⟨store.now, (store.dedupe key).map fun entry => ⟨entry.value.owner, entry.expiresAt⟩⟩

/-- By the replies so far, the worker with this token holds a lease on the key that has not run
out. -/
def HoldsLease (key : GuildId × Uuid)
    (taken : List (Taken CommandStore (StoreCall × StoreReply))) (store : CommandStore)
    (token : Uuid) : Prop :=
  LeaseSlot.Held (leaseSlot key) (leaseEvent key) taken store.now token

variable {store store' : CommandStore} {key : GuildId × Uuid}

theorem leaseSlot_readAt (key : GuildId × Uuid) (store : CommandStore) :
    (leaseSlot key store).readAt store.now =
      (store.dedupe.get store.now key).map LeaseValue.owner := by
  unfold LeaseSlot.readAt leaseSlot ExpiringMap.get
  cases store.dedupe key with
  | none => rfl
  | some entry =>
    dsimp only [Option.map_some]
    split
    · rfl
    · rfl

theorem leaseSlot_set (value : LeaseValue) (expiresAt : ℕ)
    (hnow : store'.now = store.now)
    (hdedupe : store'.dedupe = store.dedupe.set key value expiresAt) :
    leaseSlot key store' = ⟨store.now, some ⟨value.owner, expiresAt⟩⟩ := by
  simp [leaseSlot, hnow, hdedupe]

theorem leaseSlot_kept (hdedupe : store'.dedupe key = store.dedupe key) :
    leaseSlot key store' = ⟨store'.now, (leaseSlot key store).entry⟩ := by
  simp [leaseSlot, hdedupe]

/-- A step that leaves the key alone shows on its slot as time passing at most. -/
theorem next_passed (hnow : store.now ≤ store'.now)
    (hdedupe : store'.dedupe key = store.dedupe key) :
    LeaseSlot.Next (leaseSlot key store) .passed (leaseSlot key store') := by
  rw [leaseSlot_kept hdedupe]
  exact .passed _ hnow

theorem next_acquired {token : Uuid} {duration : ℕ} (hfree : store.dedupe.get store.now key = none)
    (hnow : store'.now = store.now)
    (hdedupe : store'.dedupe = store.dedupe.set key (.lease token) (store.now + duration)) :
    LeaseSlot.Next (leaseSlot key store) (.acquired token duration) (leaseSlot key store') := by
  rw [leaseSlot_set _ _ hnow hdedupe]
  have hread := leaseSlot_readAt key store
  rw [hfree] at hread
  exact .acquired token duration hread

theorem next_completed {token : Uuid} {retention : ℕ}
    (hheld : store.dedupe.get store.now key = some (.lease token)) (hnow : store'.now = store.now)
    (hdedupe : store'.dedupe = store.dedupe.set key .done (store.now + retention)) :
    LeaseSlot.Next (leaseSlot key store) (.completed token retention) (leaseSlot key store') := by
  rw [leaseSlot_set _ _ hnow hdedupe]
  have hread := leaseSlot_readAt key store
  rw [hheld] at hread
  exact .completed token retention hread

theorem next_released {token : Uuid}
    (hheld : store.dedupe.get store.now key = some (.lease token)) (hnow : store'.now = store.now)
    (hdedupe : store'.dedupe = store.dedupe.erase key) :
    LeaseSlot.Next (leaseSlot key store) (.released token) (leaseSlot key store') := by
  have hslot : leaseSlot key store' = ⟨(leaseSlot key store).now, none⟩ := by
    simp [leaseSlot, hnow, hdedupe, ExpiringMap.erase]
  have hread := leaseSlot_readAt key store
  rw [hheld] at hread
  rw [hslot]
  exact .released token hread

theorem claimIdempotency_slot (guildId : GuildId) (idempotencyKey leaseToken : Uuid)
    (leaseTtl : ℕ) :
    LeaseSlot.Next (leaseSlot key store)
      (leaseEvent key (.claim guildId idempotencyKey leaseToken leaseTtl,
        .claimed (store.claimIdempotency guildId idempotencyKey leaseToken leaseTtl).1))
      (leaseSlot key (store.claimIdempotency guildId idempotencyKey leaseToken leaseTtl).2) := by
  unfold claimIdempotency
  split
  · exact next_passed le_rfl rfl
  · rename_i milliseconds hmillis
    obtain rfl := durationMillis_eq_ok hmillis
    split
    · rename_i hfree
      dsimp only [leaseEvent]
      by_cases hkey : (guildId, idempotencyKey) = key
      · subst hkey
        rw [if_pos rfl]
        exact next_acquired hfree rfl rfl
      · rw [if_neg hkey]
        exact next_passed le_rfl (ExpiringMap.set_of_ne (Ne.symm hkey))
    · exact next_passed le_rfl rfl
    · exact next_passed le_rfl rfl

theorem completeIdempotency_slot (guildId : GuildId) (idempotencyKey leaseToken : Uuid)
    (retention : ℕ) :
    LeaseSlot.Next (leaseSlot key store)
      (leaseEvent key (.complete guildId idempotencyKey leaseToken retention,
        .completed (store.completeIdempotency guildId idempotencyKey leaseToken retention).1))
      (leaseSlot key
        (store.completeIdempotency guildId idempotencyKey leaseToken retention).2) := by
  unfold completeIdempotency
  split
  · exact next_passed le_rfl rfl
  · rename_i milliseconds hmillis
    obtain rfl := durationMillis_eq_ok hmillis
    split
    · exact next_passed le_rfl rfl
    · rename_i hheld
      dsimp only [leaseEvent]
      by_cases hkey : (guildId, idempotencyKey) = key
      · subst hkey
        rw [if_pos rfl]
        exact next_completed (not_not.mp hheld) rfl rfl
      · rw [if_neg hkey]
        exact next_passed le_rfl (ExpiringMap.set_of_ne (Ne.symm hkey))

theorem completeCommand_slot (idempotencyKey leaseToken : Uuid) (result : CommandResult)
    (idempotencyRetention resultRetention : ℕ) :
    LeaseSlot.Next (leaseSlot key store)
      (leaseEvent key
        (.completeCommand idempotencyKey leaseToken result idempotencyRetention resultRetention,
          .commandCompleted (store.completeCommand idempotencyKey leaseToken result
            idempotencyRetention resultRetention).1))
      (leaseSlot key (store.completeCommand idempotencyKey leaseToken result
        idempotencyRetention resultRetention).2) := by
  unfold completeCommand
  split
  · exact next_passed le_rfl rfl
  · exact next_passed le_rfl rfl
  · exact next_passed le_rfl rfl
  · rename_i hterminal hidempotency hresult
    rw [durationMillis_eq_ok hidempotency, durationMillis_eq_ok hresult]
    dsimp only
    rcases completeWithResult_cases store idempotencyKey leaseToken result
      idempotencyRetention resultRetention with
      ⟨hreply, hsame⟩ | ⟨hreply, hheld, hnow, hdedupe⟩
    · rw [hsame]
      rcases hreply with hreply | hreply
      · rw [hreply]
        exact next_passed le_rfl rfl
      · rw [hreply]
        exact next_passed le_rfl rfl
    · have hnext : LeaseSlot.Next (leaseSlot key store)
          (if (result.guildId, idempotencyKey) = key then .completed leaseToken idempotencyRetention
            else .passed)
          (leaseSlot key (store.completeWithResult idempotencyKey leaseToken result
            idempotencyRetention resultRetention).2) := by
        by_cases hkey : (result.guildId, idempotencyKey) = key
        · subst hkey
          rw [if_pos rfl]
          exact next_completed hheld hnow hdedupe
        · rw [if_neg hkey]
          refine next_passed hnow.ge ?_
          rw [hdedupe]
          exact ExpiringMap.set_of_ne (Ne.symm hkey)
      rcases hreply with hreply | hreply
      · rw [hreply]
        exact hnext
      · rw [hreply]
        exact hnext

theorem releaseIdempotency_slot (guildId : GuildId) (idempotencyKey leaseToken : Uuid) :
    LeaseSlot.Next (leaseSlot key store)
      (leaseEvent key (.release guildId idempotencyKey leaseToken,
        .released (store.releaseIdempotency guildId idempotencyKey leaseToken).1))
      (leaseSlot key (store.releaseIdempotency guildId idempotencyKey leaseToken).2) := by
  unfold releaseIdempotency
  split
  · exact next_passed le_rfl rfl
  · rename_i hheld
    dsimp only [leaseEvent]
    by_cases hkey : (guildId, idempotencyKey) = key
    · subst hkey
      rw [if_pos rfl]
      exact next_released (not_not.mp hheld) rfl rfl
    · rw [if_neg hkey]
      refine next_passed le_rfl ?_
      simp [ExpiringMap.erase, Ne.symm hkey]

theorem enqueueCommand_kept (store : CommandStore) (entryId : String) (envelope : CommandEnvelope)
    (retention : ℕ) :
    (store.enqueueCommand entryId envelope retention).2.dedupe = store.dedupe ∧
      (store.enqueueCommand entryId envelope retention).2.now = store.now := by
  unfold enqueueCommand
  dsimp only
  split
  · exact ⟨rfl, rfl⟩
  · split
    · exact ⟨rfl, rfl⟩
    · split
      · split
        · exact ⟨rfl, rfl⟩
        · exact ⟨rfl, rfl⟩
      · exact ⟨rfl, rfl⟩

/-- Every call shows on the slot of a key as the event its reply tells. -/
theorem serve_slot (key : GuildId × Uuid) (store : CommandStore) (call : StoreCall) :
    LeaseSlot.Next (leaseSlot key store) (leaseEvent key (call, (store.serve call).1))
      (leaseSlot key (store.serve call).2) := by
  cases call with
  | claim guildId idempotencyKey leaseToken leaseTtl =>
    exact claimIdempotency_slot guildId idempotencyKey leaseToken leaseTtl
  | complete guildId idempotencyKey leaseToken retention =>
    exact completeIdempotency_slot guildId idempotencyKey leaseToken retention
  | completeCommand idempotencyKey leaseToken result idempotencyRetention resultRetention =>
    exact completeCommand_slot idempotencyKey leaseToken result idempotencyRetention resultRetention
  | release guildId idempotencyKey leaseToken =>
    exact releaseIdempotency_slot guildId idempotencyKey leaseToken
  | storeResult result retention =>
    have hkept := storeCommandResult_kept store result retention
    exact next_passed hkept.2.ge (congrFun hkept.1 key)
  | enqueue entryId envelope retention =>
    have hkept := enqueueCommand_kept store entryId envelope retention
    exact next_passed hkept.2.ge (congrFun hkept.1 key)
  | acknowledge entryId => exact next_passed le_rfl rfl
  | elapse milliseconds => exact next_passed (Nat.le_add_right _ _) rfl

theorem follows_slot (key : GuildId × Uuid) (store : CommandStore) (l : StoreCall × StoreReply)
    (store' : CommandStore) (h : Follows serve store l store') :
    LeaseSlot.Next (leaseSlot key store) (leaseEvent key l) (leaseSlot key store') := by
  have hnext := serve_slot key store l.1
  rw [show store.serve l.1 = (l.2, store') from h] at hnext
  exact hnext

/-- Who asks to complete or release a key changes the store only with the reply that it did. -/
theorem ends_of_changed (store : CommandStore) {call : StoreCall} {token : Uuid}
    (hasks : asksToEnd key token call)
    (hchanged : (store.serve call).2 ≠ store) :
    (leaseEvent key (call, (store.serve call).1)).Ends token := by
  cases call with
  | complete guildId idempotencyKey leaseToken retention =>
    obtain ⟨rfl, rfl⟩ := hasks
    dsimp only [serve] at hchanged ⊢
    unfold completeIdempotency at *
    split at hchanged
    · exact absurd rfl hchanged
    · split at hchanged
      · exact absurd rfl hchanged
      · rename_i hheld
        rw [if_neg hheld]
        simp [leaseEvent, LeaseEvent.Ends]
  | completeCommand idempotencyKey leaseToken result idempotencyRetention resultRetention =>
    obtain ⟨rfl, rfl⟩ := hasks
    dsimp only [serve] at hchanged ⊢
    unfold completeCommand at *
    split at hchanged
    · exact absurd rfl hchanged
    · exact absurd rfl hchanged
    · exact absurd rfl hchanged
    · rename_i idempotencyMilliseconds resultMilliseconds _ _ _
      dsimp only at hchanged ⊢
      rcases completeWithResult_cases store idempotencyKey leaseToken result
        idempotencyMilliseconds resultMilliseconds with ⟨-, hsame⟩ | ⟨hreply, -⟩
      · exact absurd hsame hchanged
      · rcases hreply with hreply | hreply
        · rw [hreply]
          simp [leaseEvent, LeaseEvent.Ends]
        · rw [hreply]
          simp [leaseEvent, LeaseEvent.Ends]
  | release guildId idempotencyKey leaseToken =>
    obtain ⟨rfl, rfl⟩ := hasks
    dsimp only [serve] at hchanged ⊢
    unfold releaseIdempotency at *
    split at hchanged
    · exact absurd rfl hchanged
    · rename_i hheld
      rw [if_neg hheld]
      simp [leaseEvent, LeaseEvent.Ends]
  | claim guildId idempotencyKey leaseToken leaseTtl => exact hasks.elim
  | storeResult result retention => exact hasks.elim
  | enqueue entryId envelope retention => exact hasks.elim
  | acknowledge entryId => exact hasks.elim
  | elapse milliseconds => exact hasks.elim

/-- At most one worker holds a lease on a key; a completion or release changes the store only in
the hands of the holder; and after a completion nobody acquires the key for its retention. -/
theorem lease_safety {taken : List (Taken CommandStore (StoreCall × StoreReply))}
    (run : Serves taken store) (key : GuildId × Uuid) :
    (∀ token token', HoldsLease key taken store token → HoldsLease key taken store token' →
      token = token') ∧
    (∀ earlier t later token, taken = earlier ++ t :: later → asksToEnd key token t.label.1 →
      t.after ≠ t.before → HoldsLease key earlier t.before token) ∧
    taken.Pairwise fun t t' => ∀ token retention token' leaseTtl,
      leaseEvent key t.label = .completed token retention →
      leaseEvent key t'.label = .acquired token' leaseTtl →
      t.before.now + retention ≤ t'.before.now := by
  have hempty : (leaseSlot key empty).entry = none := rfl
  refine ⟨?_, ?_, ?_⟩
  · intro token token' h h'
    exact LeaseSlot.held_unique (follows_slot key) run hempty h h'
  · intro earlier t later token hsplit hasks hchanged
    subst hsplit
    obtain ⟨runBefore, hstep⟩ := run.split
    have hserved : t.before.serve t.label.1 = (t.label.2, t.after) := hstep
    have hends := ends_of_changed t.before hasks (by rw [hserved]; exact hchanged)
    rw [hserved] at hends
    exact LeaseSlot.held_of_ends (follows_slot key) runBefore hempty hstep hends
  · exact LeaseSlot.acquired_after_completed (follows_slot key) run

def contendedKey : GuildId × Uuid := (⟨.MIN⟩, .fromU128 7)

/-- Two workers on one key: the second claims in vain, then after the first one's lease has run
out; the first one completes and releases too late, the second one in time. -/
def contended : List StoreCall :=
  let first := Uuid.fromU128 1
  let second := Uuid.fromU128 2
  [.claim contendedKey.1 contendedKey.2 first 10, .claim contendedKey.1 contendedKey.2 second 10,
    .elapse 10, .claim contendedKey.1 contendedKey.2 second 10,
    .complete contendedKey.1 contendedKey.2 first 100,
    .release contendedKey.1 contendedKey.2 first,
    .complete contendedKey.1 contendedKey.2 second 100, .elapse 99,
    .claim contendedKey.1 contendedKey.2 first 10, .elapse 1,
    .claim contendedKey.1 contendedKey.2 first 10]

theorem lease_safety_contended :
    ((record serve empty contended).1.map fun t => leaseEvent contendedKey t.label) =
      [.acquired (.fromU128 1) 10, .passed, .passed, .acquired (.fromU128 2) 10, .passed, .passed,
        .completed (.fromU128 2) 100, .passed, .passed, .passed, .acquired (.fromU128 1) 10] ∧
    (record serve empty contended).1.Pairwise fun t t' => ∀ token retention token' leaseTtl,
      leaseEvent contendedKey t.label = .completed token retention →
      leaseEvent contendedKey t'.label = .acquired token' leaseTtl →
      t.before.now + retention ≤ t'.before.now :=
  ⟨by decide +kernel, (lease_safety (run_record serve empty contended) contendedKey).2.2⟩

end CommandStore

end PepeAudio
