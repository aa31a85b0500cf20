import PepeAudio.Storage.CommandStore

/-!
# What the store keeps

A terminal result is written once: the scripts replace only what is absent or
pending, and otherwise at most renew what is there. `Wrote` says this of every
operation; retention until a result expires follows from it.
-/
namespace PepeAudio

namespace CommandStore

/-- How an operation may touch the results, with `retention` for terminal ones. -/
inductive Wrote (retention : ℕ) (store store' : CommandStore) : Prop
  | kept (hnow : store.now ≤ store'.now) (hresults : store'.results = store.results)
  | written (key : GuildId × Uuid) (result : CommandResult) (expiresAt : ℕ)
      (hnow : store'.now = store.now)
      (hresults : store'.results = store.results.set key result expiresAt)
      (hfree : ∀ old, store.results.get store.now key = some old → ¬ old.isTerminal = true)
      (hexpiry : result.isTerminal = true → expiresAt ≤ store.now + retention)
  | renewed (key : GuildId × Uuid) (result : CommandResult) (hnow : store'.now = store.now)
      (hsame : store.results.get store.now key = some result)
      (hresults : store'.results = store.results.set key result (store.now + retention))

/-- No terminal result outlives the retention that starts now. -/
def Bounded (retention : ℕ) (store : CommandStore) : Prop :=
  ∀ key entry, store.results key = some entry → entry.value.isTerminal = true →
    entry.expiresAt ≤ store.now + retention

/-- A later state of the store: its clock has not gone back, and terminal results are in it
until they expire. -/
structure Later (store store' : CommandStore) : Prop where
  now : store.now ≤ store'.now
  results : ExpiringMap.Retains (fun result : CommandResult => result.isTerminal = true)
    store.results store'.now store'.results

theorem Later.refl (store : CommandStore) : store.Later store :=
  ⟨le_rfl, .refl _ _ _⟩

theorem Later.trans {store store' store'' : CommandStore} (h : store.Later store')
    (h' : store'.Later store'') : store.Later store'' :=
  ⟨h.now.trans h'.now, h.results.trans h'.results h'.now⟩

variable {retention : ℕ} {store store' : CommandStore}

theorem Wrote.refl (retention : ℕ) (store : CommandStore) : Wrote retention store store :=
  .kept le_rfl rfl

theorem Wrote.bounded (h : Wrote retention store store') (hbounded : Bounded retention store) :
    Bounded retention store' := by
  intro key entry hentry hterminal
  have hset : ∀ key' result expiresAt, store'.now = store.now →
      store'.results = store.results.set key' result expiresAt →
      (result.isTerminal = true → expiresAt ≤ store.now + retention) →
      entry.expiresAt ≤ store'.now + retention := by
    intro key' result expiresAt hnow hresults hexpiry
    rw [hresults] at hentry
    rw [hnow]
    by_cases hkey : key = key'
    · subst hkey
      rw [ExpiringMap.set_self] at hentry
      obtain rfl := Option.some.inj hentry
      exact hexpiry hterminal
    · rw [ExpiringMap.set_of_ne hkey] at hentry
      exact hbounded key entry hentry hterminal
  cases h with
  | kept hnow hresults =>
    rw [hresults] at hentry
    have hbefore := hbounded key entry hentry hterminal
    omega
  | written key' result expiresAt hnow hresults _ hexpiry =>
    exact hset key' result expiresAt hnow hresults hexpiry
  | renewed key' result hnow _ hresults =>
    exact hset key' result _ hnow hresults fun _ => le_rfl

theorem Wrote.later (h : Wrote retention store store') (hbounded : Bounded retention store) :
    store.Later store' := by
  cases h with
  | kept hnow hresults =>
    refine ⟨hnow, ?_⟩
    rw [hresults]
    exact .refl _ _ _
  | written key result expiresAt hnow hresults hfree =>
    refine ⟨hnow ▸ le_rfl, ?_⟩
    rw [hresults, hnow]
    exact ExpiringMap.retains_set hfree result expiresAt
  | renewed key result hnow hsame hresults =>
    refine ⟨hnow ▸ le_rfl, ?_⟩
    rw [hresults, hnow]
    refine ExpiringMap.retains_renew hsame fun hterminal old hentry => ?_
    exact hbounded key ⟨result, old⟩ hentry hterminal

theorem durationMillis_eq_ok {milliseconds milliseconds' : ℕ} {operation : String}
    (h : durationMillis milliseconds operation = .ok milliseconds') :
    milliseconds' = milliseconds := by
  unfold durationMillis at h
  split at h
  · contradiction
  · exact (Except.ok.inj h).symm

theorem durationMillis_pos {milliseconds milliseconds' : ℕ} {operation : String}
    (h : durationMillis milliseconds operation = .ok milliseconds') : 0 < milliseconds := by
  unfold durationMillis at h
  split at h
  · contradiction
  · rename_i hrange
    simp only [Bool.or_eq_true, decide_eq_true_eq, not_or] at hrange
    omega

theorem not_isTerminal_of_not_conflicts {current result : CommandResult}
    (h : ¬ conflicts current result = true) : ¬ current.isTerminal = true := by
  simp only [conflicts, CommandResult.isTerminal, Bool.or_eq_true, decide_eq_true_eq, not_or] at *
  exact h.2

/-- A result may be written where nothing is readable, or nothing it would conflict with. -/
theorem Wrote.stored {result : CommandResult} (hnow : store'.now = store.now)
    (hresults : store'.results = store.results.set (result.guildId, result.commandId) result
      (store.now + retention))
    (hfree : ∀ old, store.results.get store.now (result.guildId, result.commandId) = some old →
      ¬ conflicts old result = true) : Wrote retention store store' :=
  .written _ result _ hnow hresults
    (fun old hold => not_isTerminal_of_not_conflicts (hfree old hold)) fun _ => le_rfl

theorem storeTerminal_wrote (result : CommandResult) :
    Wrote retention store (store.storeTerminal result retention).2 := by
  unfold storeTerminal
  dsimp only
  split
  · rename_i hnone
    exact .stored rfl rfl (by simp [hnone])
  · rename_i current hcurrent
    split
    · rename_i hsame
      subst hsame
      exact .renewed _ current rfl hcurrent (ExpiringMap.expire_eq hcurrent)
    · split
      · exact .refl _ _
      · rename_i hconflicts
        exact .stored rfl rfl (by simpa [hcurrent] using hconflicts)

theorem storeCommandResult_wrote (result : CommandResult) :
    Wrote retention store (store.storeCommandResult result retention).2 := by
  unfold storeCommandResult
  split
  · exact .refl _ _
  · exact .refl _ _
  · rename_i milliseconds hterminal hmillis
    rw [durationMillis_eq_ok hmillis]
    exact storeTerminal_wrote result

theorem completeWithResult_wrote (idempotencyKey leaseToken : Uuid) (result : CommandResult) :
    Wrote retention store
      (store.completeWithResult idempotencyKey leaseToken result retention retention).2 := by
  unfold completeWithResult
  dsimp only
  split
  · exact .refl _ _
  · split
    · rename_i hnone
      exact .stored rfl rfl (by simp [hnone])
    · rename_i current hcurrent
      split
      · rename_i hsame
        subst hsame
        exact .renewed _ current rfl hcurrent (ExpiringMap.expire_eq hcurrent)
      · split
        · exact .refl _ _
        · rename_i hconflicts
          exact .stored rfl rfl (by simpa [hcurrent] using hconflicts)

theorem completeCommand_wrote (idempotencyKey leaseToken : Uuid) (result : CommandResult) :
    Wrote retention store
      (store.completeCommand idempotencyKey leaseToken result retention retention).2 := by
  unfold completeCommand
  split
  · exact .refl _ _
  · exact .refl _ _
  · exact .refl _ _
  · rename_i hterminal hidempotency hresult
    rw [durationMillis_eq_ok hidempotency, durationMillis_eq_ok hresult]
    exact completeWithResult_wrote idempotencyKey leaseToken result

theorem claimIdempotency_wrote (guildId : GuildId) (idempotencyKey leaseToken : Uuid)
    (leaseTtl : ℕ) : Wrote retention store
      (store.claimIdempotency guildId idempotencyKey leaseToken leaseTtl).2 := by
  unfold claimIdempotency
  split
  · exact .refl _ _
  · split
    · exact .kept le_rfl rfl
    · exact .refl _ _
    · exact .refl _ _

theorem releaseIdempotency_wrote (guildId : GuildId) (idempotencyKey leaseToken : Uuid) :
    Wrote retention store (store.releaseIdempotency guildId idempotencyKey leaseToken).2 := by
  unfold releaseIdempotency
  split
  · exact .refl _ _
  · exact .kept le_rfl rfl

theorem enqueueCommand_wrote (entryId : String) (envelope : CommandEnvelope) (ttl : ℕ) :
    Wrote retention store (store.enqueueCommand entryId envelope ttl).2 := by
  unfold enqueueCommand
  dsimp only
  split
  · exact .refl _ _
  · split
    · exact .refl _ _
    · split
      · split
        · exact .refl _ _
        · exact .refl _ _
      · rename_i hnone
        refine .written (envelope.guildId, envelope.commandId) _ _ rfl rfl ?_ ?_
        · simp [hnone]
        · intro hterminal
          contradiction

/-- Storing a result touches neither leases nor the clock. -/
theorem storeCommandResult_kept (store : CommandStore) (result : CommandResult) (retention : ℕ) :
    (store.storeCommandResult result retention).2.dedupe = store.dedupe ∧
      (store.storeCommandResult result retention).2.now = store.now := by
  unfold storeCommandResult
  split
  · exact ⟨rfl, rfl⟩
  · exact ⟨rfl, rfl⟩
  · dsimp only
    unfold storeTerminal
    dsimp only
    split
    · exact ⟨rfl, rfl⟩
    · split
      · exact ⟨rfl, rfl⟩
      · split
        · exact ⟨rfl, rfl⟩
        · exact ⟨rfl, rfl⟩

/-- What the completion script does: the holder's lease is done, or nothing happens. -/
theorem completeWithResult_cases (store : CommandStore) (idempotencyKey leaseToken : Uuid)
    (result : CommandResult) (idempotencyRetention resultRetention : ℕ) :
    let outcome := store.completeWithResult idempotencyKey leaseToken result idempotencyRetention
      resultRetention
    ((outcome.1 = .leaseLost ∨ outcome.1 = .conflict) ∧ outcome.2 = store) ∨
      ((outcome.1 = .stored ∨ outcome.1 = .unchanged) ∧
        store.dedupe.get store.now (result.guildId, idempotencyKey) = some (.lease leaseToken) ∧
        outcome.2.now = store.now ∧ outcome.2.dedupe =
          store.dedupe.set (result.guildId, idempotencyKey) .done
            (store.now + idempotencyRetention)) := by
  unfold completeWithResult
  dsimp only
  split
  · exact .inl ⟨.inl rfl, rfl⟩
  · rename_i hheld
    have hheld := not_not.mp hheld
    split
    · exact .inr ⟨.inl rfl, hheld, rfl, rfl⟩
    · split
      · exact .inr ⟨.inr rfl, hheld, rfl, rfl⟩
      · split
        · exact .inl ⟨.inr rfl, rfl⟩
        · exact .inr ⟨.inl rfl, hheld, rfl, rfl⟩

/-- A completion that was not refused leaves the clock alone and retains results. -/
theorem completeCommand_now {idempotencyKey leaseToken : Uuid} {result : CommandResult}
    {completion : CommandCompletion}
    (h : (store.completeCommand idempotencyKey leaseToken result retention retention).1 =
      .ok completion) :
    (store.completeCommand idempotencyKey leaseToken result retention retention).2.now =
        store.now ∧ 0 < retention := by
  unfold completeCommand at *
  split at h
  · contradiction
  · contradiction
  · contradiction
  · rename_i idempotencyMilliseconds resultMilliseconds hterminal hidempotency hresult
    refine ⟨?_, durationMillis_pos hresult⟩
    rcases completeWithResult_cases store idempotencyKey leaseToken result
      idempotencyMilliseconds resultMilliseconds with ⟨-, hsame⟩ | ⟨-, -, hnow, -⟩
    · exact congrArg CommandStore.now hsame
    · exact hnow

/-- A result is reported while it is live. -/
theorem getCommandResult_eq {guildId : GuildId} {commandId : Uuid} {result : CommandResult}
    {expiresAt : ℕ} (hentry : store.results (guildId, commandId) = some ⟨result, expiresAt⟩)
    (hlive : store.now < expiresAt) (hguild : result.guildId = guildId)
    (hcommand : result.commandId = commandId) :
    store.getCommandResult guildId commandId = .ok (some result) := by
  have hget : store.results.get store.now (guildId, commandId) = some result :=
    ExpiringMap.get_eq_some.mpr ⟨expiresAt, hentry, hlive⟩
  unfold getCommandResult
  rw [hget]
  simp [hguild, hcommand]

theorem completeWithResult_results {idempotencyKey leaseToken : Uuid} {result : CommandResult}
    (h : (store.completeWithResult idempotencyKey leaseToken result retention retention).1 =
        .stored ∨
      (store.completeWithResult idempotencyKey leaseToken result retention retention).1 =
        .unchanged) :
    (store.completeWithResult idempotencyKey leaseToken result retention retention).2.results
        (result.guildId, result.commandId) = some ⟨result, store.now + retention⟩ := by
  unfold completeWithResult at *
  dsimp only at *
  by_cases hlease : store.dedupe.get store.now (result.guildId, idempotencyKey) ≠
      some (.lease leaseToken)
  · rw [if_pos hlease] at h
    simp at h
  · rw [if_neg hlease] at h ⊢
    cases hcurrent : store.results.get store.now (result.guildId, result.commandId) with
    | none => exact ExpiringMap.set_self
    | some current =>
      rw [hcurrent] at h
      dsimp only at h ⊢
      by_cases hsame : current = result
      · subst hsame
        rw [if_pos rfl, ExpiringMap.expire_eq hcurrent]
        exact ExpiringMap.set_self
      · rw [if_neg hsame] at h ⊢
        by_cases hconflicts : conflicts current result = true
        · rw [if_pos hconflicts] at h
          simp at h
        · rw [if_neg hconflicts]
          exact ExpiringMap.set_self

/-- A completion that took effect has left its result behind, for the whole retention. -/
theorem completeCommand_results {idempotencyKey leaseToken : Uuid} {result : CommandResult}
    (h : (store.completeCommand idempotencyKey leaseToken result retention retention).1 =
        .ok .stored ∨
      (store.completeCommand idempotencyKey leaseToken result retention retention).1 =
        .ok .unchanged) :
    (store.completeCommand idempotencyKey leaseToken result retention retention).2.results
        (result.guildId, result.commandId) = some ⟨result, store.now + retention⟩ := by
  unfold completeCommand at *
  split at h
  · simp at h
  · simp at h
  · simp at h
  · rename_i hterminal hidempotency hresult
    rw [durationMillis_eq_ok hidempotency, durationMillis_eq_ok hresult] at *
    refine completeWithResult_results ?_
    simpa using h

/-- A terminal result that was stored is there for the whole retention. -/
theorem storeCommandResult_results {result : CommandResult}
    (h : (store.storeCommandResult result retention).1 = .ok .stored ∨
      (store.storeCommandResult result retention).1 = .ok .unchanged) :
    (store.storeCommandResult result retention).2.results (result.guildId, result.commandId) =
        some ⟨result, store.now + retention⟩ ∧ 0 < retention := by
  unfold storeCommandResult at *
  split at h
  · simp at h
  · simp at h
  · rename_i hterminal hmillis
    rw [durationMillis_eq_ok hmillis] at *
    refine ⟨?_, durationMillis_pos hmillis⟩
    unfold storeTerminal at *
    dsimp only at *
    cases hcurrent : store.results.get store.now (result.guildId, result.commandId) with
    | none => exact ExpiringMap.set_self
    | some current =>
      rw [hcurrent] at h
      dsimp only at h ⊢
      by_cases hsame : current = result
      · subst hsame
        rw [if_pos rfl, ExpiringMap.expire_eq hcurrent]
        exact ExpiringMap.set_self
      · rw [if_neg hsame] at h ⊢
        by_cases hconflicts : conflicts current result = true
        · rw [if_pos hconflicts] at h
          simp at h
        · rw [if_neg hconflicts]
          exact ExpiringMap.set_self

end CommandStore

end PepeAudio
