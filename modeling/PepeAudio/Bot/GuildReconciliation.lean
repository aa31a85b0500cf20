import PepeAudio.Bot.GuildOwnership
import PepeAudio.Lib.Since

/-!
# Reconciliation of guild ownership

What is desired follows the shards at once; what is advertised follows it round
by round. The history of an actor says when each guild became owned and what the
backends were asked; the flags of a guild tell what the history has seen of it.
-/
namespace PepeAudio

inductive LifecycleEvent where
  /-- The guild was owned by no shard and is now. -/
  | acquired (guildId : GuildId)
  | called (call : BackendCall)
  deriving DecidableEq, Repr

/-- A snapshot invalidation of the guild has succeeded since it last became owned. -/
def InvalidatedSinceOwned (guildId : GuildId) (history : List LifecycleEvent) : Prop :=
  Since (fun event => event = .called (.invalidate guildId true))
    (fun event => event = .acquired guildId) history

/-- No guild is marked present unless its snapshot has been invalidated. -/
def PresentAfterInvalidation (history : List LifecycleEvent) : LifecycleEvent → Prop
  | .called (.present guildId _) => InvalidatedSinceOwned guildId history
  | _ => True

namespace GuildLifecycle

variable {lifecycle : GuildLifecycle} {history : List LifecycleEvent} {replies : RoundReplies}
  {affected : HashSet GuildId}

/-- The flags agree with ownership, with the presence set and with what has happened. -/
structure Tracked (history : List LifecycleEvent) (lifecycle : GuildLifecycle) : Prop where
  desired : ∀ guildId,
    (lifecycle.state.advertisements.lookup guildId).isSome = lifecycle.state.isDesired guildId
  absence : ∀ guildId ∈ lifecycle.state.pendingAbsence,
    lifecycle.state.isDesired guildId = false
  invalidated : ∀ guildId stage,
    lifecycle.state.advertisements.lookup guildId = some stage → stage ≠ .needsInvalidation →
      InvalidatedSinceOwned guildId history
  advertised : ∀ guildId,
    lifecycle.state.advertisements.lookup guildId = some .advertised →
      guildId ∈ lifecycle.presence
  cleared : ∀ guildId, lifecycle.state.isDesired guildId = false →
    guildId ∉ lifecycle.state.pendingAbsence → guildId ∉ lifecycle.presence
  justified : Justified PresentAfterInvalidation history

theorem tracked_start : Tracked [] start := by
  constructor
  · intro guildId
    rfl
  · intro guildId h
    exact absurd h (HashSet.notMem_empty guildId)
  · intro guildId stage h
    contradiction
  · intro guildId h
    contradiction
  · intro guildId _ _
    exact HashSet.notMem_empty guildId
  · exact Justified.nil _

/-- The guilds that a change makes owned. -/
def acquisitions (before after : LifecycleState) : List GuildId :=
  (after.owned.entries.flatMap fun shard => shard.2.elems).filter fun guildId =>
    !before.isDesired guildId

theorem mem_acquisitions {before after : LifecycleState} {guildId : GuildId} :
    guildId ∈ acquisitions before after ↔
      before.isDesired guildId = false ∧ after.isDesired guildId = true := by
  simp only [acquisitions, LifecycleState.isDesired, List.mem_filter, List.mem_flatMap,
    HashSet.mem_elems, List.any_eq_true, decide_eq_true_eq, Bool.not_eq_true']
  tauto

theorem Tracked.changes {removed : List GuildId} {after : LifecycleState}
    (h : Tracked history lifecycle)
    (hchanges : LifecycleState.Changes lifecycle.state affected removed after) :
    Tracked (history ++ (acquisitions lifecycle.state after).map .acquired)
      { lifecycle with state := after } := by
  have hdesired : ∀ guildId,
      (after.advertisements.lookup guildId).isSome = after.isDesired guildId := by
    intro guildId
    rw [hchanges.lookup]
    by_cases haffected : guildId ∈ affected
    · by_cases howned : after.isDesired guildId <;> simp [haffected, howned]
    · rw [if_neg haffected, h.desired, hchanges.desired guildId haffected]
  -- A guild that is past its invalidation was owned before, at the same stage.
  have hkept : ∀ guildId stage, after.advertisements.lookup guildId = some stage →
      stage ≠ .needsInvalidation → lifecycle.state.advertisements.lookup guildId = some stage := by
    intro guildId stage hlookup hstage
    rw [hchanges.lookup] at hlookup
    by_cases haffected : guildId ∈ affected
    · rw [if_pos haffected] at hlookup
      by_cases howned : after.isDesired guildId
      · cases hbefore : lifecycle.state.advertisements.lookup guildId with
        | none => simp_all
        | some earlier => simpa [howned, hbefore] using hlookup
      · simp [howned] at hlookup
    · rwa [if_neg haffected] at hlookup
  constructor
  · exact hdesired
  · intro guildId hpending
    have habsence := (hchanges.absence guildId).mp hpending
    by_cases haffected : guildId ∈ affected
    · simpa [haffected] using habsence
    · rw [if_neg haffected] at habsence
      have hbefore := h.absence guildId habsence
      rwa [← hchanges.desired guildId haffected] at hbefore
  · intro guildId stage hlookup hstage
    have hbefore := hkept guildId stage hlookup hstage
    apply (h.invalidated guildId stage hbefore hstage).append
    intro event hevent hacquired
    obtain ⟨other, hother, rfl⟩ := List.mem_map.mp hevent
    rw [LifecycleEvent.acquired.injEq] at hacquired
    subst hacquired
    have hunowned := (mem_acquisitions.mp hother).1
    rw [← h.desired, hbefore] at hunowned
    contradiction
  · intro guildId hlookup
    exact h.advertised guildId (hkept guildId .advertised hlookup (by decide))
  · intro guildId hunowned hpending
    have hunaffected : guildId ∉ affected := by
      intro haffected
      apply hpending
      rw [hchanges.absence, if_pos haffected]
      exact hunowned
    apply h.cleared guildId
    · rwa [hchanges.desired guildId hunaffected] at hunowned
    · rwa [hchanges.absence, if_neg hunaffected] at hpending
  · apply h.justified.append
    intro before event after' hsplit
    have hevent : event ∈ (acquisitions lifecycle.state after).map LifecycleEvent.acquired := by
      rw [hsplit]
      simp
    obtain ⟨guildId, -, rfl⟩ := List.mem_map.mp hevent
    trivial

theorem invalidations_lookup (guildId : GuildId) :
    (lifecycle.invalidations replies affected).2.state.advertisements.lookup guildId =
      if guildId ∈ affected ∧ lifecycle.state.atStage .needsInvalidation guildId = true ∧
          replies.invalidate guildId = true then some .needsPresence
      else lifecycle.state.advertisements.lookup guildId := by
  simp only [invalidations, lookup_insertKeys, List.mem_filter, HashSet.mem_elems, and_assoc]

theorem advertisements_lookup (guildId : GuildId) :
    (lifecycle.advertisements replies affected).2.state.advertisements.lookup guildId =
      if guildId ∈ affected ∧ lifecycle.state.atStage .needsPresence guildId = true ∧
          (replies.present guildId).isOk = true then some .advertised
      else lifecycle.state.advertisements.lookup guildId := by
  simp only [advertisements, lookup_insertKeys, List.mem_filter, HashSet.mem_elems, and_assoc]

theorem mem_advertisements_presence {guildId : GuildId} :
    guildId ∈ (lifecycle.advertisements replies affected).2.presence ↔
      (guildId ∈ affected ∧ lifecycle.state.atStage .needsPresence guildId = true ∧
        (replies.present guildId).performed = true) ∨ guildId ∈ lifecycle.presence := by
  simp only [advertisements, HashSet.mem_insertAll, List.mem_filter, HashSet.mem_elems, and_assoc]

theorem mem_absences_pendingAbsence {guildId : GuildId} :
    guildId ∈ (lifecycle.absences replies affected).2.state.pendingAbsence ↔
      guildId ∈ lifecycle.state.pendingAbsence ∧
        ¬ (guildId ∈ affected ∧ (replies.absent guildId).isOk = true) := by
  simp only [absences, HashSet.mem_removeAll, List.mem_filter, HashSet.mem_elems,
    decide_eq_true_eq]
  tauto

theorem mem_absences_presence {guildId : GuildId} :
    guildId ∈ (lifecycle.absences replies affected).2.presence ↔
      guildId ∈ lifecycle.presence ∧
        ¬ (guildId ∈ affected ∧ guildId ∈ lifecycle.state.pendingAbsence ∧
          (replies.absent guildId).performed = true) := by
  simp only [absences, HashSet.mem_removeAll, List.mem_filter, HashSet.mem_elems,
    decide_eq_true_eq]
  tauto

theorem InvalidatedSinceOwned.calls {guildId : GuildId}
    (h : InvalidatedSinceOwned guildId history) (calls : List BackendCall) :
    InvalidatedSinceOwned guildId (history ++ calls.map .called) := by
  apply Since.append h
  intro event hevent hacquired
  obtain ⟨call, -, rfl⟩ := List.mem_map.mp hevent
  contradiction

theorem invalidatedSinceOwned_of_mem {guildId : GuildId} {calls : List BackendCall}
    (h : .invalidate guildId true ∈ calls) :
    InvalidatedSinceOwned guildId (history ++ calls.map .called) := by
  have hevent : LifecycleEvent.called (.invalidate guildId true) ∈ calls.map .called :=
    List.mem_map.mpr ⟨_, h, rfl⟩
  refine since_of_mem (P := fun event => event = .called (.invalidate guildId true)) hevent rfl ?_
  intro event hevent hacquired
  obtain ⟨call, -, rfl⟩ := List.mem_map.mp hevent
  contradiction

/-- It is enough to look at the requests to mark a guild present. -/
theorem justified_calls (h : Justified PresentAfterInvalidation history)
    {calls : List BackendCall}
    (hcalls : ∀ guildId reply, .present guildId reply ∈ calls →
      InvalidatedSinceOwned guildId history) :
    Justified PresentAfterInvalidation (history ++ calls.map .called) := by
  apply h.append
  intro before event after hsplit
  obtain ⟨earlier, rest, rfl, rfl, hrest⟩ := List.map_eq_append_iff.mp hsplit
  obtain ⟨call, later, rfl, rfl, -⟩ := List.map_eq_cons_iff.mp hrest
  cases call with
  | present guildId reply =>
    have hbefore := hcalls guildId reply (by simp)
    exact InvalidatedSinceOwned.calls hbefore earlier
  | invalidate | absent => trivial

theorem Tracked.invalidations (h : Tracked history lifecycle) (replies : RoundReplies)
    (affected : HashSet GuildId) :
    Tracked (history ++ (lifecycle.invalidations replies affected).1.map .called)
      (lifecycle.invalidations replies affected).2 := by
  constructor
  · intro guildId
    have hdesired := h.desired guildId
    rw [invalidations_lookup]
    split
    · rename_i hmoved
      rw [LifecycleState.atStage_iff] at hmoved
      rw [hmoved.2.1] at hdesired
      exact hdesired
    · exact hdesired
  · exact h.absence
  · intro guildId stage hlookup hstage
    rw [invalidations_lookup] at hlookup
    split at hlookup
    · rename_i hmoved
      obtain ⟨haffected, hneeds, hsuccess⟩ := hmoved
      apply invalidatedSinceOwned_of_mem
      apply List.mem_map.mpr
      exact ⟨guildId, List.mem_filter.mpr ⟨haffected, hneeds⟩, by rw [hsuccess]⟩
    · exact InvalidatedSinceOwned.calls (h.invalidated guildId stage hlookup hstage) _
  · intro guildId hlookup
    rw [invalidations_lookup] at hlookup
    split at hlookup
    · contradiction
    · exact h.advertised guildId hlookup
  · exact h.cleared
  · apply justified_calls h.justified
    intro guildId reply hcall
    obtain ⟨other, -, hother⟩ := List.mem_map.mp hcall
    contradiction

theorem Tracked.advertisements (h : Tracked history lifecycle) (replies : RoundReplies)
    (affected : HashSet GuildId) :
    Tracked (history ++ (lifecycle.advertisements replies affected).1.map .called)
      (lifecycle.advertisements replies affected).2 := by
  have hneeds : ∀ guildId, lifecycle.state.atStage .needsPresence guildId = true →
      lifecycle.state.isDesired guildId = true ∧ InvalidatedSinceOwned guildId history := by
    intro guildId hstage
    have hlookup := LifecycleState.atStage_iff.mp hstage
    have hdesired := h.desired guildId
    rw [hlookup] at hdesired
    exact ⟨hdesired.symm, h.invalidated guildId .needsPresence hlookup (by decide)⟩
  constructor
  · intro guildId
    rw [advertisements_lookup]
    split
    · rename_i hmoved
      exact (hneeds guildId hmoved.2.1).1.symm
    · exact h.desired guildId
  · exact h.absence
  · intro guildId stage hlookup hstage
    rw [advertisements_lookup] at hlookup
    split at hlookup
    · rename_i hmoved
      exact InvalidatedSinceOwned.calls (hneeds guildId hmoved.2.1).2 _
    · exact InvalidatedSinceOwned.calls (h.invalidated guildId stage hlookup hstage) _
  · intro guildId hlookup
    rw [advertisements_lookup] at hlookup
    rw [mem_advertisements_presence]
    split at hlookup
    · rename_i hmoved
      exact Or.inl ⟨hmoved.1, hmoved.2.1, PresenceReply.performed_of_isOk hmoved.2.2⟩
    · exact Or.inr (h.advertised guildId hlookup)
  · intro guildId hunowned hpending
    rw [mem_advertisements_presence, not_or]
    refine ⟨?_, h.cleared guildId hunowned hpending⟩
    rintro ⟨-, hstage, -⟩
    have hdesired := (hneeds guildId hstage).1
    have hunowned' : lifecycle.state.isDesired guildId = false := hunowned
    rw [hdesired] at hunowned'
    contradiction
  · apply justified_calls h.justified
    intro guildId reply hcall
    obtain ⟨other, hother, hcall⟩ := List.mem_map.mp hcall
    rw [BackendCall.present.injEq] at hcall
    obtain ⟨rfl, -⟩ := hcall
    exact (hneeds other (List.mem_filter.mp hother).2).2

theorem Tracked.absences (h : Tracked history lifecycle) (replies : RoundReplies)
    (affected : HashSet GuildId) :
    Tracked (history ++ (lifecycle.absences replies affected).1.map .called)
      (lifecycle.absences replies affected).2 := by
  constructor
  · exact h.desired
  · intro guildId hpending
    exact h.absence guildId (mem_absences_pendingAbsence.mp hpending).1
  · intro guildId stage hlookup hstage
    exact InvalidatedSinceOwned.calls (h.invalidated guildId stage hlookup hstage) _
  · intro guildId hlookup
    have hlookup' : lifecycle.state.advertisements.lookup guildId = some .advertised := hlookup
    rw [mem_absences_presence]
    refine ⟨h.advertised guildId hlookup, ?_⟩
    rintro ⟨-, hpending, -⟩
    have hdesired := h.desired guildId
    rw [hlookup', h.absence guildId hpending] at hdesired
    contradiction
  · intro guildId hunowned hpending hpresent
    rw [mem_absences_presence] at hpresent
    rw [mem_absences_pendingAbsence] at hpending
    by_cases hbefore : guildId ∈ lifecycle.state.pendingAbsence
    · -- The flag went down in this round, so the request was performed.
      have hcleared : guildId ∈ affected ∧ (replies.absent guildId).isOk = true := by
        by_contra hnot
        exact hpending ⟨hbefore, hnot⟩
      exact hpresent.2 ⟨hcleared.1, hbefore, PresenceReply.performed_of_isOk hcleared.2⟩
    · exact h.cleared guildId hunowned hbefore hpresent.1
  · apply justified_calls h.justified
    intro guildId reply hcall
    obtain ⟨other, -, hother⟩ := List.mem_map.mp hcall
    contradiction

theorem Tracked.reconcileRound (h : Tracked history lifecycle) (replies : RoundReplies)
    (affected : HashSet GuildId) :
    Tracked (history ++ (lifecycle.reconcileRound replies affected).1.calls.map .called)
      (lifecycle.reconcileRound replies affected).2 := by
  have hround := ((h.invalidations replies affected).advertisements replies affected).absences
    replies affected
  simpa only [GuildLifecycle.reconcileRound, List.map_append, List.append_assoc] using hround

theorem Tracked.reconcileRounds (h : Tracked history lifecycle) (backend : ℕ → RoundReplies)
    (delays : ℕ) (affected : HashSet GuildId) :
    Tracked (history ++ ((GuildLifecycle.reconcileRounds backend delays affected
        lifecycle).1.2.flatMap LifecycleRound.calls).map .called)
      (GuildLifecycle.reconcileRounds backend delays affected lifecycle).2 := by
  induction delays generalizing backend affected history lifecycle with
  | zero =>
    simpa [GuildLifecycle.reconcileRounds] using h.reconcileRound (backend 0) affected
  | succ delays ih =>
    have hfirst := h.reconcileRound (backend 0) affected
    rw [GuildLifecycle.reconcileRounds]
    by_cases hdone : (lifecycle.reconcileRound (backend 0) affected).1.pending.isEmpty
    · simpa [hdone] using hfirst
    · have hrest := ih hfirst (fun n => backend (n + 1))
        (lifecycle.reconcileRound (backend 0) affected).1.pending
      simpa [hdone, List.append_assoc] using hrest

@[simp] theorem reconcileRound_owned :
    (lifecycle.reconcileRound replies affected).2.state.owned = lifecycle.state.owned := rfl

@[simp] theorem reconcileRounds_owned (backend : ℕ → RoundReplies) (delays : ℕ)
    (affected : HashSet GuildId) (lifecycle : GuildLifecycle) :
    (reconcileRounds backend delays affected lifecycle).2.state.owned = lifecycle.state.owned := by
  induction delays generalizing backend affected lifecycle with
  | zero => rfl
  | succ delays ih =>
    rw [reconcileRounds]
    by_cases hdone : (lifecycle.reconcileRound (backend 0) affected).1.pending.isEmpty
    · simp [hdone]
    · simp [hdone, ih]

theorem lookup_ne_needsInvalidation
    (hsuccess : ∀ call ∈ (lifecycle.invalidations replies affected).1, call.succeeded = true)
    {guildId : GuildId} (haffected : guildId ∈ affected) :
    (lifecycle.invalidations replies affected).2.state.advertisements.lookup guildId ≠
      some .needsInvalidation := by
  intro hlookup
  rw [invalidations_lookup] at hlookup
  split at hlookup
  · contradiction
  · rename_i hkept
    have hneeds := LifecycleState.atStage_iff.mpr hlookup
    have hcall : .invalidate guildId (replies.invalidate guildId) ∈
        (lifecycle.invalidations replies affected).1 :=
      List.mem_map.mpr ⟨guildId, List.mem_filter.mpr ⟨haffected, hneeds⟩, rfl⟩
    have hok := hsuccess _ hcall
    exact hkept ⟨haffected, hneeds, hok⟩

theorem eq_advertised_of_lookup
    (hsuccess : ∀ call ∈ (lifecycle.advertisements replies affected).1, call.succeeded = true)
    {guildId : GuildId} (haffected : guildId ∈ affected)
    (hbefore : lifecycle.state.advertisements.lookup guildId ≠ some .needsInvalidation)
    {stage : AdvertisementStage} (hlookup :
      (lifecycle.advertisements replies affected).2.state.advertisements.lookup guildId =
        some stage) : stage = .advertised := by
  rw [advertisements_lookup] at hlookup
  split at hlookup
  · exact (Option.some.inj hlookup).symm
  · rename_i hkept
    cases stage with
    | needsInvalidation => exact absurd hlookup hbefore
    | advertised => rfl
    | needsPresence =>
      have hneeds := LifecycleState.atStage_iff.mpr hlookup
      have hcall : .present guildId (replies.present guildId) ∈
          (lifecycle.advertisements replies affected).1 :=
        List.mem_map.mpr ⟨guildId, List.mem_filter.mpr ⟨haffected, hneeds⟩, rfl⟩
      have hok := hsuccess _ hcall
      exact absurd ⟨haffected, hneeds, hok⟩ hkept

theorem notMem_pendingAbsence
    (hsuccess : ∀ call ∈ (lifecycle.absences replies affected).1, call.succeeded = true)
    {guildId : GuildId} (haffected : guildId ∈ affected) :
    guildId ∉ (lifecycle.absences replies affected).2.state.pendingAbsence := by
  intro hpending
  obtain ⟨hbefore, hkept⟩ := mem_absences_pendingAbsence.mp hpending
  have hcall : .absent guildId (replies.absent guildId) ∈
      (lifecycle.absences replies affected).1 :=
    List.mem_map.mpr ⟨guildId, List.mem_filter.mpr ⟨haffected, by simpa using hbefore⟩, rfl⟩
  have hok := hsuccess _ hcall
  exact hkept ⟨haffected, hok⟩

/-- A round in which every call succeeds leaves none of its guilds pending. -/
theorem notMem_pending_of_success
    (hsuccess : ∀ call ∈ (lifecycle.reconcileRound replies affected).1.calls,
      call.succeeded = true) {guildId : GuildId} (haffected : guildId ∈ affected) :
    guildId ∉ (lifecycle.reconcileRound replies affected).2.state.pending := by
  simp only [GuildLifecycle.reconcileRound, List.mem_append, or_imp, forall_and] at hsuccess
  obtain ⟨⟨hinvalidated, hadvertised⟩, hcleared⟩ := hsuccess
  rw [LifecycleState.mem_pending]
  rintro (⟨stage, hstage, hlookup⟩ | hpending)
  · have hneeds := lookup_ne_needsInvalidation hinvalidated haffected
    exact hstage (eq_advertised_of_lookup hadvertised haffected hneeds hlookup)
  · exact notMem_pendingAbsence hcleared haffected hpending

theorem Tracked.round_pending_isEmpty (h : Tracked history lifecycle)
    (hsuccess : ∀ call ∈ (lifecycle.reconcileRound replies affected).1.calls,
      call.succeeded = true) :
    (lifecycle.reconcileRound replies affected).1.pending.isEmpty = true := by
  rw [HashSet.isEmpty_iff]
  intro guildId hremains
  obtain ⟨haffected, hremains⟩ := HashSet.mem_filter.mp hremains
  have hafter := h.reconcileRound replies affected
  have hsettled := notMem_pending_of_success hsuccess haffected
  rw [LifecycleState.mem_pending, not_or] at hsettled
  by_cases hdesired : (lifecycle.reconcileRound replies affected).2.state.isDesired guildId
  · have hsome := hafter.desired guildId
    rw [hdesired, Option.isSome_iff_exists] at hsome
    obtain ⟨stage, hlookup⟩ := hsome
    have hstage : stage = .advertised := by
      by_contra hstage
      exact hsettled.1 ⟨stage, hstage, hlookup⟩
    subst hstage
    have hadvertised := LifecycleState.atStage_iff.mpr hlookup
    have hstays : remains (lifecycle.reconcileRound replies affected).2.state guildId = true :=
      hremains
    rw [remains, if_pos hdesired, hadvertised] at hstays
    contradiction
  · have hstays : remains (lifecycle.reconcileRound replies affected).2.state guildId = true :=
      hremains
    rw [remains, if_neg hdesired, decide_eq_true_iff] at hstays
    exact hsettled.2 hstays

/-- The last round of a command is the first one in which every call succeeds. -/
theorem Tracked.rounds_settled (h : Tracked history lifecycle) (backend : ℕ → RoundReplies)
    (delays : ℕ) (affected : HashSet GuildId) {round : LifecycleRound}
    (hround : round ∈ (GuildLifecycle.reconcileRounds backend delays affected lifecycle).1.2)
    (hsuccess : ∀ call ∈ round.calls, call.succeeded = true) {guildId : GuildId}
    (haffected : guildId ∈ round.affected) :
    guildId ∉
      (GuildLifecycle.reconcileRounds backend delays affected lifecycle).2.state.pending := by
  induction delays generalizing backend affected history lifecycle with
  | zero =>
    obtain rfl := List.mem_singleton.mp hround
    exact notMem_pending_of_success hsuccess haffected
  | succ delays ih =>
    rw [GuildLifecycle.reconcileRounds] at hround ⊢
    by_cases hdone : (lifecycle.reconcileRound (backend 0) affected).1.pending.isEmpty
    · rw [if_pos hdone] at hround ⊢
      obtain rfl := List.mem_singleton.mp hround
      exact notMem_pending_of_success hsuccess haffected
    · rw [if_neg hdone] at hround ⊢
      rcases List.mem_cons.mp hround with rfl | hlater
      · exact absurd (h.round_pending_isEmpty hsuccess) hdone
      · exact ih (h.reconcileRound (backend 0) affected) _ _ hlater

theorem Tracked.presence_iff (h : Tracked history lifecycle) {guildId : GuildId}
    (hsettled : guildId ∉ lifecycle.state.pending) :
    guildId ∈ lifecycle.presence ↔ lifecycle.state.Owned guildId := by
  rw [LifecycleState.mem_pending, not_or] at hsettled
  rw [← LifecycleState.isDesired_iff]
  constructor
  · intro hpresent
    by_contra hunowned
    exact h.cleared guildId (by simpa using hunowned) hsettled.2 hpresent
  · intro howned
    have hsome := h.desired guildId
    rw [howned, Option.isSome_iff_exists] at hsome
    obtain ⟨stage, hlookup⟩ := hsome
    have hstage : stage = .advertised := by
      by_contra hstage
      exact hsettled.1 ⟨stage, hstage, hlookup⟩
    subst hstage
    exact h.advertised guildId hlookup

/-- What one transition adds to the history. -/
def events (t : Taken GuildLifecycle (LifecycleInput × LifecycleOutput)) : List LifecycleEvent :=
  (acquisitions t.before.state t.after.state).map .acquired ++
    (t.label.2.rounds.flatMap LifecycleRound.calls).map .called

/-- The guilds that a reply reports as no longer owned. -/
def reportedGone : LifecycleInput × LifecycleOutput → List GuildId
  | (_, ⟨.reconciled removed _, _⟩) => removed
  | (.command (.absent _ guildId) _, ⟨.absence true _, _⟩) => [guildId]
  | _ => []

/-- What one step from a tracked state does. -/
structure StepFacts (history : List LifecycleEvent)
    (t : Taken GuildLifecycle (LifecycleInput × LifecycleOutput)) : Prop where
  tracked : Tracked (history ++ events t) t.after
  gone : ∀ guildId, guildId ∈ reportedGone t.label ↔
    t.before.state.Owned guildId ∧ ¬ t.after.state.Owned guildId
  settled : ∀ round ∈ t.label.2.rounds, (∀ call ∈ round.calls, call.succeeded = true) →
    ∀ guildId ∈ round.affected, guildId ∉ t.after.state.pending

theorem acquisitions_of_owned {before after : LifecycleState} (h : after.owned = before.owned) :
    acquisitions before after = [] := by
  rw [List.eq_nil_iff_forall_not_mem]
  intro guildId hmem
  have hboth := mem_acquisitions.mp hmem
  rw [LifecycleState.isDesired_congr h, hboth.1] at hboth
  exact absurd hboth.2 (by decide)

/-- A step that changes no ownership and runs no round. -/
theorem stepFacts_idle (h : Tracked history lifecycle) (input : LifecycleInput)
    {reply : LifecycleReply} {running : Bool}
    (hreply : reportedGone (input, ⟨reply, []⟩) = []) :
    StepFacts history ⟨lifecycle, (input, ⟨reply, []⟩), { lifecycle with running }⟩ := by
  constructor
  · have hevents : events ⟨lifecycle, (input, ⟨reply, []⟩), { lifecycle with running }⟩ = [] := by
      rw [events, acquisitions_of_owned rfl]
      rfl
    rw [hevents, List.append_nil]
    exact ⟨h.desired, h.absence, h.invalidated, h.advertised, h.cleared, h.justified⟩
  · intro guildId
    simp [hreply]
  · intro round hround
    simp at hround

/-- A command that changes ownership and then runs its rounds. -/
theorem stepFacts_change (h : Tracked history lifecycle) {removed : List GuildId}
    {after : LifecycleState} (backend : ℕ → RoundReplies)
    (hchanges : LifecycleState.Changes lifecycle.state affected removed after)
    {label : LifecycleInput × LifecycleOutput}
    (hrounds : label.2.rounds =
      ({ lifecycle with state := after }.reconcileWithRetries backend affected).1.2)
    (hgone : reportedGone label = removed) :
    StepFacts history ⟨lifecycle, label,
      ({ lifecycle with state := after }.reconcileWithRetries backend affected).2⟩ := by
  have hchanged := h.changes hchanges
  have howned : ({ lifecycle with state := after }.reconcileWithRetries backend
      affected).2.state.owned = after.owned :=
    reconcileRounds_owned backend SHORT_DELAYS affected { lifecycle with state := after }
  have hdesired := LifecycleState.isDesired_congr howned
  constructor
  · have hrun := hchanged.reconcileRounds backend SHORT_DELAYS affected
    have hacquired : acquisitions lifecycle.state ({ lifecycle with state := after
        }.reconcileWithRetries backend affected).2.state =
        acquisitions lifecycle.state after := by
      rw [acquisitions, acquisitions, howned]
    rw [events, hacquired, hrounds, ← List.append_assoc]
    exact hrun
  · intro guildId
    rw [hgone, hchanges.removed, h.desired, ← LifecycleState.isDesired_iff,
      ← LifecycleState.isDesired_iff, hdesired, Bool.not_eq_true]
    constructor
    · rintro ⟨-, hunowned, hbefore⟩
      exact ⟨hbefore, hunowned⟩
    · rintro ⟨hbefore, hunowned⟩
      refine ⟨?_, hunowned, hbefore⟩
      by_contra haffected
      rw [hchanges.desired guildId haffected, hbefore] at hunowned
      contradiction
  · intro round hround hsuccess guildId haffected
    rw [hrounds] at hround
    exact hchanged.rounds_settled backend SHORT_DELAYS affected hround hsuccess haffected

/-- A single round of the timer. -/
theorem stepFacts_tick (h : Tracked history lifecycle) (backend : RoundReplies)
    (pending : HashSet GuildId) :
    StepFacts history ⟨lifecycle,
      (.tick backend, ⟨.none, [(lifecycle.reconcileRound backend pending).1]⟩),
      (lifecycle.reconcileRound backend pending).2⟩ := by
  constructor
  · have hround := h.reconcileRound backend pending
    have hnone : acquisitions lifecycle.state (lifecycle.reconcileRound backend pending).2.state =
        [] := acquisitions_of_owned rfl
    rw [events, hnone]
    simpa using hround
  · intro guildId
    simp [reportedGone, LifecycleState.Owned]
  · intro round hround hsuccess guildId haffected
    obtain rfl := List.mem_singleton.mp hround
    exact notMem_pending_of_success hsuccess haffected

theorem stepFacts (h : Tracked history lifecycle) (input : LifecycleInput) :
    StepFacts history ⟨lifecycle, (input, (step lifecycle input).1), (step lifecycle input).2⟩ := by
  unfold step
  by_cases hrunning : lifecycle.running
  · rw [hrunning]
    dsimp only [Bool.not_true, Bool.false_eq_true, if_false]
    cases input with
    | command command backend =>
      cases command with
      | reconcileShard shardId guilds =>
        exact stepFacts_change h backend
          (LifecycleState.reconcileShard_changes shardId guilds lifecycle.state) rfl rfl
      | present shardId guildId =>
        exact stepFacts_change h backend
          (LifecycleState.present_changes shardId guildId lifecycle.state) rfl rfl
      | absent shardId guildId =>
        apply stepFacts_change h backend
          (LifecycleState.absent_changes shardId guildId lifecycle.state) rfl
        dsimp only [execute]
        cases (lifecycle.state.absent shardId guildId).1.2 <;> rfl
      | owned shardId => exact stepFacts_idle h _ rfl
      | shutdown => exact stepFacts_idle h _ rfl
    | tick backend =>
      by_cases hempty : lifecycle.state.pending.isEmpty
      · rw [hempty]
        exact stepFacts_idle h _ rfl
      · rw [Bool.not_eq_true] at hempty
        rw [hempty]
        exact stepFacts_tick h backend lifecycle.state.pending
    | closed => exact stepFacts_idle h _ rfl
  · rw [Bool.not_eq_true] at hrunning
    rw [hrunning]
    exact stepFacts_idle h _ rfl

variable {taken : List (Taken GuildLifecycle (LifecycleInput × LifecycleOutput))}

theorem Runs.tracked (run : Runs taken lifecycle) :
    Tracked (taken.flatMap events) lifecycle := by
  refine run.history (I := fun taken lifecycle => Tracked (taken.flatMap events) lifecycle)
    tracked_start ?_
  intro taken lifecycle label after _ htracked hnext
  obtain ⟨hlabel, rfl⟩ := hnext.eq
  rw [List.flatMap_append, List.flatMap_singleton, hlabel]
  exact (stepFacts htracked label.1).tracked

theorem Runs.stepFacts (run : Runs taken lifecycle)
    {t : Taken GuildLifecycle (LifecycleInput × LifecycleOutput)} (ht : t ∈ taken) :
    ∃ history, StepFacts history t := by
  obtain ⟨⟨earlier, hearlier⟩, hnext⟩ := Run.taken_next run ht
  obtain ⟨hlabel, hafter⟩ := hnext.eq
  have hfacts := GuildLifecycle.stepFacts (Runs.tracked hearlier) t.label.1
  rw [← hlabel, ← hafter] at hfacts
  exact ⟨_, hfacts⟩

/-- A round does not touch the flags of other guilds. -/
theorem reconcileRound_pending_of_notMem {guildId : GuildId} (h : guildId ∉ affected) :
    guildId ∈ (lifecycle.reconcileRound replies affected).2.state.pending ↔
      guildId ∈ lifecycle.state.pending := by
  have hlookup : (lifecycle.reconcileRound replies affected).2.state.advertisements.lookup
      guildId = lifecycle.state.advertisements.lookup guildId := by
    have hinvalidated : (lifecycle.invalidations replies affected).2.state.advertisements.lookup
        guildId = lifecycle.state.advertisements.lookup guildId := by
      rw [invalidations_lookup, if_neg (by tauto)]
    rw [← hinvalidated]
    exact (advertisements_lookup guildId).trans (if_neg (by tauto))
  have habsence : guildId ∈ (lifecycle.reconcileRound replies affected).2.state.pendingAbsence ↔
      guildId ∈ lifecycle.state.pendingAbsence := by
    refine mem_absences_pendingAbsence.trans ?_
    exact and_iff_left (by tauto)
  rw [LifecycleState.mem_pending, LifecycleState.mem_pending, hlookup, habsence]

theorem step_tick (hrunning : lifecycle.running = true) (backend : RoundReplies) :
    step lifecycle (.tick backend) =
      if lifecycle.state.pending.isEmpty then (⟨.none, []⟩, lifecycle)
      else (⟨.none, [(lifecycle.reconcileRound backend lifecycle.state.pending).1]⟩,
        (lifecycle.reconcileRound backend lifecycle.state.pending).2) := by
  simp [step, hrunning]

/-- The background round takes up every pending guild. -/
theorem tick_settled {t : Taken GuildLifecycle (LifecycleInput × LifecycleOutput)}
    {backend : RoundReplies} (hnext : Follows step t.before t.label t.after)
    (hrunning : t.before.running = true) (htick : t.label.1 = .tick backend)
    (hsuccess : ∀ round ∈ t.label.2.rounds, ∀ call ∈ round.calls, call.succeeded = true)
    (guildId : GuildId) : guildId ∉ t.after.state.pending := by
  obtain ⟨hlabel, hafter⟩ := hnext.eq
  rw [hlabel] at hsuccess
  rw [hafter]
  rw [htick] at hsuccess ⊢
  rw [step_tick hrunning] at hsuccess ⊢
  by_cases hempty : t.before.state.pending.isEmpty
  · rw [if_pos hempty]
    exact HashSet.isEmpty_iff.mp hempty guildId
  · rw [if_neg hempty] at hsuccess ⊢
    have hround := hsuccess _ (List.mem_singleton.mpr rfl)
    by_cases hpending : guildId ∈ t.before.state.pending
    · exact notMem_pending_of_success hround hpending
    · exact mt (reconcileRound_pending_of_notMem hpending).mp hpending

/-- What reconciliation promises of a run and of the state it leads to. -/
structure OwnershipReconciled
    (taken : List (Taken GuildLifecycle (LifecycleInput × LifecycleOutput)))
    (lifecycle : GuildLifecycle) : Prop where
  desired : ∀ guildId,
    guildId ∈ lifecycle.state.advertisements ↔ lifecycle.state.Owned guildId
  absence : ∀ guildId ∈ lifecycle.state.pendingAbsence, ¬ lifecycle.state.Owned guildId
  presented : ∀ before guildId reply after,
    taken.flatMap events = before ++ .called (.present guildId reply) :: after →
      InvalidatedSinceOwned guildId before
  advertised : ∀ guildId,
    lifecycle.state.advertisements.lookup guildId = some .advertised →
      InvalidatedSinceOwned guildId (taken.flatMap events)
  gone : ∀ t ∈ taken, ∀ guildId, guildId ∈ reportedGone t.label ↔
    t.before.state.Owned guildId ∧ ¬ t.after.state.Owned guildId
  settled : ∀ t ∈ taken, ∀ round ∈ t.label.2.rounds,
    (∀ call ∈ round.calls, call.succeeded = true) → ∀ guildId ∈ round.affected,
      guildId ∉ t.after.state.pending ∧
        (guildId ∈ t.after.presence ↔ t.after.state.Owned guildId)
  background : ∀ t ∈ taken, ∀ backend, t.before.running = true → t.label.1 = .tick backend →
    (∀ round ∈ t.label.2.rounds, ∀ call ∈ round.calls, call.succeeded = true) →
      ∀ guildId, guildId ∉ t.after.state.pending ∧
        (guildId ∈ t.after.presence ↔ t.after.state.Owned guildId)

theorem ownership_reconciled (run : Runs taken lifecycle) :
    OwnershipReconciled taken lifecycle := by
  have htracked := Runs.tracked run
  constructor
  · intro guildId
    rw [← AList.lookup_isSome, htracked.desired, LifecycleState.isDesired_iff]
  · intro guildId hpending howned
    rw [← LifecycleState.isDesired_iff, htracked.absence guildId hpending] at howned
    contradiction
  · intro before guildId reply after hsplit
    exact htracked.justified before _ after hsplit
  · intro guildId hlookup
    exact htracked.invalidated guildId .advertised hlookup (by decide)
  · intro t ht
    obtain ⟨history, hfacts⟩ := Runs.stepFacts run ht
    exact hfacts.gone
  · intro t ht round hround hsuccess guildId haffected
    obtain ⟨history, hfacts⟩ := Runs.stepFacts run ht
    have hsettled := hfacts.settled round hround hsuccess guildId haffected
    exact ⟨hsettled, hfacts.tracked.presence_iff hsettled⟩
  · intro t ht backend hrunning htick hsuccess guildId
    obtain ⟨history, hfacts⟩ := Runs.stepFacts run ht
    obtain ⟨-, hnext⟩ := Run.taken_next run ht
    have hsettled := tick_settled hnext hrunning htick hsuccess guildId
    exact ⟨hsettled, hfacts.tracked.presence_iff hsettled⟩

/-- Two guilds, and backends that answer every call in the same way. -/
def firstGuild : GuildId := ⟨.MIN⟩

def secondGuild : GuildId := ⟨.two⟩

def answering (success : Bool) : RoundReplies :=
  let reply := if success then PresenceReply.ok else .failed true
  ⟨fun _ => success, fun _ => reply, fun _ => reply⟩

/-- A guild on two shards leaves one after the other while the backends fail; a background round
completes its removal. -/
def crossedRemoval : List LifecycleInput :=
  [.command (.present 0 firstGuild) (fun _ => answering true),
    .command (.present 1 firstGuild) (fun _ => answering false),
    .command (.absent 0 firstGuild) (fun _ => answering false),
    .command (.reconcileShard 1 (.singleton secondGuild)) (fun _ => answering false),
    .tick (answering true)]

theorem ownership_reconciled_crossedRemoval :
    ((record step start crossedRemoval).1.map fun t => reportedGone t.label) =
      [[], [], [], [firstGuild], []] ∧
    (record step start crossedRemoval).2.presence.elems = [secondGuild] ∧
    OwnershipReconciled (record step start crossedRemoval).1
      (record step start crossedRemoval).2 :=
  ⟨by decide +kernel, by decide +kernel,
    ownership_reconciled (run_record step start crossedRemoval)⟩

/-- The backends come back before the background round. -/
def recoveredBetween : List LifecycleInput :=
  [.command (.present 0 firstGuild) (fun _ => answering false),
    .command (.present 0 secondGuild) (fun _ => answering true)]

/-- The rounds of a command leave the guilds of earlier commands alone. -/
theorem round_leaves_pending_recoveredBetween :
    ¬ ∀ taken lifecycle, Runs taken lifecycle → ∀ t ∈ taken, ∀ round ∈ t.label.2.rounds,
      (∀ call ∈ round.calls, call.succeeded = true) →
        (∀ guildId, guildId ∉ t.after.state.pending) ∧
          ∀ guildId, guildId ∈ t.after.presence ↔ t.after.state.Owned guildId := by
  intro hall
  have hbad : ∃ t ∈ (record step start recoveredBetween).1, ∃ round ∈ t.label.2.rounds,
      (∀ call ∈ round.calls, call.succeeded = true) ∧ firstGuild ∈ t.after.state.pending ∧
        firstGuild ∉ t.after.presence ∧ t.after.state.isDesired firstGuild = true := by
    decide +kernel
  obtain ⟨t, ht, round, hround, hsuccess, hpending, -⟩ := hbad
  have hnothing := hall _ _ (run_record step start recoveredBetween) t ht round hround hsuccess
  exact hnothing.1 firstGuild hpending

end GuildLifecycle

end PepeAudio
