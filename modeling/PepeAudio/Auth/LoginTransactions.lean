import PepeAudio.Auth.OAuthStates

/-!
# Login transactions are one-time and bounded

Every state that is still readable has a member with the same deadline in the
sorted set, whose key lives longer. So counting the members bounds the states,
and what a state returns goes back to the last reservation of it.
-/
namespace PepeAudio.PendingStates

variable {policy : SessionPolicy} {codec : PendingCodec} {store store' : PendingStates}

/-- The sorted set after the script that reserves has removed what is due. -/
def pruned (store : PendingStates) : ScoredSet String := store.liveIndex.removeUpTo store.now

/-- Everything a call may do. -/
inductive Served (policy : SessionPolicy) (codec : PendingCodec) (store : PendingStates) :
    Call → Reply → PendingStates → Prop
  | untouched (call : Call) (reply : Reply) (hreserved : reply ≠ .reserved (.ok ()))
      (hconsumed : ∀ pending, reply ≠ .consumed (.ok (some pending))) :
      Served policy codec store call reply store
  | refused (state : String) (pending : PendingOAuth) (error : RepositoryError) :
      Served policy codec store (.reserve state pending) (.reserved (.error error))
        { store with index := store.pruned }
  | reserved (state : String) (pending : PendingOAuth)
      (hroom : store.pruned.card < MAX_PENDING_OAUTH_STATES) :
      Served policy codec store (.reserve state pending) (.reserved (.ok ()))
        { store with
          states := store.states.set (codec.opaqueHash state) (codec.encode pending)
            (store.now + policy.stateTtlMs)
          index := store.pruned.add (codec.opaqueHash state) (store.now + policy.stateTtlMs)
          indexExpiresAt := store.now + policy.stateTtlMs * 2 }
  | consumed (state encoded : String)
      (hvalue : store.states.get store.now (codec.opaqueHash state) = some encoded) :
      Served policy codec store (.consume state) (.consumed (decodePending codec encoded))
        { store with
          states := store.states.erase (codec.opaqueHash state)
          index := store.liveIndex.remove (codec.opaqueHash state) }

theorem serve_served (call : Call) (store : PendingStates) :
    Served policy codec store call (serve policy codec call store).1
      (serve policy codec call store).2 := by
  cases call with
  | reserve state pending =>
    simp only [serve, reserve]
    split
    · exact .untouched _ _ (by simp) (by simp)
    split
    · exact .untouched _ _ (by simp) (by simp)
    unfold reserveState
    dsimp only
    by_cases hfull : MAX_PENDING_OAUTH_STATES ≤ store.pruned.card
    · rw [pruned] at hfull
      rw [if_pos hfull]
      exact .refused state pending .capacityExceeded
    · have hroom : store.pruned.card < MAX_PENDING_OAUTH_STATES := by omega
      rw [pruned] at hfull
      rw [if_neg hfull]
      cases store.states.get store.now (codec.opaqueHash state) with
      | some value => exact .refused state pending .collision
      | none => exact .reserved state pending hroom
  | consume state =>
    simp only [serve, consume]
    split
    · exact .untouched _ _ (by simp) (by simp)
    unfold consumeState
    cases hvalue : store.states.get store.now (codec.opaqueHash state) with
    | none => exact .untouched _ _ (by simp) (by simp)
    | some encoded => exact .consumed state encoded hvalue

/-- Only a text that holds a transaction is returned as one. -/
theorem decode_of_decodePending {encoded : String} {pending : PendingOAuth}
    (h : decodePending codec encoded = .ok (some pending)) :
    codec.decode encoded = some pending := by
  unfold decodePending at h
  split_ifs at h
  cases hdecoded : codec.decode encoded with
  | none =>
    rw [hdecoded] at h
    contradiction
  | some decoded =>
    rw [hdecoded] at h
    dsimp only at h
    split_ifs at h
    simpa using h

theorem liveIndex_card_le (store : PendingStates) : store.liveIndex.card ≤ store.index.card := by
  unfold liveIndex
  split
  · exact le_rfl
  · exact Nat.zero_le _

theorem mem_liveIndex {entry : String × ℕ} (h : entry ∈ store.index)
    (hlive : store.now < store.indexExpiresAt) : entry ∈ store.liveIndex := by
  unfold liveIndex
  rwa [if_pos hlive]

/-- The sorted set counts the states: it is within the limit, and whatever is readable has a
member there, under a key that lives long enough. -/
structure Counted (policy : SessionPolicy) (store : PendingStates) : Prop where
  card_le : store.index.card ≤ MAX_PENDING_OAUTH_STATES
  soon : ∀ stateHash value deadline, store.states stateHash = some ⟨value, deadline⟩ →
    deadline ≤ store.now + policy.stateTtlMs
  member : ∀ stateHash value deadline, store.states stateHash = some ⟨value, deadline⟩ →
    store.now < deadline → (stateHash, deadline) ∈ store.index ∧ deadline ≤ store.indexExpiresAt

namespace Counted

theorem empty (policy : SessionPolicy) (start : ℕ) : Counted policy (empty start) := by
  refine ⟨Nat.zero_le _, ?_, ?_⟩
  · intro stateHash value deadline hentry
    contradiction
  · intro stateHash value deadline hentry
    contradiction

theorem later (h : Counted policy store) (elapsed : ℕ) :
    Counted policy { store with now := store.now + elapsed } := by
  refine ⟨h.card_le, ?_, ?_⟩
  · intro stateHash value deadline hentry
    have hsoon := h.soon stateHash value deadline hentry
    dsimp only
    omega
  · intro stateHash value deadline hentry hlive
    exact h.member stateHash value deadline hentry (by dsimp only at hlive; omega)

/-- A readable state is still counted after what is due has been removed. -/
theorem mem_pruned (h : Counted policy store) {stateHash value : String} {deadline : ℕ}
    (hentry : store.states stateHash = some ⟨value, deadline⟩) (hlive : store.now < deadline) :
    (stateHash, deadline) ∈ store.pruned := by
  obtain ⟨hmem, hexpires⟩ := h.member stateHash value deadline hentry hlive
  rw [pruned, ScoredSet.mem_removeUpTo]
  exact ⟨mem_liveIndex hmem (by omega), hlive⟩

theorem served (h : Counted policy store) {call : Call} {reply : Reply}
    (hserved : Served policy codec store call reply store') : Counted policy store' := by
  have hprunes : store.pruned.card ≤ store.index.card :=
    (ScoredSet.card_removeUpTo_le _ _).trans store.liveIndex_card_le
  have hcard := h.card_le
  cases hserved with
  | untouched => exact h
  | refused state pending error =>
    refine ⟨hprunes.trans hcard, h.soon, ?_⟩
    intro stateHash value deadline hentry hlive
    exact ⟨h.mem_pruned hentry hlive, (h.member stateHash value deadline hentry hlive).2⟩
  | reserved state pending hroom =>
    have hadd := ScoredSet.card_add_le (codec.opaqueHash state)
      (store.now + policy.stateTtlMs) store.pruned
    refine ⟨by dsimp only; omega, ?_, ?_⟩
    · intro stateHash value deadline hentry
      rcases ExpiringMap.set_eq_some.mp hentry with ⟨-, hnew⟩ | ⟨-, hold⟩
      · exact (congrArg Expiring.expiresAt hnew).le
      · exact h.soon stateHash value deadline hold
    · intro stateHash value deadline hentry hlive
      dsimp only at hlive ⊢
      rw [ScoredSet.mem_add]
      rcases ExpiringMap.set_eq_some.mp hentry with ⟨hkey, hnew⟩ | ⟨hkey, hold⟩
      · obtain ⟨-, rfl⟩ := Expiring.mk.injEq .. ▸ hnew
        exact ⟨Or.inl ⟨hkey, rfl⟩, by omega⟩
      · have hsoon := h.soon stateHash value deadline hold
        exact ⟨Or.inr ⟨h.mem_pruned hold hlive, hkey⟩, by omega⟩
  | consumed state encoded hvalue =>
    refine ⟨(ScoredSet.card_remove_le _ _).trans (store.liveIndex_card_le.trans hcard), ?_, ?_⟩
    · intro stateHash value deadline hentry
      exact h.soon stateHash value deadline (ExpiringMap.erase_eq_some.mp hentry).2
    · intro stateHash value deadline hentry hlive
      obtain ⟨hkey, hbefore⟩ := ExpiringMap.erase_eq_some.mp hentry
      obtain ⟨hmem, hexpires⟩ := h.member stateHash value deadline hbefore hlive
      dsimp only at hlive
      refine ⟨?_, hexpires⟩
      rw [ScoredSet.mem_remove]
      exact ⟨mem_liveIndex hmem (by omega), hkey⟩

/-- Every readable state has a member that is not due, under a key that is not either. -/
theorem member_of_readable (h : Counted policy store) {now : ℕ} (hnow : store.now ≤ now)
    {stateHash value : String} (hvalue : store.states.get now stateHash = some value) :
    now < store.indexExpiresAt ∧
      ∃ deadline, (stateHash, deadline) ∈ store.index ∧ now < deadline := by
  obtain ⟨deadline, hentry, hlive⟩ := ExpiringMap.get_eq_some.mp hvalue
  obtain ⟨hmem, hexpires⟩ := h.member stateHash value deadline hentry (by omega)
  exact ⟨by omega, deadline, hmem, hlive⟩

theorem readable_le (h : Counted policy store) {now : ℕ} (hnow : store.now ≤ now) :
    {stateHash | (store.states.get now stateHash).isSome = true}.encard ≤
      MAX_PENDING_OAUTH_STATES := by
  have hmember : ∀ stateHash ∈ {stateHash | (store.states.get now stateHash).isSome = true},
      ∃ deadline, (stateHash, deadline) ∈ store.index := by
    intro stateHash hreadable
    obtain ⟨value, hvalue⟩ := Option.isSome_iff_exists.mp hreadable
    obtain ⟨-, deadline, hmem, -⟩ := h.member_of_readable hnow hvalue
    exact ⟨deadline, hmem⟩
  exact (ScoredSet.encard_le_card hmember).trans (by exact_mod_cast h.card_le)

end Counted

/-- The call reserved the state for the transaction. -/
def Reserved (t : Taken PendingStates ((ℕ × Call) × Reply)) (state : String)
    (pending : PendingOAuth) : Prop :=
  t.label.1.2 = .reserve state pending ∧ t.label.2 = .reserved (.ok ())

/-- The call handed out the transaction under the state. -/
def Returned (t : Taken PendingStates ((ℕ × Call) × Reply)) (state : String)
    (pending : PendingOAuth) : Prop :=
  t.label.1.2 = .consume state ∧ t.label.2 = .consumed (.ok (some pending))

/-- What a key holds was written by a reservation since which nothing was returned for it. -/
def Reserving (policy : SessionPolicy) (codec : PendingCodec)
    (taken : List (Taken PendingStates ((ℕ × Call) × Reply))) (store : PendingStates) : Prop :=
  ∀ stateHash value deadline, store.states stateHash = some ⟨value, deadline⟩ →
    ∃ earlier r later state pending, taken = earlier ++ r :: later ∧ Reserved r state pending ∧
      codec.opaqueHash state = stateHash ∧ value = codec.encode pending ∧
      deadline = r.after.now + policy.stateTtlMs ∧
      ∀ t ∈ later, ∀ state' pending', Returned t state' pending' →
        codec.opaqueHash state' ≠ stateHash

variable {taken : List (Taken PendingStates ((ℕ × Call) × Reply))} {start : ℕ}
  {label : (ℕ × Call) × Reply}

/-- A transition serves its call at a later time of the server. -/
theorem follows_served (hstep : Follows (step policy codec) store label store') :
    Served policy codec { store with now := store.now + label.1.1 } label.1.2 label.2 store' := by
  have hserved : Served policy codec { store with now := store.now + label.1.1 } label.1.2
      (serve policy codec label.1.2 { store with now := store.now + label.1.1 }).1
      (serve policy codec label.1.2 { store with now := store.now + label.1.1 }).2 :=
    serve_served label.1.2 { store with now := store.now + label.1.1 }
  rwa [show serve policy codec label.1.2 { store with now := store.now + label.1.1 } =
    (label.2, store') from hstep] at hserved

theorem Reserving.next (h : Reserving policy codec taken store)
    (hstep : Follows (step policy codec) store label store') :
    Reserving policy codec (taken ++ [⟨store, label, store'⟩]) store' := by
  -- an entry that stays was not handed out by this call
  have hkept : ∀ stateHash value deadline, store.states stateHash = some ⟨value, deadline⟩ →
      (∀ state' pending', Returned ⟨store, label, store'⟩ state' pending' →
        codec.opaqueHash state' ≠ stateHash) →
      ∃ earlier r later state pending, taken ++ [⟨store, label, store'⟩] = earlier ++ r :: later ∧
        Reserved r state pending ∧ codec.opaqueHash state = stateHash ∧
        value = codec.encode pending ∧ deadline = r.after.now + policy.stateTtlMs ∧
        ∀ t ∈ later, ∀ state' pending', Returned t state' pending' →
          codec.opaqueHash state' ≠ stateHash := by
    intro stateHash value deadline hentry hnot
    obtain ⟨earlier, r, later, state, pending, rfl, hreserved, hhash, hvalue, hdeadline, hlater⟩ :=
      h stateHash value deadline hentry
    refine ⟨earlier, r, later ++ [⟨store, label, store'⟩], state, pending, by simp, hreserved,
      hhash, hvalue, hdeadline, fun t ht => ?_⟩
    rcases List.mem_append.mp ht with ht | ht
    · exact hlater t ht
    · obtain rfl := List.mem_singleton.mp ht
      exact hnot
  have hserved := follows_served hstep
  obtain ⟨⟨elapsed, call⟩, reply⟩ := label
  intro stateHash value deadline hentry
  cases hserved with
  | untouched _ _ _ hconsumed =>
    refine hkept stateHash value deadline hentry fun state' pending' hreturned => ?_
    exact absurd hreturned.2 (hconsumed pending')
  | refused state pending error =>
    refine hkept stateHash value deadline hentry fun state' pending' hreturned => ?_
    exact absurd hreturned.2 (by simp)
  | reserved state pending =>
    rcases ExpiringMap.set_eq_some.mp hentry with ⟨hkey, hnew⟩ | ⟨hkey, hold⟩
    · obtain ⟨hvalue, hdeadline⟩ := Expiring.mk.injEq .. ▸ hnew
      exact ⟨taken, _, [], state, pending, rfl, ⟨rfl, rfl⟩, hkey.symm, hvalue, hdeadline, by simp⟩
    · refine hkept stateHash value deadline hold fun state' pending' hreturned => ?_
      exact absurd hreturned.2 (by simp)
  | consumed state encoded hvalue =>
    obtain ⟨hkey, hold⟩ := ExpiringMap.erase_eq_some.mp hentry
    refine hkept stateHash value deadline hold fun state' pending' hreturned => ?_
    have hstate : state = state' := by simpa using hreturned.1
    exact hstate ▸ hkey.symm

theorem Runs.counted (run : Runs policy codec start taken store) : Counted policy store := by
  refine run.invariant (Counted.empty policy start) fun s l s' h hstep => ?_
  exact (h.later l.1.1).served (follows_served hstep)

theorem Runs.reserving (run : Runs policy codec start taken store) :
    Reserving policy codec taken store := by
  refine run.history ?_ fun taken s l s' _ h hstep => h.next hstep
  intro stateHash value deadline hentry
  contradiction

/-- The states that were presented by the calls of a run. -/
def presented (taken : List (Taken PendingStates ((ℕ × Call) × Reply))) : List String :=
  taken.map fun t => t.label.1.2.state

theorem mem_presented {t : Taken PendingStates ((ℕ × Call) × Reply)} (ht : t ∈ taken) :
    t.label.1.2.state ∈ presented taken := List.mem_map_of_mem ht

/-- Nothing is touched under the hash of another state. -/
theorem Served.of_ne {call : Call} {reply : Reply}
    (h : Served policy codec store call reply store') {stateHash : String}
    (hne : stateHash ≠ codec.opaqueHash call.state) :
    store'.states stateHash = store.states stateHash := by
  cases h with
  | untouched | refused => rfl
  | reserved state pending => exact ExpiringMap.set_of_ne hne
  | consumed state encoded => exact ExpiringMap.erase_of_ne hne

def loginState : String := "AAAAAAAAAAAAAAAAAAAAAAAAAAAAAAAAAAAAAAAAAAA"

def loginPending : PendingOAuth := ⟨"BBBBBBBBBBBBBBBBBBBBBBBBBBBBBBBBBBBBBBBBBBA", 1000⟩

/-- The hashes of the state and of its verifier, and the JSON of transactions whose verifier needs
no escapes. -/
def loginCodec : PendingCodec where
  opaqueHash token :=
    if token = loginPending.verifier then "au_MXItKX5w_gtd_nKgAniOIgN6ion9u7xnbE_TEF8o"
    else "DwBzhbb51LfusnSGBa_hqYSgo7-j8BTQnip4TOnlzRo"
  encode pending := "\x7b\"verifier\":\"" ++ pending.verifier ++ "\",\"created_at_ms\":" ++
    toString pending.createdAtMs.toNat ++ "\x7d"
  decode text :=
    if text = "\x7b\"verifier\":\"BBBBBBBBBBBBBBBBBBBBBBBBBBBBBBBBBBBBBBBBBBA\"," ++
      "\"created_at_ms\":1000\x7d" then some loginPending else none

/-- The state is reserved and presented twice. -/
def loginOnce : List (Taken PendingStates ((ℕ × Call) × Reply)) × PendingStates :=
  record (step .default loginCodec) (empty 1000)
    [(0, .reserve loginState loginPending), (10, .consume loginState), (10, .consume loginState)]

end PepeAudio.PendingStates
