import PepeAudio.Storage.SnapshotStore

/-!
# The snapshot store is a max-register

Of each guild the store keeps a max-register: the watermark is its mark, the
readable snapshot its body. The watermark's text is ordered as the revision it
stands for.
-/
namespace PepeAudio

theorem StateRevision.toNat_lt (revision : StateRevision) : revision.toNat < 10 ^ 20 := by
  have h := revision.get.toNat_lt
  show revision.get.toNat < 10 ^ 20
  omega

theorem revisionSortKey_lt_iff (a b : StateRevision) :
    revisionSortKey a < revisionSortKey b ↔ a.toNat < b.toNat :=
  zeroPadded_lt_iff (by decide) a.toNat_lt b.toNat_lt

theorem revisionSortKey_le_iff (a b : StateRevision) :
    revisionSortKey a ≤ revisionSortKey b ↔ a.toNat ≤ b.toNat := by
  have h := revisionSortKey_lt_iff b a
  constructor
  · intro hle
    have hnot : ¬ revisionSortKey b < revisionSortKey a := String.not_lt.mpr hle
    rw [h] at hnot
    omega
  · intro hle
    refine String.not_lt.mp ?_
    rw [h]
    omega

theorem parseRevisionSortKey_revisionSortKey (revision : StateRevision) :
    parseRevisionSortKey (revisionSortKey revision) = .ok revision := by
  have hdigits : ∀ c ∈ (revisionSortKey revision).toList, c.isDigit = true :=
    fun c hc => zeroPadded_digits hc
  have hvalue : Nat.ofDigitChars 10 (revisionSortKey revision).toList 0 = revision.toNat :=
    ofDigitChars_zeroPadded
  have hsize : (revisionSortKey revision).utf8ByteSize = 20 :=
    utf8ByteSize_zeroPadded (by decide) revision.toNat_lt
  unfold parseRevisionSortKey
  have hall : (revisionSortKey revision).toList.all Char.isDigit = true := by
    simpa [List.all_eq_true] using hdigits
  dsimp only
  rw [hsize, hall, hvalue]
  have hfits : revision.toNat < UInt64.size := revision.get.toNat_lt
  simp only [ne_eq, not_true_eq_false, decide_false, Bool.not_true, Bool.or_self,
    Bool.false_eq_true, if_false, if_pos hfits]
  have hget : UInt64.ofNat revision.toNat = revision.get := UInt64.ofNat_toNat
  rw [hget]

namespace SnapshotStore

/-- The revision clock of a guild; nothing is below every revision. -/
def watermark (guildId : GuildId) (store : SnapshotStore) : WithBot ℕ :=
  match store.getSnapshotRevision guildId with
  | .ok (some revision) => revision.toNat
  | _ => ⊥

/-- The register a guild has in the store. -/
def register (guildId : GuildId) (store : SnapshotStore) : MaxRegister ℕ PlayerSnapshot :=
  ⟨store.watermark guildId, store.bodies.get store.now guildId⟩

/-- What a reply tells about the register of a guild. -/
def registerEvent (guildId : GuildId) : SnapshotCall × SnapshotReply → RegisterEvent PlayerSnapshot
  | (.put snapshot _, .written (.ok .stored)) =>
    if snapshot.guildId = guildId then .accepted snapshot else .passed
  | (.put snapshot _, .written (.ok .stale)) =>
    if snapshot.guildId = guildId then .refused snapshot else .passed
  | (.invalidate invalidated, _) => if invalidated = guildId then .dropped else .passed
  | _ => .passed

/-- Everything in the store has been put there by the script. -/
structure Sound (encodedLength : PlayerSnapshot → ℕ) (store : SnapshotStore) : Prop where
  revisions : ∀ guildId value, store.revisions guildId = some value →
    ∃ revision, value = revisionSortKey revision
  bodies : ∀ guildId snapshot expiresAt, store.bodies guildId = some ⟨snapshot, expiresAt⟩ →
    snapshot.guildId = guildId ∧ snapshot.validatePublicShape = .ok () ∧
      encodedLength snapshot ≤ MAX_PLAYER_SNAPSHOT_JSON_BYTES

variable {encodedLength : PlayerSnapshot → ℕ} {store : SnapshotStore} {guildId : GuildId}

theorem getSnapshotRevision_none (h : store.revisions guildId = none) :
    store.getSnapshotRevision guildId = .ok none := by
  unfold getSnapshotRevision
  rw [h]

theorem getSnapshotRevision_some {revision : StateRevision}
    (h : store.revisions guildId = some (revisionSortKey revision)) :
    store.getSnapshotRevision guildId = .ok (some revision) := by
  unfold getSnapshotRevision
  rw [h]
  dsimp only
  rw [parseRevisionSortKey_revisionSortKey]
  rfl

theorem watermark_none (h : store.revisions guildId = none) : store.watermark guildId = ⊥ := by
  unfold watermark
  rw [getSnapshotRevision_none h]

theorem watermark_some {revision : StateRevision}
    (h : store.revisions guildId = some (revisionSortKey revision)) :
    store.watermark guildId = revision.toNat := by
  unfold watermark
  rw [getSnapshotRevision_some h]

theorem watermark_congr (store : SnapshotStore) {store' : SnapshotStore}
    (h : store'.revisions guildId = store.revisions guildId) :
    store'.watermark guildId = store.watermark guildId := by
  unfold watermark getSnapshotRevision
  rw [h]

/-- The script stores what is newer than the watermark, and refuses the rest. -/
theorem putScript_cases (hsound : store.Sound encodedLength) (snapshot : PlayerSnapshot)
    (ttl : ℕ) :
    (store.putScript snapshot ttl = (.stored, { store with
        bodies := store.bodies.set snapshot.guildId snapshot (store.now + ttl)
        revisions := Function.update store.revisions snapshot.guildId
          (some (revisionSortKey snapshot.revision))
        events := store.events ++ [⟨snapshot.guildId, snapshot.revision⟩] }) ∧
      store.watermark snapshot.guildId < snapshot.revision.toNat) ∨
    (store.putScript snapshot ttl = (.stale, store) ∧
      snapshot.revision.toNat ≤ store.watermark snapshot.guildId) := by
  unfold putScript
  dsimp only
  cases hcurrent : store.revisions snapshot.guildId with
  | none =>
    left
    rw [watermark_none hcurrent]
    exact ⟨rfl, WithBot.bot_lt_coe _⟩
  | some current =>
    obtain ⟨revision, rfl⟩ := hsound.revisions _ _ hcurrent
    rw [watermark_some hcurrent]
    dsimp only
    by_cases hle : revisionSortKey snapshot.revision ≤ revisionSortKey revision
    · right
      have hold := (revisionSortKey_le_iff _ _).mp hle
      rw [if_pos hle]
      exact ⟨rfl, WithBot.coe_le_coe.mpr hold⟩
    · left
      have hnew : revision.toNat < snapshot.revision.toNat := by
        rw [revisionSortKey_le_iff] at hle
        omega
      rw [if_neg hle]
      exact ⟨rfl, WithBot.coe_lt_coe.mpr hnew⟩

theorem putSnapshotIfNewer_cases (encodedLength : PlayerSnapshot → ℕ) (store : SnapshotStore)
    (snapshot : PlayerSnapshot) (ttl : ℕ) :
    (∃ error, store.putSnapshotIfNewer encodedLength snapshot ttl = (.error error, store)) ∨
    (0 < ttl ∧ snapshot.validatePublicShape = .ok () ∧
      encodedLength snapshot ≤ MAX_PLAYER_SNAPSHOT_JSON_BYTES ∧
      store.putSnapshotIfNewer encodedLength snapshot ttl =
        (.ok (store.putScript snapshot ttl).1, (store.putScript snapshot ttl).2)) := by
  unfold putSnapshotIfNewer
  by_cases httl : (UInt64.size ≤ ttl || ttl = 0) = true
  · rw [if_pos httl]
    exact .inl ⟨_, rfl⟩
  · rw [if_neg httl]
    cases hshape : snapshot.validatePublicShape with
    | error error => exact .inl ⟨_, rfl⟩
    | ok _ =>
      dsimp only
      by_cases hlong : MAX_PLAYER_SNAPSHOT_JSON_BYTES < encodedLength snapshot
      · rw [if_pos hlong]
        exact .inl ⟨_, rfl⟩
      · rw [if_neg hlong]
        simp only [Bool.or_eq_true, decide_eq_true_eq, not_or] at httl
        exact .inr ⟨by omega, rfl, by omega, rfl⟩

theorem serve_sound (hsound : store.Sound encodedLength) (call : SnapshotCall) :
    (store.serve encodedLength call).2.Sound encodedLength := by
  cases call with
  | put snapshot ttl =>
    dsimp only [serve]
    rcases putSnapshotIfNewer_cases encodedLength store snapshot ttl
      with ⟨error, hput⟩ | ⟨-, hshape, hlength, hput⟩
    · rw [hput]
      exact hsound
    · rw [hput]
      rcases putScript_cases hsound snapshot ttl with ⟨hscript, -⟩ | ⟨hscript, -⟩
      · rw [hscript]
        constructor
        · intro guildId value hvalue
          by_cases hguild : guildId = snapshot.guildId
          · subst hguild
            dsimp only at hvalue
            rw [Function.update_self] at hvalue
            exact ⟨_, (Option.some.inj hvalue).symm⟩
          · dsimp only at hvalue
            rw [Function.update_of_ne hguild] at hvalue
            exact hsound.revisions guildId value hvalue
        · intro guildId body expiresAt hbody
          by_cases hguild : guildId = snapshot.guildId
          · subst hguild
            dsimp only at hbody
            rw [ExpiringMap.set_self] at hbody
            obtain ⟨rfl, -⟩ := Expiring.mk.inj (Option.some.inj hbody)
            exact ⟨rfl, hshape, hlength⟩
          · dsimp only at hbody
            rw [ExpiringMap.set_of_ne hguild] at hbody
            exact hsound.bodies guildId body expiresAt hbody
      · rw [hscript]
        exact hsound
  | get guildId => exact hsound
  | getRevision guildId => exact hsound
  | invalidate invalidated =>
    refine ⟨hsound.revisions, ?_⟩
    intro guildId body expiresAt hbody
    dsimp only [serve, invalidateSnapshot] at hbody
    by_cases hguild : guildId = invalidated
    · subst hguild
      simp [ExpiringMap.erase] at hbody
    · refine hsound.bodies guildId body expiresAt ?_
      simpa [ExpiringMap.erase, hguild] using hbody
  | elapse milliseconds => exact ⟨hsound.revisions, hsound.bodies⟩

/-- A stored snapshot is the register of its guild, and of no other one. -/
theorem register_stored (store store' : SnapshotStore) {snapshot : PlayerSnapshot} {ttl : ℕ}
    (httl : 0 < ttl) (hnow : store'.now = store.now)
    (hbodies : store'.bodies = store.bodies.set snapshot.guildId snapshot (store.now + ttl))
    (hrevisions : store'.revisions = Function.update store.revisions snapshot.guildId
      (some (revisionSortKey snapshot.revision))) (guildId : GuildId) :
    register guildId store' =
      if snapshot.guildId = guildId then ⟨snapshot.revision.toNat, some snapshot⟩
      else register guildId store := by
  unfold register
  rw [hnow, hbodies]
  by_cases hguild : snapshot.guildId = guildId
  · subst hguild
    have hcurrent : store'.revisions snapshot.guildId =
        some (revisionSortKey snapshot.revision) := by simp [hrevisions]
    rw [if_pos rfl, watermark_some hcurrent, ExpiringMap.get_set_self (by omega)]
  · have hne : guildId ≠ snapshot.guildId := Ne.symm hguild
    have hcurrent : store'.revisions guildId = store.revisions guildId := by
      simp [hrevisions, hne]
    rw [if_neg hguild, watermark_congr store hcurrent, ExpiringMap.get_set_of_ne hne]

/-- What a put does: it stores what is newer than the watermark, or changes nothing. -/
theorem putSnapshotIfNewer_effect (hsound : store.Sound encodedLength) (snapshot : PlayerSnapshot)
    (ttl : ℕ) :
    let outcome := store.putSnapshotIfNewer encodedLength snapshot ttl
    (outcome.1 = .ok .stored ∧ store.watermark snapshot.guildId < snapshot.revision.toNat ∧
      ∀ guildId, outcome.2.watermark guildId =
        if snapshot.guildId = guildId then (snapshot.revision.toNat : WithBot ℕ)
        else store.watermark guildId) ∨
    (outcome.1 ≠ .ok .stored ∧ outcome.2 = store ∧
      ∀ reply, outcome.1 = .ok reply →
        snapshot.revision.toNat ≤ store.watermark snapshot.guildId) := by
  dsimp only
  rcases putSnapshotIfNewer_cases encodedLength store snapshot ttl with
    ⟨error, hput⟩ | ⟨httl, -, -, hput⟩
  · right
    rw [hput]
    exact ⟨by simp, rfl, by simp⟩
  · rw [hput]
    rcases putScript_cases hsound snapshot ttl with ⟨hscript, hnewer⟩ | ⟨hscript, hold⟩
    · left
      have hstored := register_stored store (store.putScript snapshot ttl).2 httl
        (by rw [hscript]) (by rw [hscript]) (by rw [hscript])
      refine ⟨by rw [hscript], hnewer, fun guildId => ?_⟩
      have hmark := congrArg MaxRegister.mark (hstored guildId)
      rw [apply_ite MaxRegister.mark] at hmark
      exact hmark
    · right
      rw [hscript]
      exact ⟨by simp, rfl, fun _ _ => hold⟩

/-- Every call shows on the register of a guild as the event its reply tells. -/
theorem serve_register (hsound : store.Sound encodedLength) (guildId : GuildId)
    (call : SnapshotCall) :
    MaxRegister.Next (fun snapshot : PlayerSnapshot => snapshot.revision.toNat)
      (register guildId store) (registerEvent guildId (call, (store.serve encodedLength call).1))
      (register guildId (store.serve encodedLength call).2) := by
  cases call with
  | put snapshot ttl =>
    dsimp only [serve]
    rcases putSnapshotIfNewer_cases encodedLength store snapshot ttl
      with ⟨error, hput⟩ | ⟨httl, hshape, hlength, hput⟩
    · rw [hput]
      exact .kept
    · rw [hput]
      rcases putScript_cases hsound snapshot ttl with ⟨hscript, hnewer⟩ | ⟨hscript, hold⟩
      · have hstored := register_stored store (store.putScript snapshot ttl).2 httl
          (by rw [hscript]) (by rw [hscript]) (by rw [hscript]) guildId
        rw [hstored, hscript]
        dsimp only [registerEvent]
        by_cases hguild : snapshot.guildId = guildId
        · subst hguild
          rw [if_pos rfl, if_pos rfl]
          exact .accepted snapshot hnewer
        · rw [if_neg hguild, if_neg hguild]
          exact .kept
      · rw [hscript]
        dsimp only [registerEvent]
        by_cases hguild : snapshot.guildId = guildId
        · subst hguild
          rw [if_pos rfl]
          exact .refused snapshot hold
        · rw [if_neg hguild]
          exact .kept
  | get guildId => exact .kept
  | getRevision guildId => exact .kept
  | invalidate invalidated =>
    dsimp only [serve, invalidateSnapshot, registerEvent]
    unfold register
    rw [watermark_congr store rfl]
    by_cases hguild : invalidated = guildId
    · subst hguild
      rw [if_pos rfl, ExpiringMap.get_erase_self]
      exact .dropped
    · rw [if_neg hguild, ExpiringMap.get_erase_of_ne (Ne.symm hguild)]
      exact .kept
  | elapse milliseconds =>
    dsimp only [serve, registerEvent]
    unfold register
    rw [watermark_congr store rfl]
    rcases ExpiringMap.get_later (m := store.bodies) (Nat.le_add_right store.now milliseconds)
      guildId with hkept | hlost
    · rw [hkept]
      exact .kept
    · rw [hlost]
      exact .lost

variable {taken : List (Taken SnapshotStore (SnapshotCall × SnapshotReply))}

theorem Serves.sound (run : Serves encodedLength taken store) : store.Sound encodedLength := by
  refine run.invariant (I := Sound encodedLength) ⟨?_, ?_⟩ ?_
  · intro guildId value hvalue
    contradiction
  · intro guildId body expiresAt hbody
    contradiction
  · intro s l s' hsound hstep
    rw [hstep.eq.2]
    exact serve_sound hsound l.1

theorem Serves.register (guildId : GuildId) (s : SnapshotStore) (l : SnapshotCall × SnapshotReply)
    (s' : SnapshotStore) (hreached : ∃ earlier, Serves encodedLength earlier s)
    (hstep : Follows (serve encodedLength) s l s') :
    MaxRegister.Next (fun snapshot : PlayerSnapshot => snapshot.revision.toNat)
      (SnapshotStore.register guildId s) (registerEvent guildId l)
      (SnapshotStore.register guildId s') := by
  obtain ⟨earlier, run⟩ := hreached
  obtain ⟨hlabel, hafter⟩ := hstep.eq
  rw [hafter, hlabel]
  exact serve_register run.sound guildId l.1

theorem registerEvent_eq_accepted {snapshot : PlayerSnapshot}
    {l : SnapshotCall × SnapshotReply} (h : registerEvent guildId l = .accepted snapshot) :
    snapshot.guildId = guildId ∧ ∃ ttl, l = (.put snapshot ttl, .written (.ok .stored)) := by
  unfold registerEvent at h
  split at h
  · rename_i stored ttl
    split at h
    · rename_i hguild
      obtain rfl : stored = snapshot := RegisterEvent.accepted.inj h
      exact ⟨hguild, ttl, rfl⟩
    · contradiction
  · split at h <;> contradiction
  · split at h <;> contradiction
  · contradiction

theorem registerEvent_stored (snapshot : PlayerSnapshot) (ttl : ℕ) :
    registerEvent snapshot.guildId (.put snapshot ttl, .written (.ok .stored)) =
      .accepted snapshot :=
  if_pos rfl

/-- The watermark is the revision of a snapshot that was stored. -/
theorem Serves.watermark_stored (run : Serves encodedLength taken store) {guildId : GuildId}
    {revision : ℕ} (hmark : store.watermark guildId = revision) :
    ∃ t ∈ taken, ∃ snapshot ttl, t.label = (.put snapshot ttl, .written (.ok .stored)) ∧
      snapshot.guildId = guildId ∧ snapshot.revision.toNat = revision := by
  obtain ⟨t, ht, snapshot, haccepted, hrank⟩ :=
    MaxRegister.mark_accepted (Serves.register guildId) run rfl hmark
  obtain ⟨hguild, ttl, hlabel⟩ := registerEvent_eq_accepted haccepted
  exact ⟨t, ht, snapshot, ttl, hlabel, hguild, hrank⟩

/-- The revisions of a guild that are stored strictly increase. -/
theorem Serves.stored_increasing (run : Serves encodedLength taken store) :
    taken.Pairwise fun t t' => ∀ snapshot ttl snapshot' ttl',
      t.label = (.put snapshot ttl, .written (.ok .stored)) →
      t'.label = (.put snapshot' ttl', .written (.ok .stored)) →
      snapshot.guildId = snapshot'.guildId →
      snapshot.revision.toNat < snapshot'.revision.toNat := by
  refine List.pairwise_iff_forall_sublist.mpr ?_
  intro t t' hsub snapshot ttl snapshot' ttl' hstored hstored' hguild
  have hincreasing := List.pairwise_iff_forall_sublist.mp
    (MaxRegister.accepted_increasing (Serves.register snapshot.guildId) run) hsub
  apply hincreasing snapshot snapshot'
  · rw [hstored]
    exact registerEvent_stored snapshot ttl
  · rw [hstored', hguild]
    exact registerEvent_stored snapshot' ttl'

/-- What reading a sound store gives is what is in it. -/
theorem Sound.getSnapshot (hsound : store.Sound encodedLength) {guildId : GuildId} :
    store.getSnapshot encodedLength guildId = .ok (store.bodies.get store.now guildId) := by
  unfold SnapshotStore.getSnapshot
  cases hbody : store.bodies.get store.now guildId with
  | none => rfl
  | some snapshot =>
    obtain ⟨expiresAt, hentry, -⟩ := ExpiringMap.get_eq_some.mp hbody
    obtain ⟨hguild, hshape, hlength⟩ := hsound.bodies guildId snapshot expiresAt hentry
    simp [decodeSnapshot, hguild, hshape, Nat.not_lt.mpr hlength, Except.map]

theorem Sound.getSnapshotRevision (hsound : store.Sound encodedLength) (guildId : GuildId) :
    ∃ revision, store.getSnapshotRevision guildId = .ok revision ∧
      store.watermark guildId = match revision with
        | some revision => (revision.toNat : WithBot ℕ)
        | none => ⊥ := by
  cases hcurrent : store.revisions guildId with
  | none => exact ⟨none, getSnapshotRevision_none hcurrent, watermark_none hcurrent⟩
  | some current =>
    obtain ⟨revision, rfl⟩ := hsound.revisions _ _ hcurrent
    exact ⟨some revision, getSnapshotRevision_some hcurrent, watermark_some hcurrent⟩

/-- A put stores exactly what is newer than the watermark, and else changes nothing. -/
theorem Serves.put_reply (run : Serves encodedLength taken store)
    {t : Taken SnapshotStore (SnapshotCall × SnapshotReply)} (ht : t ∈ taken)
    {snapshot : PlayerSnapshot} {ttl : ℕ} {reply : SnapshotWrite}
    (hlabel : t.label = (.put snapshot ttl, .written (.ok reply))) :
    (reply = .stored ↔ t.before.watermark snapshot.guildId < snapshot.revision.toNat) ∧
      (reply = .stored → t.after.watermark snapshot.guildId = snapshot.revision.toNat) ∧
      (reply = .stale → t.after = t.before) := by
  obtain ⟨⟨earlier, runBefore⟩, hstep⟩ := run.taken_next ht
  have hserved : t.before.serve encodedLength t.label.1 = (t.label.2, t.after) := hstep
  rw [hlabel] at hserved
  dsimp only [serve] at hserved
  obtain ⟨hreply, hafter⟩ := Prod.mk.inj hserved
  have hreply := SnapshotReply.written.inj hreply
  rcases putSnapshotIfNewer_cases encodedLength t.before snapshot ttl with
    ⟨error, hput⟩ | ⟨-, -, -, hput⟩
  · rw [hput] at hreply
    contradiction
  · rw [hput] at hreply hafter
    rcases putScript_cases (Serves.sound runBefore) snapshot ttl with
      ⟨hscript, hnewer⟩ | ⟨hscript, hold⟩
    · rw [hscript] at hreply hafter
      obtain rfl : .stored = reply := Except.ok.inj hreply
      refine ⟨iff_of_true rfl hnewer, fun _ => ?_, fun h => by contradiction⟩
      rw [← hafter]
      exact watermark_some (by simp)
    · rw [hscript] at hreply hafter
      obtain rfl : .stale = reply := Except.ok.inj hreply
      refine ⟨iff_of_false (by simp) (not_lt.mpr hold), fun h => by contradiction, fun _ => ?_⟩
      exact hafter.symm

/-- Both reads succeed, and a body that is there carries the watermark's revision. -/
theorem Serves.reads (run : Serves encodedLength taken store) (guildId : GuildId) :
    (∃ revision, store.getSnapshotRevision guildId = .ok revision) ∧
      ∃ body, store.getSnapshot encodedLength guildId = .ok body ∧
        ∀ snapshot, body = some snapshot →
          store.getSnapshotRevision guildId = .ok (some snapshot.revision) := by
  obtain ⟨revision, hrevision, hmark⟩ := run.sound.getSnapshotRevision guildId
  refine ⟨⟨revision, hrevision⟩, _, run.sound.getSnapshot, ?_⟩
  intro snapshot hbody
  have hempty : MaxRegister.Coherent (fun snapshot : PlayerSnapshot => snapshot.revision.toNat)
      (SnapshotStore.register guildId empty) := by
    intro value hvalue
    contradiction
  have hcoherent := MaxRegister.coherent (Serves.register guildId) run hempty snapshot hbody
  rw [show (SnapshotStore.register guildId store).mark = store.watermark guildId from rfl,
    hmark] at hcoherent
  cases revision with
  | none => exact absurd hcoherent.symm (WithBot.coe_ne_bot)
  | some revision =>
    have hsame : revision.toNat = snapshot.revision.toNat := WithBot.coe_inj.mp hcoherent
    rw [hrevision, StateRevision.toNat_injective hsame]

/-- An invalidated guild has no body, and its watermark stays. -/
theorem Serves.invalidated (run : Serves encodedLength taken store)
    {t : Taken SnapshotStore (SnapshotCall × SnapshotReply)} (ht : t ∈ taken) {guildId : GuildId}
    (hlabel : t.label.1 = .invalidate guildId) :
    t.after.getSnapshot encodedLength guildId = .ok none ∧
      t.after.watermark guildId = t.before.watermark guildId := by
  obtain ⟨-, hafter⟩ := (run.taken_next ht).2.eq
  rw [hafter, hlabel]
  refine ⟨?_, watermark_congr t.before rfl⟩
  unfold getSnapshot
  dsimp only [serve, invalidateSnapshot]
  rw [ExpiringMap.get_erase_self]

/-- In every run the store is a max-register of each guild: the watermark never decreases; a put
stores exactly what is newer than it, what is refused leaves the store as it was; a body that is
read carries the watermark's revision; once a guild is invalidated it has no body, and what is
stored later is newer; and the watermark's keys are ordered and read back as revisions. -/
theorem max_register (run : Serves encodedLength taken store) :
    (∀ guildId, ∀ t ∈ taken, t.before.watermark guildId ≤ t.after.watermark guildId ∧
      t.after.watermark guildId ≤ store.watermark guildId) ∧
    (∀ t ∈ taken, ∀ snapshot ttl reply, t.label = (.put snapshot ttl, .written (.ok reply)) →
      (reply = .stored ↔ t.before.watermark snapshot.guildId < snapshot.revision.toNat) ∧
      (reply = .stored → t.after.watermark snapshot.guildId = snapshot.revision.toNat) ∧
      (reply = .stale → t.after = t.before)) ∧
    (∀ guildId, (∃ revision, store.getSnapshotRevision guildId = .ok revision) ∧
      ∃ body, store.getSnapshot encodedLength guildId = .ok body ∧
        ∀ snapshot, body = some snapshot →
          store.getSnapshotRevision guildId = .ok (some snapshot.revision)) ∧
    (∀ t ∈ taken, ∀ guildId, t.label.1 = .invalidate guildId →
      t.after.getSnapshot encodedLength guildId = .ok none ∧
      t.after.watermark guildId = t.before.watermark guildId) ∧
    (taken.Pairwise fun t t' => ∀ snapshot ttl, t.label.1 = .invalidate snapshot.guildId →
      t'.label = (.put snapshot ttl, .written (.ok .stored)) →
      t.before.watermark snapshot.guildId < snapshot.revision.toNat) ∧
    (∀ a b : StateRevision, revisionSortKey a < revisionSortKey b ↔ a.toNat < b.toNat) ∧
    ∀ a : StateRevision, parseRevisionSortKey (revisionSortKey a) = .ok a := by
  refine ⟨?_, fun t ht _ _ _ hlabel => Serves.put_reply run ht hlabel, Serves.reads run,
    fun t ht _ hlabel => Serves.invalidated run ht hlabel, ?_, revisionSortKey_lt_iff,
    parseRevisionSortKey_revisionSortKey⟩
  · intro guildId t ht
    exact MaxRegister.mark_mono (Serves.register guildId) run ht
  · refine List.pairwise_iff_forall_sublist.mpr ?_
    intro t t' hsub snapshot ttl hinvalidate hstored
    have hmem : t ∈ taken := hsub.subset (by simp)
    have hlater := List.pairwise_iff_forall_sublist.mp
      (MaxRegister.accepted_after (Serves.register snapshot.guildId) run) hsub snapshot
    rw [← (Serves.invalidated run hmem hinvalidate).2]
    refine hlater ?_
    rw [hstored]
    exact registerEvent_stored snapshot ttl

/-- The snapshot of a player with nothing to play. -/
def silentSnapshot (revision : StateRevision) : PlayerSnapshot where
  guildId := ⟨.MIN⟩
  voiceChannelId := none
  revision := revision
  state := .disconnected
  currentTrack := none
  queuedTracks := 0
  upcomingTracks := []
  hasPreviousTrack := false
  volume := Volume.DEFAULT
  repeatMode := .off
  shuffleEnabled := false
  hrirPreset := none
  spatialAudioEnabled := false
  observedAt := ⟨0⟩

/-- A late write, an invalidation, and writes across the precision of a double. -/
def lateWrites : List SnapshotCall :=
  [.put (silentSnapshot ⟨9007199254740992⟩) 1000, .put (silentSnapshot ⟨7⟩) 1000,
    .invalidate ⟨.MIN⟩, .put (silentSnapshot ⟨9007199254740992⟩) 1000,
    .put (silentSnapshot ⟨9007199254740993⟩) 1000]

theorem max_register_lateWrites :
    ((record (serve fun _ => 1) empty lateWrites).1.map fun t =>
      registerEvent ⟨1, by decide⟩ t.label) =
        [.accepted (silentSnapshot ⟨9007199254740992⟩), .refused (silentSnapshot ⟨7⟩), .dropped,
          .refused (silentSnapshot ⟨9007199254740992⟩),
          .accepted (silentSnapshot ⟨9007199254740993⟩)] ∧
    (record (serve fun _ => 1) empty lateWrites).1.Pairwise fun t t' => ∀ snapshot ttl,
      t.label.1 = .invalidate snapshot.guildId →
      t'.label = (.put snapshot ttl, .written (.ok .stored)) →
      t.before.watermark snapshot.guildId < snapshot.revision.toNat :=
  ⟨by decide +kernel, (max_register (run_record (serve fun _ => 1) empty lateWrites)).2.2.2.2.1⟩

end SnapshotStore

end PepeAudio
