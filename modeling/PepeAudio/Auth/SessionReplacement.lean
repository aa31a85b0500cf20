import PepeAudio.Auth.SessionCalls
import Mathlib.Data.List.Nodup

/-!
# Replaced and expired sessions stay gone

A session is gone when its record cannot be read or its user's pointer does not
name it. Only a creation with the same hash could undo that, and hashes are new.
A session that is not gone cannot outlive its pointer, which expires with it, nor
its record, which expires when it is idle.
-/
namespace PepeAudio

open StoredSessions

/-! ## Who owns a record -/

/-- The text holds a session of the user that ends no later than the issued one. -/
def RecordOf (issued : SessionData) (text : JsonText) : Prop :=
  ∃ fields, text.value = .object fields ∧
    requiredField "user_id" fields = .ok issued.userId.toJson ∧
    ∀ n, requiredField "expires_at_ms" fields = .ok (.number (.natural n)) →
      n ≤ issued.expiresAtMs.toNat

/-- What a call has got hold of is a later reading of the issued session. -/
structure ReadingOf (issued seen : SessionData) : Prop where
  user : issued.userId = seen.userId
  ends : seen.expiresAtMs.toNat ≤ issued.expiresAtMs.toNat

theorem recordOf_serde (session : SessionData) : RecordOf session session.toJson.serde := by
  refine ⟨session.fields, rfl, ?_, fun n hn => ?_⟩
  · simp [SessionData.fields, requiredField, field]
  · have hfield : requiredField "expires_at_ms" session.fields =
        .ok (.number (.natural session.expiresAtMs.toNat)) := by
      simp [SessionData.fields, requiredField, field]
    rw [hfield] at hn
    exact (JsonNumber.natural.inj (Json.number.inj (Except.ok.inj hn))).ge

/-- The script that refreshes a record does not change whose it is, and does not prolong it. -/
theorem RecordOf.refreshedText {issued : SessionData} {encoded : JsonText}
    (h : RecordOf issued encoded) {fields : List (String × LuaValue)}
    (hfields : decodedFields encoded = some fields) {expires : ℕ}
    (hexpires : expires < 10 ^ 14 → expires ≤ issued.expiresAtMs.toNat) (nowMs : ℕ) :
    RecordOf issued (refreshedText expires nowMs fields) := by
  obtain ⟨held, hheld, huser, -⟩ := h
  refine ⟨_, rfl, ?_, fun n hn => ?_⟩
  · rw [requiredField_setLuaField (by decide), requiredField_setLuaField (by decide)]
    have htable : fields = fieldsToLua held := by
      cases held with
      | nil => simp [requiredField, field] at huser
      | cons entry held =>
        simp only [decodedFields, hheld, Json.toLua] at hfields
        split at hfields
        · split at hfields
          · exact (Option.some.inj hfields).symm
          · contradiction
        · contradiction
    rw [htable]
    exact requiredField_fieldsToLua huser
  · rw [requiredField_setLuaField (by decide)] at hn
    have hnatural := Json.number.inj (requiredField_setLuaField_self hn)
    obtain ⟨rfl, hshort⟩ := natural_of_toFourteenDigits hnatural.symm
    exact hexpires hshort

theorem RecordOf.decodeSession {issued : SessionData} {text : JsonText} (h : RecordOf issued text)
    {session : SessionData} (hdecoded : decodeSession text = .ok session) :
    ReadingOf issued session := by
  obtain ⟨held, hheld, huser, hends⟩ := h
  unfold StoredSessions.decodeSession at hdecoded
  split at hdecoded
  · contradiction
  split at hdecoded
  · contradiction
  rename_i read hread
  split at hdecoded
  · obtain rfl := Except.ok.inj hdecoded
    obtain ⟨fields, hfields, ⟨value, hvalue, hid⟩, -, hexpires⟩ := SessionData.of_fromJson hread
    obtain rfl : held = fields := Json.object.inj (hheld.symm.trans hfields)
    obtain rfl : issued.userId.toJson = value := Except.ok.inj (huser.symm.trans hvalue)
    rw [Snowflake.fromJson_toJson] at hid
    exact ⟨Except.ok.inj hid, hends _ hexpires⟩
  · contradiction

/-! ## Destroying -/

theorem destroySession_records (hash : String) (userId : UserId) (store : StoredSessions) :
    (store.destroySession hash userId).records = store.records.erase hash := by
  unfold destroySession forget
  split <;> rfl

/-- Only the pointer of the user goes, and only if it names the session. -/
theorem destroySession_currentUser {hash : String} {userId other : UserId}
    {store : StoredSessions} {entry : Expiring String} :
    (store.destroySession hash userId).currentUser other = some entry ↔
      store.currentUser other = some entry ∧
        ¬ (other = userId ∧ store.currentUser.get store.now userId = some hash) := by
  unfold destroySession forget
  dsimp only
  split
  · rename_i hnamed
    rw [ExpiringMap.erase_eq_some]
    tauto
  · rename_i hnamed
    tauto

theorem destroySession_now (hash : String) (userId : UserId) (store : StoredSessions) :
    (store.destroySession hash userId).now = store.now := by
  unfold destroySession forget
  split <;> rfl

/-- The session a call has got hold of. -/
def SessionStage.seen : SessionStage → Option SessionData
  | .peeked session => some session
  | .refreshed loaded => some loaded
  | .current session => some session
  | .done (.loaded (.ok (some loaded))) => some loaded
  | _ => none

/-- The script of its load has returned the session to the call. -/
def SessionStage.served : SessionStage → Bool
  | .refreshed _ => true
  | .done (.loaded (.ok (some _))) => true
  | _ => false

@[simp] theorem SessionStage.served_failed (request : SessionRequest) (error : RepositoryError) :
    (SessionStage.done (request.failed error)).served = false := by
  cases request <;> rfl

@[simp] theorem SessionStage.served_absent (request : SessionRequest) :
    (SessionStage.done request.absent).served = false := by
  cases request <;> rfl

@[simp] theorem SessionStage.seen_failed (request : SessionRequest) (error : RepositoryError) :
    (SessionStage.done (request.failed error)).seen = none := by
  cases request <;> rfl

@[simp] theorem SessionStage.seen_absent (request : SessionRequest) :
    (SessionStage.done request.absent).seen = none := by
  cases request <;> rfl

namespace SessionSystem

variable {policy : SessionPolicy} {opaqueHash : String → String} {system system' : SessionSystem}
  {action : SessionAction}

/-! ## One step -/

/-- Everything a step may do. -/
inductive Stepped (policy : SessionPolicy) (opaqueHash : String → String)
    (system : SessionSystem) : SessionAction → SessionSystem → Prop
  | unchanged (action : SessionAction) : Stepped policy opaqueHash system action system
  | passed (elapsed : ℕ) :
      Stepped policy opaqueHash system (.pass elapsed)
        { system with store := { system.store with now := system.store.now + elapsed } }
  | began (request : SessionRequest) :
      Stepped policy opaqueHash system (.begin request)
        { system with calls := system.calls ++ [⟨request, .sent, system.store.now⟩] }
  | created (nowMs : ℕ) (session : SessionData) (tokens : List String) (token : String)
      (records : ExpiringMap String JsonText) (expiresAt : ℕ)
      (hfresh : opaqueHash token ∉ system.issued.map Prod.fst)
      (hlifetime : session.expiresAtMs.toNat ≤
        session.createdAtMs.toNat + policy.absoluteTtlMs)
      (hlive : nowMs < session.expiresAtMs.toNat)
      (hrecord : records (opaqueHash token) = some ⟨session.toJson.serde, expiresAt⟩)
      (hexpiresAt : expiresAt ≤ system.store.now + policy.idleTtlMs)
      (hothers : ∀ other ≠ opaqueHash token, records other =
        if system.store.currentUser.get system.store.now session.userId = some other then none
        else system.store.records other) :
      Stepped policy opaqueHash system (.create nowMs session tokens)
        { system with
          store := { system.store with
            records := records
            currentUser := system.store.currentUser.set session.userId (opaqueHash token)
              (system.store.now + (session.expiresAtMs.toNat - nowMs)) }
          issued := system.issued ++ [(opaqueHash token, session)] }
  | advanced (index nowMs : ℕ) (call : SessionCall) (stage : SessionStage) (store : StoredSessions)
      (hcall : system.calls[index]? = some call)
      (hadvanced : SessionStage.Advanced policy opaqueHash call.request nowMs system.store
        call.stage stage store)
      (hsince : call.since ≤ nowMs) :
      Stepped policy opaqueHash system (.advance index nowMs)
        { system with
          store := store
          calls := system.calls.set index ⟨call.request, stage, system.store.now⟩ }

theorem createAttempts_error {encoded : JsonText} {initialTtl absoluteRemaining : ℕ}
    {userId : UserId} {tokens : List String} {store store' : StoredSessions}
    {error : RepositoryError}
    (h : store.createAttempts opaqueHash encoded initialTtl absoluteRemaining userId tokens =
      (.error error, store')) : store' = store := by
  induction tokens with
  | nil => exact (Prod.mk.inj h).2.symm
  | cons token tokens ih =>
    unfold createAttempts at h
    rcases createSession_eq encoded initialTtl absoluteRemaining userId (opaqueHash token)
        store with
      ⟨-, hfalse⟩ | ⟨-, records, htrue, -⟩
    · rw [hfalse] at h
      exact ih h
    · rw [htrue] at h
      simp at h

theorem create_error {nowMs : ℕ} {session : SessionData} {tokens : List String}
    {store store' : StoredSessions} {error : RepositoryError}
    (h : store.create policy opaqueHash nowMs session tokens = (.error error, store')) :
    store' = store := by
  unfold create at h
  split at h
  · exact (Prod.mk.inj h).2.symm
  split at h
  · exact (Prod.mk.inj h).2.symm
  split at h
  · exact (Prod.mk.inj h).2.symm
  split at h
  · exact (Prod.mk.inj h).2.symm
  · exact createAttempts_error h

theorem stepped_of_step (hstep : step policy opaqueHash system action = system') :
    Stepped policy opaqueHash system action system' := by
  subst hstep
  cases action with
  | pass elapsed => exact .passed elapsed
  | create nowMs session tokens =>
    unfold step
    dsimp only
    split
    · rename_i hready
      split
      · rename_i token store hcreate
        obtain ⟨hvalid, hlive, hlifetime, hmem, hsession⟩ := create_ok hcreate
        rcases createSession_eq session.toJson.serde
          (min policy.idleTtlMs (session.expiresAtMs.toNat - nowMs))
          (session.expiresAtMs.toNat - nowMs) session.userId (opaqueHash token)
          system.store with ⟨-, hfalse⟩ | ⟨-, records, htrue, hrecord, hothers⟩
        · rw [hfalse] at hsession
          simp at hsession
        · rw [htrue] at hsession
          obtain rfl := (Prod.mk.inj hsession).2
          exact .created nowMs session tokens token records _
            (hready.2 token (List.mem_of_mem_take hmem)) hlifetime hlive hrecord (by omega) hothers
      · rename_i error store hcreate
        obtain rfl := create_error hcreate
        exact .unchanged _
    · exact .unchanged _
  | begin request => exact .began request
  | advance index nowMs =>
    unfold step
    dsimp only
    split
    · exact .unchanged _
    · rename_i call hcall
      split
      · rename_i hreading
        exact .advanced index nowMs call _ _ hcall
          (advance_advanced call.request nowMs call.stage system.store) hreading.1
      · exact .unchanged _

/-- The next command of a call leaves everything as it was, or takes the call on. -/
theorem Stepped.taken_on {index nowMs : ℕ} {call done : SessionCall}
    (hstep : Stepped policy opaqueHash system (.advance index nowMs) system')
    (hcall : system.calls[index]? = some call) (hdone : system'.calls[index]? = some done) :
    done = call ∨ ∃ stage store, SessionStage.Advanced policy opaqueHash call.request nowMs
        system.store call.stage stage store ∧ call.since ≤ nowMs ∧
      done = ⟨call.request, stage, system.store.now⟩ ∧
      system' = { system with
        store := store
        calls := system.calls.set index ⟨call.request, stage, system.store.now⟩ } := by
  cases hstep with
  | unchanged =>
    rw [hcall] at hdone
    exact .inl (Option.some.inj hdone).symm
  | advanced _ _ found stage store hfound hadvanced hsince =>
    rw [hcall] at hfound
    obtain rfl := Option.some.inj hfound
    have hlength : index < system.calls.length := (List.getElem?_eq_some_iff.mp hcall).1
    rw [List.getElem?_set_self hlength] at hdone
    exact .inr ⟨stage, store, hadvanced, hsince, (Option.some.inj hdone).symm, rfl⟩

/-! ## Records, pointers and calls -/

/-- Every record and every pointer goes back to a creation, expires in time and belongs to the user
it was created for. So does what a call has got hold of. -/
structure Sound (policy : SessionPolicy) (opaqueHash : String → String)
    (system : SessionSystem) : Prop where
  distinct : (system.issued.map Prod.fst).Nodup
  lifetime : ∀ hash session, (hash, session) ∈ system.issued →
    session.expiresAtMs.toNat ≤ session.createdAtMs.toNat + policy.absoluteTtlMs
  record : ∀ hash text expiresAt, system.store.records hash = some ⟨text, expiresAt⟩ →
    expiresAt ≤ system.store.now + policy.idleTtlMs ∧
      ∃ session, (hash, session) ∈ system.issued ∧ RecordOf session text
  pointer : ∀ userId hash expiresAt, system.store.currentUser userId = some ⟨hash, expiresAt⟩ →
    ∃ session, (hash, session) ∈ system.issued ∧ session.userId = userId
  call : ∀ call ∈ system.calls, ∀ seen, call.stage.seen = some seen →
    ∃ session, (call.request.hash opaqueHash, session) ∈ system.issued ∧ ReadingOf session seen

namespace Sound

/-- A hash stands for one session. -/
theorem unique (h : Sound policy opaqueHash system) {hash : String} {session other : SessionData}
    (hsession : (hash, session) ∈ system.issued) (hother : (hash, other) ∈ system.issued) :
    session = other := by
  have hpairs := List.inj_on_of_nodup_map h.distinct hsession hother rfl
  exact congrArg Prod.snd hpairs

theorem initial (start : ℕ) : Sound policy opaqueHash (initial start) := by
  refine ⟨List.nodup_nil, ?_, ?_, ?_, ?_⟩
  · intro hash session hsession
    simp [SessionSystem.initial] at hsession
  · intro hash text expiresAt hrecord
    simp [SessionSystem.initial, empty] at hrecord
  · intro userId hash expiresAt hpointer
    simp [SessionSystem.initial, empty] at hpointer
  · intro call hcall
    simp [SessionSystem.initial] at hcall

/-- What a peeking call reads belongs to the user the hash was created for. -/
theorem peekByHash (h : Sound policy opaqueHash system) {hash : String} {session : SessionData}
    (hpeek : system.store.peekByHash hash = .ok (some session)) :
    ∃ issued, (hash, issued) ∈ system.issued ∧ ReadingOf issued session := by
  unfold StoredSessions.peekByHash at hpeek
  cases hrecord : system.store.records.get system.store.now hash with
  | none => simp [hrecord, transposed] at hpeek
  | some text =>
    obtain ⟨expiresAt, hentry, -⟩ := ExpiringMap.get_eq_some.mp hrecord
    obtain ⟨-, issued, hissued, howned⟩ := h.record hash text expiresAt hentry
    refine ⟨issued, hissued, ?_⟩
    rw [hrecord, transposed] at hpeek
    cases hdecoded : decodeSession text with
    | error error => simp [hdecoded, Except.map] at hpeek
    | ok decoded =>
      obtain rfl : decoded = session := by simpa [hdecoded, Except.map] using hpeek
      exact howned.decodeSession hdecoded

/-- A call has read no longer lifetime than was issued. -/
theorem read (h : Sound policy opaqueHash system) {hash : String} {issued seen : SessionData}
    (hissued : (hash, issued) ∈ system.issued)
    (hread : ∃ session, (hash, session) ∈ system.issued ∧ ReadingOf session seen) :
    seen.expiresAtMs.toNat ≤ issued.expiresAtMs.toNat := by
  obtain ⟨session, hsession, hreading⟩ := hread
  rw [h.unique hissued hsession]
  exact hreading.ends

/-- What a call has got hold of after a command belongs to the user the hash was created for. -/
theorem seen (h : Sound policy opaqueHash system) {call : SessionCall} (hcall : call ∈ system.calls)
    {nowMs : ℕ} {stage : SessionStage} {store : StoredSessions}
    (hadvanced : SessionStage.Advanced policy opaqueHash call.request nowMs system.store call.stage
      stage store) {seen : SessionData} (hseen : stage.seen = some seen) :
    ∃ session, (call.request.hash opaqueHash, session) ∈ system.issued ∧
      ReadingOf session seen := by
  have hbefore := h.call call hcall
  generalize call.stage = before at hadvanced hbefore
  cases hadvanced with
  | ended reply => exact hbefore seen hseen
  | failed _ error => simp at hseen
  | missing => simp at hseen
  | peeked session hpeek =>
    obtain rfl : session = seen := by simpa [SessionStage.seen] using hseen
    exact h.peekByHash hpeek
  | superseded session => simp at hseen
  | named session => exact hbefore seen hseen
  | unreturned session => simp [SessionStage.seen] at hseen
  | expired session => simp [SessionStage.seen] at hseen
  | refreshed session _ encoded fields expires expiresAt hrecord _ hfields _ hexpires _ hstage =>
    obtain ⟨entryExpiresAt, hentry, -⟩ := ExpiringMap.get_eq_some.mp hrecord
    obtain ⟨-, issued, hissued, howned⟩ := h.record _ _ _ hentry
    refine ⟨issued, hissued, ?_⟩
    have hends := h.read hissued (hbefore session rfl)
    have hwritten := howned.refreshedText hfields
      (fun hshort => (hexpires hshort).trans hends) (toDouble nowMs)
    rcases hstage with ⟨loaded, hdecoded, rfl | rfl⟩ | ⟨error, rfl⟩
    · obtain rfl : loaded = seen := by simpa [SessionStage.seen] using hseen
      exact hwritten.decodeSession hdecoded
    · obtain rfl : loaded = seen := by simpa [SessionStage.seen] using hseen
      exact hwritten.decodeSession hdecoded
    · simp at hseen
  | returned loaded => exact hbefore seen hseen
  | withheld loaded => simp [SessionStage.seen] at hseen
  | destroyed session => simp [SessionStage.seen] at hseen

/-- A command leaves records and pointers that go back to creations. -/
theorem stored (h : Sound policy opaqueHash system) {call : SessionCall}
    (hcall : call ∈ system.calls) {nowMs : ℕ} {stage : SessionStage} {store : StoredSessions}
    (hadvanced : SessionStage.Advanced policy opaqueHash call.request nowMs system.store
      call.stage stage store) :
    (∀ hash text expiresAt, store.records hash = some ⟨text, expiresAt⟩ →
      expiresAt ≤ store.now + policy.idleTtlMs ∧
        ∃ session, (hash, session) ∈ system.issued ∧ RecordOf session text) ∧
    ∀ userId hash expiresAt, store.currentUser userId = some ⟨hash, expiresAt⟩ →
      system.store.currentUser userId = some ⟨hash, expiresAt⟩ := by
  have hdestroyed : ∀ target userId,
      (∀ hash text expiresAt,
        (system.store.destroySession target userId).records hash = some ⟨text, expiresAt⟩ →
          expiresAt ≤ (system.store.destroySession target userId).now + policy.idleTtlMs ∧
            ∃ session, (hash, session) ∈ system.issued ∧ RecordOf session text) ∧
      ∀ other hash expiresAt,
        (system.store.destroySession target userId).currentUser other = some ⟨hash, expiresAt⟩ →
          system.store.currentUser other = some ⟨hash, expiresAt⟩ := by
    intro target userId
    constructor
    · intro hash text expiresAt hrecord
      rw [destroySession_records] at hrecord
      rw [destroySession_now]
      exact h.record hash text expiresAt (ExpiringMap.erase_eq_some.mp hrecord).2
    · intro other hash expiresAt hpointer
      exact (destroySession_currentUser.mp hpointer).1
  have hbefore := h.call call hcall
  generalize call.stage = before at hadvanced hbefore
  cases hadvanced with
  | expired session => exact hdestroyed _ _
  | destroyed session => exact hdestroyed _ _
  | refreshed session _ encoded fields expires expiresAt hrecord _ hfields _ hexpires hsoon _ =>
    refine ⟨?_, fun userId hash expiresAt hpointer => hpointer⟩
    intro hash text expiresAt' hentry
    rcases ExpiringMap.set_eq_some.mp hentry with ⟨hhash, hnew⟩ | ⟨-, hold⟩
    · obtain ⟨rfl, rfl⟩ := Expiring.mk.injEq .. ▸ hnew
      obtain ⟨entryExpiresAt, hheld, -⟩ := ExpiringMap.get_eq_some.mp hrecord
      obtain ⟨-, issued, hissued, howned⟩ := h.record _ _ _ hheld
      have hends := h.read hissued (hbefore session rfl)
      rw [hhash]
      exact ⟨hsoon, issued, hissued, howned.refreshedText hfields
        (fun hshort => (hexpires hshort).trans hends) (toDouble nowMs)⟩
    · exact h.record hash text expiresAt' hold
  | ended | failed | missing | peeked | superseded | named | unreturned | returned | withheld =>
    exact ⟨h.record, fun userId hash expiresAt hpointer => hpointer⟩

theorem stepped (h : Sound policy opaqueHash system)
    (hstep : Stepped policy opaqueHash system action system') :
    Sound policy opaqueHash system' := by
  cases hstep with
  | unchanged => exact h
  | passed elapsed =>
    refine ⟨h.distinct, h.lifetime, ?_, h.pointer, h.call⟩
    intro hash text expiresAt hrecord
    obtain ⟨hsoon, howner⟩ := h.record hash text expiresAt hrecord
    exact ⟨by dsimp only; omega, howner⟩
  | began request =>
    refine ⟨h.distinct, h.lifetime, h.record, h.pointer, ?_⟩
    intro call hcall seen hseen
    rcases List.mem_append.mp hcall with hcall | hcall
    · exact h.call call hcall seen hseen
    · obtain rfl := List.mem_singleton.mp hcall
      simp [SessionStage.seen] at hseen
  | created nowMs session tokens token records expiresAt hfresh hlifetime _ hrecord hsoon
      hothers =>
    have hnew : (opaqueHash token, session) ∈ system.issued ++ [(opaqueHash token, session)] :=
      List.mem_append_right _ List.mem_cons_self
    refine ⟨?_, ?_, ?_, ?_, ?_⟩
    · rw [List.map_append, List.map_singleton]
      exact h.distinct.append (List.nodup_singleton _) (by simpa using hfresh)
    · intro hash other hother
      rcases List.mem_append.mp hother with hother | hother
      · exact h.lifetime hash other hother
      · obtain ⟨-, rfl⟩ := Prod.mk.inj (List.mem_singleton.mp hother)
        exact hlifetime
    · intro hash text expiresAt' hentry
      dsimp only at hentry ⊢
      by_cases hhash : hash = opaqueHash token
      · subst hhash
        rw [hrecord] at hentry
        obtain ⟨rfl, rfl⟩ := Expiring.mk.inj (Option.some.inj hentry)
        exact ⟨hsoon, session, hnew, recordOf_serde session⟩
      · rw [hothers hash hhash] at hentry
        split at hentry
        · contradiction
        · obtain ⟨hle, issued, hissued, howned⟩ := h.record hash text expiresAt' hentry
          exact ⟨hle, issued, List.mem_append_left _ hissued, howned⟩
    · intro userId hash expiresAt' hentry
      rcases ExpiringMap.set_eq_some.mp hentry with ⟨rfl, hset⟩ | ⟨-, hold⟩
      · obtain ⟨rfl, rfl⟩ := Expiring.mk.injEq .. ▸ hset
        exact ⟨session, hnew, rfl⟩
      · obtain ⟨issued, hissued, howner⟩ := h.pointer userId hash expiresAt' hold
        exact ⟨issued, List.mem_append_left _ hissued, howner⟩
    · intro call hcall seen hseen
      obtain ⟨issued, hissued, howner⟩ := h.call call hcall seen hseen
      exact ⟨issued, List.mem_append_left _ hissued, howner⟩
  | advanced index nowMs call stage store hcall hadvanced =>
    obtain ⟨hrecords, hpointers⟩ := h.stored (List.mem_of_getElem? hcall) hadvanced
    refine ⟨h.distinct, h.lifetime, hrecords, ?_, ?_⟩
    · intro userId hash expiresAt hpointer
      exact h.pointer userId hash expiresAt (hpointers userId hash expiresAt hpointer)
    · intro other hother seen hseen
      rcases List.mem_or_eq_of_mem_set hother with hother | rfl
      · exact h.call other hother seen hseen
      · exact h.seen (List.mem_of_getElem? hcall) hadvanced hseen

end Sound

theorem Runs.sound {start : ℕ} {taken : List (Taken SessionSystem SessionAction)}
    (run : Runs policy opaqueHash (initial start) taken system) :
    Sound policy opaqueHash system := by
  refine run.invariant (Sound.initial start) fun s action s' h hstep => ?_
  exact h.stepped (stepped_of_step hstep)

/-! ## Gone sessions -/

/-- The session under the hash was created, and it can no longer be loaded. -/
def Gone (hash : String) (system : SessionSystem) : Prop :=
  (∃ session, (hash, session) ∈ system.issued) ∧
    (system.store.records.get system.store.now hash = none ∨
      ∀ session, (hash, session) ∈ system.issued →
        system.store.currentUser.get system.store.now session.userId ≠ some hash)

/-- None of the chosen calls has got the session under the hash. -/
def Unserved (chosen : ℕ → Prop) (hash : String) (opaqueHash : String → String)
    (system : SessionSystem) : Prop :=
  ∀ index call, chosen index → system.calls[index]? = some call →
    call.request.hash opaqueHash = hash → call.stage.served = false

/-- What is created is new, so a hash that was created stands for the session it stood for. -/
theorem Stepped.issued (hstep : Stepped policy opaqueHash system action system') {hash : String}
    {session other : SessionData} (hsession : (hash, session) ∈ system.issued)
    (hother : (hash, other) ∈ system'.issued) : (hash, other) ∈ system.issued := by
  cases hstep with
  | created _ _ _ token _ _ hfresh =>
    rcases List.mem_append.mp hother with hother | hother
    · exact hother
    · obtain ⟨rfl, -⟩ := Prod.mk.inj (List.mem_singleton.mp hother)
      exact absurd (List.mem_map_of_mem (f := Prod.fst) hsession) hfresh
  | unchanged | passed | began | advanced => exact hother

theorem Stepped.still_issued (hstep : Stepped policy opaqueHash system action system')
    {entry : String × SessionData} (h : entry ∈ system.issued) : entry ∈ system'.issued := by
  cases hstep with
  | created => exact List.mem_append_left _ h
  | unchanged | passed | began | advanced => exact h

namespace Gone

variable {hash : String}

/-- A load needs the record and the pointer of the user the hash was created for. -/
theorem not_current (h : Gone hash system) (hsound : Sound policy opaqueHash system)
    {call : SessionCall} (hcall : call ∈ system.calls)
    (hhash : call.request.hash opaqueHash = hash) {session : SessionData}
    (hseen : call.stage.seen = some session) {encoded : JsonText}
    (hrecord : system.store.records.get system.store.now hash = some encoded) :
    system.store.currentUser.get system.store.now session.userId ≠ some hash := by
  obtain ⟨issued, hissued, howner⟩ := hsound.call call hcall session hseen
  rw [hhash] at hissued
  rcases h.2 with hnone | hpointer
  · rw [hnone] at hrecord
    contradiction
  · rw [← howner.user]
    exact hpointer issued hissued

theorem stepped (h : Gone hash system) (hsound : Sound policy opaqueHash system)
    (hstep : Stepped policy opaqueHash system action system') : Gone hash system' := by
  obtain ⟨⟨session, hsession⟩, hgone⟩ := id h
  refine ⟨⟨session, hstep.still_issued hsession⟩, ?_⟩
  have hissued : ∀ other, (hash, other) ∈ system'.issued → (hash, other) ∈ system.issued :=
    fun other hother => hstep.issued hsession hother
  cases hstep with
  | unchanged => exact hgone
  | began request => exact hgone
  | passed elapsed =>
    rcases hgone with hrecord | hpointer
    · rcases ExpiringMap.get_later (m := system.store.records)
        (Nat.le_add_right system.store.now elapsed) hash with heq | hnone
      · exact .inl (heq.trans hrecord)
      · exact .inl hnone
    · refine .inr fun other hother => ?_
      rcases ExpiringMap.get_later (m := system.store.currentUser)
        (Nat.le_add_right system.store.now elapsed) other.userId with heq | hnone
      · exact fun hsame => hpointer other hother (heq.symm.trans hsame)
      · exact fun hsame => by simp [hnone] at hsame
  | created nowMs made tokens token records expiresAt hfresh _ _ hrecord hsoon hothers =>
    have hne : hash ≠ opaqueHash token := by
      rintro rfl
      exact hfresh (List.mem_map_of_mem (f := Prod.fst) hsession)
    rcases hgone with hnone | hpointer
    · left
      dsimp only
      have hentry := hothers hash hne
      unfold ExpiringMap.get
      rw [hentry]
      split_ifs
      · rfl
      · exact hnone
    · refine .inr fun other hother => ?_
      dsimp only
      by_cases huser : other.userId = made.userId
      · intro hsame
        obtain ⟨_, hset, -⟩ := ExpiringMap.get_eq_some.mp hsame
        rw [huser, ExpiringMap.set_self] at hset
        exact hne (congrArg Expiring.value (Option.some.inj hset)).symm
      · rw [ExpiringMap.get_set_of_ne huser]
        exact hpointer other (hissued other hother)
  | advanced index nowMs call stage store hcall hadvanced =>
    have hmem := List.mem_of_getElem? hcall
    have hdestroyed : ∀ target userId,
        (system.store.destroySession target userId).records.get
            (system.store.destroySession target userId).now hash = none ∨
          ∀ other, (hash, other) ∈ system.issued →
            (system.store.destroySession target userId).currentUser.get
              (system.store.destroySession target userId).now other.userId ≠ some hash := by
      intro target userId
      rw [destroySession_now, destroySession_records]
      rcases hgone with hnone | hpointer
      · left
        by_cases htarget : hash = target
        · rw [htarget]
          exact ExpiringMap.get_erase_self
        · rw [ExpiringMap.get_erase_of_ne htarget]
          exact hnone
      · refine .inr fun other hother hsame => hpointer other hother ?_
        obtain ⟨expiresAt, hentry, hlive⟩ := ExpiringMap.get_eq_some.mp hsame
        exact ExpiringMap.get_eq_some.mpr
          ⟨expiresAt, (destroySession_currentUser.mp hentry).1, hlive⟩
    have hcurrent : ∀ seen encoded, call.stage.seen = some seen →
        call.request.hash opaqueHash = hash →
        system.store.records.get system.store.now hash = some encoded →
        system.store.currentUser.get system.store.now seen.userId ≠ some hash :=
      fun seen encoded hseen hhash => h.not_current hsound hmem hhash hseen
    generalize call.stage = before at hadvanced hcurrent
    cases hadvanced with
    | expired seen => exact hdestroyed _ _
    | destroyed seen => exact hdestroyed _ _
    | refreshed seen _ encoded fields expires expiresAt hrecord hpointer =>
      have hne : hash ≠ call.request.hash opaqueHash := by
        rintro rfl
        exact hcurrent seen encoded rfl rfl hrecord hpointer
      rcases hgone with hnone | hpointer'
      · left
        dsimp only
        rw [ExpiringMap.get_set_of_ne hne]
        exact hnone
      · exact .inr hpointer'
    | ended | failed | missing | peeked | superseded | named | unreturned | returned | withheld =>
      exact hgone

/-- Who has not got a gone session does not get it any more. -/
theorem unserved (h : Gone hash system) (hsound : Sound policy opaqueHash system)
    (hstep : Stepped policy opaqueHash system action system') {chosen : ℕ → Prop}
    (hunserved : Unserved chosen hash opaqueHash system) :
    Unserved chosen hash opaqueHash system' := by
  cases hstep with
  | unchanged => exact hunserved
  | passed elapsed => exact hunserved
  | created => exact hunserved
  | began request =>
    intro index call hchosen hcall hhash
    by_cases hold : index < system.calls.length
    · rw [List.getElem?_append_left hold] at hcall
      exact hunserved index call hchosen hcall hhash
    · rw [List.getElem?_append_right (by omega)] at hcall
      obtain rfl := List.mem_singleton.mp (List.mem_of_getElem? hcall)
      rfl
  | advanced index nowMs call stage store hcall hadvanced =>
    intro other next hchosen hother hhash
    by_cases hindex : other = index
    · subst hindex
      have hlength : other < system.calls.length := (List.getElem?_eq_some_iff.mp hcall).1
      rw [List.getElem?_set_self hlength] at hother
      obtain rfl := Option.some.inj hother
      dsimp only at hhash ⊢
      have hbefore := hunserved other call hchosen hcall hhash
      have hcurrent : ∀ seen encoded, call.stage.seen = some seen →
          system.store.records.get system.store.now hash = some encoded →
          system.store.currentUser.get system.store.now seen.userId ≠ some hash :=
        fun seen encoded hseen => h.not_current hsound (List.mem_of_getElem? hcall) hhash hseen
      generalize call.stage = before at hadvanced hbefore hcurrent
      cases hadvanced with
      | ended reply => exact hbefore
      | failed _ error => exact SessionStage.served_failed _ _
      | missing => exact SessionStage.served_absent _
      | superseded => exact SessionStage.served_absent _
      | refreshed seen _ encoded fields expires expiresAt hrecord hpointer =>
        rw [hhash] at hrecord hpointer
        exact absurd hpointer (hcurrent seen encoded rfl hrecord)
      | returned found => contradiction
      | peeked | named | unreturned | expired | withheld | destroyed => rfl
    · rw [List.getElem?_set_ne (Ne.symm hindex)] at hother
      exact hunserved other next hchosen hother hhash

end Gone

/-- Whoever has got the session under the hash had got it before. A call that starts later never
does. -/
def NoLongerServed (hash : String) (opaqueHash : String → String)
    (before after : SessionSystem) : Prop :=
  ∀ (index : ℕ) (call : SessionCall), after.calls[index]? = some call →
    call.request.hash opaqueHash = hash → call.stage.served = true →
      ∃ earlier : SessionCall, before.calls[index]? = some earlier ∧ earlier.stage.served = true

/-- A session that is gone is no longer served. -/
theorem Gone.noLongerServed {hash : String} {later : List (Taken SessionSystem SessionAction)}
    (h : Gone hash system) (hsound : Sound policy opaqueHash system)
    (run : Runs policy opaqueHash system later system') :
    NoLongerServed hash opaqueHash system system' := by
  have hkept : Sound policy opaqueHash system' ∧ Gone hash system' ∧
      Unserved (fun index => ∀ earlier, system.calls[index]? = some earlier →
        earlier.stage.served = false) hash opaqueHash system' := by
    refine run.invariant (I := fun s => Sound policy opaqueHash s ∧ Gone hash s ∧
      Unserved (fun index => ∀ earlier, system.calls[index]? = some earlier →
        earlier.stage.served = false) hash opaqueHash s) ⟨hsound, h, ?_⟩ ?_
    · intro index call hchosen hcall hhash
      exact hchosen call hcall
    · rintro s action s' ⟨hsound, hgone, hunserved⟩ hstep
      have hstepped := stepped_of_step hstep
      exact ⟨hsound.stepped hstepped, hgone.stepped hsound hstepped,
        hgone.unserved hsound hstepped hunserved⟩
  intro index call hcall hhash hserved
  by_contra hnever
  have hunserved := hkept.2.2 index call (fun earlier hearlier => by
    by_contra hheld
    exact hnever ⟨earlier, hearlier, by simpa using hheld⟩) hcall hhash
  rw [hunserved] at hserved
  contradiction

/-! ## How a session goes -/

section Ways

variable {hash : String} {index nowMs : ℕ}

/-- A creation for the same user leaves the older session gone. -/
theorem gone_of_created (hsound : Sound policy opaqueHash system) {session old : SessionData}
    {tokens : List String}
    (hstep : Stepped policy opaqueHash system (.create nowMs session tokens) system')
    (hissued : system'.issued ≠ system.issued) (hold : (hash, old) ∈ system.issued)
    (huser : old.userId = session.userId) : Gone hash system' := by
  refine ⟨⟨old, hstep.still_issued hold⟩, .inr fun other hother => ?_⟩
  have hother' := hstep.issued hold hother
  obtain rfl := hsound.unique hold hother'
  cases hstep with
  | unchanged => exact absurd rfl hissued
  | created _ _ _ token _ _ hfresh =>
    intro hsame
    obtain ⟨_, hset, -⟩ := ExpiringMap.get_eq_some.mp hsame
    dsimp only at hset
    rw [huser, ExpiringMap.set_self] at hset
    obtain rfl : opaqueHash token = hash := congrArg Expiring.value (Option.some.inj hset)
    exact hfresh (List.mem_map_of_mem (f := Prod.fst) hold)

/-- A destruction that has completed leaves its session gone. -/
theorem gone_of_destroyed (hsound : Sound policy opaqueHash system) {call done : SessionCall}
    (hcall : system.calls[index]? = some call)
    (hopen : ∀ reply, call.stage ≠ .done reply)
    (hstep : Stepped policy opaqueHash system (.advance index nowMs) system')
    (hdone : system'.calls[index]? = some done)
    (hreply : done.stage = .done (.destroyed (.ok ())))
    {session : SessionData} (hissued : (call.request.hash opaqueHash, session) ∈ system.issued) :
    Gone (call.request.hash opaqueHash) system' := by
  refine ⟨⟨session, hstep.still_issued hissued⟩, ?_⟩
  rcases hstep.taken_on hcall hdone with rfl | ⟨stage, store, hadvanced, -, rfl, rfl⟩
  · exact absurd hreply (hopen _)
  · dsimp only at hreply ⊢
    have hseen := hsound.call call (List.mem_of_getElem? hcall)
    generalize call.stage = before at hadvanced hopen hseen
    generalize hresult : SessionStage.done (.destroyed (.ok ())) = result at hreply
    subst hreply
    cases hadvanced with
    | ended reply => exact absurd rfl (hopen reply)
    | missing hrecord => exact .inl hrecord
    | superseded peeked hpointer =>
      obtain ⟨issued, hfirst, howner⟩ := hseen peeked rfl
      refine .inr fun other hother => ?_
      rw [hsound.unique hother hfirst, howner.user]
      exact hpointer
    | destroyed peeked =>
      left
      rw [destroySession_records, destroySession_now]
      exact ExpiringMap.get_erase_self
    | failed _ error =>
      cases hrequest : call.request <;> simp [hrequest, SessionRequest.failed] at hresult
    | unreturned | expired | returned | withheld => simp at hresult
    | refreshed _ _ _ _ _ _ _ _ _ _ _ _ hstage =>
      rcases hstage with ⟨loaded, -, h | h⟩ | ⟨error, h⟩
      · simp [← hresult] at h
      · simp [← hresult] at h
      · rw [← hresult] at h
        cases hrequest : call.request <;> simp [hrequest, SessionRequest.failed] at h
    | peeked | named => simp at hresult

/-- The step has written the record under a hash: a creation or the script of a load did. -/
def Written (hash : String) (t : Taken SessionSystem SessionAction) : Prop :=
  t.after.store.records hash ≠ none ∧ t.after.store.records hash ≠ t.before.store.records hash

/-- A session that nothing has written for the idle lifetime is gone. -/
theorem gone_of_idle (hsound : Sound policy opaqueHash system)
    {window : List (Taken SessionSystem SessionAction)}
    (run : Runs policy opaqueHash system window system')
    (hunwritten : ∀ t ∈ window, ¬ Written hash t)
    (hidle : system.store.now + policy.idleTtlMs ≤ system'.store.now)
    {session : SessionData} (hissued : (hash, session) ∈ system.issued) : Gone hash system' := by
  have hkept : (hash, session) ∈ system'.issued ∧
      ∀ entry, system'.store.records hash = some entry →
        entry.expiresAt ≤ system.store.now + policy.idleTtlMs := by
    refine run.invariant_of (C := fun t => ¬ Written hash t)
      (I := fun _ s => (hash, session) ∈ s.issued ∧ ∀ entry, s.store.records hash = some entry →
        entry.expiresAt ≤ system.store.now + policy.idleTtlMs) ⟨hissued, ?_⟩ ?_ hunwritten
    · intro entry hentry
      exact (hsound.record hash entry.value entry.expiresAt hentry).1
    · rintro taken s action s' - ⟨hissued, hentries⟩ hstep hunwritten
      refine ⟨(stepped_of_step hstep).still_issued hissued, fun entry hentry => ?_⟩
      by_cases hsame : s'.store.records hash = s.store.records hash
      · exact hentries entry (hsame.symm.trans hentry)
      · exact absurd ⟨by simp [hentry], hsame⟩ hunwritten
  refine ⟨⟨session, hkept.1⟩, .inl ?_⟩
  cases hrecord : system'.store.records hash with
  | none => simp [ExpiringMap.get, hrecord]
  | some entry =>
    have hle := hkept.2 entry hrecord
    simp only [ExpiringMap.get, hrecord]
    rw [if_neg (by omega)]

/-! ## What is returned and what is kept -/

/-- The script returns a session only at a reading before its absolute lifetime is over. -/
theorem served_in_time (hsound : Sound policy opaqueHash system) {call done : SessionCall}
    (hcall : system.calls[index]? = some call) (hunserved : call.stage.served = false)
    (hstep : Stepped policy opaqueHash system (.advance index nowMs) system')
    (hdone : system'.calls[index]? = some done) (hserved : done.stage.served = true) :
    call.since ≤ nowMs ∧ ∃ session, (call.request.hash opaqueHash, session) ∈ system.issued ∧
      nowMs < session.createdAtMs.toNat + policy.absoluteTtlMs := by
  rcases hstep.taken_on hcall hdone with rfl | ⟨stage, store, hadvanced, hsince, rfl, -⟩
  · simp [hunserved] at hserved
  · dsimp only at hserved
    refine ⟨hsince, ?_⟩
    have hseen := hsound.call call (List.mem_of_getElem? hcall)
    generalize call.stage = before at hadvanced hunserved hseen
    cases hadvanced with
    | refreshed session _ encoded fields expires _ _ _ _ hlive hexpires _ hstage =>
      obtain ⟨issued, hissued, hreading⟩ := hseen session rfl
      have hlifetime := hsound.lifetime _ _ hissued
      have hends := hreading.ends
      refine ⟨issued, hissued, ?_⟩
      rcases hstage with ⟨loaded, hdecoded, -⟩ | ⟨error, rfl⟩
      · -- what can be decoded was written with at most fourteen digits
        have hshort := (fields_of_refreshedText hdecoded).2
        have hend := hexpires hshort
        have hnow : nowMs < 10 ^ 14 := toDouble_lt_iff.mp (by omega)
        rw [toDouble_of_lt (by omega)] at hlive
        omega
      · simp at hserved
    | ended => simp [hunserved] at hserved
    | returned => simp [SessionStage.served] at hunserved
    | failed | missing | superseded => simp at hserved
    | peeked | named | unreturned | expired | withheld | destroyed =>
      simp [SessionStage.served] at hserved

/-- No pointer outlives its session by more than the time a creation has taken. -/
def Lagging (lag : ℕ) (system : SessionSystem) : Prop :=
  ∀ userId hash expiresAt, system.store.currentUser userId = some ⟨hash, expiresAt⟩ →
    ∀ session, (hash, session) ∈ system.issued → expiresAt ≤ session.expiresAtMs.toNat + lag

/-- The script of a creation runs at most some time after its reading of the clock. -/
def CreatedWithin (lag : ℕ) (t : Taken SessionSystem SessionAction) : Prop :=
  match t.label with
  | .create nowMs _ _ => t.before.store.now ≤ nowMs + lag
  | _ => True

theorem Stepped.lagging {lag : ℕ} (hsound : Sound policy opaqueHash system)
    (hstep : Stepped policy opaqueHash system action system')
    (hsoon : CreatedWithin lag ⟨system, action, system'⟩) (h : Lagging lag system) :
    Lagging lag system' := by
  intro userId hash expiresAt hpointer session hsession
  have hold : system.store.currentUser userId = some ⟨hash, expiresAt⟩ →
      expiresAt ≤ session.expiresAtMs.toNat + lag := by
    intro hbefore
    obtain ⟨issued, hissued, -⟩ := hsound.pointer userId hash expiresAt hbefore
    exact h userId hash expiresAt hbefore session (hstep.issued hissued hsession)
  cases hstep with
  | unchanged | passed | began => exact hold hpointer
  | created nowMs made tokens token records newExpiresAt hfresh hlifetime hlive =>
    rcases ExpiringMap.set_eq_some.mp hpointer with ⟨-, hset⟩ | ⟨-, hbefore⟩
    · obtain ⟨rfl, rfl⟩ := Expiring.mk.injEq .. ▸ hset
      obtain rfl : session = made := by
        rcases List.mem_append.mp hsession with hearlier | hnew
        · exact absurd (List.mem_map_of_mem (f := Prod.fst) hearlier) hfresh
        · exact (Prod.mk.inj (List.mem_singleton.mp hnew)).2
      have hreading : system.store.now ≤ nowMs + lag := hsoon
      omega
    · exact hold hbefore
  | advanced index nowMs call stage store hcall hadvanced =>
    exact hold ((hsound.stored (List.mem_of_getElem? hcall) hadvanced).2 _ _ _ hpointer)

theorem Runs.lagging {start lag : ℕ} {taken : List (Taken SessionSystem SessionAction)}
    (run : Runs policy opaqueHash (initial start) taken system)
    (hsoon : ∀ t ∈ taken, CreatedWithin lag t) : Lagging lag system := by
  refine (run.invariant_of (C := CreatedWithin lag)
    (I := fun _ s => Sound policy opaqueHash s ∧ Lagging lag s) ⟨Sound.initial start, ?_⟩ ?_
    hsoon).2
  · intro userId hash expiresAt hpointer
    simp [SessionSystem.initial, empty] at hpointer
  · rintro taken s action s' - ⟨hsound, hlagging⟩ hstep hsoon
    have hstepped := stepped_of_step hstep
    exact ⟨hsound.stepped hstepped, hstepped.lagging hsound hsoon hlagging⟩

/-- A call that ends with a session was served it, and the pointer still names it. -/
theorem returned_in_time {lag : ℕ} (hsound : Sound policy opaqueHash system)
    (hlagging : Lagging lag system) {call done : SessionCall}
    (hcall : system.calls[index]? = some call)
    (hopen : ∀ reply, call.stage ≠ .done reply)
    (hstep : Stepped policy opaqueHash system (.advance index nowMs) system')
    (hdone : system'.calls[index]? = some done) {loaded : SessionData}
    (hreply : done.stage = .done (.loaded (.ok (some loaded)))) :
    ∃ session, (call.request.hash opaqueHash, session) ∈ system.issued ∧
      session.userId = loaded.userId ∧
      system'.store.now < session.createdAtMs.toNat + policy.absoluteTtlMs + lag := by
  rcases hstep.taken_on hcall hdone with rfl | ⟨stage, store, hadvanced, -, rfl, rfl⟩
  · exact absurd hreply (hopen _)
  · dsimp only at hreply ⊢
    have hseen : stage.seen = some loaded := by
      rw [hreply]
      rfl
    obtain ⟨owned, howned, hreading⟩ := hsound.seen (List.mem_of_getElem? hcall) hadvanced hseen
    have hlifetime := hsound.lifetime _ _ howned
    -- the pointer that named the session is the one that bounds the time
    have hlive : ∀ userId, system.store.currentUser.get system.store.now userId =
        some (call.request.hash opaqueHash) →
        system.store.now < owned.createdAtMs.toNat + policy.absoluteTtlMs + lag := by
      intro userId hpointer
      obtain ⟨expiresAt, hentry, hlive⟩ := ExpiringMap.get_eq_some.mp hpointer
      have hends := hlagging _ _ _ hentry owned howned
      omega
    refine ⟨owned, howned, hreading.user, ?_⟩
    generalize call.stage = before at hadvanced hopen
    generalize hresult : SessionStage.done (.loaded (.ok (some loaded))) = result at hreply
    subst hreply
    cases hadvanced with
    | ended reply => exact absurd rfl (hopen reply)
    | refreshed _ _ _ _ _ _ _ hpointer => exact hlive _ hpointer
    | returned _ hpointer => exact hlive _ hpointer
    | failed _ error =>
      cases hrequest : call.request <;> simp [hrequest, SessionRequest.failed] at hresult
    | missing | superseded =>
      cases hrequest : call.request <;> simp [hrequest, SessionRequest.absent] at hresult
    | peeked | named | unreturned | expired | withheld | destroyed => simp at hresult

/-- The step is a command of a call for the hash, or a creation for the user. -/
def Concerns (hash : String) (userId : UserId) (opaqueHash : String → String)
    (t : Taken SessionSystem SessionAction) : Prop :=
  match t.label with
  | .advance index _ =>
    ∃ call, t.before.calls[index]? = some call ∧ call.request.hash opaqueHash = hash
  | .create _ session _ => session.userId = userId
  | _ => False

/-- What does not concern a user's session, such as the end of an older one, leaves its record and
its pointer as they are. -/
theorem Stepped.keeps (hsound : Sound policy opaqueHash system)
    (hstep : Stepped policy opaqueHash system action system') {userId : UserId} {expiresAt : ℕ}
    (hpointer : system.store.currentUser userId = some ⟨hash, expiresAt⟩)
    (hother : ¬ Concerns hash userId opaqueHash ⟨system, action, system'⟩) :
    system'.store.currentUser userId = some ⟨hash, expiresAt⟩ ∧
      system'.store.records hash = system.store.records hash := by
  obtain ⟨session, hissued, howner⟩ := hsound.pointer userId hash expiresAt hpointer
  cases hstep with
  | unchanged | passed | began => exact ⟨hpointer, rfl⟩
  | created nowMs made tokens token records newExpiresAt hfresh _ _ hrecord hsoon hothers =>
    have huser : userId ≠ made.userId := fun heq => hother heq.symm
    have hne : hash ≠ opaqueHash token := by
      rintro rfl
      exact hfresh (List.mem_map_of_mem (f := Prod.fst) hissued)
    refine ⟨(ExpiringMap.set_of_ne huser).trans hpointer, ?_⟩
    dsimp only
    rw [hothers hash hne]
    split
    · rename_i hnamed
      obtain ⟨_, hentry, -⟩ := ExpiringMap.get_eq_some.mp hnamed
      obtain ⟨other, hother, hmade⟩ := hsound.pointer _ _ _ hentry
      rw [hsound.unique hissued hother] at howner
      exact absurd (howner.symm.trans hmade) huser
    · rfl
  | advanced index nowMs call stage store hcall hadvanced =>
    have hne : hash ≠ call.request.hash opaqueHash := fun heq => hother ⟨call, hcall, heq.symm⟩
    have hdestroyed : ∀ seen,
        (system.store.destroySession (call.request.hash opaqueHash) seen).currentUser userId =
            some ⟨hash, expiresAt⟩ ∧
          (system.store.destroySession (call.request.hash opaqueHash) seen).records hash =
            system.store.records hash := by
      intro seen
      rw [destroySession_records, destroySession_currentUser, ExpiringMap.erase_of_ne hne]
      refine ⟨⟨hpointer, ?_⟩, rfl⟩
      rintro ⟨rfl, hnamed⟩
      obtain ⟨_, hentry, -⟩ := ExpiringMap.get_eq_some.mp hnamed
      rw [hpointer] at hentry
      exact hne (congrArg Expiring.value (Option.some.inj hentry))
    generalize call.stage = before at hadvanced
    cases hadvanced with
    | expired seen => exact hdestroyed seen.userId
    | destroyed seen => exact hdestroyed seen.userId
    | refreshed => exact ⟨hpointer, ExpiringMap.set_of_ne hne⟩
    | ended | failed | missing | peeked | superseded | named | unreturned | returned | withheld =>
      exact ⟨hpointer, rfl⟩

theorem kept_of_run (hsound : Sound policy opaqueHash system)
    {later : List (Taken SessionSystem SessionAction)}
    (run : Runs policy opaqueHash system later system') {userId : UserId} {expiresAt : ℕ}
    (hpointer : system.store.currentUser userId = some ⟨hash, expiresAt⟩)
    (hother : ∀ t ∈ later, ¬ Concerns hash userId opaqueHash t) :
    system'.store.currentUser userId = some ⟨hash, expiresAt⟩ ∧
      system'.store.records hash = system.store.records hash := by
  have hkept : Sound policy opaqueHash system' ∧
      system'.store.currentUser userId = some ⟨hash, expiresAt⟩ ∧
      system'.store.records hash = system.store.records hash := by
    refine run.invariant_of (C := fun t => ¬ Concerns hash userId opaqueHash t)
      (I := fun _ s => Sound policy opaqueHash s ∧
        s.store.currentUser userId = some ⟨hash, expiresAt⟩ ∧
        s.store.records hash = system.store.records hash) ⟨hsound, hpointer, rfl⟩ ?_ hother
    rintro taken s action s' - ⟨hsound, hpointer, hrecord⟩ hstep hother
    have hstepped := stepped_of_step hstep
    obtain ⟨hpointer', hrecord'⟩ := hstepped.keeps hsound hpointer hother
    exact ⟨hsound.stepped hstepped, hpointer', hrecord'.trans hrecord⟩
  exact hkept.2

end Ways

/-! ## Replacement and expiry -/

/-- From every state that can be reached: after a newer creation for the user or a completed
destruction of its token, and after an idle lifetime without a refresh, a session is no longer
served. No load is served a session at a reading of the clock at which its absolute lifetime is
over, and none returns it later than that by the time a creation takes from its reading to its
script. What concerns other sessions, older ones of the user included, keeps the session the
user's pointer names. -/
theorem session_replacement_safe {start : ℕ} {taken : List (Taken SessionSystem SessionAction)}
    (run : Runs policy opaqueHash (initial start) taken system) :
    (∀ nowMs session tokens created later last hash old,
      step policy opaqueHash system (.create nowMs session tokens) = created →
      created.issued ≠ system.issued → (hash, old) ∈ system.issued →
      old.userId = session.userId → Runs policy opaqueHash created later last →
      NoLongerServed hash opaqueHash created last) ∧
    (∀ index nowMs call done destroyed later last session, system.calls[index]? = some call →
      (∀ reply, call.stage ≠ .done reply) →
      step policy opaqueHash system (.advance index nowMs) = destroyed →
      destroyed.calls[index]? = some done → done.stage = .done (.destroyed (.ok ())) →
      (call.request.hash opaqueHash, session) ∈ system.issued →
      Runs policy opaqueHash destroyed later last →
      NoLongerServed (call.request.hash opaqueHash) opaqueHash destroyed last) ∧
    (∀ index nowMs call done served, system.calls[index]? = some call →
      call.stage.served = false →
      step policy opaqueHash system (.advance index nowMs) = served →
      served.calls[index]? = some done → done.stage.served = true →
      call.since ≤ nowMs ∧ ∃ session, (call.request.hash opaqueHash, session) ∈ system.issued ∧
        nowMs < session.createdAtMs.toNat + policy.absoluteTtlMs) ∧
    (∀ lag, (∀ t ∈ taken, CreatedWithin lag t) →
      ∀ index nowMs call done returned loaded, system.calls[index]? = some call →
      (∀ reply, call.stage ≠ .done reply) →
      step policy opaqueHash system (.advance index nowMs) = returned →
      returned.calls[index]? = some done → done.stage = .done (.loaded (.ok (some loaded))) →
      ∃ session, (call.request.hash opaqueHash, session) ∈ system.issued ∧
        session.userId = loaded.userId ∧
        returned.store.now < session.createdAtMs.toNat + policy.absoluteTtlMs + lag) ∧
    (∀ window idle later last hash session, Runs policy opaqueHash system window idle →
      (∀ t ∈ window, ¬ Written hash t) →
      system.store.now + policy.idleTtlMs ≤ idle.store.now → (hash, session) ∈ system.issued →
      Runs policy opaqueHash idle later last → NoLongerServed hash opaqueHash idle last) ∧
    (∀ later last hash userId expiresAt,
      system.store.currentUser userId = some ⟨hash, expiresAt⟩ →
      Runs policy opaqueHash system later last →
      (∀ t ∈ later, ¬ Concerns hash userId opaqueHash t) →
      last.store.currentUser userId = some ⟨hash, expiresAt⟩ ∧
        last.store.records hash = system.store.records hash) := by
  have hsound := Runs.sound run
  refine ⟨?_, ?_, ?_, ?_, ?_, ?_⟩
  · intro nowMs session tokens created later last hash old hstep hissued hold huser hlater
    have hstepped := stepped_of_step hstep
    exact (gone_of_created hsound hstepped hissued hold huser).noLongerServed
      (hsound.stepped hstepped) hlater
  · intro index nowMs call done destroyed later last session hcall hopen hstep hdone hreply
      hissued hlater
    have hstepped := stepped_of_step hstep
    exact (gone_of_destroyed hsound hcall hopen hstepped hdone hreply hissued).noLongerServed
      (hsound.stepped hstepped) hlater
  · intro index nowMs call done served hcall hunserved hstep hdone hserved
    exact served_in_time hsound hcall hunserved (stepped_of_step hstep) hdone hserved
  · intro lag hsoon index nowMs call done returned loaded hcall hopen hstep hdone hreply
    exact returned_in_time hsound (Runs.lagging run hsoon) hcall hopen (stepped_of_step hstep)
      hdone hreply
  · intro window idle later last hash session hwindow hunwritten hidle hissued hlater
    have hsound' : Sound policy opaqueHash idle :=
      hwindow.invariant hsound fun s action s' h hstep => h.stepped (stepped_of_step hstep)
    exact (gone_of_idle hsound hwindow hunwritten hidle hissued).noLongerServed hsound' hlater
  · intro later last hash userId expiresAt hpointer hlater hother
    exact kept_of_run hsound hlater hpointer hother

/-! ## A second login -/

def secondToken : String := "BBBBBBBBBBBBBBBBBBBBBBBBBBBBBBBBBBBBBBBBBBA"

def secondLogin : SessionData :=
  { oneGuild with createdAtMs := 2000, expiresAtMs := 1802000, lastSeenAtMs := 2000 }

/-- A load of the first session has read the record. -/
def firstLoading : List (Taken SessionSystem SessionAction) × SessionSystem :=
  replay (step .default sessionHash) (initial 1000)
    [.create 1000 oneGuild [sessionToken], .begin (.load sessionToken), .pass 1000,
      .advance 0 2000]

/-- The user signs in again. -/
def secondCreated : SessionSystem :=
  step .default sessionHash firstLoading.2 (.create 2000 secondLogin [secondToken])

/-- The load goes on, and both tokens are presented again. -/
def bothLoaded : List (Taken SessionSystem SessionAction) × SessionSystem :=
  replay (step .default sessionHash) secondCreated
    [.advance 0 2000, .begin (.load sessionToken), .advance 1 2000, .begin (.load secondToken),
      .advance 2 2000, .advance 2 2000, .advance 2 2000]

/-- The first session is not served any more, and the second one is. -/
theorem session_replacement_safe_secondLogin :
    firstLoading.2.calls.map SessionCall.stage = [.peeked oneGuild] ∧
      NoLongerServed (sessionHash sessionToken) sessionHash secondCreated bothLoaded.2 ∧
      bothLoaded.2.calls.map SessionCall.stage = [.done (.loaded (.ok none)),
        .done (.loaded (.ok none)),
        .done (.loaded (.ok (some (secondLogin.refreshed .default 2000))))] := by
  have run : Runs .default sessionHash (initial 1000) firstLoading.1 firstLoading.2 :=
    run_replay _ _ _
  have hissued : secondCreated.issued.map Prod.fst ≠ firstLoading.2.issued.map Prod.fst := by
    decide +kernel
  have hfirst : firstLoading.2.issued = [(sessionHash sessionToken, oneGuild)] := by
    decide +kernel
  refine ⟨by decide +kernel, ?_, by decide +kernel⟩
  refine (session_replacement_safe run).1 2000 secondLogin [secondToken] secondCreated _ _ _
    oneGuild rfl (fun hsame => hissued (congrArg _ hsame)) ?_ rfl (run_replay _ _ _)
  rw [hfirst]
  exact List.mem_cons_self

/-- The script of the creation runs half a second after its reading of the clock, and a load reads
the clock ten milliseconds before the session expires and the pointer hundred milliseconds later. -/
def lateTrace : List (Taken SessionSystem SessionAction) × SessionSystem :=
  replay (step .default sessionHash) (initial 1000)
    [.pass 500, .create 1000 oneGuild [sessionToken], .pass 1799490, .begin (.load sessionToken),
      .advance 0 1800990, .advance 0 1800990, .pass 100, .advance 0 1801090]

/-- The load returns the session when its absolute lifetime is over. -/
theorem session_returned_late :
    (∃ taken, Runs .default sessionHash (initial 1000) taken lateTrace.2) ∧
      lateTrace.2.issued = [(sessionHash sessionToken, oneGuild)] ∧
      lateTrace.2.calls = [⟨.load sessionToken,
        .done (.loaded (.ok (some (oneGuild.refreshed .default 1800990)))), 1801090⟩] ∧
      oneGuild.createdAtMs.toNat + SessionPolicy.default.absoluteTtlMs ≤
        lateTrace.2.store.now := by
  exact ⟨⟨_, run_replay _ _ _⟩, by decide +kernel, by decide +kernel, by decide +kernel⟩

end SessionSystem

end PepeAudio
