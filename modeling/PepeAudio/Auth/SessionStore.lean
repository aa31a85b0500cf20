import PepeAudio.Auth.Session
import PepeAudio.Lib.ExpiringMap
import PepeAudio.Lib.LuaJson

/-!
# The session store

A session lives under the hash of its token. A second key names the current
session of a user, so that a new login replaces the old one. A script that loads
a session writes its lifetime back into the record. `create`, `load`, `loadBound`
and `destroy` are the calls of the source when nothing comes between their
commands; `Stage.advance` takes one command at a time.
-/
namespace PepeAudio

/-- What the server holds of the sessions. -/
structure StoredSessions where
  /-- The server's clock in milliseconds. -/
  now : ℕ
  /-- The records, by the hash of the token. -/
  records : ExpiringMap String JsonText
  /-- The hash of the current session of a user. -/
  currentUser : ExpiringMap UserId String

namespace StoredSessions

/-- A server without sessions. -/
def empty (now : ℕ) : StoredSessions := ⟨now, fun _ => none, fun _ => none⟩

def createSession (encoded : JsonText) (initialTtl absoluteRemaining : ℕ) (userId : UserId)
    (hash : String) (store : StoredSessions) : Bool × StoredSessions :=
  match store.records.get store.now hash with
  | some _ => (false, store)
  | none =>
    let records := store.records.set hash encoded (store.now + initialTtl)
    let currentUser := store.currentUser.set userId hash (store.now + absoluteRemaining)
    match store.currentUser.get store.now userId with
    | some previous =>
      if previous ≠ hash then
        (true, { store with records := records.erase previous, currentUser })
      else (true, { store with records, currentUser })
    | none => (true, { store with records, currentUser })

/-- Remove the user's pointer if it names the session. -/
def forget (userId : UserId) (hash : String) (store : StoredSessions) : StoredSessions :=
  if store.currentUser.get store.now userId = some hash then
    { store with currentUser := store.currentUser.erase userId }
  else store

/-- The fields of a decoded session, of the schema the script knows. -/
def decodedFields (encoded : JsonText) : Option (List (String × LuaValue)) :=
  match encoded.value.toLua with
  | .record fields =>
    match luaField "schema_version" fields with
    | some (.number version) => if version = 1 then some fields else none
    | _ => none
  | _ => none

/-- The record with its lifetime written back. -/
def refreshedText (effectiveExpires now : ℕ) (fields : List (String × LuaValue)) : JsonText :=
  (LuaValue.record (setLuaField "last_seen_at_ms" (.number now)
    (setLuaField "expires_at_ms" (.number effectiveExpires) fields))).cjson

def loadAndRefreshSession (hash : String) (userId : UserId) (nowMs idleTtlMs policyExpires : ℕ)
    (store : StoredSessions) : Except RepositoryError (Option JsonText) × StoredSessions :=
  match store.records.get store.now hash with
  | none => (.ok none, store)
  | some encoded =>
    if store.currentUser.get store.now userId ≠ some hash then (.ok none, store)
    else match decodedFields encoded with
      | none => (.error .unavailable, store)
      | some fields =>
        match (luaField "expires_at_ms" fields).bind LuaValue.tonumber with
        | none => (.error .unavailable, store)
        | some expires =>
          let now := toDouble nowMs
          let effectiveExpires := min expires (toDouble policyExpires)
          if effectiveExpires ≤ now then
            (.ok none, { store with records := store.records.erase hash }.forget userId hash)
          else
            let ttl := min (effectiveExpires - now) (toDouble idleTtlMs)
            let refreshed := refreshedText effectiveExpires now fields
            (.ok (some refreshed),
              { store with records := store.records.set hash refreshed (store.now + ttl) })

def destroySession (hash : String) (userId : UserId) (store : StoredSessions) : StoredSessions :=
  { store with records := store.records.erase hash }.forget userId hash

def validateOpaqueToken (token : String) : Except RepositoryError Unit :=
  if isTokenShape token then .ok () else .error .invalidToken

def validateHash (hash : String) : Except RepositoryError Unit :=
  (validateOpaqueToken hash).mapError fun _ => .corrupt

def decodeSession (encoded : JsonText) : Except RepositoryError SessionData :=
  if MAX_SESSION_JSON_BYTES < encoded.bytes then .error .corrupt
  else match SessionData.fromJson encoded.value with
    | .error _ => .error .corrupt
    | .ok session => if session.isValidShape then .ok session else .error .corrupt

/-- The lifetime of the current deployment, which may be shorter than the session's own. -/
def effectiveSessionExpiry (session : SessionData) (absoluteTtlMs : ℕ) :
    Except RepositoryError ℕ :=
  if UInt64.size ≤ session.createdAtMs.toNat + absoluteTtlMs then .error .corrupt
  else .ok (min session.expiresAtMs.toNat (session.createdAtMs.toNat + absoluteTtlMs))

/-- Decode the text of a reply, if there is one. -/
def transposed : Option JsonText → Except RepositoryError (Option SessionData)
  | none => .ok none
  | some encoded => (decodeSession encoded).map some

def peekByHash (hash : String) (store : StoredSessions) :
    Except RepositoryError (Option SessionData) :=
  transposed (store.records.get store.now hash)

variable (policy : SessionPolicy) (opaqueHash : String → String)

def CREATE_ATTEMPTS : ℕ := 3

/-- Try one random token after the other. -/
def createAttempts (encoded : JsonText) (initialTtl absoluteRemaining : ℕ) (userId : UserId) :
    List String → StoredSessions → Except RepositoryError String × StoredSessions
  | [], store => (.error .collision, store)
  | token :: tokens, store =>
    match store.createSession encoded initialTtl absoluteRemaining userId (opaqueHash token) with
    | (true, store) => (.ok token, store)
    | (false, store) => createAttempts encoded initialTtl absoluteRemaining userId tokens store

/-- Create a session at a reading of the clock; the scripts run at the server's time. -/
def create (nowMs : ℕ) (session : SessionData) (tokens : List String) (store : StoredSessions) :
    Except RepositoryError String × StoredSessions :=
  if !session.isValidShape then (.error .corrupt, store)
  else match effectiveSessionExpiry session policy.absoluteTtlMs with
    | .error error => (.error error, store)
    | .ok expiry =>
      if expiry ≠ session.expiresAtMs.toNat then (.error .corrupt, store)
      else if session.expiresAtMs.toNat ≤ nowMs then (.error .corrupt, store)
      else
        let absoluteRemaining := session.expiresAtMs.toNat - nowMs
        createAttempts opaqueHash session.toJson.serde (min policy.idleTtlMs absoluteRemaining)
          absoluteRemaining session.userId (tokens.take CREATE_ATTEMPTS) store

/-- Load the session under a hash at a reading of the clock. -/
def loadByHash (nowMs : ℕ) (hash : String) (expectedUser : Option UserId)
    (store : StoredSessions) : Except RepositoryError (Option SessionData) × StoredSessions :=
  match store.peekByHash hash with
  | .error error => (.error error, store)
  | .ok none => (.ok none, store)
  | .ok (some peeked) =>
    if expectedUser.any (· ≠ peeked.userId) then (.error .corrupt, store)
    else match effectiveSessionExpiry peeked policy.absoluteTtlMs with
      | .error error => (.error error, store)
      | .ok effectiveExpiry =>
        match store.loadAndRefreshSession hash peeked.userId nowMs policy.idleTtlMs
            effectiveExpiry with
        | (.error error, store) => (.error error, store)
        | (.ok encoded, store) => (transposed encoded, store)

/-- A session is returned if it is still the user's current one. -/
def currentOnly (hash : String) (loaded : SessionData) (store : StoredSessions) :
    Option SessionData :=
  if store.currentUser.get store.now loaded.userId = some hash then some loaded else none

def load (nowMs : ℕ) (opaqueToken : String) (store : StoredSessions) :
    Except RepositoryError (Option SessionData) × StoredSessions :=
  match validateOpaqueToken opaqueToken with
  | .error error => (.error error, store)
  | .ok () =>
    let hash := opaqueHash opaqueToken
    match store.loadByHash policy nowMs hash none with
    | (.error error, store) => (.error error, store)
    | (.ok none, store) => (.ok none, store)
    | (.ok (some loaded), store) => (.ok (store.currentOnly hash loaded), store)

def loadBound (nowMs : ℕ) (userId : UserId) (sessionFingerprint : String)
    (store : StoredSessions) : Except RepositoryError (Option SessionData) × StoredSessions :=
  match validateHash sessionFingerprint with
  | .error error => (.error error, store)
  | .ok () => store.loadByHash policy nowMs sessionFingerprint (some userId)

def destroy (opaqueToken : String) (store : StoredSessions) :
    Except RepositoryError Unit × StoredSessions :=
  match validateOpaqueToken opaqueToken with
  | .error error => (.error error, store)
  | .ok () =>
    let hash := opaqueHash opaqueToken
    match store.peekByHash hash with
    | .error error => (.error error, store)
    | .ok none => (.ok (), store)
    | .ok (some session) =>
      if store.currentUser.get store.now session.userId ≠ some hash then (.ok (), store)
      else (.ok (), store.destroySession hash session.userId)

variable {policy : SessionPolicy} {opaqueHash : String → String} {session loaded : SessionData}
  {encoded : JsonText} {initialTtl absoluteRemaining nowMs idleTtlMs policyExpires : ℕ}
  {userId : UserId} {token hash : String} {tokens : List String} {store stored : StoredSessions}

/-- A hash that is taken changes nothing. A free one holds the text from now on, and it is the
one the user's pointer names. -/
theorem createSession_eq (encoded : JsonText) (initialTtl absoluteRemaining : ℕ) (userId : UserId)
    (hash : String) (store : StoredSessions) :
    (store.records.get store.now hash ≠ none ∧
      store.createSession encoded initialTtl absoluteRemaining userId hash = (false, store)) ∨
    (store.records.get store.now hash = none ∧ ∃ records,
      store.createSession encoded initialTtl absoluteRemaining userId hash =
        (true, { store with
          records := records
          currentUser := store.currentUser.set userId hash (store.now + absoluteRemaining) }) ∧
      records hash = some ⟨encoded, store.now + initialTtl⟩ ∧
      ∀ other ≠ hash, records other =
        if store.currentUser.get store.now userId = some other then none
        else store.records other) := by
  unfold createSession
  cases hrecord : store.records.get store.now hash with
  | some taken => exact .inl ⟨by simp, rfl⟩
  | none =>
    refine .inr ⟨rfl, ?_⟩
    cases hpointer : store.currentUser.get store.now userId with
    | none =>
      refine ⟨_, rfl, ExpiringMap.set_self, fun other hother => ?_⟩
      rw [if_neg (by simp), ExpiringMap.set_of_ne hother]
    | some previous =>
      by_cases hprevious : previous = hash
      · subst hprevious
        simp only [ne_eq, not_true_eq_false, if_false]
        refine ⟨_, rfl, ExpiringMap.set_self, fun other hother => ?_⟩
        have hne : ¬ (some previous = some other) := fun heq => hother (Option.some.inj heq).symm
        rw [if_neg hne, ExpiringMap.set_of_ne hother]
      · simp only [ne_eq, hprevious, not_false_eq_true, if_true]
        refine ⟨_, rfl, ?_, ?_⟩
        · rw [ExpiringMap.erase_of_ne (Ne.symm hprevious), ExpiringMap.set_self]
        · intro other hother
          by_cases hother' : previous = other
          · subst hother'
            simp [ExpiringMap.erase]
          · rw [ExpiringMap.erase_of_ne (Ne.symm hother'), ExpiringMap.set_of_ne hother,
              if_neg (by simpa using hother')]

/-- One of the attempts succeeds on the store as the call found it. -/
theorem createAttempts_ok
    (h : store.createAttempts opaqueHash encoded initialTtl absoluteRemaining userId tokens =
      (.ok token, stored)) :
    token ∈ tokens ∧
      store.createSession encoded initialTtl absoluteRemaining userId (opaqueHash token) =
        (true, stored) := by
  induction tokens with
  | nil => simp [createAttempts] at h
  | cons first tokens ih =>
    unfold createAttempts at h
    rcases createSession_eq encoded initialTtl absoluteRemaining userId (opaqueHash first)
        store with
      ⟨-, hfalse⟩ | ⟨-, records, htrue, -⟩
    · rw [hfalse] at h
      obtain ⟨hmem, hcreate⟩ := ih h
      exact ⟨List.mem_cons_of_mem _ hmem, hcreate⟩
    · rw [htrue] at h
      obtain ⟨htoken, hstored⟩ := Prod.mk.inj h
      obtain rfl := Except.ok.inj htoken
      exact ⟨List.mem_cons_self, htrue.trans (congrArg _ hstored)⟩

/-- What a creation has checked, and the script it ran. -/
theorem create_ok
    (h : store.create policy opaqueHash nowMs session tokens = (.ok token, stored)) :
    session.Valid ∧ nowMs < session.expiresAtMs.toNat ∧
      session.expiresAtMs.toNat ≤ session.createdAtMs.toNat + policy.absoluteTtlMs ∧
      token ∈ tokens.take CREATE_ATTEMPTS ∧
      store.createSession session.toJson.serde
        (min policy.idleTtlMs (session.expiresAtMs.toNat - nowMs))
        (session.expiresAtMs.toNat - nowMs) session.userId (opaqueHash token) =
          (true, stored) := by
  unfold create at h
  split at h
  · simp at h
  rename_i hshape
  unfold effectiveSessionExpiry at h
  split at h
  · rename_i hexpiry
    split_ifs at hexpiry
    simp at h
  rename_i expiry hexpiry
  split_ifs at hexpiry
  obtain rfl := Except.ok.inj hexpiry
  split at h
  · simp at h
  rename_i hexpires
  split at h
  · simp at h
  obtain ⟨hmem, hcreate⟩ := createAttempts_ok h
  exact ⟨SessionData.isValidShape_iff.mp (by simpa using hshape), by omega, by omega, hmem, hcreate⟩

/-- The script leaves the store as it was, removes what has expired as a destruction does, or
returns the text it writes. -/
theorem loadAndRefreshSession_cases (hash : String) (userId : UserId)
    (nowMs idleTtlMs policyExpires : ℕ) (store : StoredSessions) :
    (∃ reply, (∀ text, reply ≠ .ok (some text)) ∧
      store.loadAndRefreshSession hash userId nowMs idleTtlMs policyExpires = (reply, store)) ∨
    store.loadAndRefreshSession hash userId nowMs idleTtlMs policyExpires =
      (.ok none, store.destroySession hash userId) ∨
    ∃ encoded fields expires, store.records.get store.now hash = some encoded ∧
      store.currentUser.get store.now userId = some hash ∧ decodedFields encoded = some fields ∧
      (luaField "expires_at_ms" fields).bind LuaValue.tonumber = some expires ∧
      toDouble nowMs < min expires (toDouble policyExpires) ∧
      store.loadAndRefreshSession hash userId nowMs idleTtlMs policyExpires =
        (.ok (some (refreshedText (min expires (toDouble policyExpires)) (toDouble nowMs) fields)),
          { store with
            records := store.records.set hash
              (refreshedText (min expires (toDouble policyExpires)) (toDouble nowMs) fields)
              (store.now + min (min expires (toDouble policyExpires) - toDouble nowMs)
                (toDouble idleTtlMs)) }) := by
  unfold loadAndRefreshSession
  cases hrecord : store.records.get store.now hash with
  | none => exact .inl ⟨_, by simp, rfl⟩
  | some encoded =>
    dsimp only
    by_cases hpointer : store.currentUser.get store.now userId = some hash
    · rw [if_neg (by simpa using hpointer)]
      cases hfields : decodedFields encoded with
      | none => exact .inl ⟨_, by simp, rfl⟩
      | some fields =>
        cases hexpires : (luaField "expires_at_ms" fields).bind LuaValue.tonumber with
        | none =>
          simp only [hexpires]
          exact .inl ⟨_, by simp, rfl⟩
        | some expires =>
          simp only [hexpires]
          by_cases hover : min expires (toDouble policyExpires) ≤ toDouble nowMs
          · rw [if_pos hover]
            exact .inr (.inl rfl)
          · rw [if_neg hover]
            exact .inr (.inr ⟨encoded, fields, expires, rfl, hpointer, hfields, hexpires,
              not_le.mp hover, rfl⟩)
    · rw [if_pos hpointer]
      exact .inl ⟨_, by simp, rfl⟩

/-- A load by a hash that returns a session decoded it from what the script returned. -/
theorem loadByHash_some {expectedUser : Option UserId}
    (h : (store.loadByHash policy nowMs hash expectedUser).1 = .ok (some loaded)) :
    ∃ peeked expiry text, store.peekByHash hash = .ok (some peeked) ∧
      effectiveSessionExpiry peeked policy.absoluteTtlMs = .ok expiry ∧
      (store.loadAndRefreshSession hash peeked.userId nowMs policy.idleTtlMs expiry).1 =
        .ok (some text) ∧ decodeSession text = .ok loaded := by
  unfold loadByHash at h
  split at h
  · contradiction
  · simp at h
  rename_i peeked hpeek
  split at h
  · contradiction
  split at h
  · contradiction
  rename_i expiry hexpiry
  split at h
  · contradiction
  rename_i reply store' hscript
  cases reply with
  | none => simp [transposed] at h
  | some text =>
    refine ⟨peeked, expiry, text, hpeek, hexpiry, by rw [hscript], ?_⟩
    cases hdecoded : decodeSession text with
    | error error => simp [transposed, hdecoded, Except.map] at h
    | ok decoded => simpa [transposed, hdecoded, Except.map] using h

end StoredSessions

end PepeAudio
