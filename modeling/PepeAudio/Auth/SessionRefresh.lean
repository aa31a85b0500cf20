import PepeAudio.Auth.SessionStore

/-!
# What refreshing keeps of a session

A load decodes the record, and a script writes it back with a new lifetime. As
long as the script's JSON keeps the shape of the record, the next load finds the
same session again. It does not keep an empty list of guilds, nor times of more
than fourteen digits.
-/
namespace PepeAudio

open StoredSessions

theorem atMostDoubles_cjson : AtMostDoubles cjsonEscaped := by
  intro c hc
  simp only [isControl, Bool.or_eq_false_iff, Bool.and_eq_false_iff,
    decide_eq_false_iff_not] at hc
  exact cjsonEscaped_le (by omega) (by omega)

/-- The session as a load under a policy returns it. -/
def SessionData.refreshed (policy : SessionPolicy) (nowMs : ℕ) (session : SessionData) :
    SessionData :=
  { session with
    expiresAtMs := .ofNat (min session.expiresAtMs.toNat
      (session.createdAtMs.toNat + policy.absoluteTtlMs))
    lastSeenAtMs := .ofNat nowMs }

namespace SessionData

variable {policy : SessionPolicy} {nowMs : ℕ} {session : SessionData}

theorem refreshed_expires (policy : SessionPolicy) (nowMs : ℕ) (session : SessionData) :
    (session.refreshed policy nowMs).expiresAtMs.toNat =
    min session.expiresAtMs.toNat (session.createdAtMs.toNat + policy.absoluteTtlMs) := by
  have hlt := session.expiresAtMs.toNat_lt
  exact UInt64.toNat_ofNat_of_lt' (by simp only [UInt64.size]; omega)

theorem refreshed_lastSeen (policy : SessionPolicy) (h : nowMs < session.expiresAtMs.toNat) :
    (session.refreshed policy nowMs).lastSeenAtMs.toNat = nowMs := by
  have hlt := session.expiresAtMs.toNat_lt
  exact UInt64.toNat_ofNat_of_lt' (by simp only [UInt64.size]; omega)

theorem Valid.refreshed (h : session.Valid) (hcreated : session.createdAtMs.toNat ≤ nowMs)
    (hlive : nowMs < (session.refreshed policy nowMs).expiresAtMs.toNat) :
    (session.refreshed policy nowMs).Valid := by
  have hexpires := refreshed_expires policy nowMs session
  have hseen := refreshed_lastSeen policy (by omega : nowMs < session.expiresAtMs.toNat)
  refine ⟨h.schema, h.csrf, h.guilds_le, h.profile, h.distinct, h.guilds, ?_, ?_⟩
  · rw [hseen]
    exact hcreated
  · rw [hseen]
    exact hlive

/-- The script writes back the fields of the refreshed session. -/
theorem setLuaField_toLua {expires : ℕ}
    (hexpires : expires = (session.refreshed policy nowMs).expiresAtMs.toNat)
    (hshort : expires < 10 ^ 14) (hlive : nowMs < expires) :
    LuaValue.record (setLuaField "last_seen_at_ms" (.number nowMs)
        (setLuaField "expires_at_ms" (.number expires) (fieldsToLua session.fields))) =
      (session.refreshed policy nowMs).toJson.toLua := by
  have hseen : (session.refreshed policy nowMs).lastSeenAtMs.toNat = nowMs := by
    refine refreshed_lastSeen policy ?_
    rw [hexpires, refreshed_expires] at hlive
    omega
  have hdouble : toDouble (session.refreshed policy nowMs).expiresAtMs.toNat = expires := by
    rw [← hexpires]
    exact toDouble_of_lt (by omega)
  have hnow : toDouble (session.refreshed policy nowMs).lastSeenAtMs.toNat = nowMs := by
    rw [hseen]
    exact toDouble_of_lt (by omega)
  simp only [toJson, fields, Json.toLua, fieldsToLua, JsonNumber.toLua, hdouble, hnow]
  rfl

theorem plain_guilds (guilds : List GuildSummary) :
    PlainItems (guilds.map GuildSummary.toJson) := by
  induction guilds with
  | nil => trivial
  | cons guild guilds ih =>
    refine ⟨?_, ih⟩
    have hicon : (optionalText guild.icon).Plain := by
      cases guild.icon with
      | none => trivial
      | some icon => trivial
    exact ⟨trivial, trivial, hicon, trivial, trivial, trivial⟩

theorem Valid.plain (h : session.Valid) (hguilds : session.guilds ≠ [])
    (hexpires : session.expiresAtMs.toNat < 10 ^ 14) : session.toJson.Plain := by
  have hseen := h.seen
  have hlive := h.live
  have hschema : session.schemaVersion.toNat = 1 := by
    rw [h.schema]
    rfl
  have hprofile : (session.profile.elim Json.null UserProfile.toJson).Plain := by
    cases session.profile with
    | none => trivial
    | some profile =>
      have havatar : (optionalText profile.avatar).Plain := by
        cases profile.avatar with
        | none => trivial
        | some avatar => trivial
      exact ⟨trivial, trivial, havatar, trivial⟩
  have hitems : (Json.array (session.guilds.map GuildSummary.toJson)).Plain :=
    ⟨by simpa using hguilds, plain_guilds session.guilds⟩
  refine ⟨?_, trivial, hprofile, trivial, hitems, ?_, ?_, ?_, trivial⟩ <;>
    simp only [Json.Plain] <;> omega

theorem Valid.decodeSession (h : session.Valid) {bytes : ℕ}
    (hbytes : bytes ≤ MAX_SESSION_JSON_BYTES) :
    decodeSession ⟨session.toJson, bytes⟩ = .ok session := by
  unfold StoredSessions.decodeSession
  rw [if_neg (by dsimp only; omega)]
  simp [fromJson_toJson, isValidShape_iff.mpr h]

theorem Valid.decodedFields (h : session.Valid) (bytes : ℕ) :
    decodedFields ⟨session.toJson, bytes⟩ = some (fieldsToLua session.fields) ∧
      luaField "expires_at_ms" (fieldsToLua session.fields) =
        some (.number (toDouble session.expiresAtMs.toNat)) := by
  constructor
  · have hversion : toDouble session.schemaVersion.toNat = 1 := by
      rw [h.schema]
      exact toDouble_of_lt (by decide)
    simp [StoredSessions.decodedFields, toJson, fields, Json.toLua, fieldsToLua, luaField,
      JsonNumber.toLua, hversion]
  · simp [fields, luaField, fieldsToLua, Json.toLua, JsonNumber.toLua]

end SessionData

/-- A load or a load bound to a user, by a deployment at a reading of the clock. -/
structure SessionLoad where
  policy : SessionPolicy
  nowMs : ℕ
  bound : Bool

/-- The server holds the session under the hash, at least until the deadline of its idle lifetime
or its expiry. -/
structure Holds (session : SessionData) (hash : String) (deadline : ℕ) (store : StoredSessions) :
    Prop where
  valid : session.Valid
  record : ∃ bytes ≤ MAX_SESSION_JSON_BYTES, ∃ expiresAt,
    min deadline session.expiresAtMs.toNat ≤ expiresAt ∧
      store.records hash = some ⟨⟨session.toJson, bytes⟩, expiresAt⟩
  pointer : ∃ expiresAt, session.expiresAtMs.toNat ≤ expiresAt ∧
    store.currentUser session.userId = some ⟨hash, expiresAt⟩

namespace Holds

variable {session : SessionData} {hash : String} {deadline nowMs : ℕ} {store : StoredSessions}
  {policy : SessionPolicy}

theorem peekByHash (h : Holds session hash deadline store) (hidle : store.now < deadline)
    (hlive : store.now < session.expiresAtMs.toNat) :
    store.peekByHash hash = .ok (some session) := by
  obtain ⟨bytes, hbytes, expiresAt, hle, hrecord⟩ := h.record
  have hget : store.records.get store.now hash = some ⟨session.toJson, bytes⟩ :=
    ExpiringMap.get_eq_some.mpr ⟨_, hrecord, by omega⟩
  unfold StoredSessions.peekByHash
  rw [hget, transposed, h.valid.decodeSession hbytes]
  rfl

theorem currentUser (h : Holds session hash deadline store)
    (hlive : store.now < session.expiresAtMs.toNat) :
    store.currentUser.get store.now session.userId = some hash := by
  obtain ⟨expiresAt, hle, hpointer⟩ := h.pointer
  exact ExpiringMap.get_eq_some.mpr ⟨expiresAt, hpointer, by omega⟩

/-- The script of a load that comes in time writes the record back. -/
theorem loadAndRefresh (h : Holds session hash deadline store) (hidle : store.now < deadline)
    {expires : ℕ} (hexpires : expires = (session.refreshed policy store.now).expiresAtMs.toNat)
    (hlive : store.now < expires) (hshort : expires < 10 ^ 14) :
    store.loadAndRefreshSession hash session.userId store.now policy.idleTtlMs expires =
      (.ok (some (refreshedText expires store.now (fieldsToLua session.fields))),
        { store with
          records := store.records.set hash
            (refreshedText expires store.now (fieldsToLua session.fields))
            (store.now + min (expires - store.now) policy.idleTtlMs) }) := by
  rw [SessionData.refreshed_expires] at hexpires
  obtain ⟨bytes, hbytes, expiresAt, hle, hrecord⟩ := h.record
  obtain ⟨hfields, hfield⟩ := h.valid.decodedFields bytes
  have hget : store.records.get store.now hash = some ⟨session.toJson, bytes⟩ :=
    ExpiringMap.get_eq_some.mpr ⟨_, hrecord, by omega⟩
  have hpointer := h.currentUser (by omega)
  have hnow : toDouble store.now = store.now := toDouble_of_lt (by omega)
  have hidleTtl : toDouble policy.idleTtlMs = policy.idleTtlMs := by
    have hle := policy.idle_le
    have hle' := policy.absolute_le
    exact toDouble_of_lt (by omega)
  have hmin : min (toDouble session.expiresAtMs.toNat) (toDouble expires) = expires := by
    rw [toDouble_of_lt (n := expires) (by omega)]
    by_cases hlong : session.expiresAtMs.toNat < 10 ^ 14
    · rw [toDouble_of_lt (by omega)]
      omega
    · have hge : ¬ toDouble session.expiresAtMs.toNat < 10 ^ 14 :=
        fun hlt => hlong (toDouble_lt_iff.mp hlt)
      omega
  unfold loadAndRefreshSession
  simp only [hget, hpointer, hfields, hfield, Option.bind_some, LuaValue.tonumber, hnow, hidleTtl,
    hmin, ne_eq, not_true_eq_false, if_false]
  rw [if_neg (by omega)]

/-- A load by a hash that comes in time returns the refreshed session and keeps it. -/
theorem loadByHash (h : Holds session hash deadline store) (policy : SessionPolicy)
    {expectedUser : Option UserId} (huser : ∀ userId ∈ expectedUser, userId = session.userId)
    (hguilds : session.guilds ≠ [])
    (hcreated : session.createdAtMs.toNat ≤ store.now) (hidle : store.now < deadline)
    (hlive : store.now < (session.refreshed policy store.now).expiresAtMs.toNat)
    (hshort : (session.refreshed policy store.now).expiresAtMs.toNat < 10 ^ 14) :
    ∃ store', store.loadByHash policy store.now hash expectedUser =
        (.ok (some (session.refreshed policy store.now)), store') ∧ store'.now = store.now ∧
      Holds (session.refreshed policy store.now) hash (store.now + policy.idleTtlMs) store' := by
  have hexpires := SessionData.refreshed_expires policy store.now session
  have hvalid := h.valid.refreshed hcreated hlive
  have hpeek := h.peekByHash hidle (by omega)
  have hbound : session.createdAtMs.toNat + policy.absoluteTtlMs < UInt64.size := by
    have hle := policy.absolute_le
    simp only [UInt64.size]
    omega
  have heffective : effectiveSessionExpiry session policy.absoluteTtlMs =
      .ok (session.refreshed policy store.now).expiresAtMs.toNat := by
    unfold effectiveSessionExpiry
    rw [if_neg (by omega), hexpires]
  have hscript := h.loadAndRefresh hidle rfl hlive hshort
  have htext : refreshedText (session.refreshed policy store.now).expiresAtMs.toNat store.now
      (fieldsToLua session.fields) = ⟨(session.refreshed policy store.now).toJson,
        (session.refreshed policy store.now).toJson.size cjsonEscaped⟩ := by
    have hplain := hvalid.plain hguilds hshort
    unfold refreshedText LuaValue.cjson
    rw [SessionData.setLuaField_toLua rfl hshort hlive, Json.toJson_toLua _ hplain]
  have hsize := hvalid.size_le atMostDoubles_cjson
  have hmismatch : expectedUser.any (· ≠ session.userId) = false := by
    cases expectedUser with
    | none => rfl
    | some userId => simp [huser userId rfl]
  have hdeadline : store.now +
      min ((session.refreshed policy store.now).expiresAtMs.toNat - store.now) policy.idleTtlMs =
      min (store.now + policy.idleTtlMs)
        (session.refreshed policy store.now).expiresAtMs.toNat := by
    omega
  rw [htext, hdeadline] at hscript
  refine ⟨{ store with
    records := store.records.set hash ⟨(session.refreshed policy store.now).toJson, _⟩ _ },
    ?_, rfl, hvalid, ⟨_, hsize, _, le_rfl, ExpiringMap.set_self⟩, ?_⟩
  · unfold StoredSessions.loadByHash
    simp only [hpeek, hmismatch, heffective, hscript, transposed, hvalid.decodeSession hsize]
    rfl
  · obtain ⟨expiresAt, hle, hpointer⟩ := h.pointer
    exact ⟨expiresAt, by omega, hpointer⟩

end Holds

variable {policy : SessionPolicy} {opaqueHash : String → String} {session : SessionData}
  {token : String} {tokens : List String} {store stored : StoredSessions} {nowMs : ℕ}

theorem create_holds (hread : nowMs ≤ store.now)
    (h : store.create policy opaqueHash nowMs session tokens = (.ok token, stored)) :
    stored.now = store.now ∧
      Holds session (opaqueHash token) (store.now + policy.idleTtlMs) stored := by
  obtain ⟨hvalid, hlive, -, -, hcreate⟩ := create_ok h
  rcases createSession_eq session.toJson.serde
    (min policy.idleTtlMs (session.expiresAtMs.toNat - nowMs))
    (session.expiresAtMs.toNat - nowMs) session.userId (opaqueHash token) store with
    ⟨-, hfalse⟩ | ⟨-, records, htrue, hrecord, -⟩
  · rw [hfalse] at hcreate
    simp at hcreate
  · rw [htrue] at hcreate
    obtain rfl := (Prod.mk.inj hcreate).2
    exact ⟨rfl, hvalid, ⟨_, hvalid.size_le atMostDoubles_serde, _, by omega, hrecord⟩,
      ⟨_, by omega, ExpiringMap.set_self⟩⟩

/-- Serve a load of the user's token at its reading of the clock. -/
def serveLoad (opaqueHash : String → String) (token : String) (userId : UserId)
    (store : StoredSessions) (load : SessionLoad) :
    Except RepositoryError (Option SessionData) × StoredSessions :=
  let store := { store with now := load.nowMs }
  if load.bound then store.loadBound load.policy load.nowMs userId (opaqueHash token)
  else store.load load.policy opaqueHash load.nowMs token

/-- The replies to loads that are served one after the other. -/
def serveLoads (opaqueHash : String → String) (token : String) (userId : UserId) :
    StoredSessions → List SessionLoad → List (Except RepositoryError (Option SessionData))
  | _, [] => []
  | store, load :: loads =>
    let served := serveLoad opaqueHash token userId store load
    served.1 :: serveLoads opaqueHash token userId served.2 loads

/-- The expiry of a session after some loads, each clamping it to its own policy. -/
def clampedExpiry (createdAtMs : ℕ) : ℕ → List SessionLoad → ℕ
  | expiry, [] => expiry
  | expiry, load :: loads =>
    clampedExpiry createdAtMs (min expiry (createdAtMs + load.policy.absoluteTtlMs)) loads

/-- The readings do not go back, and each comes before the deadline of the idle lifetime that the
call before has set and before the hard expiry. -/
def Timely (createdAtMs : ℕ) : ℕ → ℕ → ℕ → List SessionLoad → Prop
  | _, _, _, [] => True
  | now, deadline, expiry, load :: loads =>
    now ≤ load.nowMs ∧ load.nowMs < deadline ∧
      load.nowMs < min expiry (createdAtMs + load.policy.absoluteTtlMs) ∧
      Timely createdAtMs load.nowMs (load.nowMs + load.policy.idleTtlMs)
        (min expiry (createdAtMs + load.policy.absoluteTtlMs)) loads

/-- The reply is a valid session that is the created one in all it is about, was seen at the
reading of the clock and expires when it should. -/
def Preserved (session : SessionData) (nowMs expiry : ℕ)
    (reply : Except RepositoryError (Option SessionData)) : Prop :=
  ∃ loaded, reply = .ok (some loaded) ∧ loaded.isValidShape = true ∧
    loaded.userId = session.userId ∧ loaded.profile = session.profile ∧
    loaded.csrfToken = session.csrfToken ∧ loaded.guilds = session.guilds ∧
    loaded.createdAtMs = session.createdAtMs ∧ loaded.lastSeenAtMs.toNat = nowMs ∧
    loaded.expiresAtMs.toNat = expiry

/-- Every load has the reply it should have. -/
def EachPreserved (session : SessionData) (loads : List SessionLoad)
    (replies : List (Except RepositoryError (Option SessionData))) : Prop :=
  ∀ index load, loads[index]? = some load → ∃ reply, replies[index]? = some reply ∧
    Preserved session load.nowMs (clampedExpiry session.createdAtMs.toNat
      session.expiresAtMs.toNat (loads.take (index + 1))) reply

variable {deadline : ℕ} {load : SessionLoad} {loads : List SessionLoad}

theorem serveLoad_preserves (h : Holds session (opaqueHash token) deadline store)
    (htoken : isTokenShape token = true) (hhash : isTokenShape (opaqueHash token) = true)
    (hguilds : session.guilds ≠ []) (hcreated : session.createdAtMs.toNat ≤ load.nowMs)
    (hidle : load.nowMs < deadline)
    (hlive : load.nowMs < (session.refreshed load.policy load.nowMs).expiresAtMs.toNat)
    (hshort : (session.refreshed load.policy load.nowMs).expiresAtMs.toNat < 10 ^ 14) :
    ∃ store', serveLoad opaqueHash token session.userId store load =
        (.ok (some (session.refreshed load.policy load.nowMs)), store') ∧
      Holds (session.refreshed load.policy load.nowMs) (opaqueHash token)
        (load.nowMs + load.policy.idleTtlMs) store' := by
  have hlater : Holds session (opaqueHash token) deadline { store with now := load.nowMs } :=
    ⟨h.valid, h.record, h.pointer⟩
  unfold serveLoad
  cases hbound : load.bound with
  | true =>
    have huser : ∀ userId ∈ some session.userId, userId = session.userId := by simp
    obtain ⟨store', hload, -, hholds⟩ := hlater.loadByHash load.policy huser hguilds hcreated hidle
      hlive hshort
    refine ⟨store', ?_, hholds⟩
    simp only [if_true, loadBound, validateHash, validateOpaqueToken, hhash]
    exact hload
  | false =>
    have hany : ∀ userId ∈ (none : Option UserId), userId = session.userId := by simp
    obtain ⟨store', hload, hnow, hholds⟩ :=
      hlater.loadByHash load.policy hany hguilds hcreated hidle
      hlive hshort
    refine ⟨store', ?_, hholds⟩
    have hcurrent := hholds.currentUser (by rw [hnow]; exact hlive)
    simp only [StoredSessions.load, validateOpaqueToken, htoken, if_true, Bool.false_eq_true,
      if_false]
    rw [hload]
    simp only [currentOnly, hcurrent, if_true]

theorem Preserved.refreshed (hvalid : (session.refreshed load.policy load.nowMs).Valid)
    (hlive : load.nowMs < session.expiresAtMs.toNat) :
    Preserved session load.nowMs (min session.expiresAtMs.toNat
        (session.createdAtMs.toNat + load.policy.absoluteTtlMs))
      (.ok (some (session.refreshed load.policy load.nowMs))) :=
  ⟨_, rfl, SessionData.isValidShape_iff.mpr hvalid, rfl, rfl, rfl, rfl, rfl,
    SessionData.refreshed_lastSeen load.policy hlive,
    SessionData.refreshed_expires load.policy load.nowMs session⟩

theorem EachPreserved.cons {reply : Except RepositoryError (Option SessionData)}
    {replies : List (Except RepositoryError (Option SessionData))}
    (hreply : Preserved session load.nowMs (min session.expiresAtMs.toNat
      (session.createdAtMs.toNat + load.policy.absoluteTtlMs)) reply)
    (h : EachPreserved (session.refreshed load.policy load.nowMs) loads replies) :
    EachPreserved session (load :: loads) (reply :: replies) := by
  intro index other hother
  cases index with
  | zero =>
    obtain rfl : load = other := by simpa using hother
    exact ⟨reply, rfl, hreply⟩
  | succ index =>
    obtain ⟨later, hlater, hpreserved⟩ := h index other (by simpa using hother)
    refine ⟨later, by simpa using hlater, ?_⟩
    rw [SessionData.refreshed_expires] at hpreserved
    exact hpreserved

/-- Loads in time preserve the session, each on the record the one before has written. -/
theorem Holds.eachPreserved (h : Holds session (opaqueHash token) deadline store)
    (htoken : isTokenShape token = true) (hhash : isTokenShape (opaqueHash token) = true)
    (hguilds : session.guilds ≠ []) {now : ℕ}
    (htimely : Timely session.createdAtMs.toNat now deadline session.expiresAtMs.toNat loads)
    (hfirst : ∀ load ∈ loads.head?, session.createdAtMs.toNat ≤ load.nowMs ∧
      min session.expiresAtMs.toNat
        (session.createdAtMs.toNat + load.policy.absoluteTtlMs) < 10 ^ 14) :
    EachPreserved session loads (serveLoads opaqueHash token session.userId store loads) := by
  induction loads generalizing session deadline store now with
  | nil =>
    intro index load hload
    simp at hload
  | cons load loads ih =>
    obtain ⟨hcreated, hshort⟩ := hfirst load rfl
    obtain ⟨-, hidle, hlive, hlater⟩ := htimely
    have hexpires := SessionData.refreshed_expires load.policy load.nowMs session
    rw [← hexpires] at hlive hshort hlater
    obtain ⟨store', hserve, hholds⟩ :=
      serveLoad_preserves h htoken hhash hguilds hcreated hidle hlive hshort
    unfold serveLoads
    simp only [hserve]
    refine EachPreserved.cons (Preserved.refreshed hholds.valid (by omega)) ?_
    refine ih hholds hguilds hlater fun next hnext => ?_
    cases loads with
    | nil => simp at hnext
    | cons other loads =>
      obtain rfl : other = next := by simpa using hnext
      obtain ⟨hle, -, -, -⟩ := hlater
      exact ⟨hcreated.trans hle, by omega⟩

/-- The fields of the text that the script of a load has written. -/
theorem fields_of_refreshedText {expires nowMs : ℕ} {fields : List (String × LuaValue)}
    {loaded : SessionData} (h : decodeSession (refreshedText expires nowMs fields) = .ok loaded) :
    (∃ items, requiredField "guilds" (fieldsToJson fields) = .ok (.array items)) ∧
      expires < 10 ^ 14 := by
  have hjson : ∃ session, SessionData.fromJson (refreshedText expires nowMs fields).value =
      .ok session := by
    unfold decodeSession at h
    split at h
    · contradiction
    split at h
    · contradiction
    · rename_i session hsession
      exact ⟨session, hsession⟩
  obtain ⟨session, hsession⟩ := hjson
  obtain ⟨written, hwritten, -, ⟨items, hitems⟩, hexpires⟩ := SessionData.of_fromJson hsession
  obtain rfl := Json.object.inj hwritten
  rw [requiredField_setLuaField (by decide)] at hitems hexpires
  rw [requiredField_setLuaField (by decide)] at hitems
  have hnatural := Json.number.inj (requiredField_setLuaField_self hexpires)
  exact ⟨⟨items, hitems⟩, (natural_of_toFourteenDigits hnatural.symm).2⟩

theorem SessionData.of_refreshedText {expires nowMs : ℕ} {loaded : SessionData}
    (h : decodeSession (refreshedText expires nowMs (fieldsToLua session.fields)) = .ok loaded) :
    session.guilds ≠ [] ∧ expires < 10 ^ 14 := by
  obtain ⟨⟨items, hitems⟩, hshort⟩ := fields_of_refreshedText h
  refine ⟨fun hguilds => ?_, hshort⟩
  have hfield : requiredField "guilds" session.fields = .ok (.array []) := by
    simp [SessionData.fields, requiredField, field, hguilds]
  rw [requiredField_fieldsToLua hfield, toJson_toLua_empty] at hitems
  simp at hitems

theorem serveLoad_some {loaded : SessionData}
    (h : (serveLoad opaqueHash token session.userId store load).1 = .ok (some loaded)) :
    ∃ expectedUser, (({ store with now := load.nowMs } : StoredSessions).loadByHash load.policy
      load.nowMs (opaqueHash token) expectedUser).1 = .ok (some loaded) := by
  unfold serveLoad at h
  dsimp only at h
  split at h
  · unfold loadBound at h
    split at h
    · contradiction
    · exact ⟨_, h⟩
  · unfold StoredSessions.load at h
    split at h
    · contradiction
    refine ⟨none, ?_⟩
    dsimp only at h
    split at h
    · contradiction
    · simp at h
    · rename_i found store' hload
      have hfound : found = loaded := by
        simp only [currentOnly] at h
        split at h <;> simp_all
      rw [hload, hfound]

/-- A session that a load returns has guilds, and expires within fourteen digits. -/
theorem Holds.of_serveLoad (h : Holds session (opaqueHash token) deadline store)
    (hidle : load.nowMs < deadline) (hlive : load.nowMs < session.expiresAtMs.toNat)
    {loaded : SessionData}
    (hserve : (serveLoad opaqueHash token session.userId store load).1 = .ok (some loaded)) :
    session.guilds ≠ [] ∧ min session.expiresAtMs.toNat
      (session.createdAtMs.toNat + load.policy.absoluteTtlMs) < 10 ^ 14 := by
  have hlater : Holds session (opaqueHash token) deadline { store with now := load.nowMs } :=
    ⟨h.valid, h.record, h.pointer⟩
  obtain ⟨expectedUser, hload⟩ := serveLoad_some hserve
  obtain ⟨peeked, expiry, text, hpeek, hexpiry, hscript, hdecoded⟩ := loadByHash_some hload
  rw [hlater.peekByHash hidle hlive] at hpeek
  obtain rfl : session = peeked := by simpa using hpeek
  obtain ⟨bytes, hbytes, expiresAt, hle, hrecord⟩ := hlater.record
  obtain ⟨hfields, hfield⟩ := h.valid.decodedFields bytes
  have hget : store.records.get load.nowMs (opaqueHash token) = some ⟨session.toJson, bytes⟩ :=
    ExpiringMap.get_eq_some.mpr ⟨_, hrecord, by omega⟩
  unfold effectiveSessionExpiry at hexpiry
  split_ifs at hexpiry
  obtain rfl := Except.ok.inj hexpiry
  rcases loadAndRefreshSession_cases (opaqueHash token) session.userId load.nowMs
    load.policy.idleTtlMs _ { store with now := load.nowMs } with
    ⟨reply, hreply, hcases⟩ | hcases | ⟨encoded, fields, expires, hencoded, -, hdecode, hexpires,
      -, hcases⟩
  · rw [hcases] at hscript
    exact absurd hscript (hreply text)
  · rw [hcases] at hscript
    simp at hscript
  · rw [hcases] at hscript
    obtain rfl : (⟨session.toJson, bytes⟩ : JsonText) = encoded := by
      dsimp only at hencoded
      rw [hget] at hencoded
      exact Option.some.inj hencoded
    obtain rfl : fieldsToLua session.fields = fields := by
      rw [hfields] at hdecode
      exact Option.some.inj hdecode
    obtain rfl : toDouble session.expiresAtMs.toNat = expires := by
      rw [hfield] at hexpires
      exact Option.some.inj hexpires
    obtain rfl := Option.some.inj (Except.ok.inj hscript)
    obtain ⟨hguilds, hshort⟩ := SessionData.of_refreshedText hdecoded
    refine ⟨hguilds, ?_⟩
    rcases min_lt_iff.mp hshort with hlt | hlt
    · have hexpires := toDouble_lt_iff.mp hlt
      omega
    · exact toDouble_lt_iff.mp hlt

/-- A session that was created is preserved by every later load that comes in time if and only if
it has guilds, the expiry the first load clamps it to has at most fourteen digits and the clock
of the first load is not before the creation time. -/
theorem session_refresh_iff (hhash : ∀ token, isTokenShape (opaqueHash token) = true)
    (htokens : ∀ token ∈ tokens, isTokenShape token = true)
    (hread : nowMs ≤ store.now)
    (hcreate : store.create policy opaqueHash nowMs session tokens = (.ok token, stored))
    (htimely : Timely session.createdAtMs.toNat store.now (store.now + policy.idleTtlMs)
      session.expiresAtMs.toNat (load :: loads)) :
    EachPreserved session (load :: loads)
        (serveLoads opaqueHash token session.userId stored (load :: loads)) ↔
      session.guilds ≠ [] ∧
        min session.expiresAtMs.toNat (session.createdAtMs.toNat + load.policy.absoluteTtlMs) <
          10 ^ 14 ∧
        session.createdAtMs.toNat ≤ load.nowMs := by
  obtain ⟨-, -, -, hmem, -⟩ := create_ok hcreate
  have htoken : isTokenShape token = true := htokens token (List.mem_of_mem_take hmem)
  obtain ⟨-, hholds⟩ := create_holds hread hcreate
  constructor
  · intro h
    obtain ⟨-, hidle, hlive, -⟩ := htimely
    obtain ⟨reply, hreply, loaded, hloaded, hshape, -, -, -, -, hcreated, hseen, -⟩ :=
      h 0 load rfl
    obtain rfl : (serveLoad opaqueHash token session.userId stored load).1 = reply := by
      simpa [serveLoads] using hreply
    obtain ⟨hguilds, hshort⟩ := hholds.of_serveLoad hidle (by omega) hloaded
    have hvalid := SessionData.isValidShape_iff.mp hshape
    have hle := hvalid.seen
    rw [hcreated, hseen] at hle
    exact ⟨hguilds, hshort, hle⟩
  · rintro ⟨hguilds, hshort, hcreated⟩
    refine hholds.eachPreserved htoken (hhash token) hguilds htimely fun first hfirst => ?_
    obtain rfl : load = first := by simpa using hfirst
    exact ⟨hcreated, hshort⟩

def loginUser : UserId := ⟨⟨42, by decide⟩⟩

def guildless : SessionData where
  schemaVersion := 1
  userId := loginUser
  profile := none
  csrfToken := "CCCCCCCCCCCCCCCCCCCCCCCCCCCCCCCCCCCCCCCCCCA"
  guilds := []
  createdAtMs := 1000
  expiresAtMs := 1801000
  lastSeenAtMs := 1000

def oneGuild : SessionData :=
  { guildless with guilds := [⟨⟨.seven⟩, "Guild", some "a1", true, 8⟩] }

def sessionToken : String := "AAAAAAAAAAAAAAAAAAAAAAAAAAAAAAAAAAAAAAAAAAA"

/-- The hash of the token, and that of another one. -/
def sessionHash (token : String) : String :=
  if token = sessionToken then "DwBzhbb51LfusnSGBa_hqYSgo7-j8BTQnip4TOnlzRo"
  else "au_MXItKX5w_gtd_nKgAniOIgN6ion9u7xnbE_TEF8o"

/-- The server after the creation of a session at the time it was signed in. -/
def created (session : SessionData) : Except RepositoryError String × StoredSessions :=
  (empty 1000).create .default sessionHash 1000 session [sessionToken]

def secondLater : SessionLoad := ⟨.default, 2000, false⟩

/-- The session without guilds is stored, and a load one second later takes it for corrupt. -/
theorem guildless_corrupt :
    guildless.isValidShape = true ∧ (created guildless).1 = .ok sessionToken ∧
      Timely 1000 1000 (1000 + SessionPolicy.default.idleTtlMs) 1801000 [secondLater] ∧
      serveLoads sessionHash sessionToken loginUser (created guildless).2 [secondLater] =
        [.error .corrupt] ∧
      ¬ EachPreserved guildless [secondLater]
        (serveLoads sessionHash sessionToken loginUser (created guildless).2 [secondLater]) := by
  have hreplies : serveLoads sessionHash sessionToken loginUser (created guildless).2
      [secondLater] = [.error .corrupt] := by
    decide +kernel
  refine ⟨by decide +kernel, by decide +kernel, ⟨by decide, by decide, by decide, trivial⟩,
    hreplies, fun h => ?_⟩
  obtain ⟨reply, hreply, loaded, hloaded, -⟩ := h 0 secondLater rfl
  rw [hreplies, hloaded] at hreply
  simp at hreply

theorem session_refresh_iff_oneGuild :
    (created oneGuild).1 = .ok sessionToken ∧
      (EachPreserved oneGuild [secondLater, secondLater]
          (serveLoads sessionHash sessionToken loginUser (created oneGuild).2
            [secondLater, secondLater]) ↔
        oneGuild.guilds ≠ [] ∧ min 1801000 (1000 + 1800000) < 10 ^ 14 ∧ 1000 ≤ 2000) := by
  have hcreate : (empty 1000).create .default sessionHash 1000 oneGuild [sessionToken] =
      (.ok sessionToken, (created oneGuild).2) := Prod.ext (by decide +kernel) rfl
  have htimely : Timely 1000 1000 (1000 + SessionPolicy.default.idleTtlMs) 1801000
      [secondLater, secondLater] :=
    ⟨by decide, by decide, by decide, by decide, by decide, by decide, trivial⟩
  have hhash : ∀ token, isTokenShape (sessionHash token) = true := by
    intro token
    unfold sessionHash
    split <;> decide
  have hread : 1000 ≤ (empty 1000).now := le_rfl
  exact ⟨by decide +kernel, session_refresh_iff hhash (by decide) hread hcreate htimely⟩

end PepeAudio
