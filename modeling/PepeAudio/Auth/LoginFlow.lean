import PepeAudio.Auth.LoginTransactions
import PepeAudio.Auth.Session

/-!
# Logging in

Requests to `/auth/login` and `/auth/callback` run beside each other, each at one of its awaits:
the store of login transactions, the token exchange with Discord or the store of sessions. Time
passes between the calls, and the requests come from anybody with any parameters. The store answers
every call, and a script and what its caller does with the reply are one step.
-/
namespace PepeAudio

/-- What Discord tells about a user. -/
structure OAuthProjection where
  userId : UserId
  profile : Option UserProfile
  guilds : List GuildSummary
  deriving DecidableEq, Repr

/-- The session of a user who has just signed in, before its shape is checked. -/
def OAuthProjection.session (projection : OAuthProjection) (csrfToken : String) (nowMs : UInt64)
    (absoluteTtlMs : ℕ) : SessionData where
  schemaVersion := SessionData.SCHEMA_VERSION
  userId := projection.userId
  profile := projection.profile
  csrfToken := csrfToken
  guilds := projection.guilds
  createdAtMs := nowMs
  expiresAtMs := nowMs + absoluteTtlMs.toUInt64
  lastSeenAtMs := nowMs

/-- `SessionData::new` -/
def SessionData.new (projection : OAuthProjection) (csrfToken : String) (nowMs : UInt64)
    (absoluteTtlMs : ℕ) : Option SessionData :=
  if UInt64.size ≤ nowMs.toNat + absoluteTtlMs then none
  else if (projection.session csrfToken nowMs absoluteTtlMs).isValidShape then
    some (projection.session csrfToken nowMs absoluteTtlMs)
  else none

theorem SessionData.new_valid {projection : OAuthProjection} {csrfToken : String} {nowMs : UInt64}
    {absoluteTtlMs : ℕ} {session : SessionData}
    (h : SessionData.new projection csrfToken nowMs absoluteTtlMs = some session) :
    session.Valid := by
  unfold SessionData.new at h
  split_ifs at h with hoverflow hshape
  obtain rfl := Option.some.inj h
  exact isValidShape_iff.mp hshape

namespace LoginFlow

inductive OAuthProviderError where
  | rejected
  | unavailable
  | invalidResponse
  deriving DecidableEq, Repr

inductive AuthServiceError where
  | unauthenticated
  | invalidCallback
  | unavailable
  | capacityExceeded
  deriving DecidableEq, Repr

def AuthServiceError.ofRepository : RepositoryError → AuthServiceError
  | .invalidToken => .unauthenticated
  | .collision | .unavailable | .corrupt => .unavailable
  | .capacityExceeded => .capacityExceeded

def AuthServiceError.ofProvider : OAuthProviderError → AuthServiceError
  | .rejected | .invalidResponse => .invalidCallback
  | .unavailable => .unavailable

structure DiscordOAuthConfig where
  clientId : String
  redirectUri : String

structure AuthConfig where
  discord : DiscordOAuthConfig
  session : SessionPolicy

structure OAuthMaterial where
  state : String
  verifier : String
  challenge : String
  deriving DecidableEq, Repr

/-- From two random tokens. The challenge is the hash that credentials are stored under. -/
def oauthMaterial (codec : PendingCodec) (state verifier : String) : OAuthMaterial :=
  ⟨state, verifier, codec.opaqueHash verifier⟩

/-- The query of the page of Discord that asks the user. -/
def authorizationUrl (config : DiscordOAuthConfig) (material : OAuthMaterial) :
    List (String × String) :=
  [("response_type", "code"), ("client_id", config.clientId), ("redirect_uri", config.redirectUri),
    ("scope", "identify guilds"), ("state", material.state),
    ("code_challenge", material.challenge), ("code_challenge_method", "S256")]

/-- Where a login sends the browser, and the state that its cookie holds. -/
structure LoginStart where
  authorizationUrl : List (String × String)
  state : String
  deriving DecidableEq, Repr

/-- What a browser comes back with; the cookie is the one that could be read. -/
structure Callback where
  code : Option String
  state : Option String
  error : Option String
  cookieState : Option String
  deriving DecidableEq, Repr

def MATERIAL_ATTEMPTS : ℕ := 3

def validateCode (code : String) : Bool :=
  !(code.isEmpty || 1024 < code.utf8ByteSize || code.toList.any isControl)

/-- Where a request waits. -/
inductive AuthRequest where
  | absent
  /-- For the store, with the attempts that are left. -/
  | reserving (nowMs : UInt64) (material : OAuthMaterial) (attempts : ℕ)
  | started (nowMs : UInt64) (start : LoginStart)
  | refused (error : AuthServiceError)
  /-- For the transaction of its state. -/
  | consuming (callback : Callback) (code state : String)
  /-- For the end of a transaction that the user denied. -/
  | denying (callback : Callback) (state : String)
  /-- For Discord. -/
  | exchanging (callback : Callback) (nowMs : UInt64)
  /-- For the store of sessions. -/
  | creating (callback : Callback) (session : SessionData)
  | answered (callback : Callback) (result : Except AuthServiceError String)

/-- A code that a request hands to Discord, with its verifier. -/
structure Exchange where
  request : ℕ
  code : String
  verifier : String
  nowMs : UInt64
  deriving DecidableEq, Repr

structure AuthSystem where
  store : PendingStates
  requests : ℕ → AuthRequest
  exchanges : List Exchange
  /-- The sessions whose tokens were handed out, by the request. -/
  sessions : List (ℕ × SessionData)

inductive AuthEvent where
  /-- A login arrives. -/
  | login (id : ℕ) (now : Option UInt64) (tokens : Option (String × String))
  | callback (id : ℕ) (callback : Callback)
  /-- The store serves the request some time later; then come the clock and the next tokens. -/
  | served (id elapsed : ℕ) (now : Option UInt64) (tokens : Option (String × String))
  | exchanged (id : ℕ) (answer : Except OAuthProviderError OAuthProjection)
      (csrfToken : Option String)
  | created (id : ℕ) (answer : Except RepositoryError String)

section steps
variable (config : AuthConfig) (codec : PendingCodec)

/-- An attempt to reserve, if there is randomness. -/
def draw (nowMs : UInt64) (tokens : Option (String × String)) (attempts : ℕ) : AuthRequest :=
  match tokens with
  | none => .refused .unavailable
  | some (state, verifier) => .reserving nowMs (oauthMaterial codec state verifier) attempts

/-- `begin_login`, up to its first await. -/
def beginLogin (now : Option UInt64) (tokens : Option (String × String)) : AuthRequest :=
  match now with
  | none => .refused .unavailable
  | some nowMs => draw codec nowMs tokens (MATERIAL_ATTEMPTS - 1)

/-- The rest of an attempt. -/
def reserved (nowMs : UInt64) (material : OAuthMaterial) (attempts : ℕ)
    (tokens : Option (String × String)) : Except RepositoryError Unit → AuthRequest
  | .ok () => .started nowMs ⟨authorizationUrl config.discord material, material.state⟩
  | .error .collision =>
    match attempts with
    | 0 => .refused .unavailable
    | attempts + 1 => draw codec nowMs tokens attempts
  | .error error => .refused (.ofRepository error)

/-- `callback` and the first checks of `complete_callback`. -/
def receive (callback : Callback) : AuthRequest :=
  if callback.error.isSome then
    match callback.state, callback.cookieState with
    | some state, some cookieState =>
      if state = cookieState then .denying callback state
      else .answered callback (.error .invalidCallback)
    | _, _ => .answered callback (.error .invalidCallback)
  else
    match callback.code, callback.state, callback.cookieState with
    | some code, some state, some cookieState =>
      if !validateCode code || state ≠ cookieState then
        .answered callback (.error .invalidCallback)
      else .consuming callback code state
    | _, _, _ => .answered callback (.error .invalidCallback)

/-- `complete_callback` with the transaction of its state, and what it hands to Discord. -/
def consumed (id : ℕ) (callback : Callback) (code : String) (now : Option UInt64) :
    Except RepositoryError (Option PendingOAuth) → AuthRequest × List Exchange
  | .error error => (.answered callback (.error (.ofRepository error)), [])
  | .ok none => (.answered callback (.error .invalidCallback), [])
  | .ok (some pending) =>
    match now with
    | none => (.answered callback (.error .unavailable), [])
    | some nowMs =>
      if nowMs < pending.createdAtMs ∨
          config.session.stateTtlMs < nowMs.toNat - pending.createdAtMs.toNat then
        (.answered callback (.error .invalidCallback), [])
      else (.exchanging callback nowMs, [⟨id, code, pending.verifier, nowMs⟩])

/-- `complete_callback` with the answer of Discord. -/
def exchanged (callback : Callback) (nowMs : UInt64) (csrfToken : Option String) :
    Except OAuthProviderError OAuthProjection → AuthRequest
  | .error error => .answered callback (.error (.ofProvider error))
  | .ok projection =>
    if 200 < projection.guilds.length then .answered callback (.error .invalidCallback)
    else
      match csrfToken.bind (SessionData.new projection · nowMs config.session.absoluteTtlMs) with
      | none => .answered callback (.error .unavailable)
      | some session => .creating callback session

namespace AuthSystem

def start (now : ℕ) : AuthSystem := ⟨.empty now, fun _ => .absent, [], []⟩

def put (id : ℕ) (request : AuthRequest) (system : AuthSystem) : AuthSystem :=
  { system with requests := Function.update system.requests id request }

def serve (id : ℕ) (now : Option UInt64) (tokens : Option (String × String))
    (system : AuthSystem) : AuthSystem :=
  match system.requests id with
  | .reserving nowMs material attempts =>
    let reply := system.store.reserve config.session codec material.state
      ⟨material.verifier, nowMs⟩
    { system with store := reply.2 }.put id
      (reserved config codec nowMs material attempts tokens reply.1)
  | .consuming callback code state =>
    let reply := system.store.consume codec state
    let outcome := consumed config id callback code now reply.1
    { system with
      store := reply.2
      exchanges := system.exchanges ++ outcome.2 }.put id outcome.1
  | .denying callback state =>
    { system with store := (system.store.consume codec state).2 }.put id
      (.answered callback (.error .invalidCallback))
  | _ => system

def step (system : AuthSystem) : AuthEvent → AuthSystem
  | .login id now tokens =>
    match system.requests id with
    | .absent => system.put id (beginLogin codec now tokens)
    | _ => system
  | .callback id callback =>
    match system.requests id with
    | .absent => system.put id (receive callback)
    | _ => system
  | .served id elapsed now tokens =>
    serve config codec id now tokens
      { system with store := { system.store with now := system.store.now + elapsed } }
  | .exchanged id answer csrfToken =>
    match system.requests id with
    | .exchanging callback nowMs =>
      system.put id (exchanged config callback nowMs csrfToken answer)
    | _ => system
  | .created id answer =>
    match system.requests id with
    | .creating callback session =>
      match answer with
      | .error error => system.put id (.answered callback (.error (.ofRepository error)))
      | .ok token =>
        { system with sessions := system.sessions ++ [(id, session)] }.put id
          (.answered callback (.ok token))
    | _ => system

end AuthSystem

abbrev Runs (start : ℕ) (taken : List (Taken AuthSystem AuthEvent)) (system : AuthSystem) : Prop :=
  Run (fun before event after => AuthSystem.step config codec before event = after)
    (AuthSystem.start start) taken system

end steps

/-! ## Logins and exchanges -/

section invariants
variable (config : AuthConfig) (codec : PendingCodec)

/-- A login sent the browser away with the state, and with the challenge of the verifier. -/
def Issued (system : AuthSystem) (id : ℕ) (nowMs : UInt64) (state verifier : String) : Prop :=
  system.requests id =
    .started nowMs ⟨authorizationUrl config.discord (oauthMaterial codec state verifier), state⟩

/-- The request is done with the store of login transactions. -/
def Consumed (request : AuthRequest) (callback : Callback) : Prop :=
  (∃ nowMs, request = .exchanging callback nowMs) ∨
    (∃ session, request = .creating callback session) ∨
    ∃ result, request = .answered callback result

/-- The browser came back with the state that a login gave it, while that login was fresh. -/
structure Presented (loginMs : UInt64) (state : String) (callback : Callback)
    (exchange : Exchange) : Prop where
  code : callback.code = some exchange.code
  state : ∃ returned, callback.state = some returned ∧ callback.cookieState = some returned ∧
    codec.opaqueHash returned = codec.opaqueHash state
  notDenied : callback.error = none
  notBefore : loginMs.toNat ≤ exchange.nowMs.toNat
  fresh : exchange.nowMs.toNat ≤ loginMs.toNat + config.session.stateTtlMs

/-- Every transaction in the store and every exchange goes back to a login of its own. -/
structure Bound (system : AuthSystem) (owner : String → ℕ) (login : ℕ → ℕ) : Prop where
  entries : ∀ stateHash value deadline, system.store.states stateHash = some ⟨value, deadline⟩ →
    ∃ nowMs state verifier, Issued config codec system (owner stateHash) nowMs state verifier ∧
      codec.opaqueHash state = stateHash ∧ codec.decode value = some ⟨verifier, nowMs⟩
  unused : ∀ stateHash entry, system.store.states stateHash = some entry →
    ∀ exchange ∈ system.exchanges, login exchange.request ≠ owner stateHash
  exchanges : ∀ exchange ∈ system.exchanges, ∃ loginMs state callback,
    Issued config codec system (login exchange.request) loginMs state exchange.verifier ∧
      Presented config codec loginMs state callback exchange ∧
      Consumed (system.requests exchange.request) callback
  once : system.exchanges.Pairwise fun exchange later =>
    exchange.request ≠ later.request ∧ login exchange.request ≠ login later.request

/-- What a request holds where it waits. -/
def Formed : AuthRequest → Prop
  | .reserving _ material _ =>
    material = oauthMaterial codec material.state material.verifier
  | .consuming callback code state =>
    callback.code = some code ∧ callback.state = some state ∧ callback.cookieState = some state ∧
      callback.error = none
  | .creating _ session => session.Valid
  | _ => True

/-- The request is not done with the store of login transactions. -/
def Unserved : AuthRequest → Prop
  | .absent | .reserving _ _ _ | .consuming _ _ _ | .denying _ _ => True
  | _ => False

/-- A session comes of the request if nothing fails. -/
def AwaitsSession : AuthRequest → Prop
  | .exchanging _ _ | .creating _ _ => True
  | _ => False

/-- Sessions come of exchanges, one of each at most. -/
structure Signed (system : AuthSystem) : Prop where
  formed : ∀ id, Formed codec (system.requests id)
  awaited : ∀ id, AwaitsSession (system.requests id) → id ∈ system.exchanges.map Exchange.request
  sessions : ∀ created ∈ system.sessions, created.2.Valid ∧
    created.1 ∈ system.exchanges.map Exchange.request ∧
    ∃ callback token, system.requests created.1 = .answered callback (.ok token)
  once : (system.sessions.map Prod.fst).Nodup

def Traced (system : AuthSystem) : Prop :=
  Signed codec system ∧ ∃ owner login, Bound config codec system owner login

end invariants

section steps
variable {config : AuthConfig} {codec : PendingCodec} {system : AuthSystem} {owner : String → ℕ}
  {login : ℕ → ℕ} {id : ℕ} {request : AuthRequest}

theorem Consumed.not_unserved {callback : Callback} (h : Consumed request callback) :
    ¬ Unserved request := by
  obtain ⟨_, rfl⟩ | ⟨_, rfl⟩ | ⟨_, rfl⟩ := h <;> exact not_false

/-- A request answers one callback. -/
theorem Consumed.unique {callback other : Callback} (h : Consumed request callback)
    (h' : Consumed request other) : other = callback := by
  obtain ⟨_, rfl⟩ | ⟨_, rfl⟩ | ⟨_, rfl⟩ := h <;>
    obtain ⟨_, heq⟩ | ⟨_, heq⟩ | ⟨_, heq⟩ := h' <;> cases heq <;> rfl

@[simp] theorem AuthSystem.put_self : (system.put id request).requests id = request := by
  simp [AuthSystem.put]

@[simp] theorem AuthSystem.put_store : (system.put id request).store = system.store := rfl

theorem AuthSystem.put_of_ne {other : ℕ} (h : other ≠ id) :
    (system.put id request).requests other = system.requests other := by
  simp [AuthSystem.put, h]

theorem Issued.put {other : ℕ} {nowMs : UInt64} {state verifier : String}
    (hwaiting : ∀ nowMs start, system.requests id ≠ .started nowMs start)
    (h : Issued config codec system other nowMs state verifier) :
    Issued config codec (system.put id request) other nowMs state verifier := by
  have hne : other ≠ id := by
    rintro rfl
    exact hwaiting _ _ h
  exact (AuthSystem.put_of_ne hne).trans h

/-- A request moves on that has not started a login. -/
theorem Bound.put (hwaiting : ∀ nowMs start, system.requests id ≠ .started nowMs start)
    (hconsumed : ∀ callback, Consumed (system.requests id) callback → Consumed request callback)
    (h : Bound config codec system owner login) :
    Bound config codec (system.put id request) owner login where
  entries stateHash value deadline hentry := by
    obtain ⟨nowMs, state, verifier, hissued, hrest⟩ := h.entries stateHash value deadline hentry
    exact ⟨nowMs, state, verifier, hissued.put hwaiting, hrest⟩
  unused := h.unused
  exchanges exchange hexchange := by
    obtain ⟨loginMs, state, callback, hissued, hpresented, hdone⟩ := h.exchanges exchange hexchange
    refine ⟨loginMs, state, callback, hissued.put hwaiting, hpresented, ?_⟩
    by_cases heq : exchange.request = id
    · rw [heq] at hdone ⊢
      rw [AuthSystem.put_self]
      exact hconsumed callback hdone
    · rw [AuthSystem.put_of_ne heq]
      exact hdone
  once := h.once

/-- Transactions leave the store. -/
theorem Bound.shrink {store : PendingStates}
    (hstore : ∀ stateHash entry, store.states stateHash = some entry →
      system.store.states stateHash = some entry)
    (h : Bound config codec system owner login) :
    Bound config codec { system with store := store } owner login where
  entries stateHash value deadline hentry :=
    h.entries stateHash value deadline (hstore _ _ hentry)
  unused stateHash entry hentry := h.unused stateHash entry (hstore _ _ hentry)
  exchanges := h.exchanges
  once := h.once

/-- A login reserves its state. -/
theorem Bound.reserve {nowMs : UInt64} {material : OAuthMaterial} {attempts deadline : ℕ}
    {store : PendingStates}
    (hrequest : system.requests id = .reserving nowMs material attempts)
    (hformed : material = oauthMaterial codec material.state material.verifier)
    (hread : codec.decode (codec.encode ⟨material.verifier, nowMs⟩) =
      some ⟨material.verifier, nowMs⟩)
    (hstore : store.states = system.store.states.set (codec.opaqueHash material.state)
      (codec.encode ⟨material.verifier, nowMs⟩) deadline)
    (h : Bound config codec system owner login) :
    Bound config codec ({ system with store := store }.put id
        (.started nowMs ⟨authorizationUrl config.discord material, material.state⟩))
      (Function.update owner (codec.opaqueHash material.state) id) login := by
  have hunserved : Unserved (system.requests id) := by
    rw [hrequest]
    trivial
  have hwaiting : ∀ nowMs start, system.requests id ≠ .started nowMs start := by
    simp [hrequest]
  have hnew {exchange : Exchange} (hexchange : exchange ∈ system.exchanges) :
      login exchange.request ≠ id := by
    obtain ⟨loginMs, state, callback, hissued, -⟩ := h.exchanges exchange hexchange
    rintro rfl
    exact hwaiting _ _ hissued
  have hput : Bound config codec (system.put id (.started nowMs
      ⟨authorizationUrl config.discord material, material.state⟩)) owner login :=
    h.put hwaiting fun callback hdone => absurd hunserved hdone.not_unserved
  refine ⟨?_, ?_, hput.exchanges, hput.once⟩
  · intro stateHash value deadline' hentry
    rw [AuthSystem.put_store, hstore] at hentry
    rcases ExpiringMap.set_eq_some.mp hentry with ⟨rfl, hwritten⟩ | ⟨hne, hold⟩
    · obtain ⟨rfl, -⟩ := Expiring.mk.inj hwritten
      refine ⟨nowMs, material.state, material.verifier, ?_, rfl, hread⟩
      rw [Function.update_self, Issued, AuthSystem.put_self, ← hformed]
    · rw [Function.update_of_ne hne]
      exact hput.entries stateHash value deadline' hold
  · intro stateHash entry hentry exchange hexchange
    rw [AuthSystem.put_store, hstore] at hentry
    rcases ExpiringMap.set_eq_some.mp hentry with ⟨rfl, -⟩ | ⟨hne, hold⟩
    · rw [Function.update_self]
      exact hnew hexchange
    · rw [Function.update_of_ne hne]
      exact h.unused stateHash entry hold exchange hexchange

/-- A callback takes the transaction of its state to Discord. -/
theorem Bound.exchange {callback : Callback} {code state encoded : String}
    {pending : PendingOAuth} {nowMs : UInt64} {deadline : ℕ} {store : PendingStates}
    (hrequest : system.requests id = .consuming callback code state)
    (hformed : Formed codec (.consuming callback code state))
    (hentry : system.store.states (codec.opaqueHash state) = some ⟨encoded, deadline⟩)
    (hdecoded : codec.decode encoded = some pending)
    (hnotBefore : pending.createdAtMs.toNat ≤ nowMs.toNat)
    (hfresh : nowMs.toNat ≤ pending.createdAtMs.toNat + config.session.stateTtlMs)
    (hstore : store.states = system.store.states.erase (codec.opaqueHash state))
    (h : Bound config codec system owner login) :
    Bound config codec ({ system with
        store := store
        exchanges := system.exchanges ++ [Exchange.mk id code pending.verifier nowMs] }.put id
          (.exchanging callback nowMs))
      owner (Function.update login id (owner (codec.opaqueHash state))) := by
  have hunserved : Unserved (system.requests id) := by
    rw [hrequest]
    trivial
  have hnew {exchange : Exchange} (hexchange : exchange ∈ system.exchanges) :
      exchange.request ≠ id := by
    obtain ⟨loginMs, _, callback', -, -, hdone⟩ := h.exchanges exchange hexchange
    rintro rfl
    exact hdone.not_unserved hunserved
  have hsame {exchange : Exchange} (hexchange : exchange ∈ system.exchanges) :
      Function.update login id (owner (codec.opaqueHash state)) exchange.request =
        login exchange.request := Function.update_of_ne (hnew hexchange) _ _
  have hput : Bound config codec (system.put id (.exchanging callback nowMs)) owner login :=
    h.put (by simp [hrequest]) fun callback hdone => absurd hunserved hdone.not_unserved
  have htransaction := hput.entries _ _ _ hentry
  obtain ⟨loginMs, issued, verifier, hissued, hhash, hvalue⟩ := htransaction
  obtain rfl : pending = ⟨verifier, loginMs⟩ := Option.some.inj (hdecoded.symm.trans hvalue)
  refine ⟨?_, ?_, ?_, ?_⟩
  · intro stateHash value deadline' hother
    rw [AuthSystem.put_store, hstore] at hother
    exact hput.entries stateHash value deadline' (ExpiringMap.erase_eq_some.mp hother).2
  · intro stateHash entry hother exchange hexchange
    rw [AuthSystem.put_store, hstore] at hother
    obtain ⟨hne, hold⟩ := ExpiringMap.erase_eq_some.mp hother
    rcases List.mem_append.mp hexchange with hexchange | hexchange
    · rw [hsame hexchange]
      exact h.unused stateHash entry hold exchange hexchange
    · obtain rfl := List.mem_singleton.mp hexchange
      rw [Function.update_self]
      intro howner
      obtain ⟨value, deadline'⟩ := entry
      obtain ⟨_, _, _, hissued', hhash', -⟩ := hput.entries stateHash value deadline' hold
      rw [← howner, Issued, hissued] at hissued'
      have hstart := congrArg LoginStart.state (AuthRequest.started.inj hissued').2
      exact hne (hhash'.symm.trans ((congrArg codec.opaqueHash hstart.symm).trans hhash))
  · intro exchange hexchange
    rcases List.mem_append.mp hexchange with hexchange | hexchange
    · rw [hsame hexchange]
      exact hput.exchanges exchange hexchange
    · obtain rfl := List.mem_singleton.mp hexchange
      obtain ⟨hcode, hstate, hcookie, herror⟩ := hformed
      refine ⟨loginMs, issued, callback, ?_, ⟨hcode, ⟨state, hstate, hcookie, hhash.symm⟩, herror,
        hnotBefore, hfresh⟩, .inl ⟨nowMs, AuthSystem.put_self⟩⟩
      rw [Function.update_self]
      exact hissued
  · refine List.pairwise_append.mpr ⟨?_, List.pairwise_singleton _ _, ?_⟩
    · refine hput.once.imp_of_mem fun hexchange hlater hdistinct => ?_
      rw [hsame hexchange, hsame hlater]
      exact hdistinct
    · intro exchange hexchange last hlast
      obtain rfl := List.mem_singleton.mp hlast
      rw [hsame hexchange, Function.update_self]
      exact ⟨hnew hexchange, h.unused _ _ hentry exchange hexchange⟩

theorem Signed.put (hopen : ∀ callback result, system.requests id ≠ .answered callback result)
    (hformed : Formed codec request)
    (hawaited : AwaitsSession request → id ∈ system.exchanges.map Exchange.request)
    (h : Signed codec system) : Signed codec (system.put id request) where
  formed other := by
    by_cases heq : other = id
    · rw [heq, AuthSystem.put_self]
      exact hformed
    · rw [AuthSystem.put_of_ne heq]
      exact h.formed other
  awaited other := by
    by_cases heq : other = id
    · rw [heq, AuthSystem.put_self]
      exact hawaited
    · rw [AuthSystem.put_of_ne heq]
      exact h.awaited other
  sessions created hcreated := by
    obtain ⟨hvalid, hexchange, callback, token, hanswered⟩ := h.sessions created hcreated
    have hne : created.1 ≠ id := by
      rintro rfl
      exact hopen _ _ hanswered
    exact ⟨hvalid, hexchange, callback, token, (AuthSystem.put_of_ne hne).trans hanswered⟩
  once := h.once

theorem Signed.withStore (store : PendingStates) (h : Signed codec system) :
    Signed codec { system with store := store } :=
  ⟨h.formed, h.awaited, h.sessions, h.once⟩

/-- A request that is not done with the store moves on without an exchange. -/
theorem Traced.put (hunserved : Unserved (system.requests id)) (hformed : Formed codec request)
    (hquiet : ¬ AwaitsSession request) (h : Traced config codec system) :
    Traced config codec (system.put id request) := by
  obtain ⟨hsigned, owner, login, hbound⟩ := h
  refine ⟨hsigned.put ?_ hformed (fun hawaits => absurd hawaits hquiet), owner, login,
    hbound.put ?_ ?_⟩
  · intro callback result hanswered
    rw [hanswered] at hunserved
    exact hunserved
  · intro nowMs start hstarted
    rw [hstarted] at hunserved
    exact hunserved
  · intro callback hdone
    exact absurd hunserved hdone.not_unserved

theorem Traced.shrink {store : PendingStates}
    (hstore : ∀ stateHash entry, store.states stateHash = some entry →
      system.store.states stateHash = some entry)
    (h : Traced config codec system) : Traced config codec { system with store := store } := by
  obtain ⟨hsigned, owner, login, hbound⟩ := h
  exact ⟨hsigned.withStore store, owner, login, hbound.shrink hstore⟩

/-- A request that waits for its session moves on. -/
theorem Traced.advance {callback : Callback} (hawaits : AwaitsSession (system.requests id))
    (hbefore : Consumed (system.requests id) callback)
    (hafter : Consumed request callback) (hformed : Formed codec request)
    (h : Traced config codec system) : Traced config codec (system.put id request) := by
  obtain ⟨hsigned, owner, login, hbound⟩ := h
  refine ⟨hsigned.put ?_ hformed (fun _ => hsigned.awaited id hawaits), owner, login,
    hbound.put ?_ ?_⟩
  · intro callback result hanswered
    rw [hanswered] at hawaits
    exact hawaits
  · intro nowMs start hstarted
    rw [hstarted] at hawaits
    exact hawaits
  · intro other hother
    rw [hbefore.unique hother]
    exact hafter

theorem draw_formed (nowMs : UInt64) (tokens : Option (String × String)) (attempts : ℕ) :
    Formed codec (draw codec nowMs tokens attempts) ∧
      ¬ AwaitsSession (draw codec nowMs tokens attempts) := by
  unfold draw
  split
  · exact ⟨trivial, not_false⟩
  · exact ⟨rfl, not_false⟩

theorem beginLogin_formed (now : Option UInt64) (tokens : Option (String × String)) :
    Formed codec (beginLogin codec now tokens) ∧ ¬ AwaitsSession (beginLogin codec now tokens) := by
  unfold beginLogin
  split
  · exact ⟨trivial, not_false⟩
  · exact draw_formed _ _ _

theorem receive_formed (callback : Callback) :
    Formed codec (receive callback) ∧ ¬ AwaitsSession (receive callback) := by
  unfold receive
  split_ifs with herror
  · split
    · split_ifs <;> exact ⟨trivial, not_false⟩
    · exact ⟨trivial, not_false⟩
  · split
    · next hcode hstate hcookie =>
      split_ifs with hrefused
      · exact ⟨trivial, not_false⟩
      · simp only [Bool.or_eq_true, decide_eq_true_eq, not_or, not_not, ne_eq] at hrefused
        refine ⟨⟨hcode, hstate, hcookie.trans (congrArg some hrefused.2.symm), ?_⟩, not_false⟩
        simpa using herror
    · exact ⟨trivial, not_false⟩

theorem reserved_formed (nowMs : UInt64) (material : OAuthMaterial) (attempts : ℕ)
    (tokens : Option (String × String)) (result : Except RepositoryError Unit) :
    Formed codec (reserved config codec nowMs material attempts tokens result) ∧
      ¬ AwaitsSession (reserved config codec nowMs material attempts tokens result) := by
  unfold reserved
  split
  · exact ⟨trivial, not_false⟩
  · split
    · exact ⟨trivial, not_false⟩
    · exact draw_formed _ _ _
  · exact ⟨trivial, not_false⟩

variable (config) in
/-- What a callback does with the transaction of its state. -/
theorem consumed_cases (id : ℕ) (callback : Callback) (code : String) (now : Option UInt64)
    (reply : Except RepositoryError (Option PendingOAuth)) :
    (∃ error, consumed config id callback code now reply =
        (.answered callback (.error error), [])) ∨
      ∃ pending nowMs, reply = .ok (some pending) ∧
        pending.createdAtMs.toNat ≤ nowMs.toNat ∧
        nowMs.toNat ≤ pending.createdAtMs.toNat + config.session.stateTtlMs ∧
        consumed config id callback code now reply =
          (.exchanging callback nowMs, [⟨id, code, pending.verifier, nowMs⟩]) := by
  unfold consumed
  split
  · exact .inl ⟨_, rfl⟩
  · exact .inl ⟨_, rfl⟩
  · next pending =>
    split
    · exact .inl ⟨_, rfl⟩
    · next nowMs =>
      split_ifs with hlate
      · exact .inl ⟨_, rfl⟩
      · obtain ⟨hbefore, hfresh⟩ := not_or.mp hlate
        rw [UInt64.lt_iff_toNat_lt] at hbefore
        exact .inr ⟨pending, nowMs, rfl, by omega, by omega, rfl⟩

theorem exchanged_formed (callback : Callback) (nowMs : UInt64) (csrfToken : Option String)
    (answer : Except OAuthProviderError OAuthProjection) :
    Formed codec (exchanged config callback nowMs csrfToken answer) ∧
      Consumed (exchanged config callback nowMs csrfToken answer) callback := by
  unfold exchanged
  split
  · exact ⟨trivial, .inr (.inr ⟨_, rfl⟩)⟩
  · split_ifs with hguilds
    · exact ⟨trivial, .inr (.inr ⟨_, rfl⟩)⟩
    · split
      · exact ⟨trivial, .inr (.inr ⟨_, rfl⟩)⟩
      · next session hsession =>
        obtain ⟨token, -, hnew⟩ := Option.bind_eq_some_iff.mp hsession
        exact ⟨SessionData.new_valid hnew, .inr (.inl ⟨session, rfl⟩)⟩

/-! ## Steps -/

/-- A login is served by the store. -/
theorem Traced.reserve {nowMs : UInt64} {material : OAuthMaterial} {attempts : ℕ}
    (tokens : Option (String × String))
    (hrequest : system.requests id = .reserving nowMs material attempts)
    (hread : codec.decode (codec.encode ⟨material.verifier, nowMs⟩) =
      some ⟨material.verifier, nowMs⟩)
    (h : Traced config codec system) :
    Traced config codec ({ system with
      store := (system.store.reserve config.session codec material.state
        ⟨material.verifier, nowMs⟩).2 }.put id
      (reserved config codec nowMs material attempts tokens
        (system.store.reserve config.session codec material.state
          ⟨material.verifier, nowMs⟩).1)) := by
  have hunserved : Unserved (system.requests id) := by
    rw [hrequest]
    trivial
  have hserved : PendingStates.Served config.session codec system.store _ _ _ :=
    PendingStates.serve_served (.reserve material.state ⟨material.verifier, nowMs⟩) system.store
  simp only [PendingStates.serve] at hserved
  generalize system.store.reserve config.session codec material.state
    ⟨material.verifier, nowMs⟩ = outcome at hserved ⊢
  obtain ⟨result, store⟩ := outcome
  have hformed : Formed codec (reserved config codec nowMs material attempts tokens result) ∧
      ¬ AwaitsSession (reserved config codec nowMs material attempts tokens result) :=
    reserved_formed nowMs material attempts tokens result
  dsimp only at hserved ⊢
  cases hserved with
  | untouched => exact h.put hunserved hformed.1 hformed.2
  | refused state pending error =>
    have hpruned : Traced config codec
        { system with store := { system.store with index := system.store.pruned } } :=
      h.shrink fun _ _ hentry => hentry
    exact hpruned.put hunserved hformed.1 hformed.2
  | reserved state pending hroom =>
    obtain ⟨hsigned, owner, login, hbound⟩ := h
    have hmaterial : material = oauthMaterial codec material.state material.verifier := by
      have hwaiting := hsigned.formed id
      rw [hrequest] at hwaiting
      exact hwaiting
    refine ⟨?_, _, login, hbound.reserve hrequest hmaterial hread rfl⟩
    refine (hsigned.withStore _).put ?_ trivial False.elim
    intro callback result hanswered
    simp [hrequest] at hanswered

variable (codec) in
/-- The reply to a call that consumes, and the store after it. -/
theorem consume_cases (state : String) (store : PendingStates) :
    ((store.consume codec state).2 = store ∧
        ∀ pending, (store.consume codec state).1 ≠ .ok (some pending)) ∨
      ∃ encoded deadline, store.states (codec.opaqueHash state) = some ⟨encoded, deadline⟩ ∧
        (store.consume codec state).2.states = store.states.erase (codec.opaqueHash state) ∧
        (store.consume codec state).1 = PendingStates.decodePending codec encoded := by
  have hserved : PendingStates.Served .default codec store _ _ _ :=
    PendingStates.serve_served (.consume state) store
  simp only [PendingStates.serve] at hserved
  generalize store.consume codec state = outcome at hserved ⊢
  obtain ⟨result, after⟩ := outcome
  dsimp only at hserved ⊢
  cases hserved with
  | untouched _ _ _ hconsumed =>
    exact .inl ⟨rfl, fun pending hresult => hconsumed pending (congrArg _ hresult)⟩
  | consumed _ encoded hvalue =>
    obtain ⟨deadline, hentry, -⟩ := ExpiringMap.get_eq_some.mp hvalue
    exact .inr ⟨encoded, deadline, hentry, rfl, rfl⟩

theorem consume_shrinks (state : String) (store : PendingStates) (stateHash : String)
    (entry : Expiring String)
    (hentry : (store.consume codec state).2.states stateHash = some entry) :
    store.states stateHash = some entry := by
  rcases consume_cases codec state store with ⟨hsame, -⟩ | ⟨_, _, -, herased, -⟩
  · rwa [hsame] at hentry
  · rw [herased] at hentry
    exact (ExpiringMap.erase_eq_some.mp hentry).2

theorem Signed.exchange {callback : Callback} {store : PendingStates} {exchange : Exchange}
    {nowMs : UInt64} (hopen : ∀ callback result, system.requests id ≠ .answered callback result)
    (hrequest : exchange.request = id) (h : Signed codec system) :
    Signed codec ({ system with
      store := store
      exchanges := system.exchanges ++ [exchange] }.put id (.exchanging callback nowMs)) := by
  have hkept {request : ℕ} (hmem : request ∈ system.exchanges.map Exchange.request) :
      request ∈ (system.exchanges ++ [exchange]).map Exchange.request := by
    rw [List.map_append]
    exact List.mem_append_left _ hmem
  have hadded : Signed codec { system with
      store := store
      exchanges := system.exchanges ++ [exchange] } :=
    ⟨h.formed, fun other hawaits => hkept (h.awaited other hawaits), fun created hcreated => by
      obtain ⟨hvalid, hexchange, hanswered⟩ := h.sessions created hcreated
      exact ⟨hvalid, hkept hexchange, hanswered⟩, h.once⟩
  refine hadded.put hopen trivial fun _ => ?_
  simp [hrequest]

/-- A callback is served by the store. -/
theorem Traced.consume {callback : Callback} {code state : String} (now : Option UInt64)
    (hrequest : system.requests id = .consuming callback code state)
    (h : Traced config codec system) :
    Traced config codec ({ system with
      store := (system.store.consume codec state).2
      exchanges := system.exchanges ++
        (consumed config id callback code now (system.store.consume codec state).1).2 }.put id
      (consumed config id callback code now (system.store.consume codec state).1).1) := by
  have hunserved : Unserved (system.requests id) := by
    rw [hrequest]
    trivial
  rcases consumed_cases config id callback code now
    (system.store.consume codec state).1 with
    ⟨error, houtcome⟩ | ⟨pending, nowMs, hreply, hnotBefore, hfresh, houtcome⟩
  · rw [houtcome, List.append_nil]
    exact (h.shrink (consume_shrinks state system.store)).put hunserved trivial not_false
  · rw [houtcome]
    obtain ⟨hsigned, owner, login, hbound⟩ := h
    rcases consume_cases codec state system.store with
      ⟨-, hnone⟩ | ⟨encoded, deadline, hentry, herased, hdecoded⟩
    · exact absurd hreply (hnone pending)
    · have hformed := hsigned.formed id
      rw [hrequest] at hformed
      have hpending := PendingStates.decode_of_decodePending (hdecoded.symm.trans hreply)
      refine ⟨hsigned.exchange ?_ rfl, owner, _,
        hbound.exchange hrequest hformed hentry hpending hnotBefore hfresh herased⟩
      intro callback result hanswered
      simp [hrequest] at hanswered

/-- A token is handed out. -/
theorem Traced.sign {callback : Callback} {session : SessionData} {token : String}
    (hrequest : system.requests id = .creating callback session) (h : Traced config codec system) :
    Traced config codec ({ system with sessions := system.sessions ++ [(id, session)] }.put id
      (.answered callback (.ok token))) := by
  have hawaits : AwaitsSession (system.requests id) := by
    rw [hrequest]
    trivial
  have hput : Traced config codec (system.put id (.answered callback (.ok token))) :=
    h.advance hawaits (.inr (.inl ⟨session, hrequest⟩)) (.inr (.inr ⟨_, rfl⟩)) trivial
  obtain ⟨hsigned, -⟩ := h
  obtain ⟨hsigned', owner, login, hbound⟩ := hput
  refine ⟨⟨hsigned'.formed, hsigned'.awaited, ?_, ?_⟩, owner, login,
    hbound.entries, hbound.unused, hbound.exchanges, hbound.once⟩
  · intro created hcreated
    rcases List.mem_append.mp hcreated with hcreated | hcreated
    · exact hsigned'.sessions created hcreated
    · obtain rfl := List.mem_singleton.mp hcreated
      have hformed := hsigned.formed id
      rw [hrequest] at hformed
      exact ⟨hformed, hsigned.awaited id hawaits, callback, token, AuthSystem.put_self⟩
  · have hnew : id ∉ system.sessions.map Prod.fst := by
      intro hmem
      obtain ⟨created, hcreated, rfl⟩ := List.mem_map.mp hmem
      obtain ⟨-, -, callback', token', hanswered⟩ := hsigned.sessions created hcreated
      simp [hrequest] at hanswered
    show ((system.sessions ++ [(id, session)]).map Prod.fst).Nodup
    rw [List.map_append]
    exact List.Nodup.append hsigned.once (List.nodup_singleton _) (by simpa using hnew)

/-- A login that is served writes a transaction that the store can give back. -/
def readsBack (codec : PendingCodec) (t : Taken AuthSystem AuthEvent) : Bool :=
  match t.label with
  | .served id _ _ _ =>
    match t.before.requests id with
    | .reserving nowMs material _ =>
      codec.decode (codec.encode ⟨material.verifier, nowMs⟩) = some ⟨material.verifier, nowMs⟩
    | _ => true
  | _ => true

theorem Traced.serve {now : Option UInt64} {tokens : Option (String × String)}
    (hread : ∀ nowMs material attempts, system.requests id = .reserving nowMs material attempts →
      codec.decode (codec.encode ⟨material.verifier, nowMs⟩) = some ⟨material.verifier, nowMs⟩)
    (h : Traced config codec system) :
    Traced config codec (AuthSystem.serve config codec id now tokens system) := by
  unfold AuthSystem.serve
  split
  · next nowMs material attempts hrequest =>
    exact h.reserve tokens hrequest (hread nowMs material attempts hrequest)
  · next callback code state hrequest => exact h.consume now hrequest
  · next callback state hrequest =>
    refine (h.shrink (consume_shrinks state system.store)).put ?_ trivial not_false
    rw [hrequest]
    trivial
  · exact h

theorem Traced.step {event : AuthEvent} {after : AuthSystem}
    (hread : readsBack codec ⟨system, event, after⟩) (h : Traced config codec system) :
    Traced config codec (AuthSystem.step config codec system event) := by
  cases event with
  | login id now tokens =>
    simp only [AuthSystem.step]
    split
    · next hrequest =>
      exact h.put (by rw [hrequest]; trivial) (beginLogin_formed now tokens).1
        (beginLogin_formed now tokens).2
    · exact h
  | callback id callback =>
    simp only [AuthSystem.step]
    split
    · next hrequest =>
      have hformed : Formed codec (receive callback) ∧ ¬ AwaitsSession (receive callback) :=
        receive_formed callback
      exact h.put (by rw [hrequest]; trivial) hformed.1 hformed.2
    · exact h
  | served id elapsed now tokens =>
    have hlater : Traced config codec
        { system with store := { system.store with now := system.store.now + elapsed } } :=
      h.shrink fun _ _ hentry => hentry
    refine hlater.serve fun nowMs material attempts hrequest => ?_
    simpa [readsBack, show system.requests id = _ from hrequest] using hread
  | exchanged id answer csrfToken =>
    simp only [AuthSystem.step]
    split
    · next callback nowMs hrequest =>
      have hformed : Formed codec (exchanged config callback nowMs csrfToken answer) ∧
          Consumed (exchanged config callback nowMs csrfToken answer) callback :=
        exchanged_formed callback nowMs csrfToken answer
      exact h.advance (by rw [hrequest]; trivial) (.inl ⟨nowMs, hrequest⟩) hformed.2 hformed.1
    · exact h
  | created id answer =>
    simp only [AuthSystem.step]
    split
    · next callback session hrequest =>
      cases answer with
      | error error =>
        exact h.advance (by rw [hrequest]; trivial) (.inr (.inl ⟨session, hrequest⟩))
          (.inr (.inr ⟨_, rfl⟩)) trivial
      | ok token => exact h.sign hrequest
    · exact h

theorem traced_start (now : ℕ) : Traced config codec (AuthSystem.start now) := by
  refine ⟨⟨fun _ => trivial, fun _ hawaits => hawaits.elim, ?_, List.nodup_nil⟩, fun _ => 0,
    fun _ => 0, ?_, ?_, ?_, List.Pairwise.nil⟩
  · intro created hcreated
    cases hcreated
  · intro stateHash value deadline hentry
    cases hentry
  · intro stateHash entry hentry
    cases hentry
  · intro exchange hexchange
    cases hexchange

theorem run_traced {start : ℕ} {taken : List (Taken AuthSystem AuthEvent)}
    (run : Runs config codec start taken system) (hread : ∀ t ∈ taken, readsBack codec t) :
    Traced config codec system := by
  refine run.invariant_of (I := fun _ system => Traced config codec system) (traced_start start)
    (fun _ before event after _ h hstep hok => ?_) hread
  exact hstep ▸ h.step hok

/-- Every code goes to Discord with the verifier of one login, whose page showed Discord the hash
of that verifier, for a browser that brought the state of the login back in the query and in its
cookie before the login was too old. No login and no request takes part in two exchanges, and every
session comes of an exchange of its own. -/
theorem login_flow_bound {start : ℕ} {taken : List (Taken AuthSystem AuthEvent)}
    (run : Runs config codec start taken system) (hread : ∀ t ∈ taken, readsBack codec t) :
    ∃ login : ℕ → ℕ,
      (∀ exchange ∈ system.exchanges, ∃ loginMs state callback,
        Issued config codec system (login exchange.request) loginMs state exchange.verifier ∧
          Presented config codec loginMs state callback exchange ∧
          Consumed (system.requests exchange.request) callback) ∧
      (system.exchanges.Pairwise fun exchange later =>
        exchange.request ≠ later.request ∧ login exchange.request ≠ login later.request) ∧
      (∀ created ∈ system.sessions, created.2.Valid ∧
        ∃ exchange ∈ system.exchanges, exchange.request = created.1) ∧
      (system.sessions.map Prod.fst).Nodup := by
  obtain ⟨hsigned, owner, login, hbound⟩ := run_traced run hread
  refine ⟨login, hbound.exchanges, hbound.once, fun created hcreated => ?_, hsigned.once⟩
  obtain ⟨hvalid, hexchange, -⟩ := hsigned.sessions created hcreated
  exact ⟨hvalid, List.mem_map.mp hexchange⟩

end steps

/-- A browser logs in and comes back. -/
def oneLogin : List AuthEvent :=
  [.login 0 (some 1000) (some (PendingStates.loginState, PendingStates.loginPending.verifier)),
    .served 0 5 none none,
    .callback 1 ⟨some "code", some PendingStates.loginState, none, some PendingStates.loginState⟩,
    .served 1 5 (some 2000) none,
    .exchanged 1 (.ok ⟨⟨.seven⟩, none, []⟩) (some PendingStates.loginState),
    .created 1 (.ok PendingStates.loginState)]

def oneLoginConfig : AuthConfig := ⟨⟨"1", "http://localhost/auth/callback"⟩, .default⟩

/-- The transitions of the login. -/
def oneLoginRun : List (Taken AuthSystem AuthEvent) × AuthSystem :=
  replay (AuthSystem.step oneLoginConfig PendingStates.loginCodec) (AuthSystem.start 1000) oneLogin

theorem login_flow_bound_oneLogin :
    oneLoginRun.2.exchanges = [⟨1, "code", PendingStates.loginPending.verifier, 2000⟩] ∧
      oneLoginRun.2.sessions.map Prod.fst = [1] ∧
      ∃ login : ℕ → ℕ, ∃ loginMs state,
        Issued oneLoginConfig PendingStates.loginCodec oneLoginRun.2 (login 1) loginMs state
          PendingStates.loginPending.verifier := by
  have hexchanges : oneLoginRun.2.exchanges =
      [⟨1, "code", PendingStates.loginPending.verifier, 2000⟩] := by decide +kernel
  have run : Runs oneLoginConfig PendingStates.loginCodec 1000 oneLoginRun.1 oneLoginRun.2 :=
    run_replay _ _ _
  obtain ⟨login, hbound, -⟩ := login_flow_bound run (by decide +kernel)
  obtain ⟨loginMs, state, -, hissued, -⟩ := hbound ⟨1, "code", _, 2000⟩
    (hexchanges ▸ List.mem_cons_self)
  exact ⟨hexchanges, by decide +kernel, login, loginMs, state, hissued⟩

end LoginFlow
end PepeAudio
