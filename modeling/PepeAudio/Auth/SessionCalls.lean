import PepeAudio.Auth.SessionRefresh
import PepeAudio.Lib.Run

/-!
# Concurrent session calls

A call sends one command to the server after the other, and the commands of
other calls may come between them. A script is one command, and so is a creation:
its fresh token is free, so that the first attempt succeeds. A creation reads the
clock at some time before its script runs; a load reads it at some time between its
first command and its script.
-/
namespace PepeAudio

open StoredSessions

inductive SessionRequest where
  | load (opaqueToken : String)
  | loadBound (userId : UserId) (sessionFingerprint : String)
  | destroy (opaqueToken : String)
  deriving DecidableEq, Repr

inductive SessionReply where
  | loaded (result : Except RepositoryError (Option SessionData))
  | destroyed (result : Except RepositoryError Unit)
  deriving DecidableEq

namespace SessionRequest

/-- The hash of the token a request presents. -/
def hash (opaqueHash : String → String) : SessionRequest → String
  | .load opaqueToken => opaqueHash opaqueToken
  | .loadBound _ sessionFingerprint => sessionFingerprint
  | .destroy opaqueToken => opaqueHash opaqueToken

def validate : SessionRequest → Except RepositoryError Unit
  | .load opaqueToken => validateOpaqueToken opaqueToken
  | .loadBound _ sessionFingerprint => validateHash sessionFingerprint
  | .destroy opaqueToken => validateOpaqueToken opaqueToken

def expectedUser : SessionRequest → Option UserId
  | .loadBound userId _ => some userId
  | _ => none

def failed (error : RepositoryError) : SessionRequest → SessionReply
  | .destroy _ => .destroyed (.error error)
  | _ => .loaded (.error error)

/-- The reply where there is no session. -/
def absent : SessionRequest → SessionReply
  | .destroy _ => .destroyed (.ok ())
  | _ => .loaded (.ok none)

end SessionRequest

/-- Where a call stands between two of its commands. -/
inductive SessionStage where
  /-- Nothing is read yet. -/
  | sent
  /-- The record has been read. -/
  | peeked (session : SessionData)
  /-- The script of a load has returned the session, and the pointer is read next. -/
  | refreshed (loaded : SessionData)
  /-- The pointer names the session to destroy. -/
  | current (session : SessionData)
  | done (reply : SessionReply)
  deriving DecidableEq

/-- The script of a load that has peeked at a session. -/
def refresh (policy : SessionPolicy) (hash : String) (request : SessionRequest) (nowMs : ℕ)
    (session : SessionData) (store : StoredSessions) : SessionStage × StoredSessions :=
  match effectiveSessionExpiry session policy.absoluteTtlMs with
  | .error error => (.done (request.failed error), store)
  | .ok expiry =>
    match store.loadAndRefreshSession hash session.userId nowMs policy.idleTtlMs expiry with
    | (.error error, store) => (.done (request.failed error), store)
    | (.ok encoded, store) =>
      match transposed encoded with
      | .error error => (.done (request.failed error), store)
      | .ok none => (.done request.absent, store)
      | .ok (some loaded) =>
        match request with
        | .load _ => (.refreshed loaded, store)
        | _ => (.done (.loaded (.ok (some loaded))), store)

/-- Send the next command of a call, with a reading of the clock. -/
def SessionStage.advance (policy : SessionPolicy) (opaqueHash : String → String)
    (request : SessionRequest) (nowMs : ℕ) (stage : SessionStage) (store : StoredSessions) :
    SessionStage × StoredSessions :=
  let hash := request.hash opaqueHash
  match stage with
  | .sent =>
    match request.validate with
    | .error error => (.done (request.failed error), store)
    | .ok () =>
      match store.peekByHash hash with
      | .error error => (.done (request.failed error), store)
      | .ok none => (.done request.absent, store)
      | .ok (some session) =>
        if request.expectedUser.any (· ≠ session.userId) then
          (.done (request.failed .corrupt), store)
        else (.peeked session, store)
  | .peeked session =>
    match request with
    | .destroy _ =>
      if store.currentUser.get store.now session.userId ≠ some hash then
        (.done request.absent, store)
      else (.current session, store)
    | _ => refresh policy hash request nowMs session store
  | .refreshed loaded => (.done (.loaded (.ok (store.currentOnly hash loaded))), store)
  | .current session => (.done (.destroyed (.ok ())), store.destroySession hash session.userId)
  | .done reply => (.done reply, store)

/-- Three commands with nothing between them. -/
def finishSession (policy : SessionPolicy) (opaqueHash : String → String) (request : SessionRequest)
    (nowMs : ℕ) (store : StoredSessions) : SessionStage × StoredSessions :=
  let first := SessionStage.sent.advance policy opaqueHash request nowMs store
  let second := first.1.advance policy opaqueHash request nowMs first.2
  second.1.advance policy opaqueHash request nowMs second.2

variable {policy : SessionPolicy} {opaqueHash : String → String} {nowMs : ℕ}

/-- A load without interruption is the load of the source. -/
theorem finish_load (opaqueToken : String) (store : StoredSessions) :
    finishSession policy opaqueHash (.load opaqueToken) nowMs store =
      (.done (.loaded (store.load policy opaqueHash nowMs opaqueToken).1),
        (store.load policy opaqueHash nowMs opaqueToken).2) := by
  unfold finishSession StoredSessions.load
  simp only [SessionStage.advance, SessionRequest.validate]
  cases hvalid : validateOpaqueToken opaqueToken with
  | error error => rfl
  | ok =>
    simp only [SessionRequest.hash, SessionRequest.expectedUser, Option.any_none,
      Bool.false_eq_true, if_false, loadByHash]
    cases hpeek : store.peekByHash (opaqueHash opaqueToken) with
    | error error => rfl
    | ok peeked =>
      cases peeked with
      | none => rfl
      | some session =>
        simp only [refresh]
        cases hexpiry : effectiveSessionExpiry session policy.absoluteTtlMs with
        | error error => rfl
        | ok expiry =>
          dsimp only
          generalize store.loadAndRefreshSession (opaqueHash opaqueToken) session.userId nowMs
            policy.idleTtlMs expiry = script
          obtain ⟨reply, store'⟩ := script
          cases reply with
          | error error => rfl
          | ok encoded =>
            dsimp only
            cases transposed encoded with
            | error error => rfl
            | ok found =>
              cases found with
              | none => rfl
              | some loaded => rfl

theorem finish_loadBound (userId : UserId) (sessionFingerprint : String) (store : StoredSessions) :
    finishSession policy opaqueHash (.loadBound userId sessionFingerprint) nowMs store =
      (.done (.loaded (store.loadBound policy nowMs userId sessionFingerprint).1),
        (store.loadBound policy nowMs userId sessionFingerprint).2) := by
  unfold finishSession StoredSessions.loadBound
  simp only [SessionStage.advance, SessionRequest.validate]
  cases hvalid : validateHash sessionFingerprint with
  | error error => rfl
  | ok =>
    simp only [SessionRequest.hash, SessionRequest.expectedUser, loadByHash]
    cases hpeek : store.peekByHash sessionFingerprint with
    | error error => rfl
    | ok peeked =>
      cases peeked with
      | none => rfl
      | some session =>
        by_cases hmismatch : (some userId).any (· ≠ session.userId) = true
        · simp only [hmismatch, if_true]
          rfl
        simp only [hmismatch, Bool.false_eq_true, if_false, refresh]
        cases hexpiry : effectiveSessionExpiry session policy.absoluteTtlMs with
        | error error => rfl
        | ok expiry =>
          dsimp only
          generalize store.loadAndRefreshSession sessionFingerprint session.userId nowMs
            policy.idleTtlMs expiry = script
          obtain ⟨reply, store'⟩ := script
          cases reply with
          | error error => rfl
          | ok encoded =>
            dsimp only
            cases transposed encoded with
            | error error => rfl
            | ok found =>
              cases found with
              | none => rfl
              | some loaded => rfl

theorem finish_destroy (opaqueToken : String) (store : StoredSessions) :
    finishSession policy opaqueHash (.destroy opaqueToken) nowMs store =
      (.done (.destroyed (store.destroy opaqueHash opaqueToken).1),
        (store.destroy opaqueHash opaqueToken).2) := by
  unfold finishSession StoredSessions.destroy
  cases hvalid : validateOpaqueToken opaqueToken with
  | error error =>
    simp only [SessionStage.advance, SessionRequest.validate, hvalid]
    rfl
  | ok =>
    cases hpeek : store.peekByHash (opaqueHash opaqueToken) with
    | error error =>
      simp only [SessionStage.advance, SessionRequest.validate, hvalid, SessionRequest.hash, hpeek]
      rfl
    | ok peeked =>
      cases peeked with
      | none =>
        simp only [SessionStage.advance, SessionRequest.validate, hvalid, SessionRequest.hash,
          hpeek]
        rfl
      | some session =>
        simp only [SessionStage.advance, SessionRequest.validate, hvalid, SessionRequest.hash,
          hpeek,
          SessionRequest.expectedUser, Option.any_none, Bool.false_eq_true, if_false]
        by_cases hpointer : store.currentUser.get store.now session.userId =
          some (opaqueHash opaqueToken)
        · simp only [hpointer, ne_eq, not_true_eq_false, if_false]
        · simp only [ne_eq, hpointer, not_false_eq_true, if_true]
          rfl

/-- Everything a command may do. -/
inductive SessionStage.Advanced (policy : SessionPolicy) (opaqueHash : String → String)
    (request : SessionRequest) (nowMs : ℕ) (store : StoredSessions) :
    SessionStage → SessionStage → StoredSessions → Prop
  | ended (reply : SessionReply) :
      Advanced policy opaqueHash request nowMs store (.done reply) (.done reply) store
  | failed (stage : SessionStage) (error : RepositoryError) :
      Advanced policy opaqueHash request nowMs store stage (.done (request.failed error)) store
  | missing (hrecord : store.records.get store.now (request.hash opaqueHash) = none) :
      Advanced policy opaqueHash request nowMs store .sent (.done request.absent) store
  | peeked (session : SessionData)
      (hpeek : store.peekByHash (request.hash opaqueHash) = .ok (some session)) :
      Advanced policy opaqueHash request nowMs store .sent (.peeked session) store
  | superseded (session : SessionData)
      (hpointer : store.currentUser.get store.now session.userId ≠
        some (request.hash opaqueHash)) :
      Advanced policy opaqueHash request nowMs store (.peeked session) (.done request.absent) store
  | named (session : SessionData) :
      Advanced policy opaqueHash request nowMs store (.peeked session) (.current session) store
  | unreturned (session : SessionData) :
      Advanced policy opaqueHash request nowMs store (.peeked session)
        (.done (.loaded (.ok none))) store
  | expired (session : SessionData) :
      Advanced policy opaqueHash request nowMs store (.peeked session)
        (.done (.loaded (.ok none)))
        (store.destroySession (request.hash opaqueHash) session.userId)
  | refreshed (session : SessionData) (stage : SessionStage) (encoded : JsonText)
      (fields : List (String × LuaValue)) (expires expiresAt : ℕ)
      (hrecord : store.records.get store.now (request.hash opaqueHash) = some encoded)
      (hpointer : store.currentUser.get store.now session.userId = some (request.hash opaqueHash))
      (hfields : decodedFields encoded = some fields)
      (hlive : toDouble nowMs < expires)
      (hexpires : expires < 10 ^ 14 → expires ≤ session.expiresAtMs.toNat)
      (hexpiresAt : expiresAt ≤ store.now + policy.idleTtlMs)
      (hstage : (∃ loaded,
          decodeSession (refreshedText expires (toDouble nowMs) fields) = .ok loaded ∧
          (stage = .refreshed loaded ∨ stage = .done (.loaded (.ok (some loaded))))) ∨
        ∃ error, stage = .done (request.failed error)) :
      Advanced policy opaqueHash request nowMs store (.peeked session) stage
        { store with
          records := store.records.set (request.hash opaqueHash)
            (refreshedText expires (toDouble nowMs) fields) expiresAt }
  | returned (loaded : SessionData)
      (hpointer : store.currentUser.get store.now loaded.userId =
        some (request.hash opaqueHash)) :
      Advanced policy opaqueHash request nowMs store (.refreshed loaded)
        (.done (.loaded (.ok (some loaded)))) store
  | withheld (loaded : SessionData) :
      Advanced policy opaqueHash request nowMs store (.refreshed loaded)
        (.done (.loaded (.ok none))) store
  | destroyed (session : SessionData) :
      Advanced policy opaqueHash request nowMs store (.current session)
        (.done (.destroyed (.ok ())))
        (store.destroySession (request.hash opaqueHash) session.userId)

theorem refresh_advanced {request : SessionRequest}
    (hload : request.absent = .loaded (.ok none)) (nowMs : ℕ) (session : SessionData)
    (store : StoredSessions) :
    SessionStage.Advanced policy opaqueHash request nowMs store (.peeked session)
      (refresh policy (request.hash opaqueHash) request nowMs session store).1
      (refresh policy (request.hash opaqueHash) request nowMs session store).2 := by
  have hidle : toDouble policy.idleTtlMs = policy.idleTtlMs := by
    have hle := policy.idle_le
    have hle' := policy.absolute_le
    exact toDouble_of_lt (by omega)
  unfold refresh
  cases hexpiry : effectiveSessionExpiry session policy.absoluteTtlMs with
  | error error => exact .failed _ error
  | ok expiry =>
    dsimp only
    rcases loadAndRefreshSession_cases (request.hash opaqueHash) session.userId nowMs
      policy.idleTtlMs expiry store with ⟨reply, hreply, hcases⟩ | hcases |
      ⟨encoded, fields, expires, hrecord, hpointer, hfields, -, hlive, hcases⟩
    · rw [hcases]
      cases reply with
      | error error => exact .failed _ error
      | ok text =>
        cases text with
        | none =>
          simp only [transposed, hload]
          exact .unreturned session
        | some text => exact absurd rfl (hreply text)
    · rw [hcases]
      simp only [transposed, hload]
      exact .expired session
    · rw [hcases]
      have hdeadline : store.now +
          min (min expires (toDouble expiry) - toDouble nowMs) (toDouble policy.idleTtlMs) ≤
          store.now + policy.idleTtlMs := by omega
      have hend : min expires (toDouble expiry) < 10 ^ 14 →
          min expires (toDouble expiry) ≤ session.expiresAtMs.toNat := by
        intro hshort
        have hexpiry : expiry ≤ session.expiresAtMs.toNat := by
          unfold effectiveSessionExpiry at hexpiry
          split_ifs at hexpiry
          obtain rfl := Except.ok.inj hexpiry
          exact Nat.min_le_left _ _
        by_cases hlong : expiry < 10 ^ 14
        · rw [toDouble_of_lt (by omega)]
          omega
        · omega
      cases hdecoded : decodeSession
          (refreshedText (min expires (toDouble expiry)) (toDouble nowMs) fields) with
      | error error =>
        simp only [transposed, hdecoded, Except.map]
        exact .refreshed session _ encoded fields _ _ hrecord hpointer hfields hlive hend
            hdeadline
          (.inr ⟨error, rfl⟩)
      | ok loaded =>
        simp only [transposed, hdecoded, Except.map]
        cases request with
        | load opaqueToken =>
          exact .refreshed session _ encoded fields _ _ hrecord hpointer hfields hlive hend
            hdeadline
            (.inl ⟨loaded, hdecoded, .inl rfl⟩)
        | loadBound userId sessionFingerprint =>
          exact .refreshed session _ encoded fields _ _ hrecord hpointer hfields hlive hend
            hdeadline
            (.inl ⟨loaded, hdecoded, .inr rfl⟩)
        | destroy opaqueToken => contradiction

theorem advance_advanced (request : SessionRequest) (nowMs : ℕ) (stage : SessionStage)
    (store : StoredSessions) :
    SessionStage.Advanced policy opaqueHash request nowMs store stage
      (stage.advance policy opaqueHash request nowMs store).1
      (stage.advance policy opaqueHash request nowMs store).2 := by
  cases stage with
  | sent =>
    simp only [SessionStage.advance]
    cases request.validate with
    | error error => exact .failed _ error
    | ok =>
      dsimp only
      cases hpeek : store.peekByHash (request.hash opaqueHash) with
      | error error => exact .failed _ error
      | ok peeked =>
        cases peeked with
        | none =>
          refine .missing ?_
          unfold peekByHash at hpeek
          cases hrecord : store.records.get store.now (request.hash opaqueHash) with
          | none => rfl
          | some encoded =>
            rw [hrecord, transposed] at hpeek
            cases hdecoded : decodeSession encoded with
            | error error => simp [hdecoded, Except.map] at hpeek
            | ok session => simp [hdecoded, Except.map] at hpeek
        | some session =>
          dsimp only
          split
          · exact .failed _ .corrupt
          · exact .peeked session hpeek
  | peeked session =>
    cases request with
    | load opaqueToken => exact refresh_advanced rfl nowMs session store
    | loadBound userId sessionFingerprint => exact refresh_advanced rfl nowMs session store
    | destroy opaqueToken =>
      simp only [SessionStage.advance]
      split
      · rename_i hpointer
        exact .superseded session hpointer
      · exact .named session
  | refreshed loaded =>
    simp only [SessionStage.advance, currentOnly]
    split
    · rename_i hpointer
      exact .returned loaded hpointer
    · exact .withheld loaded
  | current session => exact .destroyed session
  | done reply => exact .ended reply

structure SessionCall where
  request : SessionRequest
  stage : SessionStage
  /-- The server's clock at the last command of the call, or at its start. -/
  since : ℕ
  deriving DecidableEq

structure SessionSystem where
  store : StoredSessions
  /-- The sessions that were created so far, under the hashes of their tokens. -/
  issued : List (String × SessionData)
  calls : List SessionCall

inductive SessionAction where
  | pass (elapsed : ℕ)
  /-- The script of a creation, with its reading of the clock and the random tokens it draws. -/
  | create (nowMs : ℕ) (session : SessionData) (tokens : List String)
  | begin (request : SessionRequest)
  /-- The next command of a call, with its reading of the clock. -/
  | advance (index nowMs : ℕ)

namespace SessionSystem

def initial (now : ℕ) : SessionSystem := ⟨.empty now, [], []⟩

variable (policy : SessionPolicy) (opaqueHash : String → String)

/-- Random tokens are new. A creation has read the clock before its script, and a load between two
commands. Anything else is not possible and changes nothing. -/
def step (system : SessionSystem) : SessionAction → SessionSystem
  | .pass elapsed =>
    { system with store := { system.store with now := system.store.now + elapsed } }
  | .create nowMs session tokens =>
    if nowMs ≤ system.store.now ∧
        ∀ token ∈ tokens, opaqueHash token ∉ system.issued.map Prod.fst then
      match system.store.create policy opaqueHash nowMs session tokens with
      | (.ok token, store) =>
        { system with store, issued := system.issued ++ [(opaqueHash token, session)] }
      | (.error _, store) => { system with store }
    else system
  | .begin request =>
    { system with calls := system.calls ++ [⟨request, .sent, system.store.now⟩] }
  | .advance index nowMs =>
    match system.calls[index]? with
    | none => system
    | some call =>
      if call.since ≤ nowMs ∧ nowMs ≤ system.store.now then
        let advanced := call.stage.advance policy opaqueHash call.request nowMs system.store
        { system with
          store := advanced.2
          calls := system.calls.set index ⟨call.request, advanced.1, system.store.now⟩ }
      else system

abbrev Runs (start : SessionSystem)
    (taken : List (Taken SessionSystem SessionAction)) (system : SessionSystem) : Prop :=
  Run (fun s action s' => step policy opaqueHash s action = s') start taken system

end SessionSystem

end PepeAudio
