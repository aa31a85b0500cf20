import PepeAudio.Auth.Repository
import PepeAudio.Lib.ExpiringMap
import PepeAudio.Lib.Run
import PepeAudio.Lib.ScoredSet

/-!
# One-time OAuth states

A login transaction lives under a key that expires, and in a sorted set scored
by the same deadline that counts the pending ones and expires itself. The
scripts run atomically at the server's time, whose milliseconds Lua's numbers
hold exactly. The hash of a state and the JSON text of a transaction are
parameters.
-/
namespace PepeAudio

/-- One pending, one-time OAuth transaction. -/
structure PendingOAuth where
  /-- PKCE verifier. -/
  verifier : String
  createdAtMs : UInt64
  deriving DecidableEq, Repr

/-- The code outside the repository the store is built on: SHA-256 and the JSON of a
transaction. -/
structure PendingCodec where
  opaqueHash : String → String
  encode : PendingOAuth → String
  decode : String → Option PendingOAuth

/-- What the server holds of the login transactions. -/
structure PendingStates where
  /-- The server's clock in milliseconds. -/
  now : ℕ
  /-- The keys of the states, by the hash of the state. -/
  states : ExpiringMap String String
  /-- The members of the sorted set, scored by their deadlines. -/
  index : ScoredSet String
  /-- When the key of the sorted set expires. -/
  indexExpiresAt : ℕ

namespace PendingStates

def MAX_PENDING_OAUTH_STATES : ℕ := 4096

def MAX_PENDING_JSON_BYTES : ℕ := 1024

/-- A server without pending transactions. -/
def empty (now : ℕ) : PendingStates := ⟨now, fun _ => none, ∅, 0⟩

/-- The sorted set as a command finds it. -/
def liveIndex (store : PendingStates) : ScoredSet String :=
  if store.now < store.indexExpiresAt then store.index else ∅

/-- The reply of the script that reserves a state. -/
inductive ReserveReply where
  | full
  | taken
  | reserved
  deriving DecidableEq, Repr

def reserveState (stateHash value : String) (ttl counterTtl capacity : ℕ) (store : PendingStates) :
    ReserveReply × PendingStates :=
  let index := store.liveIndex.removeUpTo store.now
  if capacity ≤ index.card then (.full, { store with index := index })
  else match store.states.get store.now stateHash with
    | some _ => (.taken, { store with index := index })
    | none =>
      (.reserved, { store with
        states := store.states.set stateHash value (store.now + ttl)
        index := index.add stateHash (store.now + ttl)
        indexExpiresAt := store.now + counterTtl })

/-- The value under the state and the server without it. A sorted set that is left empty has no
key any more, which is the same as an empty one. -/
def consumeState (stateHash : String) (store : PendingStates) : Option String × PendingStates :=
  match store.states.get store.now stateHash with
  | none => (none, store)
  | some value =>
    (some value, { store with
      states := store.states.erase stateHash
      index := store.liveIndex.remove stateHash })

variable (policy : SessionPolicy) (codec : PendingCodec)

def reserve (state : String) (pending : PendingOAuth) (store : PendingStates) :
    Except RepositoryError Unit × PendingStates :=
  if !isTokenShape state then (.error .corrupt, store)
  else
    let counterTtl := policy.stateTtlMs * 2
    if UInt64.size ≤ counterTtl then (.error .corrupt, store)
    else
      match store.reserveState (codec.opaqueHash state) (codec.encode pending) policy.stateTtlMs
          counterTtl MAX_PENDING_OAUTH_STATES with
      | (.reserved, store) => (.ok (), store)
      | (.taken, store) => (.error .collision, store)
      | (.full, store) => (.error .capacityExceeded, store)

/-- The transaction in a text the server returned. -/
def decodePending (encoded : String) : Except RepositoryError (Option PendingOAuth) :=
  if MAX_PENDING_JSON_BYTES < encoded.utf8ByteSize then .error .corrupt
  else match codec.decode encoded with
    | none => .error .corrupt
    | some pending =>
      if isTokenShape pending.verifier then .ok (some pending) else .error .corrupt

def consume (state : String) (store : PendingStates) :
    Except RepositoryError (Option PendingOAuth) × PendingStates :=
  if !isTokenShape state then (.error .corrupt, store)
  else match store.consumeState (codec.opaqueHash state) with
    | (none, store) => (.ok none, store)
    | (some encoded, store) => (decodePending codec encoded, store)

inductive Call where
  | reserve (state : String) (pending : PendingOAuth)
  | consume (state : String)
  deriving DecidableEq, Repr

/-- The state a call presents. -/
def Call.state : Call → String
  | .reserve state _ => state
  | .consume state => state

inductive Reply where
  | reserved (result : Except RepositoryError Unit)
  | consumed (result : Except RepositoryError (Option PendingOAuth))
  deriving DecidableEq

def serve : Call → PendingStates → Reply × PendingStates
  | .reserve state pending, store =>
    let outcome := store.reserve policy codec state pending
    (.reserved outcome.1, outcome.2)
  | .consume state, store =>
    let outcome := store.consume codec state
    (.consumed outcome.1, outcome.2)

/-- A call that reaches the server some time after the one before. -/
def step (store : PendingStates) (input : ℕ × Call) : Reply × PendingStates :=
  serve policy codec input.2 { store with now := store.now + input.1 }

abbrev Runs (start : ℕ) (taken : List (Taken PendingStates ((ℕ × Call) × Reply)))
    (store : PendingStates) : Prop :=
  Run (Follows (step policy codec)) (empty start) taken store

end PendingStates

end PepeAudio
