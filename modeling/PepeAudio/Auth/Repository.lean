import Mathlib.Tactic.Common

/-!
# The authentication repository

What the stores of login transactions and of sessions share: the failures they
report, the shape of opaque credentials and the lifetimes of a deployment.
Credentials are hashed with SHA-256 before they reach the server.
-/
namespace PepeAudio

inductive RepositoryError where
  | invalidToken
  | unavailable
  | corrupt
  | collision
  | capacityExceeded
  deriving DecidableEq, Repr

def isBase64Url (value : String) : Bool :=
  value.toList.all fun c => c.isAlphanum || c = '-' || c = '_'

/-- The shape of 32 random bytes, and of their hash, in URL-safe Base64. -/
def isTokenShape (value : String) : Bool := value.utf8ByteSize = 43 && isBase64Url value

/-- The lifetimes of a deployment in milliseconds, with what the constructors check of them. -/
structure SessionPolicy where
  /-- Hard lifetime which sliding refresh may never exceed. -/
  absoluteTtlMs : ℕ
  /-- Sliding inactivity lifetime. -/
  idleTtlMs : ℕ
  /-- One-time OAuth state lifetime. -/
  stateTtlMs : ℕ
  absolute_pos : 0 < absoluteTtlMs
  idle_pos : 0 < idleTtlMs
  state_pos : 0 < stateTtlMs
  idle_le : idleTtlMs ≤ absoluteTtlMs
  absolute_le : absoluteTtlMs ≤ 30 * 60 * 1000
  state_le : stateTtlMs ≤ 10 * 60 * 1000

/-- Half an hour for a session, five minutes for a login. -/
def SessionPolicy.default : SessionPolicy where
  absoluteTtlMs := 30 * 60 * 1000
  idleTtlMs := 30 * 60 * 1000
  stateTtlMs := 5 * 60 * 1000
  absolute_pos := by decide
  idle_pos := by decide
  state_pos := by decide
  idle_le := by decide
  absolute_le := by decide
  state_le := by decide

end PepeAudio
