import Mathlib.Tactic.TypeStar

/-!
# Storage errors
-/
namespace PepeAudio

inductive StorageError where
  | database
  | valkey
  | corruptData (entity field : String)
  | invalidIdentifier (kind reason : String)
  | durationOutOfRange (operation : String)
  | capacityExceeded (resource : String)
  | rateLimited (resource : String) (retryAfterSeconds : Nat)
  deriving DecidableEq, Repr

end PepeAudio
