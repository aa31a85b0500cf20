import PepeAudio.Lib.Run
import Mathlib.Logic.Function.Basic

/-!
# Leases of managed media objects

Whoever plays an object holds a lease on it, and cleanup asks for a deletion
permit before it removes the file. The registry keeps both in one map behind a
mutex; the file system is looked at outside of it. Each step below is a stretch
between two awaits of one of the parties. The names of objects are never used
again, so that every object counts as there from the start until it is removed.
-/
namespace PepeAudio

/-- An absolute path, split at its last component. -/
structure MediaPath where
  parent : String
  fileName : String
  deriving DecidableEq, Repr

inductive FileKind where
  | regular
  | directory
  | link
  deriving DecidableEq, Repr

inductive ManagedMediaLeaseError where
  | inspect
  | unsafeObject
  | deletionInProgress
  | leaseCountExhausted
  deriving DecidableEq, Repr

inductive RegistryState where
  | leased (count : ℕ)
  | deleting
  deriving DecidableEq, Repr

/-- The greatest `usize`. -/
def USIZE_MAX : ℕ := 2 ^ 64 - 1

/-- A token with the leases that share it: one, and so many clones of it. -/
structure LeaseToken where
  path : MediaPath
  clones : ℕ
  deriving DecidableEq, Repr

/-- How far a call of `acquire` has come. -/
inductive Acquisition where
  /-- The path was that of a regular file. -/
  | measured (path : MediaPath)
  /-- The path was resolved; `overtaken` says that the object has been removed since. -/
  | inspected (canonical : MediaPath) (overtaken : Bool)
  deriving DecidableEq, Repr

/-- Where the objects are, and how directory links resolve a path. -/
structure MediaRoot where
  objects : String
  resolve : MediaPath → MediaPath

structure ManagedMedia where
  files : MediaPath → Option FileKind
  entries : MediaPath → Option RegistryState
  acquiring : List Acquisition
  tokens : List LeaseToken
  /-- The paths of the deletion permits that are held. -/
  permits : List MediaPath

inductive ManagedMediaEvent where
  | measure (path : MediaPath)
  | canonicalize (index : ℕ)
  | lock (index : ℕ)
  /-- The caller of `acquire` gives up. -/
  | cancel (index : ℕ)
  | clone (index : ℕ)
  | drop (index : ℕ)
  | beginDeletion (path : MediaPath)
  | remove (index : ℕ)
  | dropPermit (index : ℕ)
  deriving DecidableEq, Repr

inductive ManagedMediaReply where
  | none
  | acquired (result : Except ManagedMediaLeaseError MediaPath)
  | permitted (granted : Bool)
  | removed (success : Bool)
  deriving DecidableEq

def isManagedObjectName (name : String) : Bool :=
  name.utf8ByteSize = 32 && name.toList.all fun c => c.isDigit || ('a' ≤ c && c ≤ 'f')

/-- The object at a path has just been removed. -/
def Acquisition.overtake (removed : MediaPath) : Acquisition → Acquisition
  | .measured path => .measured path
  | .inspected canonical overtaken => .inspected canonical (overtaken || canonical = removed)

namespace ManagedMedia

def start (files : MediaPath → Option FileKind) : ManagedMedia := ⟨files, fun _ => none, [], [], []⟩

/-- The part of `acquire` behind the mutex. -/
def lease (canonical : MediaPath) (media : ManagedMedia) :
    Except ManagedMediaLeaseError MediaPath × ManagedMedia :=
  match media.entries canonical with
  | some (.leased count) =>
    if count < USIZE_MAX then
      (.ok canonical, { media with
        entries := Function.update media.entries canonical (some (.leased (count + 1)))
        tokens := media.tokens ++ [⟨canonical, 0⟩] })
    else (.error .leaseCountExhausted, media)
  | some .deleting => (.error .deletionInProgress, media)
  | none =>
    (.ok canonical, { media with
      entries := Function.update media.entries canonical (some (.leased 1))
      tokens := media.tokens ++ [⟨canonical, 0⟩] })

/-- `LeaseToken::drop`. -/
def dropToken (path : MediaPath) (entries : MediaPath → Option RegistryState) :
    MediaPath → Option RegistryState :=
  match entries path with
  | some (.leased 1) => Function.update entries path none
  | some (.leased count) => Function.update entries path (some (.leased (count - 1)))
  | some .deleting | none => entries

/-- `ManagedDeletionPermit::drop`. -/
def dropPermit (path : MediaPath) (entries : MediaPath → Option RegistryState) :
    MediaPath → Option RegistryState :=
  if entries path = some .deleting then Function.update entries path none else entries

def step (root : MediaRoot) (media : ManagedMedia) :
    ManagedMediaEvent → ManagedMediaReply × ManagedMedia
  | .measure path =>
    match media.files (root.resolve path) with
    | none => (.acquired (.error .inspect), media)
    | some .regular => (.none, { media with acquiring := media.acquiring ++ [.measured path] })
    | some _ => (.acquired (.error .unsafeObject), media)
  | .canonicalize index =>
    match media.acquiring[index]? with
    | some (.measured path) =>
      let left := { media with acquiring := media.acquiring.eraseIdx index }
      let canonical := root.resolve path
      if media.files canonical = none then (.acquired (.error .inspect), left)
      else if canonical.parent ≠ root.objects || !isManagedObjectName canonical.fileName then
        (.acquired (.error .unsafeObject), left)
      else
        (.none, { media with acquiring := media.acquiring.set index (.inspected canonical false) })
    | _ => (.none, media)
  | .lock index =>
    match media.acquiring[index]? with
    | some (.inspected canonical _) =>
      let outcome := { media with acquiring := media.acquiring.eraseIdx index }.lease canonical
      (.acquired outcome.1, outcome.2)
    | _ => (.none, media)
  | .cancel index => (.none, { media with acquiring := media.acquiring.eraseIdx index })
  | .clone index =>
    match media.tokens[index]? with
    | none => (.none, media)
    | some token =>
      (.none, { media with
        tokens := media.tokens.set index { token with clones := token.clones + 1 } })
  | .drop index =>
    match media.tokens[index]? with
    | none => (.none, media)
    | some token =>
      match token.clones with
      | 0 =>
        (.none, { media with
          entries := dropToken token.path media.entries
          tokens := media.tokens.eraseIdx index })
      | clones + 1 =>
        (.none, { media with tokens := media.tokens.set index { token with clones := clones } })
  | .beginDeletion path =>
    if (media.entries path).isSome then (.permitted false, media)
    else
      (.permitted true, { media with
        entries := Function.update media.entries path (some .deleting)
        permits := media.permits ++ [path] })
  | .remove index =>
    match media.permits[index]? with
    | none => (.none, media)
    | some path =>
      match media.files path with
      | none | some .directory => (.removed false, media)
      | some _ =>
        (.removed true, { media with
          files := Function.update media.files path none
          acquiring := media.acquiring.map (Acquisition.overtake path) })
  | .dropPermit index =>
    match media.permits[index]? with
    | none => (.none, media)
    | some path =>
      (.none, { media with
        entries := dropPermit path media.entries
        permits := media.permits.eraseIdx index })

/-- The runs of a registry that starts over a file system. -/
def Runs (root : MediaRoot) (files : MediaPath → Option FileKind)
    (taken : List (Taken ManagedMedia (ManagedMediaEvent × ManagedMediaReply)))
    (media : ManagedMedia) : Prop :=
  Run (Follows (step root)) (start files) taken media

end ManagedMedia

end PepeAudio
