import PepeAudio.Lib.Counter
import PepeAudio.Lib.Program
import PepeAudio.Lib.Totals
import PepeAudio.Media.LeaseRegistry

/-!
# Capacity of the managed media root

One mutex guards how many bytes and files are charged. A reservation holds bytes
for a file before it is written and may grow; it ends when its file is recorded,
when the file could not be deleted and is recorded for that, or when it is dropped.
-/
namespace PepeAudio

inductive JanitorError where
  | unsafeRoot
  | unsafeManagedDirectory (name : String)
  | unsafeManagedEntry
  | readDirectory
  | invalidCapacity
  | capacityScanLimitExceeded
  | capacityAccountingOverflow
  | capacityExceededAtStartup
  deriving DecidableEq, Repr

inductive StoreError where
  | capacityExceeded
  | accounting
  deriving DecidableEq, Repr

/-- The recorded files with their sizes. -/
abbrev ManagedFiles : Type := AList fun _ : MediaPath => UInt64

structure CapacityState where
  chargedBytes : UInt64
  entries : ManagedFiles
  reservations : UInt64

structure CapacityInner where
  maximumBytes : UInt64
  maximumEntries : UInt64
  state : CapacityState

structure CapacityReservation where
  chargedBytes : UInt64
  active : Bool
  deriving DecidableEq, Repr

structure ManagedMediaCapacityUsage where
  usedBytes : UInt64
  reservedBytes : UInt64
  maximumBytes : UInt64
  managedFiles : ℕ
  reservations : UInt64
  maximumEntries : UInt64

def fits (current additional maximum : UInt64) : Bool :=
  match checkedAdd current additional with
  | some total => total ≤ maximum
  | none => false

/-- What the file system says about one entry of a directory. A name that is no text, metadata
that cannot be read and a path that cannot be resolved are `none`. -/
structure DirectoryEntry where
  fileName : Option String
  metadata : Option (FileKind × UInt64)
  canonical : Option MediaPath

/-- The entries in the order in which they are read; `none` is a failure to read on. -/
abbrev DirectoryListing : Type := List (Option DirectoryEntry)

def isManagedName (name : String) (staging : Bool) : Bool :=
  if staging then
    match name.dropSuffix? ".part" with
    | some identifier => isManagedObjectName identifier.toString
    | none => false
  else isManagedObjectName name

/-- The loop of `scan_directory`. -/
def scanEntries (directory : String) (staging : Bool) (maximumEntries : UInt64) :
    DirectoryListing → ManagedFiles × UInt64 → Except JanitorError (ManagedFiles × UInt64)
  | [], scanned => .ok scanned
  | none :: _, _ => .error .readDirectory
  | some entry :: listing, (entries, chargedBytes) =>
    if maximumEntries.toNat ≤ entries.entries.length then .error .capacityScanLimitExceeded
    else match entry.fileName with
    | none => .error .unsafeManagedEntry
    | some name =>
      if isManagedName name staging = false then .error .unsafeManagedEntry
      else match entry.metadata, entry.canonical with
      | some (.regular, length), some canonical =>
        if canonical ≠ ⟨directory, name⟩ ∨ canonical.parent ≠ directory then
          .error .unsafeManagedEntry
        else match checkedAdd chargedBytes length with
        | none => .error .capacityAccountingOverflow
        | some chargedBytes =>
          if canonical ∈ entries then .error .unsafeManagedEntry
          else scanEntries directory staging maximumEntries listing
            (entries.insert canonical length, chargedBytes)
      | _, _ => .error .unsafeManagedEntry

/-- `none` is a directory that cannot be opened. -/
def scanDirectory (directory : String) (staging : Bool) (maximumEntries : UInt64)
    (listing : Option DirectoryListing) (scanned : ManagedFiles × UInt64) :
    Except JanitorError (ManagedFiles × UInt64) :=
  match listing with
  | none => .error .readDirectory
  | some listing => scanEntries directory staging maximumEntries listing scanned

structure ManagedPaths where
  staging : String
  objects : String

/-- `CapacityTracker::initialize`. `validated` is what `ManagedPaths::validate` finds, the listings
are what can be read of the two directories. -/
def initializeCapacity (paths : ManagedPaths) (validated : Except JanitorError Unit)
    (staging objects : Option DirectoryListing) (maximumBytes maximumEntries : UInt64) :
    Except JanitorError CapacityInner :=
  if maximumBytes = 0 ∨ maximumEntries = 0 then .error .invalidCapacity
  else do
    validated
    let scanned ← scanDirectory paths.staging true maximumEntries staging (∅, 0)
    let (entries, chargedBytes) ← scanDirectory paths.objects false maximumEntries objects scanned
    if maximumEntries.toNat < entries.entries.length then .error .capacityScanLimitExceeded
    else if maximumBytes < chargedBytes then .error .capacityExceededAtStartup
    else .ok ⟨maximumBytes, maximumEntries, ⟨chargedBytes, entries, 0⟩⟩

namespace CapacityInner

def usage (inner : CapacityInner) : ManagedMediaCapacityUsage :=
  let usedBytes := (inner.state.entries.entries.map fun entry => entry.2).sum
  { usedBytes
    reservedBytes := saturatingSub inner.state.chargedBytes usedBytes
    maximumBytes := inner.maximumBytes
    managedFiles := inner.state.entries.entries.length
    reservations := inner.state.reservations
    maximumEntries := inner.maximumEntries }

def reserve (requestedBytes : UInt64) : EStateM StoreError CapacityInner CapacityReservation := do
  let inner ← get
  let occupied := min (inner.state.entries.entries.length + inner.state.reservations.toNat)
    USIZE_MAX
  if inner.maximumEntries.toNat ≤ occupied ∨
      fits inner.state.chargedBytes requestedBytes inner.maximumBytes = false then
    throw .capacityExceeded
  set { inner with state := { inner.state with
    chargedBytes := inner.state.chargedBytes + requestedBytes
    reservations := inner.state.reservations + 1 } }
  return ⟨requestedBytes, true⟩

def removed (path : MediaPath) (inner : CapacityInner) : CapacityInner :=
  match inner.state.entries.lookup path with
  | some bytes => { inner with state := { inner.state with
      chargedBytes := saturatingSub inner.state.chargedBytes bytes
      entries := inner.state.entries.erase path } }
  | none => inner

/-- `CapacityReservation::drop`. -/
def dropReservation (reservation : CapacityReservation) (inner : CapacityInner) : CapacityInner :=
  if reservation.active then
    { inner with state := { inner.state with
      chargedBytes := saturatingSub inner.state.chargedBytes reservation.chargedBytes
      reservations := saturatingSub inner.state.reservations 1 } }
  else inner

end CapacityInner

/-- What a method of a reservation can write: the shared state and the reservation itself. -/
structure ReservationCall where
  inner : CapacityInner
  reservation : CapacityReservation

namespace ReservationCall

def setState (call : ReservationCall) (state : CapacityState) : ReservationCall :=
  { call with inner := { call.inner with state } }

def ensure (requestedBytes : UInt64) : EStateM StoreError ReservationCall Unit := do
  let call ← get
  if requestedBytes ≤ call.reservation.chargedBytes then
    return
  let additional := requestedBytes - call.reservation.chargedBytes
  if fits call.inner.state.chargedBytes additional call.inner.maximumBytes = false then
    throw .capacityExceeded
  modify fun call => call.setState { call.inner.state with
    chargedBytes := call.inner.state.chargedBytes + additional }
  modify fun call => { call with
    reservation := { call.reservation with chargedBytes := requestedBytes } }

def commit (path : MediaPath) (actualBytes : UInt64) : EStateM StoreError ReservationCall Unit := do
  let call ← get
  if call.reservation.active = false ∨ actualBytes = 0 ∨
      call.reservation.chargedBytes < actualBytes then
    throw .accounting
  if path ∈ call.inner.state.entries ∨ call.inner.state.reservations = 0 then
    throw .accounting
  match (checkedSub call.inner.state.chargedBytes call.reservation.chargedBytes).bind
      (checkedAdd · actualBytes) with
  | none => throw .accounting
  | some chargedBytes =>
    modify fun call => call.setState { call.inner.state with chargedBytes }
    modify fun call => call.setState { call.inner.state with
      reservations := call.inner.state.reservations - 1 }
    modify fun call => call.setState { call.inner.state with
      entries := call.inner.state.entries.insert path actualBytes }
    modify fun call => { call with reservation := { call.reservation with active := false } }

def retainFailedFile (path : MediaPath) : EStateM StoreError ReservationCall Unit := do
  let call ← get
  if call.reservation.active = false then
    return
  if 0 < call.inner.state.reservations then
    modify fun call => call.setState { call.inner.state with
      reservations := call.inner.state.reservations - 1 }
  if path ∈ call.inner.state.entries then
    -- The bytes stay charged although no entry holds them.
    modify fun call => { call with reservation := { call.reservation with active := false } }
    return
  modify fun call => call.setState { call.inner.state with
    entries := call.inner.state.entries.insert path call.reservation.chargedBytes }
  modify fun call => { call with reservation := { call.reservation with active := false } }

end ReservationCall

structure ManagedCapacity where
  inner : CapacityInner
  /-- The reservations that are not dropped yet. -/
  reservations : List CapacityReservation

inductive CapacityEvent where
  | reserve (requestedBytes : UInt64)
  | ensure (index : ℕ) (requestedBytes : UInt64)
  | commit (index : ℕ) (path : MediaPath) (actualBytes : UInt64)
  | retainFailedFile (index : ℕ) (path : MediaPath)
  | removed (path : MediaPath)
  | drop (index : ℕ)
  deriving DecidableEq, Repr

namespace ManagedCapacity

/-- A method called on the reservation at a position. -/
def call (media : ManagedCapacity) (index : ℕ) (method : EStateM StoreError ReservationCall Unit) :
    Except StoreError Unit × ManagedCapacity :=
  match media.reservations[index]? with
  | none => (.ok (), media)
  | some reservation =>
    match method ⟨media.inner, reservation⟩ with
    | .ok _ after => (.ok (), ⟨after.inner, media.reservations.set index after.reservation⟩)
    | .error error after =>
      (.error error, ⟨after.inner, media.reservations.set index after.reservation⟩)

def step (media : ManagedCapacity) : CapacityEvent → Except StoreError Unit × ManagedCapacity
  | .reserve requestedBytes =>
    match CapacityInner.reserve requestedBytes media.inner with
    | .ok reservation inner => (.ok (), ⟨inner, media.reservations ++ [reservation]⟩)
    | .error error inner => (.error error, { media with inner })
  | .ensure index requestedBytes => media.call index (ReservationCall.ensure requestedBytes)
  | .commit index path actualBytes =>
    media.call index (ReservationCall.commit path actualBytes)
  | .retainFailedFile index path => media.call index (ReservationCall.retainFailedFile path)
  | .removed path => (.ok (), { media with inner := media.inner.removed path })
  | .drop index =>
    match media.reservations[index]? with
    | none => (.ok (), media)
    | some reservation =>
      (.ok (), ⟨media.inner.dropReservation reservation, media.reservations.eraseIdx index⟩)

end ManagedCapacity

end PepeAudio
