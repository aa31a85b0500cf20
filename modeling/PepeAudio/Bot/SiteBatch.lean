import Mathlib.Data.List.Sort
import PepeAudio.Bot.DashboardCommandExecutor
import PepeAudio.Lib.Run
import PepeAudio.Lib.TaskPool
import PepeAudio.Media.LeaseRegistry

/-!
# Batches of site media

A collection is resolved item by item, a few at a time. `run_until_error` is a machine that
reacts to one finished item after the other; which one finishes next is up to the schedule.
-/
namespace PepeAudio.ProductionMedia

def SITE_BATCH_CONCURRENCY : ℕ := 4

inductive ItemOutcome where
  | completed
  | skipped (error : ResolveError)
  deriving DecidableEq, Repr

structure BatchOutcome where
  fatalError : Option ResolveError
  firstSkippedError : Option ResolveError
  skippedItems : ℕ
  deriving DecidableEq, Repr

def classifyItem (result : Except ResolveError Unit) : Except ResolveError ItemOutcome :=
  match result with
  | .ok () => .ok .completed
  | .error .noSearchMatch => .ok (.skipped .noSearchMatch)
  | .error .unsupportedStream => .ok (.skipped .unsupportedStream)
  | .error .trackLimitExceeded => .ok (.skipped .trackLimitExceeded)
  | .error error => .error error

/-- The registry of the tracks that have been ingested, with the indices of their items. -/
abbrev CompletedTracks (T : Type) := List (ℕ × T)

namespace CompletedTracks

variable {T : Type}

def register (completed : CompletedTracks T) (index : ℕ) (track : T) : CompletedTracks T :=
  completed ++ [(index, track)]

def take (completed : CompletedTracks T) : List T := completed.map (·.2)

def takeOrdered (completed : CompletedTracks T) : List T :=
  (completed.mergeSort fun a b => a.1 ≤ b.1).map (·.2)

end CompletedTracks

variable {I T : Type}

/-- `into_iter().enumerate()`. -/
def enumerate (items : List I) : List (ℕ × I) := (List.range items.length).zip items

/-- The local variables of `run_until_error` with the registry its operation fills. -/
structure BatchState (I T : Type) where
  pool : TaskPool (ℕ × I)
  firstError : Option ResolveError
  firstSkippedError : Option ResolveError
  skippedItems : ℕ
  completed : CompletedTracks T

namespace BatchState

/-- The items that are started before the first one is awaited. -/
def start (items : List I) : BatchState I T :=
  ⟨(TaskPool.ofTasks (enumerate items)).fill SITE_BATCH_CONCURRENCY, none, none, 0, []⟩

/-- The result of an item in the loop. -/
def settle (s : BatchState I T) (result : Except ResolveError ItemOutcome) : BatchState I T :=
  match result with
  | .ok .completed => s
  | .ok (.skipped error) =>
    { s with
      skippedItems := min (s.skippedItems + 1) USIZE_MAX
      firstSkippedError := s.firstSkippedError.or (some error) }
  | .error error => { s with firstError := s.firstError.or (some error) }

/-- The operation of an item ends: a track it has made is registered, then its result is
classified. -/
def conclude (s : BatchState I T) (index : ℕ) (result : Except ResolveError T) :
    BatchState I T :=
  match result with
  | .ok track =>
    { s with completed := s.completed.register index track }.settle (classifyItem (.ok ()))
  | .error error => s.settle (classifyItem (.error error))

/-- The next item is started unless an error has occurred. -/
def admitNext (s : BatchState I T) : BatchState I T :=
  if s.firstError.isNone then { s with pool := s.pool.launch } else s

/-- One turn of the loop, on the item at a position among those in flight. -/
def turn (operation : ℕ → I → Except ResolveError T) (s : BatchState I T) (position : ℕ) :
    Option (BatchState I T) :=
  match s.pool.complete position with
  | none => none
  | some ((index, item), pool) =>
    some ({ s with pool := pool }.conclude index (operation index item)).admitNext

/-- What is returned when nothing is in flight any more. -/
def outcome (s : BatchState I T) : BatchOutcome :=
  ⟨s.firstError, s.firstSkippedError, s.skippedItems⟩

end BatchState

/-- The items of `run_until_error` finish in the order of a schedule. -/
def BatchRun (operation : ℕ → I → Except ResolveError T) (items : List I) :
    List (Taken (BatchState I T) ℕ) → BatchState I T → Prop :=
  Run (fun s position s' => s.turn operation position = some s') (BatchState.start items)

structure CatalogCollection (I : Type) where
  title : String
  tracks : List I
  sourceItemCount : Option ℕ
  skippedItemCount : ℕ
  truncated : Bool
  deriving DecidableEq, Repr

structure ResolvedMediaBatch (T : Type) where
  tracks : List T
  sourceTitle : Option String
  sourceItemCount : Option ℕ
  skippedItems : ℕ
  truncated : Bool
  deriving DecidableEq, Repr

/-- What `resolve_catalog` finds around it: whether a batch may run, the limit of the catalog
resolver and the collection it finds within a limit (`none` after the deadline), and whether
there is a site client. -/
structure CatalogSurroundings (I : Type) where
  batchPermit : Bool
  collectionLimit : Option ℕ
  resolveReference : ℕ → Option (Except ResolveError (CatalogCollection I))
  siteClient : Bool
  maximumPlaylistItems : ℕ

/-- `resolve_catalog` up to the batch: the collection within its limit and whether it was cut. -/
def prepareCatalog (around : CatalogSurroundings I) (maximumItems : ℕ) :
    Except ResolveError (CatalogCollection I × Bool) :=
  if !around.batchPermit then .error .busy
  else match around.collectionLimit with
    | none => .error .crossServiceMatchingDisabled
    | some collectionLimit =>
      if !around.siteClient then .error .siteExtractorsDisabled
      else
        let localLimit := min (min maximumItems around.maximumPlaylistItems) collectionLimit
        if localLimit = 0 then .error .capacityExceeded
        else match around.resolveReference localLimit with
          | none => .error .timedOut
          | some (.error error) => .error error
          | some (.ok collection) =>
            let locallyTruncated := localLimit < collection.tracks.length
            let collection := { collection with tracks := collection.tracks.take localLimit }
            if collection.tracks.isEmpty then .error .unsupportedStream
            else .ok (collection, locallyTruncated)

/-- `resolve_catalog` behind the batch, `none` after the deadline: the result and the tracks
that are discarded. -/
def finishCatalog (collection : CatalogCollection I) (locallyTruncated : Bool)
    (work : Option BatchOutcome) (completed : CompletedTracks T) :
    Except ResolveError (ResolvedMediaBatch T) × List T :=
  match work with
  | none => (.error .timedOut, completed.take)
  | some outcome =>
    match outcome.fatalError with
    | some error => (.error error, completed.take)
    | none =>
      let tracks := completed.takeOrdered
      if tracks.isEmpty then (.error (outcome.firstSkippedError.getD .unsupportedStream), [])
      else (.ok {
        tracks := tracks
        sourceTitle := some collection.title
        sourceItemCount := collection.sourceItemCount
        skippedItems := min (collection.skippedItemCount + outcome.skippedItems) USIZE_MAX
        truncated := collection.truncated || locallyTruncated }, [])

/-- The ways in which `resolve_catalog` ends: with the result and the tracks it discards. The
deadline may end the batch in any of its states. -/
inductive ResolveCatalog (operation : ℕ → I → Except ResolveError T)
    (around : CatalogSurroundings I) (maximumItems : ℕ) :
    Except ResolveError (ResolvedMediaBatch T) × List T → Prop
  | rejected {error : ResolveError} (hprepare : prepareCatalog around maximumItems = .error error) :
      ResolveCatalog operation around maximumItems (.error error, [])
  | returned {collection : CatalogCollection I} {cut : Bool}
      {taken : List (Taken (BatchState I T) ℕ)} {s : BatchState I T}
      (hprepare : prepareCatalog around maximumItems = .ok (collection, cut))
      (run : BatchRun operation collection.tracks taken s) (hdone : s.pool.inFlight = []) :
      ResolveCatalog operation around maximumItems
        (finishCatalog collection cut (some s.outcome) s.completed)
  | expired {collection : CatalogCollection I} {cut : Bool}
      {taken : List (Taken (BatchState I T) ℕ)} {s : BatchState I T}
      (hprepare : prepareCatalog around maximumItems = .ok (collection, cut))
      (run : BatchRun operation collection.tracks taken s) :
      ResolveCatalog operation around maximumItems
        (finishCatalog collection cut none s.completed)

end PepeAudio.ProductionMedia
