import PepeAudio.Lib.Run
import PepeAudio.Media.CapacityAccounting
import PepeAudio.Media.SiteParse
import PepeAudio.Media.UrlPolicy

/-!
# Fetching remote media

A fetch reserves capacity, follows redirects, writes the body into a partial file
and renames it. It is modelled between two points at which it waits: what it waits
for is the event, and everything it does then up to the next such point is the step.
Other holders of reservations act on the shared capacity at any time.
-/
namespace PepeAudio

abbrev Bytes : Type := List UInt8

structure DiscordAttachment where
  url : String
  declaredSizeBytes : Option UInt64

inductive MediaRequest where
  | directUrl (url : String)
  | discordAttachment (attachment : DiscordAttachment)
  | resolvedSite (site : ResolvedSiteMedia)

inductive MediaSourceKind where
  | directUrl
  | discordAttachment
  | resolvedSite
  deriving DecidableEq, Repr

namespace MediaRequest

def url : MediaRequest → String
  | .directUrl url => url
  | .discordAttachment attachment => attachment.url
  | .resolvedSite site => site.url

def sourceKind : MediaRequest → MediaSourceKind
  | .directUrl _ => .directUrl
  | .discordAttachment _ => .discordAttachment
  | .resolvedSite _ => .resolvedSite

def declaredSize : MediaRequest → Option UInt64
  | .discordAttachment attachment => attachment.declaredSizeBytes
  | .directUrl _ | .resolvedSite _ => none

def allowsHost (host : String) : MediaRequest → Bool
  | .resolvedSite site => site.provider.acceptsMediaHost host
  | .directUrl _ | .discordAttachment _ => true

end MediaRequest

structure FetchLimits where
  maxUrlBytes : ℕ
  maxRedirects : ℕ
  maxDownloadBytes : UInt64
  dnsTimeout : ℕ

structure DownloadedMedia where
  path : MediaPath
  finalUrl : String
  sizeBytes : UInt64
  contentType : Option String
  sourceKind : MediaSourceKind
  deriving DecidableEq, Repr

/-- The errors of the store that come from the file system. -/
inductive FileError where
  | prepare
  | allocate
  | write
  | commit
  | cleanup
  deriving DecidableEq, Repr

inductive FetchError where
  | url (error : UrlPolicyError)
  | invalidLimits
  | admissionCapacityExceeded
  | declaredSizeTooLarge
  | missingLocation
  | redirectLimit
  | redirectLoop
  | redirectTimeout
  | transport
  | unapprovedSiteHost
  | httpStatus (status : UInt16)
  | contentLengthTooLarge
  | downloadTimeout
  | downloadTooLarge
  | body
  | emptyBody
  | lengthMismatch
  | store (error : StoreError)
  | file (error : FileError)
  deriving DecidableEq, Repr

/-- A response without its body, which arrives chunk by chunk. -/
structure HttpResponse where
  status : UInt16
  location : Option String
  contentLength : Option UInt64
  contentType : Option String
  deriving DecidableEq, Repr

/-- The fetcher with the URLs as its libraries understand them and the directories of its store. -/
structure MediaFetcher where
  urls : WebUrls
  limits : FetchLimits
  paths : ManagedPaths

def MediaFetcher.guard (fetcher : MediaFetcher) : UrlGuard :=
  ⟨fetcher.limits.maxUrlBytes, fetcher.limits.dnsTimeout⟩

def isRedirect (status : UInt16) : Bool :=
  status = 301 || status = 302 || status = 303 || status = 307 || status = 308

/-- The check of a URL, with the answer of the resolver and whether the deadline is ahead. -/
inductive ApprovalOutcome where
  | timedOut
  | resolved (resolve : String → DnsOutcome) (timeLeft : Bool)

inductive TransportOutcome where
  | timedOut
  | failed (error : FetchError)
  | responded (response : HttpResponse)

inductive OpenOutcome where
  | created (identifier : String)
  | alreadyExists
  | failed

/-- An operation that is given up may still take effect: it is late. -/
inductive BeginOutcome where
  | timedOut (late : Bool)
  | prepareFailed
  | tried (attempts : ℕ → OpenOutcome)

inductive BodyOutcome where
  | timedOut
  | failed
  | chunk (bytes : Bytes)
  | ended

/-- A write that fails or is given up has written so many bytes. -/
inductive WriteOutcome where
  | done
  | failed (written : ℕ)
  | timedOut (written : ℕ)

inductive FileOutcome where
  | done
  | failed
  | timedOut (late : Bool)

/-- Which of the attempts to remove a file succeed. -/
structure Removals where
  cleanupPartial : Bool
  cleanupFinal : Bool
  dropPartial : Bool
  dropFinal : Bool

inductive FetchEvent where
  | admitFetch (deadlineFits : Bool)
  | approval (outcome : ApprovalOutcome)
  | transport (outcome : TransportOutcome) (deadlineFits : Bool)
  | begun (outcome : BeginOutcome)
  | body (outcome : BodyOutcome)
  | written (outcome : WriteOutcome)
  | flushed (outcome : FileOutcome)
  | renamed (outcome : FileOutcome) (removed : Bool)
  | cleaned (removals : Removals)
  | cancel (late : Bool) (removals : Removals)
  | other (event : CapacityEvent)

/-- The partial download with the response it is of. -/
structure Download where
  response : HttpResponse
  finalUrl : String
  identifier : String
  sizeBytes : UInt64

inductive FetchPhase where
  | admission
  | approving (current : String) (visited : List String) (redirectCount : ℕ)
  | requesting (target : ApprovedUrl) (visited : List String) (redirectCount : ℕ)
  | beginning (response : HttpResponse) (finalUrl : String)
  | streaming (download : Download)
  | writing (download : Download) (chunk : Bytes)
  | flushing (download : Download)
  | renaming (download : Download)
  | cleaning (download : Download) (error : FetchError)
  | finished (result : Except FetchError DownloadedMedia)
  | cancelled

structure Fetching where
  inner : CapacityInner
  /-- The reservations of others. -/
  others : List CapacityReservation
  own : Option CapacityReservation
  /-- The partial file and the final one. -/
  staged : Option Bytes
  object : Option Bytes
  /-- The requests that were made, and the response that was not a redirect. -/
  requests : List ApprovedUrl
  accepted : Option HttpResponse
  phase : FetchPhase

namespace Fetching

def initial (media : ManagedCapacity) : Fetching :=
  ⟨media.inner, media.reservations, none, none, none, [], none, .admission⟩

/-- The reservation is dropped if it is held. -/
def release (s : Fetching) : Fetching :=
  match s.own with
  | none => s
  | some reservation => { s with inner := s.inner.dropReservation reservation, own := none }

/-- An early return, before there is a file. -/
def fail (error : FetchError) (s : Fetching) : Fetching :=
  { s.release with phase := .finished (.error error) }

/-- A method of the reservation. -/
def call (method : EStateM StoreError ReservationCall Unit) (s : Fetching) :
    Except StoreError Unit × Fetching :=
  match s.own with
  | none => (.ok (), s)
  | some reservation =>
    match method ⟨s.inner, reservation⟩ with
    | .ok _ after => (.ok (), { s with inner := after.inner, own := some after.reservation })
    | .error error after =>
      (.error error, { s with inner := after.inner, own := some after.reservation })

/-- The return with an error once there is a file. -/
def cleanUp (download : Download) (error : FetchError) (s : Fetching) : Fetching :=
  { s with phase := .cleaning download error }

/-- `PartialDownload::drop` of a download that is not committed. The file that is left over keeps
the reservation charged. -/
def dropPartial (paths : ManagedPaths) (download : Download) (partialRemoved finalRemoved : Bool)
    (s : Fetching) : Fetching :=
  let s := { s with
    staged := if partialRemoved then none else s.staged
    object := if finalRemoved then none else s.object }
  let retained :=
    if s.staged.isSome then some ⟨paths.staging, download.identifier ++ ".part"⟩
    else if s.object.isSome then some ⟨paths.objects, download.identifier⟩
    else none
  match retained with
  | none => s.release
  | some path => (s.call (ReservationCall.retainFailedFile path)).2.release

section Steps

variable (fetcher : MediaFetcher) (request : MediaRequest)

def admitFetch (deadlineFits : Bool) (s : Fetching) : Fetching :=
  if request.declaredSize.any (fetcher.limits.maxDownloadBytes < ·) then
    { s with phase := .finished (.error .declaredSizeTooLarge) }
  else
    let initialReservation :=
      max (request.declaredSize.getD fetcher.limits.maxDownloadBytes) 1
    match CapacityInner.reserve initialReservation s.inner with
    | .error .capacityExceeded inner =>
      { s with inner, phase := .finished (.error .admissionCapacityExceeded) }
    | .error other inner => { s with inner, phase := .finished (.error (.store other)) }
    | .ok reservation inner =>
      let s := { s with inner, own := some reservation }
      if deadlineFits then { s with phase := .approving request.url [] 0 }
      else s.fail .invalidLimits

/-- The rest of a hop after the URL was looked at, up to the request. -/
def approve (outcome : ApprovalOutcome) (current : String) (visited : List String)
    (redirectCount : ℕ) (s : Fetching) : Fetching :=
  match outcome with
  | .timedOut => s.fail .redirectTimeout
  | .resolved resolve timeLeft =>
    match fetcher.guard.approve fetcher.urls current resolve with
    | .error error => s.fail (.url error)
    | .ok approved =>
      match approved.url.host with
      | none => s.fail .transport
      | some host =>
        if !request.allowsHost host then s.fail .unapprovedSiteHost
        else if approved.url.asStr ∈ visited then s.fail .redirectLoop
        else if !timeLeft then s.fail .redirectTimeout
        else { s with
          requests := s.requests ++ [approved]
          phase := .requesting approved (visited ++ [approved.url.asStr]) redirectCount }

/-- The reservation is made to hold the length that is announced. -/
def ensureLength (response : HttpResponse) (s : Fetching) : Except StoreError Unit × Fetching :=
  match response.contentLength with
  | none => (.ok (), s)
  | some contentLength => s.call (ReservationCall.ensure (max contentLength 1))

/-- The check of the final response, up to the partial file. -/
def accept (response : HttpResponse) (finalUrl : String) (deadlineFits : Bool) (s : Fetching) :
    Fetching :=
  let s := { s with accepted := some response }
  if response.contentLength.any (fetcher.limits.maxDownloadBytes < ·) then
    s.fail .contentLengthTooLarge
  else
    match s.ensureLength response with
    | (.error error, s) => s.fail (.store error)
    | (.ok _, s) =>
      if deadlineFits then { s with phase := .beginning response finalUrl }
      else s.fail .invalidLimits

def receive (outcome : TransportOutcome) (deadlineFits : Bool) (target : ApprovedUrl)
    (visited : List String) (redirectCount : ℕ) (s : Fetching) : Fetching :=
  match outcome with
  | .timedOut => s.fail .redirectTimeout
  | .failed error => s.fail error
  | .responded response =>
    if isRedirect response.status then
      if fetcher.limits.maxRedirects ≤ redirectCount then s.fail .redirectLimit
      else match response.location with
        | none => s.fail .missingLocation
        | some location =>
          match fetcher.guard.join fetcher.urls target.url location with
          | .error error => s.fail (.url error)
          | .ok next => { s with phase := .approving next visited (redirectCount + 1) }
    else if response.status < 200 ∨ 300 ≤ response.status then s.fail (.httpStatus response.status)
    else s.accept fetcher response target.url.asStr deadlineFits

/-- The attempts to create a partial file with a new identifier. -/
def openPartial (attempts : ℕ → OpenOutcome) : ℕ → Except FileError String
  | 0 => .error .allocate
  | remaining + 1 =>
    match attempts remaining with
    | .created identifier => .ok identifier
    | .alreadyExists => openPartial attempts remaining
    | .failed => .error .allocate

/-- `DownloadStore::begin`. The final path is new, as the identifier is random. -/
def start (outcome : BeginOutcome) (response : HttpResponse) (finalUrl : String) (s : Fetching) :
    Fetching :=
  match outcome with
  | .timedOut late => { s.fail .downloadTimeout with staged := if late then some [] else none }
  | .prepareFailed => s.fail (.file .prepare)
  | .tried attempts =>
    match openPartial attempts 8 with
    | .error error => s.fail (.file error)
    | .ok identifier => { s with
        staged := some []
        phase := .streaming ⟨response, finalUrl, identifier, 0⟩ }

/-- The size with another chunk, unless it does not fit into a word. -/
def grown (sizeBytes : UInt64) (chunk : Bytes) : Option UInt64 :=
  if chunk.length < UInt64.size then checkedAdd sizeBytes (UInt64.ofNat chunk.length) else none

def next (outcome : BodyOutcome) (download : Download) (s : Fetching) : Fetching :=
  match outcome with
  | .timedOut => s.cleanUp download .downloadTimeout
  | .failed => s.cleanUp download .body
  | .chunk bytes =>
    match grown download.sizeBytes bytes with
    | none => s.cleanUp download .downloadTooLarge
    | some sizeBytes =>
      if fetcher.limits.maxDownloadBytes < sizeBytes then s.cleanUp download .downloadTooLarge
      else match s.call (ReservationCall.ensure (max sizeBytes 1)) with
        | (.error error, s) => s.cleanUp download (.store error)
        | (.ok _, s) => { s with phase := .writing { download with sizeBytes } bytes }
  | .ended =>
    if download.sizeBytes = 0 then s.cleanUp download .emptyBody
    else if download.response.contentLength.any (· ≠ download.sizeBytes) then
      s.cleanUp download .lengthMismatch
    else { s with phase := .flushing download }

def write (outcome : WriteOutcome) (download : Download) (chunk : Bytes) (s : Fetching) :
    Fetching :=
  match outcome with
  | .done => { s with staged := s.staged.map (· ++ chunk), phase := .streaming download }
  | .failed written =>
    { s with staged := s.staged.map (· ++ chunk.take written) }.cleanUp download (.file .write)
  | .timedOut written =>
    { s with staged := s.staged.map (· ++ chunk.take written) }.cleanUp download .downloadTimeout

def flush (outcome : FileOutcome) (download : Download) (s : Fetching) : Fetching :=
  match outcome with
  | .done => { s with phase := .renaming download }
  | .failed => s.cleanUp download (.file .commit)
  | .timedOut _ => s.cleanUp download .downloadTimeout

/-- The partial file becomes the final one. -/
def move (s : Fetching) : Fetching := { s with object := s.staged, staged := none }

def rename (outcome : FileOutcome) (removed : Bool) (download : Download) (s : Fetching) :
    Fetching :=
  match outcome with
  | .done =>
    let path : MediaPath := ⟨fetcher.paths.objects, download.identifier⟩
    match s.move.call (ReservationCall.commit path download.sizeBytes) with
    | (.ok _, s) => { s.release with
        phase := .finished (.ok ⟨path, download.finalUrl, download.sizeBytes,
          download.response.contentType, request.sourceKind⟩) }
    | (.error error, s) =>
      { s with object := if removed then none else s.object }.cleanUp download (.store error)
  | .failed => s.cleanUp download (.file .commit)
  | .timedOut late => (if late then s.move else s).cleanUp download .downloadTimeout

/-- `PartialDownload::cleanup`, which stops at the first file that cannot be removed, and the drop
after it. -/
def clean (removals : Removals) (download : Download) (error : FetchError) (s : Fetching) :
    Fetching :=
  if s.staged.isSome && !removals.cleanupPartial then
    { s.dropPartial fetcher.paths download removals.dropPartial removals.dropFinal with
      phase := .finished (.error (.file .cleanup)) }
  else if s.object.isSome && !removals.cleanupFinal then
    { { s with staged := none }.dropPartial fetcher.paths download removals.dropPartial
        removals.dropFinal with
      phase := .finished (.error (.file .cleanup)) }
  else
    { { s with staged := none, object := none }.dropPartial fetcher.paths download
        removals.dropPartial removals.dropFinal with
      phase := .finished (.error error) }

/-- The whole fetch is dropped where it waits. -/
def cancel (late : Bool) (removals : Removals) (s : Fetching) : Fetching :=
  match s.phase with
  | .approving .. | .requesting .. => { s.release with phase := .cancelled }
  | .beginning .. =>
    { s.release with staged := if late then some [] else none, phase := .cancelled }
  | .renaming download =>
    { (if late then s.move else s).dropPartial fetcher.paths download removals.dropPartial
        removals.dropFinal with
      phase := .cancelled }
  | .writing download chunk =>
    { { s with staged := s.staged.map fun written => if late then written ++ chunk else written
        }.dropPartial fetcher.paths download removals.dropPartial removals.dropFinal with
      phase := .cancelled }
  | .streaming download | .flushing download | .cleaning download _ =>
    { s.dropPartial fetcher.paths download removals.dropPartial removals.dropFinal with
      phase := .cancelled }
  | .admission | .finished _ | .cancelled => s

/-- Someone else acts on the capacity. -/
def other (event : CapacityEvent) (s : Fetching) : Fetching :=
  let media := (ManagedCapacity.step ⟨s.inner, s.others⟩ event).2
  { s with inner := media.inner, others := media.reservations }

/-- An event that the fetch does not wait for changes nothing. -/
def step (s : Fetching) (event : FetchEvent) : Fetching :=
  match event, s.phase with
  | .admitFetch deadlineFits, .admission => s.admitFetch fetcher request deadlineFits
  | .approval outcome, .approving current visited redirectCount =>
    s.approve fetcher request outcome current visited redirectCount
  | .transport outcome deadlineFits, .requesting target visited redirectCount =>
    s.receive fetcher outcome deadlineFits target visited redirectCount
  | .begun outcome, .beginning response finalUrl => s.start outcome response finalUrl
  | .body outcome, .streaming download => s.next fetcher outcome download
  | .written outcome, .writing download chunk => s.write outcome download chunk
  | .flushed outcome, .flushing download => s.flush outcome download
  | .renamed outcome removed, .renaming download =>
    s.rename fetcher request outcome removed download
  | .cleaned removals, .cleaning download error => s.clean fetcher removals download error
  | .cancel late removals, _ => s.cancel fetcher late removals
  | .other event, _ => s.other event
  | _, _ => s

end Steps

end Fetching

end PepeAudio
