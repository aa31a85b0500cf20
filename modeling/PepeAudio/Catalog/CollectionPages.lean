import PepeAudio.Catalog.ClientTracks
import PepeAudio.Lib.Paging
import PepeAudio.Lib.Program

/-!
# Albums and playlists of the catalog clients

Both clients ask page by page and stop at a limit of items. The server may answer each
request with regard to all before it; the body of an answer stands for what is read
of it at the types a client knows. How a client comes by its token is left open.
-/
namespace PepeAudio

namespace Catalog

structure CatalogCollection where
  reference : CatalogReference
  title : String
  tracks : List CatalogTrackMetadata
  sourceItemCount : Option ℕ
  skippedItemCount : ℕ
  truncated : Bool
  version : Option String
  deriving DecidableEq, Repr

inductive HttpError where
  | transport
  | responseTooLarge
  deriving DecidableEq, Repr

structure HttpRequest where
  url : Url
  authorization : String
  deriving DecidableEq, Repr

structure HttpResponse (β : Type) where
  status : UInt16
  retryAfterSeconds : Option UInt64
  body : β

/-- The manager of tokens and the transport, from the requests made so far: the latest first. -/
structure Server (β : Type) where
  token : List HttpRequest → Except CatalogError String
  execute : List HttpRequest → Except HttpError (HttpResponse β)

/-- A client's work, with the requests it has made. -/
abbrev Requesting (α : Type) : Type := EStateM CatalogError (List HttpRequest) α

def ofExcept {α : Type} : Except CatalogError α → Requesting α
  | .ok a => pure a
  | .error error => throw error

def mapHttpError (provider : CatalogProvider) : HttpError → CatalogError
  | .transport => .transport provider
  | .responseTooLarge => .responseTooLarge provider

section Requests

variable {β : Type} (provider : CatalogProvider) (server : Server β)

def authorizedGet (url : Url) : Requesting (HttpResponse β) := do
  let history ← get
  let token ← ofExcept (server.token history)
  let request : HttpRequest := ⟨url, "Bearer " ++ token⟩
  set (request :: history)
  ofExcept ((server.execute (request :: history)).mapError (mapHttpError provider))

/-- The end of `get_json`, at which the two clients agree. -/
def readResponse {τ : Type} (read : β → Option τ) (response : HttpResponse β) :
    Except CatalogError τ :=
  if response.status = 200 then (read response.body).elim (.error (.invalidResponse provider)) .ok
  else if response.status = 401 then .error (.invalidCredentials provider)
  else if response.status = 403 then .error (.accessDenied provider)
  else if response.status = 404 then .error (.notFound provider)
  else if response.status = 429 then .error (.rateLimited provider response.retryAfterSeconds)
  else .error (.transport provider)

end Requests

namespace Spotify

def PAGE_SIZE : ℕ := 50

structure Page where
  items : List SimplifiedTrack
  total : Option ℕ
  next : Option String

structure Album where
  name : String
  tracks : Page

structure Body where
  album : Option Album
  page : Option Page

structure SpotifyCatalog where
  market : String
  server : Server Body

namespace SpotifyCatalog

variable (client : SpotifyCatalog)

/-- The URL of a resource; identifiers and the market are plain. -/
def apiUrl (resource id : String) (relationship : Option String) (offset : Option ℕ) : Url :=
  let path := "/v1/" ++ resource ++ "/" ++ id ++ relationship.elim "" ("/" ++ ·)
  let url := (Url.https "api.spotify.com" path none).appendPair "market" client.market
  match offset with
  | none => url
  | some offset =>
    (url.appendPair "limit" (toString PAGE_SIZE)).appendPair "offset" (toString offset)

/-- A refused token is dropped, and the request made once more with another one. -/
def getJson {τ : Type} (read : Body → Option τ) (url : Url) : Requesting τ := do
  let response ← authorizedGet .spotify client.server url
  let response ← if response.status = 401 then authorizedGet .spotify client.server url
    else pure response
  ofExcept (readResponse .spotify read response)

/-- The loop of `resolve_album`, with a page at hand: what it gathers, and whether the last page
says that something is left. -/
def albumPages (id title : String) (limit : ℕ) (page : Page)
    (gathered : Gathered CatalogTrackMetadata) :
    Requesting (Gathered CatalogTrackMetadata × Bool) :=
  let hadNext := page.next.isSome
  let pageLength := page.items.length
  let remaining := limit - gathered.processed
  let gathered' := gathered.absorb (simplifiedTrackMetadata · title) (page.items.take remaining)
  if limit ≤ gathered'.processed ∨ hadNext = false then
    pure (gathered', remaining < pageLength || (limit ≤ gathered'.processed && hadNext))
  else if pageLength = 0 then throw (.invalidResponse .spotify)
  else do
    let page ← client.getJson Body.page
      (client.apiUrl "albums" id (some "tracks") (some gathered'.processed))
    albumPages id title limit page gathered'
termination_by limit - gathered.processed
decreasing_by
  rename_i hlimit hlength
  simp only [gathered', remaining, pageLength, Gathered.processed_absorb, List.length_take]
    at hlimit hlength ⊢
  omega

def resolveAlbum (reference : CatalogReference) (limit : ℕ) : Requesting CatalogCollection := do
  let album ← client.getJson Body.album (client.apiUrl "albums" reference.id none none)
  match cleanText album.name 512 with
  | none => throw (.invalidResponse .spotify)
  | some title => do
    let (gathered, truncatedByPage) ←
      client.albumPages reference.id title limit album.tracks .empty
    return { reference, title, tracks := gathered.items, sourceItemCount := album.tracks.total,
             skippedItemCount := gathered.skipped,
             truncated := truncatedByPage || album.tracks.total.any (gathered.processed < ·),
             version := none }

end SpotifyCatalog

end Spotify

namespace AppleMusic

structure PageMeta where
  total : Option ℕ

structure Response (ρ : Type) where
  data : List ρ
  next : Option String
  pageMeta : Option PageMeta

/-- An album or a playlist; a song is a `Resource`. -/
structure CollectionResource (α : Type) where
  id : String
  objectType : String
  attributes : Option α

structure AlbumAttributes where
  name : String

structure PlaylistAttributes where
  name : String
  lastModifiedDate : Option String

structure Body where
  album : Option (Response (CollectionResource AlbumAttributes))
  playlist : Option (Response (CollectionResource PlaylistAttributes))
  songs : Option (Response Resource)

/-- `join` resolves a link against the API's base. -/
structure AppleMusicCatalog where
  urls : UrlLibrary
  join : Url → String → Option Url
  server : Server Body

def API_BASE : Url := Url.https "api.music.apple.com" "/v1" none

def invalid {α : Type} : Except CatalogError α := .error (.invalidResponse .appleMusic)

def oneResource {α : Type} (response : Response (CollectionResource α)) (expectedType : String) :
    Option (CollectionResource α) :=
  match response.data with
  | [resource] => if resource.objectType = expectedType then some resource else none
  | _ => none

def storefront (reference : CatalogReference) : Except CatalogError String :=
  match reference.storefront.filter validStorefront with
  | some value => .ok value
  | none => .error .unsupportedUrl

def resourceUrl (storefront resource id : String) (relationship : Option String) : Url :=
  Url.https "api.music.apple.com" ("/v1/catalog/" ++ storefront ++ "/" ++ resource ++ "/" ++ id ++
    relationship.elim "" ("/" ++ ·)) none

namespace AppleMusicCatalog

variable (client : AppleMusicCatalog)

/-- A link goes on only where the first page was. -/
def validatedNextUrl (value storefront expectedPath : String) : Except CatalogError Url :=
  if 2048 < value.utf8ByteSize || value.toList.any isControl then invalid
  else match client.join API_BASE value with
    | none => invalid
    | some url =>
      if url.scheme ≠ "https" || url.host ≠ some "api.music.apple.com" || url.port.isSome ||
          url.username ≠ "" || url.password.isSome || url.fragment.isSome ||
          !("/v1/catalog/" ++ storefront ++ "/").toList.isPrefixOf url.path.toList ||
          url.path ≠ expectedPath then invalid
      else .ok url

def getJson {τ : Type} (read : Body → Option τ) (url : Url) : Requesting τ := do
  let response ← authorizedGet .appleMusic client.server url
  ofExcept (readResponse .appleMusic read response)

/-- The variables of the loop in `resolve_track_pages`. -/
structure PageLoop where
  pending : Option Url
  seen : List String
  gathered : Gathered CatalogTrackMetadata
  total : Option ℕ
  currentPageTruncated : Bool

def PageLoop.start (firstUrl : Url) : PageLoop := ⟨some firstUrl, [], .empty, none, false⟩

/-- A page is read within the limit, and its link is the next to be followed. -/
def PageLoop.absorb (storefront : String) (limit : ℕ) (url : Url) (page : Response Resource)
    (next : Option Url) (s : PageLoop) : PageLoop :=
  let remaining := limit - s.gathered.processed
  { pending := next,
    seen := url.asStr :: s.seen,
    gathered := s.gathered.absorb (songMetadata client.urls · storefront)
      (page.data.take remaining),
    total := s.total.or (page.pageMeta.bind (·.total)),
    currentPageTruncated := remaining < page.data.length }

theorem processed_absorb (storefront : String) (limit : ℕ) (url : Url) (page : Response Resource)
    (next : Option Url) (s : PageLoop) :
    (PageLoop.absorb client storefront limit url page next s).gathered.processed =
      s.gathered.processed + min (limit - s.gathered.processed) page.data.length := by
  simp [PageLoop.absorb]

/-- The link of a page, if it has one. -/
def nextUrl (storefront expectedPath : String) (page : Response Resource) :
    Except CatalogError (Option Url) :=
  match page.next with
  | none => .ok none
  | some value => (client.validatedNextUrl value storefront expectedPath).map some

def trackPages (storefront expectedPath : String) (limit : ℕ) (s : PageLoop) :
    Requesting PageLoop :=
  if limit ≤ s.gathered.processed then pure s
  else match _ : s.pending with
    | none => pure s
    | some url =>
      if url.asStr ∈ s.seen then throw (.invalidResponse .appleMusic)
      else do
        let page ← client.getJson Body.songs url
        let next ← ofExcept (client.nextUrl storefront expectedPath page)
        if page.data.length = 0 ∧ next.isSome = true then throw (.invalidResponse .appleMusic)
        else
          trackPages storefront expectedPath limit
            (PageLoop.absorb client storefront limit url page next s)
termination_by (limit - s.gathered.processed, s.pending.isSome.toNat)
decreasing_by
  rename_i hlimit hpending _ hpage
  have hprocessed := processed_absorb client storefront limit url page next s
  cases hlength : page.data.length with
  | zero =>
    have hnext : next.isSome = false := by simpa [hlength] using hpage
    rw [hlength] at hprocessed
    rw [hprocessed, hpending, Nat.min_zero, Nat.add_zero]
    apply Prod.Lex.right
    simp [PageLoop.absorb, hnext]
  | succ length =>
    apply Prod.Lex.left
    omega

section Equations

variable {client} {storefront expectedPath : String} {limit : ℕ} {s : PageLoop}

theorem trackPages_reached (hlimit : limit ≤ s.gathered.processed) :
    client.trackPages storefront expectedPath limit s = pure s := by
  rw [trackPages, if_pos hlimit]

theorem trackPages_none (hpending : s.pending = none) :
    client.trackPages storefront expectedPath limit s = pure s := by
  rw [trackPages]
  split
  · rfl
  · split
    · rfl
    · rename_i hsome
      rw [hpending] at hsome
      contradiction

theorem trackPages_some (hlimit : ¬limit ≤ s.gathered.processed) {url : Url}
    (hpending : s.pending = some url) :
    client.trackPages storefront expectedPath limit s =
      (if url.asStr ∈ s.seen then throw (.invalidResponse .appleMusic)
      else do
        let page ← client.getJson Body.songs url
        let next ← ofExcept (client.nextUrl storefront expectedPath page)
        if page.data.length = 0 ∧ next.isSome = true then throw (.invalidResponse .appleMusic)
        else
          client.trackPages storefront expectedPath limit
            (PageLoop.absorb client storefront limit url page next s)) := by
  rw [trackPages, if_neg hlimit]
  split
  · rename_i hnone
    rw [hpending] at hnone
    contradiction
  · rename_i found hfound
    obtain rfl := Option.some.inj (hpending.symm.trans hfound)
    rfl

end Equations

/-- `resolve_track_pages`, from the URL of the relationship. -/
def resolveTrackPages (tracksUrl : Url) (storefront : String) (limit : ℕ) :
    Requesting PageLoop :=
  let firstUrl := tracksUrl.appendPair "limit" (toString limit)
  client.trackPages storefront firstUrl.path limit (.start firstUrl)

/-- The collection that has been read, with the loop's state at its end. -/
def collection (reference : CatalogReference) (title : String) (version : Option String)
    (s : PageLoop) : CatalogCollection :=
  { reference, title, tracks := s.gathered.items, sourceItemCount := s.total,
    skippedItemCount := s.gathered.skipped,
    truncated := s.currentPageTruncated || s.pending.isSome ||
      s.total.any (s.gathered.processed < ·),
    version }

def resolveAlbum (reference : CatalogReference) (limit : ℕ) : Requesting CatalogCollection := do
  let storefront ← ofExcept (storefront reference)
  let response ← client.getJson Body.album (resourceUrl storefront "albums" reference.id none)
  let title := ((oneResource response "albums").bind (·.attributes)).bind fun attributes =>
    cleanText attributes.name 512
  match title with
  | none => throw (.invalidResponse .appleMusic)
  | some title => do
    let tracks ← client.resolveTrackPages
      (resourceUrl storefront "albums" reference.id (some "tracks")) storefront limit
    return collection reference title none tracks

def resolvePlaylist (reference : CatalogReference) (limit : ℕ) : Requesting CatalogCollection := do
  let storefront ← ofExcept (storefront reference)
  let response ← client.getJson Body.playlist (resourceUrl storefront "playlists" reference.id none)
  match (oneResource response "playlists").bind (·.attributes) with
  | none => throw (.invalidResponse .appleMusic)
  | some attributes => match cleanText attributes.name 512 with
    | none => throw (.invalidResponse .appleMusic)
    | some title => do
      let version := attributes.lastModifiedDate.filter fun value =>
        value ≠ "" && value.utf8ByteSize ≤ 64
      let tracks ← client.resolveTrackPages
        (resourceUrl storefront "playlists" reference.id (some "tracks")) storefront limit
      return collection reference title version tracks

end AppleMusicCatalog

end AppleMusic

end Catalog

end PepeAudio
