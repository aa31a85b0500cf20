import PepeAudio.Core.MediaPage
import PepeAudio.Lib.Json

/-!
# Catalog links

A copied link of a catalog is read into a reference: the item it names and the
link in canonical form, without language prefix and tracking parameters. The
links that are accepted are described by their segments and their song number,
on which the canonical form depends alone.
-/
namespace PepeAudio

inductive CatalogProvider where
  | spotify
  | appleMusic
  deriving DecidableEq, Repr

inductive CatalogItemKind where
  | track
  | album
  | playlist
  deriving DecidableEq, Repr

structure CatalogReference where
  provider : CatalogProvider
  kind : CatalogItemKind
  id : String
  storefront : Option String
  canonicalUrl : Url
  deriving DecidableEq, Repr

inductive CatalogError where
  | unsupportedUrl
  | providerNotConfigured (provider : CatalogProvider)
  | invalidCredentials (provider : CatalogProvider)
  | notFound (provider : CatalogProvider)
  | spotifyPlaylistAccessDenied
  | publicMetadataUnsupported (provider : CatalogProvider) (kind : CatalogItemKind)
  | appleMusicPlaylistRequiresCredentials
  | accessDenied (provider : CatalogProvider)
  | rateLimited (provider : CatalogProvider) (retryAfterSeconds : Option UInt64)
  | invalidResponse (provider : CatalogProvider)
  | transport (provider : CatalogProvider)
  | responseTooLarge (provider : CatalogProvider)
  | invalidCollectionLimit
  deriving DecidableEq, Repr

namespace Catalog

def MAX_CATALOG_URL_BYTES : ℕ := 4096

/-- How a link fails to be read: with an error, or at a call to `expect`. -/
inductive LinkFailure where
  | error (error : CatalogError)
  | panic (message : String)
  deriving DecidableEq, Repr

def unsupported {α : Type} : Except LinkFailure α := .error (.error .unsupportedUrl)

def validLocaleSuffix (value : String) : Bool :=
  2 ≤ value.utf8ByteSize && value.utf8ByteSize ≤ 16 &&
    value.toList.all fun c => c.isAlphanum || c == '-'

def validApplePlaylistId (value : String) : Bool :=
  "pl.".toList.isPrefixOf value.toList && 4 ≤ value.utf8ByteSize && value.utf8ByteSize ≤ 128 &&
    value.toList.all fun c => c.isAlphanum || c == '.' || c == '-' || c == '_'

/-- At most one share identifier, and nothing else. -/
def validateSpotifyQuery : List (String × String) → Bool → Bool
  | [], _ => true
  | (name, value) :: pairs, sawShareId =>
    if name ≠ "si" || sawShareId || value = "" || 128 < value.utf8ByteSize ||
        !value.toList.all (fun c => c.isAlphanum || c == '_' || c == '-') then false
    else validateSpotifyQuery pairs true

/-- `intl-` and a locale, in front of the other segments. -/
def isLocale (segment : String) : Bool :=
  match segment.toList with
  | 'i' :: 'n' :: 't' :: 'l' :: '-' :: suffix => validLocaleSuffix (String.ofList suffix)
  | _ => false

def withoutLocale : List String → List String
  | first :: rest => if isLocale first then rest else first :: rest
  | [] => []

def spotifyKind : String → Option CatalogItemKind
  | "track" => some .track
  | "album" => some .album
  | "playlist" => some .playlist
  | _ => none

/-- The reference to an item, with the link made from its kind and its identifier. -/
def spotifyReference (library : UrlLibrary) (kindSegment id : String) (kind : CatalogItemKind) :
    Except LinkFailure CatalogReference :=
  match library.parse ("https://open.spotify.com/" ++ kindSegment ++ "/" ++ id) with
  | none => .error (.panic "constant Spotify URL is valid")
  | some canonicalUrl => .ok ⟨.spotify, kind, id, none, canonicalUrl⟩

def parseSpotify (library : UrlLibrary) (url : Url) : Except LinkFailure CatalogReference :=
  if !validateSpotifyQuery (library.pairs url) false then unsupported
  else match (segments url).map withoutLocale with
    | some [kindSegment, id] =>
      if !validSpotifyId id then unsupported
      else match spotifyKind kindSegment with
        | none => unsupported
        | some kind => spotifyReference library kindSegment id kind
    | _ => unsupported

def trackingParameters : List String := ["l", "ls", "at", "ct", "itsct", "itscg", "app"]

/-- The song a query names, if any; a second song or an unknown parameter refuses it. -/
def appleQuerySongId : List (String × String) → Option String → Except CatalogError (Option String)
  | [], songId => .ok songId
  | (name, value) :: pairs, songId =>
    if name = "i" && songId.isNone && validNumericId value then appleQuerySongId pairs (some value)
    else if name ∈ trackingParameters && value ≠ "" && value.utf8ByteSize ≤ 256 then
      appleQuerySongId pairs songId
    else .error .unsupportedUrl

/-- The kind and the identifier of the item, from the segments and the song. -/
def appleItem (pathKind pathId : String) (songId : Option String) :
    Option (CatalogItemKind × String) :=
  match pathKind, songId with
  | "album", some song => if validNumericId pathId then some (.track, song) else none
  | "album", none => if validNumericId pathId then some (.album, pathId) else none
  | "song", none => if validNumericId pathId then some (.track, pathId) else none
  | "playlist", none => if validApplePlaylistId pathId then some (.playlist, pathId) else none
  | _, _ => none

/-- The reference to an item, with the link made from the path and, for a song of an album, the
song. -/
def appleReference (library : UrlLibrary) (url : Url) (storefront pathKind : String)
    (kind : CatalogItemKind) (id : String) : Except LinkFailure CatalogReference :=
  match library.parse ("https://music.apple.com" ++ url.path) with
  | none => .error (.panic "validated Apple Music path and constant origin")
  | some canonicalUrl =>
    let canonicalUrl :=
      if kind = .track ∧ pathKind = "album" then canonicalUrl.appendPair "i" id else canonicalUrl
    .ok ⟨.appleMusic, kind, id, some storefront, canonicalUrl⟩

def parseAppleMusic (library : UrlLibrary) (url : Url) : Except LinkFailure CatalogReference :=
  match segments url with
  | some [storefront, pathKind, slug, pathId] =>
    if !validStorefront storefront || !validAppleSlug slug then unsupported
    else match appleQuerySongId (library.pairs url) none with
      | .error error => .error (.error error)
      | .ok songId =>
        match appleItem pathKind pathId songId with
        | none => unsupported
        | some (kind, id) => appleReference library url storefront pathKind kind id
  | _ => unsupported

def validateOrigin (url : Url) : Bool :=
  url.asStr.utf8ByteSize ≤ MAX_CATALOG_URL_BYTES && publicOrigin url

def parseCatalogUrl (library : UrlLibrary) (url : Url) : Except LinkFailure CatalogReference :=
  if !validateOrigin url then unsupported
  else match url.host with
    | some "open.spotify.com" => parseSpotify library url
    | some "music.apple.com" => parseAppleMusic library url
    | _ => unsupported

/-- `album_track_reference` of the provider without credentials. -/
def albumTrackReference (albumReference : CatalogReference) (trackId : UInt64) :
    CatalogReference :=
  ⟨.appleMusic, .track, decimal trackId, albumReference.storefront,
    albumReference.canonicalUrl.appendPair "i" (decimal trackId)⟩

/-- A link of Spotify is refused with an error, or its segments make a reference. -/
theorem parseSpotify_cases (library : UrlLibrary) (url : Url) :
    (∃ error, parseSpotify library url = .error (.error error)) ∨
      ∃ kindSegment id kind, validSpotifyId id = true ∧ spotifyKind kindSegment = some kind ∧
        parseSpotify library url = spotifyReference library kindSegment id kind := by
  unfold parseSpotify
  split
  · exact .inl ⟨_, rfl⟩
  · split
    · split
      · exact .inl ⟨_, rfl⟩
      · rename_i kindSegment id _ hid
        split
        · exact .inl ⟨_, rfl⟩
        · rename_i kind hkind
          exact .inr ⟨kindSegment, id, kind, by simpa using hid, hkind, rfl⟩
    · exact .inl ⟨_, rfl⟩

/-- A link of Apple Music is refused with an error, or its segments and its song make a
reference. -/
theorem parseAppleMusic_cases (library : UrlLibrary) (url : Url) :
    (∃ error, parseAppleMusic library url = .error (.error error)) ∨
      ∃ storefront pathKind slug pathId songId kind id,
        segments url = some [storefront, pathKind, slug, pathId] ∧
        validStorefront storefront = true ∧ validAppleSlug slug = true ∧
        appleQuerySongId (library.pairs url) none = .ok songId ∧
        appleItem pathKind pathId songId = some (kind, id) ∧
        parseAppleMusic library url = appleReference library url storefront pathKind kind id := by
  unfold parseAppleMusic
  split
  · rename_i storefront pathKind slug pathId hsegments
    split
    · exact .inl ⟨_, rfl⟩
    · rename_i hvalid
      have hvalid' : validStorefront storefront = true ∧ validAppleSlug slug = true := by
        simpa using hvalid
      split
      · exact .inl ⟨_, rfl⟩
      · rename_i songId hsong
        split
        · exact .inl ⟨_, rfl⟩
        · rename_i kind id hitem
          exact .inr ⟨storefront, pathKind, slug, pathId, songId, kind, id, hsegments, hvalid'.1,
            hvalid'.2, hsong, hitem, rfl⟩
  · exact .inl ⟨_, rfl⟩

end Catalog

end PepeAudio
