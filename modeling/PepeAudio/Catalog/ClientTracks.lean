import PepeAudio.Catalog.Canonical

/-!
# Tracks of the catalog clients

How the clients of the two catalogs make a track from what a catalog has sent. A
track without a title or an artist is skipped; an album, a duration or a recording
code that is not usable is left out.
-/
namespace PepeAudio

structure CatalogTrackMetadata where
  reference : CatalogReference
  title : String
  artists : List String
  album : Option String
  durationMs : Option UInt64
  isrc : Option String
  deriving DecidableEq, Repr

namespace Catalog

def MAX_DURATION_MS : UInt64 := 604800000

def MAX_PUBLIC_ARTISTS : ℕ := 10

/-- Both providers clean texts alike. -/
def cleanText (value : String) (maximumBytes : ℕ) : Option String :=
  let value := trim value
  if value ≠ "" ∧ value.utf8ByteSize ≤ maximumBytes ∧ value.toList.any isControl = false then
    some value
  else none

/-- A recording code without its separators, in upper case. -/
def normalizeIsrc (value : String) : Option String :=
  let normalized := (value.toList.filter fun c => !(c = '-' || c = ' ')).map Char.toUpper
  if normalized.length = 12 ∧ normalized.all Char.isAlphanum = true then
    some (String.ofList normalized)
  else none

def withinDuration (durationMs : Option UInt64) : Option UInt64 :=
  durationMs.filter (· ≤ MAX_DURATION_MS)

def cleanArtists (names : List String) : Option (List String) :=
  let artists := (names.take 10).filterMap (cleanText · 256)
  if artists = [] then none else some artists

/-- `str::strip_prefix`. -/
def stripPrefix (start value : String) : Option String :=
  if start.toList.isPrefixOf value.toList then
    some (String.ofList (value.toList.drop start.toList.length))
  else none

/-- `str::split_once`. -/
def splitOnce (value : String) (separator : Char) : Option (String × String) :=
  match value.toList.dropWhile (· ≠ separator) with
  | [] => none
  | _ :: rest => some (String.ofList (value.toList.takeWhile (· ≠ separator)), String.ofList rest)

namespace Spotify

def trackReference (id : String) : CatalogReference :=
  ⟨.spotify, .track, id, none, spotifyPage "track" id⟩

structure Track where
  id : Option String
  name : String
  artists : List String
  album : Option String
  durationMs : Option UInt64
  isrc : Option String
  objectType : Option String
  isLocal : Bool

structure SimplifiedTrack where
  id : Option String
  name : String
  artists : List String
  durationMs : Option UInt64
  objectType : Option String
  isLocal : Bool

def trackMetadata (track : Track) (albumOverride : Option String) :
    Option CatalogTrackMetadata := do
  if track.isLocal || track.objectType.any (· ≠ "track") then none
  else
    let id ← track.id.filter validSpotifyId
    let title ← cleanText track.name 512
    let artists ← cleanArtists track.artists
    some ⟨trackReference id, title, artists, albumOverride.or (track.album.bind (cleanText · 512)),
      withinDuration track.durationMs, track.isrc.bind normalizeIsrc⟩

def simplifiedTrackMetadata (track : SimplifiedTrack) (album : String) :
    Option CatalogTrackMetadata := do
  if track.isLocal || track.objectType.any (· ≠ "track") then none
  else
    let id ← track.id.filter validSpotifyId
    let title ← cleanText track.name 512
    let artists ← cleanArtists track.artists
    some ⟨trackReference id, title, artists, some album, withinDuration track.durationMs, none⟩

/-- The track in an item of a public playlist. -/
structure PublicTrack where
  typeName : Option String
  name : String
  uri : String
  artists : List String
  albumOfTrack : Option String
  totalMilliseconds : Option UInt64

/-- The wrapper of an item, whose data may not be a track at all. -/
structure PublicTrackWrapper where
  typeName : Option String
  data : Option PublicTrack

def playlistTrack (item : Option PublicTrackWrapper) : Option CatalogTrackMetadata := do
  let wrapper ← item
  if wrapper.typeName ≠ some "TrackResponseWrapper" then none
  else
    let track ← wrapper.data
    if track.typeName ≠ some "Track" then none
    else
      let id ← stripPrefix "spotify:track:" track.uri
      if !validSpotifyId id then none
      else
        let artists ← cleanArtists track.artists
        let title ← cleanText track.name 512
        some ⟨trackReference id, title, artists, track.albumOfTrack.bind (cleanText · 512),
          (withinDuration track.totalMilliseconds).filter (· ≠ 0), none⟩

/-- The value of a property of a page, from the decoded content of its element. -/
def metaValue (content : String → ℕ → Option String) (property : String) (maximumBytes : ℕ) :
    Option String :=
  (content property maximumBytes).bind (cleanText · maximumBytes)

def publicArtists (value : String) : Option (List String) :=
  cleanArtists ((value.toList.splitOn ',').map String.ofList)

def publicDurationMs (value : String) : Option UInt64 := do
  let seconds ← (parseU64 (trim value)).toOption
  if seconds.toNat * 1000 < UInt64.size then
    (withinDuration (some (UInt64.ofNat (seconds.toNat * 1000)))).filter (· ≠ 0)
  else none

/-- The track of a public page. -/
def publicTrack (content : String → ℕ → Option String) (reference : CatalogReference) :
    Option CatalogTrackMetadata := do
  let title ← metaValue content "og:title" 512
  let description ← metaValue content "og:description" 1024
  let artists ← (splitOnce description '·').bind fun parts => publicArtists parts.1
  some ⟨reference, title, artists, none,
    (metaValue content "music:duration" 20).bind publicDurationMs, none⟩

end Spotify

namespace AppleMusic

structure SongAttributes where
  name : Option String
  artistName : Option String
  albumName : Option String
  durationInMillis : Option UInt64
  isrc : Option String
  url : Option String

structure Resource where
  id : String
  objectType : String
  attributes : Option SongAttributes

/-- The link of a song counts when it names the song in the storefront that was asked. -/
def songMetadata (library : UrlLibrary) (resource : Resource) (storefront : String) :
    Option CatalogTrackMetadata := do
  if resource.objectType ≠ "songs" || !validNumericId resource.id then none
  else
    let attributes ← resource.attributes
    let name ← attributes.name
    let title ← cleanText name 512
    let artistName ← attributes.artistName
    let artist ← cleanText artistName 256
    let link ← attributes.url
    let url ← library.parse link
    let reference ← (parseCatalogUrl library url).toOption
    if reference.provider = .appleMusic ∧ reference.kind = .track ∧ reference.id = resource.id ∧
        reference.storefront = some storefront then
      some ⟨⟨.appleMusic, .track, resource.id, some storefront, reference.canonicalUrl⟩, title,
        [artist], attributes.albumName.bind (cleanText · 512),
        withinDuration attributes.durationInMillis, attributes.isrc.bind normalizeIsrc⟩
    else none

structure LookupResult where
  trackName : Option String
  artistName : Option String
  collectionName : Option String
  trackTimeMillis : Option UInt64

def trackMetadata (item : LookupResult) (reference : CatalogReference) :
    Option CatalogTrackMetadata := do
  let name ← item.trackName
  let title ← cleanText name 512
  let artistName ← item.artistName
  let artist ← cleanText artistName 256
  some ⟨reference, title, [artist], item.collectionName.bind (cleanText · 512),
    withinDuration item.trackTimeMillis, none⟩

end AppleMusic

/-- A track that one of the clients has made. -/
inductive FromClient (library : UrlLibrary) : CatalogTrackMetadata → Prop
  | spotify {track : Spotify.Track} {albumOverride : Option String}
      {metadata : CatalogTrackMetadata}
      (h : Spotify.trackMetadata track albumOverride = some metadata) : FromClient library metadata
  | spotifyAlbum {track : Spotify.SimplifiedTrack} {album : String}
      {metadata : CatalogTrackMetadata}
      (h : Spotify.simplifiedTrackMetadata track album = some metadata) :
      FromClient library metadata
  | spotifyPlaylist {item : Option Spotify.PublicTrackWrapper} {metadata : CatalogTrackMetadata}
      (h : Spotify.playlistTrack item = some metadata) : FromClient library metadata
  | spotifyPage {content : String → ℕ → Option String} {reference : CatalogReference}
      {metadata : CatalogTrackMetadata}
      (h : Spotify.publicTrack content reference = some metadata) : FromClient library metadata
  | apple {resource : AppleMusic.Resource} {storefront : String} {metadata : CatalogTrackMetadata}
      (h : AppleMusic.songMetadata library resource storefront = some metadata) :
      FromClient library metadata
  | applePublic {item : AppleMusic.LookupResult} {reference : CatalogReference}
      {metadata : CatalogTrackMetadata}
      (h : AppleMusic.trackMetadata item reference = some metadata) : FromClient library metadata

/-- A cleaned title, and a recording code of twelve letters and digits. -/
structure Usable (metadata : CatalogTrackMetadata) : Prop where
  title : ∃ name, cleanText name 512 = some metadata.title
  isrc : ∀ code ∈ metadata.isrc, ∃ value, normalizeIsrc value = some code

theorem Usable.of_title {metadata : CatalogTrackMetadata} {name : String}
    (htitle : cleanText name 512 = some metadata.title) (hnone : metadata.isrc = none) :
    Usable metadata :=
  ⟨⟨name, htitle⟩, by simp [hnone]⟩

theorem Usable.of_bind {metadata : CatalogTrackMetadata} {name : String} {value : Option String}
    (htitle : cleanText name 512 = some metadata.title)
    (hcode : metadata.isrc = value.bind normalizeIsrc) : Usable metadata := by
  refine ⟨⟨name, htitle⟩, fun code h => ?_⟩
  rw [hcode, Option.mem_def] at h
  obtain ⟨value, -, hvalue⟩ := Option.bind_eq_some_iff.mp h
  exact ⟨value, hvalue⟩

namespace Spotify

variable {metadata : CatalogTrackMetadata}

theorem trackMetadata_usable {track : Track} {albumOverride : Option String}
    (h : trackMetadata track albumOverride = some metadata) : Usable metadata := by
  unfold trackMetadata at h
  split_ifs at h
  obtain ⟨id, -, h⟩ := Option.bind_eq_some_iff.mp h
  obtain ⟨title, htitle, h⟩ := Option.bind_eq_some_iff.mp h
  obtain ⟨artists, -, h⟩ := Option.bind_eq_some_iff.mp h
  obtain rfl := Option.some.inj h
  exact .of_bind htitle rfl

theorem simplifiedTrackMetadata_usable {track : SimplifiedTrack} {album : String}
    (h : simplifiedTrackMetadata track album = some metadata) : Usable metadata := by
  unfold simplifiedTrackMetadata at h
  split_ifs at h
  obtain ⟨id, -, h⟩ := Option.bind_eq_some_iff.mp h
  obtain ⟨title, htitle, h⟩ := Option.bind_eq_some_iff.mp h
  obtain ⟨artists, -, h⟩ := Option.bind_eq_some_iff.mp h
  obtain rfl := Option.some.inj h
  exact .of_title htitle rfl

theorem playlistTrack_usable {item : Option PublicTrackWrapper}
    (h : playlistTrack item = some metadata) : Usable metadata := by
  unfold playlistTrack at h
  obtain ⟨wrapper, -, h⟩ := Option.bind_eq_some_iff.mp h
  split_ifs at h
  obtain ⟨track, -, h⟩ := Option.bind_eq_some_iff.mp h
  split_ifs at h
  obtain ⟨id, -, h⟩ := Option.bind_eq_some_iff.mp h
  split_ifs at h
  obtain ⟨artists, -, h⟩ := Option.bind_eq_some_iff.mp h
  obtain ⟨title, htitle, h⟩ := Option.bind_eq_some_iff.mp h
  obtain rfl := Option.some.inj h
  exact .of_title htitle rfl

theorem publicTrack_usable {content : String → ℕ → Option String} {reference : CatalogReference}
    (h : publicTrack content reference = some metadata) : Usable metadata := by
  unfold publicTrack at h
  obtain ⟨title, htitle, h⟩ := Option.bind_eq_some_iff.mp h
  obtain ⟨description, -, h⟩ := Option.bind_eq_some_iff.mp h
  obtain ⟨artists, -, h⟩ := Option.bind_eq_some_iff.mp h
  obtain rfl := Option.some.inj h
  obtain ⟨found, -, hclean⟩ := Option.bind_eq_some_iff.mp htitle
  exact .of_title hclean rfl

end Spotify

namespace AppleMusic

variable {metadata : CatalogTrackMetadata}

theorem songMetadata_usable {library : UrlLibrary} {resource : Resource} {storefront : String}
    (h : songMetadata library resource storefront = some metadata) : Usable metadata := by
  unfold songMetadata at h
  split_ifs at h
  obtain ⟨attributes, -, h⟩ := Option.bind_eq_some_iff.mp h
  obtain ⟨name, -, h⟩ := Option.bind_eq_some_iff.mp h
  obtain ⟨title, htitle, h⟩ := Option.bind_eq_some_iff.mp h
  obtain ⟨artistName, -, h⟩ := Option.bind_eq_some_iff.mp h
  obtain ⟨artist, -, h⟩ := Option.bind_eq_some_iff.mp h
  obtain ⟨link, -, h⟩ := Option.bind_eq_some_iff.mp h
  obtain ⟨url, -, h⟩ := Option.bind_eq_some_iff.mp h
  obtain ⟨reference, -, h⟩ := Option.bind_eq_some_iff.mp h
  split_ifs at h
  obtain rfl := Option.some.inj h
  exact .of_bind htitle rfl

theorem trackMetadata_usable {item : LookupResult} {reference : CatalogReference}
    (h : trackMetadata item reference = some metadata) : Usable metadata := by
  unfold trackMetadata at h
  obtain ⟨name, -, h⟩ := Option.bind_eq_some_iff.mp h
  obtain ⟨title, htitle, h⟩ := Option.bind_eq_some_iff.mp h
  obtain ⟨artistName, -, h⟩ := Option.bind_eq_some_iff.mp h
  obtain ⟨artist, -, h⟩ := Option.bind_eq_some_iff.mp h
  obtain rfl := Option.some.inj h
  exact .of_title htitle rfl

end AppleMusic

theorem FromClient.usable {library : UrlLibrary} {metadata : CatalogTrackMetadata}
    (h : FromClient library metadata) : Usable metadata := by
  cases h with
  | spotify h => exact Spotify.trackMetadata_usable h
  | spotifyAlbum h => exact Spotify.simplifiedTrackMetadata_usable h
  | spotifyPlaylist h => exact Spotify.playlistTrack_usable h
  | spotifyPage h => exact Spotify.publicTrack_usable h
  | apple h => exact AppleMusic.songMetadata_usable h
  | applePublic h => exact AppleMusic.trackMetadata_usable h

end Catalog

end PepeAudio
