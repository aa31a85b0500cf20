import PepeAudio.Media.SitePages

/-!
# What is read off the extractor's JSON

The extractor's answer is checked and made into a track: a stream of the site, a
title of bounded length, and the page the track is shown with. Durations are in
nanoseconds; how a number of seconds becomes one is a parameter.
-/
namespace PepeAudio

structure RawInfo (Seconds : Type) where
  kind : Option String
  title : Option String
  id : Option String
  url : Option String
  webpageUrl : Option String
  artist : Option String
  album : Option String
  uploader : Option String
  channel : Option String
  entries : Option (List (Option (RawInfo Seconds)))
  duration : Option Seconds
  protocol : Option String
  vcodec : Option String
  acodec : Option String
  isLive : Option Bool
  liveStatus : Option String
  httpHeaders : List (String × String)

/-- The limit on the duration is all that is used of the configuration. -/
structure YtDlpConfig where
  maximumTrackDuration : ℕ

structure SiteReference where
  provider : SiteProvider
  pageUrl : String
  title : Option String
  artist : Option String
  durationMs : Option UInt64
  deriving DecidableEq, Repr

structure ResolvedSiteMedia where
  url : String
  provider : SiteProvider
  headers : SafeHttpHeaders
  deriving DecidableEq, Repr

/-- What the metadata are made from; the title and the request go to the queue directly. -/
structure SiteResolvedTrack where
  artist : Option String
  album : Option String
  provider : SiteProvider
  pageUrl : String
  deriving DecidableEq, Repr

namespace Site

/-- A track with what goes to the queue and to the fetcher. -/
structure ResolvedTrack extends SiteResolvedTrack where
  title : String
  durationMs : UInt64
  request : ResolvedSiteMedia
  deriving DecidableEq, Repr

/-- What is known of the track that is searched for. -/
structure SiteSearch where
  query : String
  expectedTitle : String
  expectedArtists : List String
  preferredDurationMs : Option UInt64
  isrc : Option String
  deriving DecidableEq, Repr

def validIsrc (value : String) : Bool :=
  value.utf8ByteSize = 12 && value.toList.all Char.isAlphanum

/-- The site's own check of a text is that of public display texts. -/
def SiteSearch.new (query expectedTitle : String) (expectedArtists : List String)
    (preferredDurationMs : Option UInt64) (isrc : Option String) :
    Except SiteError SiteSearch :=
  if !validateText query 256 || !validateText expectedTitle 200 ||
      16 < expectedArtists.length || expectedArtists.any (!validateText · 200) ||
      isrc.any (!validIsrc ·) then .error .invalidSearch
  else .ok ⟨query, expectedTitle, expectedArtists, preferredDurationMs, isrc⟩

/-- The first 120 characters that are no control characters, unless they are blank. -/
def cleanTitle (value : String) : Option String :=
  let value := String.ofList ((value.toList.filter (!isControl ·)).take 120)
  if (trim value).isEmpty then none else some value

def canonicalYoutubePage (library : UrlLibrary) (id : Option String) (candidate : String) :
    Except SiteError String :=
  match library.parse candidate with
  | none => .error .invalidMetadata
  | some candidateUrl =>
    let fromPage := match candidateUrl.host with
      | some host =>
        if host = "youtu.be" then
          (candidateUrl.pathSegments.bind List.head?).filter validYoutubeId
        else if SiteProvider.youTube.acceptsPageHost host then
          ((library.pairs candidateUrl).find? fun pair =>
            pair.1 = "v" && validYoutubeId pair.2).map Prod.snd
        else none
      | none => none
    match (id.filter validYoutubeId).or fromPage with
    | some id => .ok ("https://www.youtube.com/watch?v=" ++ id)
    | none => .error .invalidMetadata

def canonicalSoundcloudPage (library : UrlLibrary) (candidate : String) :
    Except SiteError String :=
  match library.parse candidate with
  | none => .error .invalidMetadata
  | some url => do
    let provider ← SiteProvider.classify library candidate
    if provider ≠ some .soundCloud || url.host = some "on.soundcloud.com" ||
        !(url.pathSegments.any fun segments => (segments.filter (· ≠ "")).length = 2) then
      .error .invalidMetadata
    else .ok ({ url with query := none } : Url).asStr

def canonicalPageUrl (library : UrlLibrary) (provider : SiteProvider) (id : Option String)
    (candidate : String) : Except SiteError String :=
  match provider with
  | .youTube => canonicalYoutubePage library id candidate
  | .soundCloud => canonicalSoundcloudPage library candidate

def validateMediaUrl (library : UrlLibrary) (raw : String) (provider : SiteProvider) :
    Except SiteError Unit :=
  match library.parse raw with
  | none => .error .unsupportedStream
  | some url =>
    if url.scheme ≠ "https" || url.username ≠ "" || url.password.isSome || url.fragment.isSome ||
        url.portOrKnownDefault ≠ some 443 || !provider.acceptsMediaHost (url.host.getD "") then
      .error .unsupportedStream
    else .ok ()

def validatedReference (library : UrlLibrary) (provider : SiteProvider) (raw : String) :
    Except SiteError SiteReference := do
  let found ← SiteProvider.classify library raw
  if found ≠ some provider then .error .invalidMetadata
  else .ok ⟨provider, raw, none, none, none⟩

section Durations

variable {Seconds : Type} (tryFromSecs : Seconds → Option ℕ)

/-- `u64::try_from(duration.as_millis())`. -/
def asMillis (nanoseconds : ℕ) : Option UInt64 :=
  if nanoseconds / 1000000 < UInt64.size then some (UInt64.ofNat (nanoseconds / 1000000)) else none

def finiteDurationMs (seconds : Seconds) : Option UInt64 :=
  (tryFromSecs seconds).bind asMillis

def referenceFromRaw (library : UrlLibrary) (raw : RawInfo Seconds) (provider : SiteProvider) :
    Except SiteError SiteReference :=
  let described := fun reference : SiteReference => { reference with
    title := raw.title.bind cleanTitle
    artist := ((raw.artist.or raw.uploader).or raw.channel).bind cleanTitle
    durationMs := raw.duration.bind (finiteDurationMs tryFromSecs) }
  match (raw.webpageUrl.or raw.url).bind fun url =>
      (validatedReference library provider url).toOption with
  | some reference => .ok (described reference)
  | none =>
    if provider = .youTube then
      match raw.id with
      | none => .error .invalidMetadata
      | some id =>
        if validYoutubeId id then
          (validatedReference library provider
            ("https://www.youtube.com/watch?v=" ++ id)).map described
        else .error .invalidMetadata
    else .error .invalidMetadata

/-- A stream that is over, without video and with audio, over HTTP. -/
def supportedStream (raw : RawInfo Seconds) : Bool :=
  !raw.isLive.getD false &&
    (raw.liveStatus = none || raw.liveStatus = some "not_live" ||
      raw.liveStatus = some "was_live") &&
    (raw.protocol = some "http" || raw.protocol = some "https") &&
    raw.vcodec = some "none" && raw.acodec ≠ none && raw.acodec ≠ some "none"

def checked (holds : Bool) (error : SiteError) : Except SiteError Unit :=
  if holds then .ok () else .error error

def resolvedInfo (library : UrlLibrary) (config : YtDlpConfig) (raw : RawInfo Seconds)
    (reference : SiteReference) : Except SiteError ResolvedTrack := do
  let provider := reference.provider
  checked (supportedStream raw) .unsupportedStream
  let seconds ← raw.duration.elim (.error .invalidMetadata) .ok
  let duration ← (tryFromSecs seconds).elim (.error .invalidMetadata) .ok
  checked (duration ≠ 0 && duration ≤ config.maximumTrackDuration) .durationLimit
  let durationMs ← (asMillis duration).elim (.error .durationLimit) .ok
  let url ← raw.url.elim (.error .unsupportedStream) .ok
  validateMediaUrl library url provider
  let headers ← SafeHttpHeaders.fromYtdlp library raw.httpHeaders provider
  let pageUrl ← canonicalPageUrl library provider raw.id (raw.webpageUrl.getD reference.pageUrl)
  let title ← (raw.title.bind cleanTitle).elim (.error .invalidMetadata) .ok
  return {
    title, provider, pageUrl, durationMs
    artist := ((raw.artist.or raw.uploader).or raw.channel).bind cleanTitle
    album := raw.album.bind cleanTitle
    request := ⟨url, provider, headers⟩ }

def resolved (library : UrlLibrary) (config : YtDlpConfig) (raw : RawInfo Seconds)
    (reference : SiteReference) : Except SiteError ResolvedTrack :=
  resolvedInfo tryFromSecs library config raw reference

/-- The entry a search is about: the first one of a playlist. -/
def searchedInfo (raw : RawInfo Seconds) : Except SiteError (RawInfo Seconds) :=
  if raw.kind = some "playlist" || raw.entries.isSome then
    match raw.entries.bind fun entries => (entries.filterMap id).head? with
    | some entry => .ok entry
    | none => .error .noSearchMatch
  else .ok raw

def resolvedSearch (library : UrlLibrary) (config : YtDlpConfig) (raw : RawInfo Seconds)
    (provider : SiteProvider) : Except SiteError ResolvedTrack := do
  let raw ← searchedInfo raw
  let reference ← referenceFromRaw tryFromSecs library raw provider
  resolvedInfo tryFromSecs library config raw reference

end Durations

end Site

end PepeAudio
