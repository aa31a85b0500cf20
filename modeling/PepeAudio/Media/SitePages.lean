import PepeAudio.Core.MediaPage

/-!
# Pages of the sites that are searched for audio

Which hosts belong to a site, and what is kept of the request headers the
extractor asks for. A host may be written with dots behind it.
-/
namespace PepeAudio

inductive SiteProvider where
  | youTube
  | soundCloud
  deriving DecidableEq, Repr

inductive SiteError where
  | invalidUrl
  | invalidMetadata
  | unsupportedStream
  | durationLimit
  | unsafeHeader
  | invalidSearch
  | noSearchMatch
  deriving DecidableEq, Repr

def MAX_PAGE_URL_BYTES : ℕ := 4096

/-- `str::trim_end_matches('.')`. -/
def trimEndDots (host : String) : String :=
  String.ofList (host.toList.rdropWhile (· == '.'))

namespace SiteProvider

def acceptsPageHost (provider : SiteProvider) (host : String) : Bool :=
  let host := trimEndDots host
  match provider with
  | .youTube => host = "youtube.com" || host = "www.youtube.com" || host = "m.youtube.com" ||
      host = "music.youtube.com" || host = "youtu.be"
  | .soundCloud => host = "soundcloud.com" || host = "www.soundcloud.com" ||
      host = "m.soundcloud.com" || host = "on.soundcloud.com"

def acceptsMediaHost (provider : SiteProvider) (host : String) : Bool :=
  let host := trimEndDots host
  match provider with
  | .youTube => host = "googlevideo.com" || ".googlevideo.com".toList.isSuffixOf host.toList
  | .soundCloud => host = "sndcdn.com" || ".sndcdn.com".toList.isSuffixOf host.toList

/-- `None` is a URL of another host, which may be direct media. -/
def classify (library : UrlLibrary) (raw : String) : Except SiteError (Option SiteProvider) :=
  if MAX_PAGE_URL_BYTES < raw.utf8ByteSize || raw.toList.any isControl then .error .invalidUrl
  else match library.parse raw with
    | none => .error .invalidUrl
    | some url =>
      if url.scheme ≠ "https" || url.username ≠ "" || url.password.isSome ||
          url.fragment.isSome || url.portOrKnownDefault ≠ some 443 then .error .invalidUrl
      else match url.host with
        | none => .error .invalidUrl
        | some host => .ok ([.youTube, .soundCloud].find? fun provider =>
            provider.acceptsPageHost host)

end SiteProvider

def MAX_HEADER_VALUE_BYTES : ℕ := 512

inductive SafeHeaderName where
  | userAgent
  | referer
  | origin
  | accept
  | acceptLanguage
  deriving DecidableEq, Repr

abbrev SafeHttpHeaders := List (SafeHeaderName × String)

def allowedName (name : String) : Option SafeHeaderName :=
  if name = "user-agent" then some .userAgent
  else if name = "referer" then some .referer
  else if name = "origin" then some .origin
  else if name = "accept" then some .accept
  else if name = "accept-language" then some .acceptLanguage
  else none

def validateValue (value : String) : Except SiteError Unit :=
  if value = "" || MAX_HEADER_VALUE_BYTES < value.utf8ByteSize || value.toList.any isControl then
    .error .unsafeHeader
  else .ok ()

def validateProviderOrigin (library : UrlLibrary) (value : String) (provider : SiteProvider) :
    Except SiteError Unit :=
  match library.parse value with
  | none => .error .unsafeHeader
  | some url =>
    if url.scheme ≠ "https" || url.username ≠ "" || url.password.isSome ||
        url.portOrKnownDefault ≠ some 443 || !provider.acceptsPageHost (url.host.getD "") then
      .error .unsafeHeader
    else .ok ()

/-- The loop over the headers, with those kept so far. -/
def keepHeaders (library : UrlLibrary) (provider : SiteProvider) :
    List (String × String) → SafeHttpHeaders → Except SiteError SafeHttpHeaders
  | [], headers => .ok headers
  | (name, value) :: raw, headers =>
    let normalized := String.ofList ((trim name).toList.map Char.toLower)
    if normalized = "cookie" || normalized = "authorization" ||
        normalized = "proxy-authorization" || normalized = "host" then .error .unsafeHeader
    else match allowedName normalized with
      | none => keepHeaders library provider raw headers
      | some name => do
        validateValue value
        if name = .referer || name = .origin then validateProviderOrigin library value provider
        if headers.any fun header => header.1 = name then .error .unsafeHeader
        else keepHeaders library provider raw (headers ++ [(name, value)])

/-- The headers are in the order of their names. -/
def SafeHttpHeaders.fromYtdlp (library : UrlLibrary) (raw : List (String × String))
    (provider : SiteProvider) : Except SiteError SafeHttpHeaders :=
  keepHeaders library provider raw []

end PepeAudio
