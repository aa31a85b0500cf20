import PepeAudio.Core.Player
import PepeAudio.Core.Text
import PepeAudio.Lib.Url

/-!
# Public media pages

A page is accepted when its text parses as a public HTTPS URL of the shape its
provider has, and is stored as the serialisation of that URL. The size is
checked on the text that was given, so that a stored page is accepted again
exactly when its serialisation is not longer than the limit.
-/
namespace PepeAudio

def MAX_PUBLIC_PAGE_URL_BYTES : ℕ := 2048
def MAX_APPLE_SLUG_BYTES : ℕ := 512

def MediaProvider.isPlaybackProvider : MediaProvider → Bool
  | .youTube | .soundCloud => true
  | .spotify | .appleMusic => false

inductive PublicMediaPageError where
  | invalidUrl
  | providerMismatch
  | invalidPlaybackProvider
  deriving DecidableEq, Repr

/-- `u8::is_ascii_graphic` -/
def isAsciiGraphic (c : Char) : Bool := 0x21 ≤ c.toNat && c.toNat ≤ 0x7E

/-- The segments of the path, of which a last empty one is dropped and no other may be empty. -/
def segments (url : Url) : Option (List String) :=
  url.pathSegments.bind fun parts =>
    let parts := if parts.getLast? = some "" then parts.dropLast else parts
    if parts ≠ [] ∧ parts.all (· ≠ "") then some parts else none

theorem segments_congr {url url' : Url} (h : url.path = url'.path) :
    segments url = segments url' := by
  simp [segments, Url.pathSegments, h]

theorem segments_eq_some {url : Url} {parts : List String} (h : segments url = some parts) :
    url.pathSegments = some parts ∨ url.pathSegments = some (parts ++ [""]) := by
  obtain ⟨all, hall, hparts⟩ := Option.bind_eq_some_iff.mp h
  dsimp only at hparts
  by_cases hlast : all.getLast? = some ""
  · rw [if_pos hlast] at hparts
    split at hparts
    · have hdrop : all.dropLast = parts := Option.some.inj hparts
      exact .inr (by rw [hall, ← hdrop, List.dropLast_append_getLast? "" hlast])
    · contradiction
  · rw [if_neg hlast] at hparts
    split at hparts
    · exact .inl (by rw [hall, Option.some.inj hparts])
    · contradiction

/-- A path is not longer than its segments with a slash at each end. -/
theorem utf8ByteSize_path_le {url : Url} {parts : List String} (h : segments url = some parts) :
    url.path.utf8ByteSize ≤ (parts.map String.utf8ByteSize).sum + parts.length + 1 := by
  rcases segments_eq_some h with hparts | hparts
  · rw [Url.utf8ByteSize_path hparts]
    omega
  · rw [Url.utf8ByteSize_path hparts]
    simp
    omega

/-- No segment is empty. -/
theorem ne_empty_of_segments {url : Url} {parts : List String} (h : segments url = some parts) :
    ∀ part ∈ parts, part ≠ "" := by
  obtain ⟨all, -, hparts⟩ := Option.bind_eq_some_iff.mp h
  dsimp only at hparts
  generalize (if all.getLast? = some "" then all.dropLast else all) = kept at hparts
  split at hparts
  · rename_i hkept
    cases hparts
    simpa using hkept.2
  · contradiction

def oneQueryValue (library : UrlLibrary) (url : Url) (expectedName : String) : Option String :=
  match library.pairs url with
  | [(name, value)] => if name = expectedName then some value else none
  | _ => none

def validSpotifyId (value : String) : Bool :=
  value.utf8ByteSize = 22 && value.toList.all Char.isAlphanum

def validNumericId (value : String) : Bool :=
  value ≠ "" && value.utf8ByteSize ≤ 20 && value.toList.all Char.isDigit

def validAppleSlug (value : String) : Bool :=
  value ≠ "" && value.utf8ByteSize ≤ MAX_APPLE_SLUG_BYTES && value ≠ "." && value ≠ ".." &&
    value.toList.all isAsciiGraphic

def validYoutubeId (value : String) : Bool :=
  value.utf8ByteSize = 11 && value.toList.all fun c => c.isAlphanum || c == '_' || c == '-'

def validStorefront (value : String) : Bool :=
  value.utf8ByteSize = 2 && value.toList.all Char.isLower

def exactTrackPath (url : Url) (kind : String) (idValidator : String → Bool) : Bool :=
  match segments url with
  | some [first, id] => first = kind && idValidator id
  | _ => false

def exactSingleSegment (url : Url) : Option String :=
  match segments url with
  | some [segment] => some segment
  | _ => none

def validSpotify (url : Url) : Bool :=
  url.host = some "open.spotify.com" && url.query.isNone &&
    exactTrackPath url "track" validSpotifyId

def validAppleMusic (library : UrlLibrary) (url : Url) : Bool :=
  url.host = some "music.apple.com" &&
    match segments url with
    | some [storefront, kind, slug, id] =>
      validStorefront storefront && validAppleSlug slug && validNumericId id &&
        if kind = "song" then url.query.isNone
        else kind = "album" && (oneQueryValue library url "i").any validNumericId
    | _ => false

def validYoutube (library : UrlLibrary) (url : Url) : Bool :=
  if url.host = some "youtube.com" ∨ url.host = some "www.youtube.com" then
    url.path = "/watch" && (oneQueryValue library url "v").any validYoutubeId
  else
    url.host = some "youtu.be" && url.query.isNone && (exactSingleSegment url).any validYoutubeId

def validSoundcloud (url : Url) : Bool :=
  (url.host = some "soundcloud.com" || url.host = some "www.soundcloud.com" ||
    url.host = some "m.soundcloud.com") && url.query.isNone &&
    match segments url with
    | some [account, title] => account.utf8ByteSize ≤ 256 && title.utf8ByteSize ≤ 256
    | _ => false

def validPage (library : UrlLibrary) : MediaProvider → Url → Bool
  | .spotify, url => validSpotify url
  | .appleMusic, url => validAppleMusic library url
  | .youTube, url => validYoutube library url
  | .soundCloud, url => validSoundcloud url

/-- HTTPS without a port, credentials or a fragment. -/
def publicOrigin (url : Url) : Bool :=
  url.scheme = "https" && url.port.isNone && url.username = "" && url.password.isNone &&
    url.fragment.isNone

theorem eq_https_of_publicOrigin {url : Url} {host : String} (horigin : publicOrigin url = true)
    (hhost : url.host = some host) : url = Url.https host url.path url.query := by
  simp only [publicOrigin, Bool.and_eq_true, decide_eq_true_eq, Option.isNone_iff_eq_none]
    at horigin
  obtain ⟨⟨⟨⟨hscheme, hport⟩, husername⟩, hpassword⟩, hfragment⟩ := horigin
  cases url
  simp_all [Url.https]

theorem publicOrigin_https (host path : String) (query : Option String) :
    publicOrigin (Url.https host path query) = true := by
  simp [publicOrigin, Url.https]

namespace PublicMediaPage

/-- The check of the text, before it is parsed. -/
def boundedText (value : String) : Bool :=
  value ≠ "" && value.utf8ByteSize ≤ MAX_PUBLIC_PAGE_URL_BYTES && !value.toList.any isControl

def new (library : UrlLibrary) (provider : MediaProvider) (value : String) :
    Except PublicMediaPageError PublicMediaPage :=
  if !boundedText value then .error .invalidUrl
  else match library.parse value with
    | none => .error .invalidUrl
    | some url =>
      if !publicOrigin url then .error .invalidUrl
      else if !validPage library provider url then .error .providerMismatch
      else .ok ⟨provider, url.asStr⟩

theorem new_eq_ok {library : UrlLibrary} {provider : MediaProvider} {value : String}
    {page : PublicMediaPage} :
    new library provider value = .ok page ↔ boundedText value = true ∧
      ∃ url, library.parse value = some url ∧ publicOrigin url = true ∧
        validPage library provider url = true ∧ page = ⟨provider, url.asStr⟩ := by
  unfold new
  cases hbounded : boundedText value with
  | false => simp
  | true =>
    cases hparse : library.parse value with
    | none => simp
    | some url =>
      cases horigin : publicOrigin url <;> cases hvalid : validPage library provider url
      case true.true =>
        simp [horigin, hvalid]
        exact eq_comm
      all_goals simp [horigin, hvalid]

theorem any_isControl_eq_false {value : String}
    (hprintable : ∀ c ∈ value.toList, 0x20 ≤ c.toNat ∧ c.toNat < 0x7F) :
    value.toList.any isControl = false := by
  rw [List.any_eq_false]
  intro c hc
  have hrange := hprintable c hc
  simp only [isControl, Bool.or_eq_true, Bool.and_eq_true, decide_eq_true_eq]
  omega

/-- A text of printable characters is only bounded in its size. -/
theorem boundedText_iff {value : String} (hne : value ≠ "")
    (hprintable : ∀ c ∈ value.toList, 0x20 ≤ c.toNat ∧ c.toNat < 0x7F) :
    boundedText value = true ↔ value.utf8ByteSize ≤ MAX_PUBLIC_PAGE_URL_BYTES := by
  simp [boundedText, hne, any_isControl_eq_false hprintable]

end PublicMediaPage

theorem Url.asStr_ne_empty (url : Url) : url.asStr ≠ "" := by
  intro hempty
  have hcolon : ':' ∈ url.asStr.toList := by simp [Url.asStr]
  simp [hempty] at hcolon

/-- A parsed URL makes a page of a provider when it has the shape and its serialisation fits. -/
theorem PublicMediaPage.new_asStr {library : UrlLibrary} (hlawful : library.Lawful)
    {text : String} {url : Url} (hparse : library.parse text = some url) (provider : MediaProvider)
    (page : PublicMediaPage) :
    PublicMediaPage.new library provider url.asStr = .ok page ↔
      url.asStr.utf8ByteSize ≤ MAX_PUBLIC_PAGE_URL_BYTES ∧ publicOrigin url = true ∧
        validPage library provider url = true ∧ page = ⟨provider, url.asStr⟩ := by
  rw [PublicMediaPage.new_eq_ok, PublicMediaPage.boundedText_iff url.asStr_ne_empty
    (hlawful.printable text url hparse)]
  simp [hlawful.fixed text url hparse]

/-- A stored page is accepted again as itself exactly when it is not longer than the limit. -/
theorem PublicMediaPage.new_url {library : UrlLibrary} (hlawful : library.Lawful)
    {provider : MediaProvider} {value : String} {page : PublicMediaPage}
    (hpage : PublicMediaPage.new library provider value = .ok page) :
    PublicMediaPage.new library page.provider page.url = .ok page ↔
      page.url.utf8ByteSize ≤ MAX_PUBLIC_PAGE_URL_BYTES := by
  obtain ⟨-, url, hparse, horigin, hvalid, rfl⟩ := PublicMediaPage.new_eq_ok.mp hpage
  rw [PublicMediaPage.new_asStr hlawful hparse]
  simp [horigin, hvalid]

/-- A page that was made by its constructor. -/
def PublicMediaPage.Accepted (library : UrlLibrary) (page : PublicMediaPage) : Prop :=
  ∃ value, PublicMediaPage.new library page.provider value = .ok page

def TrackProvenance.new (origin : Option PublicMediaPage) (playback : PublicMediaPage) :
    Except PublicMediaPageError TrackProvenance :=
  if !playback.provider.isPlaybackProvider then .error .invalidPlaybackProvider
  else .ok ⟨origin, playback⟩

def TrackProvenance.pages (provenance : TrackProvenance) : List PublicMediaPage :=
  provenance.origin.toList ++ [provenance.playback]

def TrackSnapshot.pages (track : TrackSnapshot) : List PublicMediaPage :=
  track.provenance.elim [] TrackProvenance.pages

def PlayerSnapshot.tracks (snapshot : PlayerSnapshot) : List TrackSnapshot :=
  snapshot.currentTrack.toList ++ snapshot.upcomingTracks

def PlayerSnapshot.pages (snapshot : PlayerSnapshot) : List PublicMediaPage :=
  snapshot.tracks.flatMap TrackSnapshot.pages

/-- Attribution that was made by its constructors. -/
structure TrackProvenance.Accepted (library : UrlLibrary) (provenance : TrackProvenance) :
    Prop where
  constructed : TrackProvenance.new provenance.origin provenance.playback = .ok provenance
  pages : ∀ page ∈ provenance.pages, page.Accepted library

end PepeAudio
