import PepeAudio.Bot.DashboardCommandExecutor
import PepeAudio.Catalog.ClientTracks
import PepeAudio.Catalog.PublicPages
import PepeAudio.Media.SiteParse
import PepeAudio.Player.Model

/-!
# Display metadata of resolved tracks

The metadata a queued track is given from the catalog entry it was asked for
and the site track it was matched with. A catalog track is never refused for
its own page: what can be refused is the page of the site.
-/
namespace PepeAudio

def SiteProvider.mediaProvider : SiteProvider → MediaProvider
  | .youTube => .youTube
  | .soundCloud => .soundCloud

namespace TrackMetadata

def invalidSiteMetadata : ResolveError := .failed "site display metadata was invalid"

/-- The characters that fit into a number of bytes. -/
def prefixWithin : List Char → ℕ → List Char
  | [], _ => []
  | c :: cs, bytes => if c.utf8Size ≤ bytes then c :: prefixWithin cs (bytes - c.utf8Size) else []

def boundedUtf8 (value : String) (maximumBytes : ℕ) : String :=
  if value.utf8ByteSize ≤ maximumBytes then value
  else String.ofList ((prefixWithin value.toList maximumBytes).rdropWhile isWhitespace)

/-- A text that the builder refuses leaves it as it was. -/
def addArtist (metadata : QueueTrackMetadata) (artist : String) : QueueTrackMetadata :=
  match metadata.withArtist (boundedUtf8 artist MAX_TRACK_ARTIST_BYTES) with
  | .ok metadata => metadata
  | .error _ => metadata

def addAlbum (metadata : QueueTrackMetadata) (album : String) : QueueTrackMetadata :=
  match metadata.withAlbum (boundedUtf8 album MAX_TRACK_ALBUM_BYTES) with
  | .ok metadata => metadata
  | .error _ => metadata

def playbackPage (library : UrlLibrary) (resolved : SiteResolvedTrack) :
    Except ResolveError PublicMediaPage :=
  (PublicMediaPage.new library resolved.provider.mediaProvider resolved.pageUrl).mapError
    fun _ => invalidSiteMetadata

def fromSiteTrack (library : UrlLibrary) (resolved : SiteResolvedTrack) :
    Except ResolveError QueueTrackMetadata := do
  let playback ← playbackPage library resolved
  let provenance ← (TrackProvenance.new none playback).mapError fun _ => invalidSiteMetadata
  let metadata := QueueTrackMetadata.default.withProvenance provenance
  let metadata := resolved.artist.elim metadata (addArtist metadata)
  return resolved.album.elim metadata (addAlbum metadata)

def fromCatalogTrack (library : UrlLibrary) (catalog : CatalogTrackMetadata)
    (resolved : SiteResolvedTrack) : Except ResolveError QueueTrackMetadata := do
  let origin ← (PublicMediaPage.new library catalog.reference.provider.mediaProvider
    catalog.reference.canonicalUrl.asStr).mapError fun _ => invalidSiteMetadata
  let playback ← playbackPage library resolved
  let provenance ← (TrackProvenance.new (some origin) playback).mapError
    fun _ => invalidSiteMetadata
  let metadata := QueueTrackMetadata.default.withProvenance provenance
  let metadata :=
    if catalog.artists.isEmpty then metadata
    else addArtist metadata (", ".intercalate catalog.artists)
  return catalog.album.elim metadata (addAlbum metadata)

theorem prefixWithin_prefix (cs : List Char) (bytes : ℕ) : prefixWithin cs bytes <+: cs := by
  induction cs generalizing bytes with
  | nil => simp [prefixWithin]
  | cons c cs ih =>
    unfold prefixWithin
    split
    · exact List.prefix_cons_inj c |>.mpr (ih _)
    · simp

theorem byteSize_prefixWithin_le (cs : List Char) (bytes : ℕ) :
    Url.byteSize (prefixWithin cs bytes) ≤ bytes := by
  induction cs generalizing bytes with
  | nil => simp [prefixWithin, Url.byteSize]
  | cons c cs ih =>
    unfold prefixWithin
    split
    · rename_i hfits
      have htail := ih (bytes - c.utf8Size)
      simp only [Url.byteSize, List.map_cons, List.sum_cons] at htail ⊢
      omega
    · simp [Url.byteSize]

theorem utf8ByteSize_boundedUtf8_le (value : String) (maximumBytes : ℕ) :
    (boundedUtf8 value maximumBytes).utf8ByteSize ≤ maximumBytes := by
  unfold boundedUtf8
  split
  · assumption
  · have hleading := List.rdropWhile_prefix isWhitespace (prefixWithin value.toList maximumBytes)
    have hsize : Url.byteSize ((prefixWithin value.toList maximumBytes).rdropWhile isWhitespace) ≤
        Url.byteSize (prefixWithin value.toList maximumBytes) := by
      obtain ⟨rest, hrest⟩ := hleading
      have happend := Url.byteSize_append
        ((prefixWithin value.toList maximumBytes).rdropWhile isWhitespace) rest
      rw [hrest] at happend
      omega
    rw [Url.byteSize_ofList]
    exact hsize.trans (byteSize_prefixWithin_le _ _)

/-- A refused text keeps the builder, and an accepted one changes its own field only. -/
theorem addArtist_provenance (metadata : QueueTrackMetadata) (artist : String) :
    (addArtist metadata artist).provenance = metadata.provenance := by
  unfold addArtist QueueTrackMetadata.withArtist
  cases validatedText .artist (boundedUtf8 artist MAX_TRACK_ARTIST_BYTES)
    MAX_TRACK_ARTIST_BYTES <;> rfl

theorem addAlbum_provenance (metadata : QueueTrackMetadata) (album : String) :
    (addAlbum metadata album).provenance = metadata.provenance := by
  unfold addAlbum QueueTrackMetadata.withAlbum
  cases validatedText .album (boundedUtf8 album MAX_TRACK_ALBUM_BYTES)
    MAX_TRACK_ALBUM_BYTES <;> rfl

/-- A page of a site is a playback page. -/
theorem playbackPage_eq_ok {library : UrlLibrary} {resolved : SiteResolvedTrack}
    {page : PublicMediaPage} (h : playbackPage library resolved = .ok page) :
    page.provider.isPlaybackProvider = true := by
  unfold playbackPage at h
  cases hnew : PublicMediaPage.new library resolved.provider.mediaProvider resolved.pageUrl with
  | error error =>
    rw [hnew] at h
    contradiction
  | ok found =>
    rw [hnew] at h
    cases h
    obtain ⟨-, url, -, -, -, rfl⟩ := PublicMediaPage.new_eq_ok.mp hnew
    cases resolved.provider <;> rfl

/-- A track of a catalog gets its metadata exactly when the site track it was matched with has a
playback page, and its canonical link is then where it came from. -/
theorem fromCatalogTrack_of_canonical {library : UrlLibrary} (hlawful : library.Lawful)
    {catalog : CatalogTrackMetadata} (hcanonical : Catalog.Canonical library catalog.reference)
    (htrack : catalog.reference.kind = .track) (resolved : SiteResolvedTrack) :
    match playbackPage library resolved with
    | .error error => fromCatalogTrack library catalog resolved = .error error
    | .ok page => ∃ metadata, fromCatalogTrack library catalog resolved = .ok metadata ∧
        metadata.provenance = some ⟨some ⟨catalog.reference.provider.mediaProvider,
          catalog.reference.canonicalUrl.asStr⟩, page⟩ := by
  have horigin := hcanonical.publicMediaPage hlawful htrack
  cases hplayback : playbackPage library resolved with
  | error error => simp [fromCatalogTrack, horigin, hplayback, Except.mapError, bind, Except.bind]
  | ok page =>
    have hprovider := playbackPage_eq_ok hplayback
    refine ⟨_, by simp [fromCatalogTrack, horigin, hplayback, Except.mapError, bind, Except.bind,
      TrackProvenance.new, hprovider, pure, Except.pure]; rfl, ?_⟩
    by_cases hartists : catalog.artists = [] <;> cases catalog.album <;>
      simp [hartists, addAlbum_provenance, addArtist_provenance,
        QueueTrackMetadata.withProvenance]

end TrackMetadata

end PepeAudio
