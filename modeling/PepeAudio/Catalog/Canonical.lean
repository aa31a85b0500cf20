import PepeAudio.Catalog.Link
import PepeAudio.Lib.Decimal

/-!
# Canonical links

An accepted link has a canonical form that depends on its segments and its song
alone; it is read back as the same reference, and the canonical form of a track
is a public page of its provider.
-/
namespace PepeAudio

namespace Catalog

def spotifyPage (kindSegment id : String) : Url :=
  Url.https "open.spotify.com" ("/" ++ kindSegment ++ "/" ++ id) none

/-- A kind and an identifier that make a link. -/
structure SpotifyLink (kindSegment id : String) (kind : CatalogItemKind) : Prop where
  id_valid : validSpotifyId id = true
  kind_eq : spotifyKind kindSegment = some kind

theorem spotifyKind_eq_some {kindSegment : String} {kind : CatalogItemKind}
    (h : spotifyKind kindSegment = some kind) :
    (kindSegment = "track" ∧ kind = .track) ∨ (kindSegment = "album" ∧ kind = .album) ∨
      (kindSegment = "playlist" ∧ kind = .playlist) := by
  unfold spotifyKind at h
  split at h <;> simp_all

namespace SpotifyLink

variable {kindSegment id : String} {kind : CatalogItemKind}

theorem id_size (h : SpotifyLink kindSegment id kind) : id.utf8ByteSize = 22 := by
  have hid := h.id_valid
  simp only [validSpotifyId, Bool.and_eq_true, decide_eq_true_eq] at hid
  exact hid.1

theorem id_alphanum (h : SpotifyLink kindSegment id kind) :
    id.toList.all Char.isAlphanum = true := by
  have hid := h.id_valid
  simp only [validSpotifyId, Bool.and_eq_true] at hid
  exact hid.2

theorem kind_alphanum (h : SpotifyLink kindSegment id kind) :
    kindSegment.toList.all Char.isAlphanum = true := by
  rcases spotifyKind_eq_some h.kind_eq with ⟨rfl, -⟩ | ⟨rfl, -⟩ | ⟨rfl, -⟩ <;> decide

theorem kind_size (h : SpotifyLink kindSegment id kind) :
    kindSegment ≠ "" ∧ kindSegment.utf8ByteSize ≤ 8 := by
  rcases spotifyKind_eq_some h.kind_eq with ⟨rfl, -⟩ | ⟨rfl, -⟩ | ⟨rfl, -⟩ <;> decide

theorem not_mem_of_alphanum {word : String} (h : word.toList.all Char.isAlphanum = true) :
    '/' ∉ word.toList := by
  intro hmem
  exact absurd (List.all_eq_true.mp h _ hmem) (by decide)

theorem segments_page (h : SpotifyLink kindSegment id kind) :
    segments (spotifyPage kindSegment id) = some [kindSegment, id] := by
  have hid : id ≠ "" := by
    intro hempty
    have hsize := h.id_size
    rw [hempty] at hsize
    contradiction
  have hsplit : (kindSegment.toList ++ '/' :: id.toList).splitOn '/' =
      [kindSegment.toList, id.toList] := by
    rw [List.splitOn_append_cons_self_of_not_mem (not_mem_of_alphanum h.kind_alphanum),
      List.splitOn_eq_singleton (not_mem_of_alphanum h.id_alphanum)]
  have hparts : (spotifyPage kindSegment id).pathSegments = some [kindSegment, id] := by
    simp [Url.pathSegments, spotifyPage, Url.https, hsplit]
  simp [segments, hparts, hid, h.kind_size.1]

theorem parse_page (h : SpotifyLink kindSegment id kind) {library : UrlLibrary}
    (hlawful : library.Lawful) :
    library.parse ("https://open.spotify.com/" ++ kindSegment ++ "/" ++ id) =
      some (spotifyPage kindSegment id) :=
  hlawful.words kindSegment id h.kind_alphanum h.id_alphanum

theorem asStr_page (kindSegment id : String) : (spotifyPage kindSegment id).asStr =
    "https://open.spotify.com/" ++ kindSegment ++ "/" ++ id := by
  rw [spotifyPage, Url.asStr_https]
  exact String.toList_inj.mp (by simp)

theorem size_page (h : SpotifyLink kindSegment id kind) :
    (spotifyPage kindSegment id).asStr.utf8ByteSize ≤ MAX_PUBLIC_PAGE_URL_BYTES := by
  have hid := h.id_size
  have hkind := h.kind_size.2
  have hhost : "https://open.spotify.com/".utf8ByteSize = 25 := by decide
  have hslash : "/".utf8ByteSize = 1 := rfl
  rw [asStr_page, String.utf8ByteSize_append, String.utf8ByteSize_append,
    String.utf8ByteSize_append, hhost, hslash, MAX_PUBLIC_PAGE_URL_BYTES]
  omega

/-- The canonical link is read as the reference that has it. -/
theorem parseCatalogUrl_page (h : SpotifyLink kindSegment id kind) {library : UrlLibrary}
    (hlawful : library.Lawful) :
    parseCatalogUrl library (spotifyPage kindSegment id) =
      .ok ⟨.spotify, kind, id, none, spotifyPage kindSegment id⟩ := by
  have hsize := h.size_page
  have horigin : validateOrigin (spotifyPage kindSegment id) = true := by
    have hlimit : MAX_PUBLIC_PAGE_URL_BYTES ≤ MAX_CATALOG_URL_BYTES := by decide
    simp only [validateOrigin, Bool.and_eq_true, decide_eq_true_eq]
    exact ⟨hsize.trans hlimit, publicOrigin_https _ _ _⟩
  have hquery : validateSpotifyQuery (library.pairs (spotifyPage kindSegment id)) false = true := by
    have hpairs : library.pairs (spotifyPage kindSegment id) = [] := hlawful.pairs_empty
    simp [hpairs, validateSpotifyQuery]
  have hlocale : isLocale kindSegment = false := by
    rcases spotifyKind_eq_some h.kind_eq with ⟨rfl, -⟩ | ⟨rfl, -⟩ | ⟨rfl, -⟩ <;> decide
  have hsegments : (segments (spotifyPage kindSegment id)).map withoutLocale =
      some [kindSegment, id] := by
    simp [h.segments_page, withoutLocale, hlocale]
  have hhost : (spotifyPage kindSegment id).host = some "open.spotify.com" := rfl
  unfold parseCatalogUrl
  simp only [horigin, Bool.not_true, Bool.false_eq_true, if_false, hhost]
  unfold parseSpotify
  simp only [hquery, hsegments, h.id_valid, h.kind_eq, spotifyReference, h.parse_page hlawful,
    Bool.not_true, Bool.false_eq_true, if_false]

theorem validPage_page (h : SpotifyLink kindSegment id .track) (library : UrlLibrary) :
    validPage library .spotify (spotifyPage kindSegment id) = true := by
  have htrack : kindSegment = "track" := by
    rcases spotifyKind_eq_some h.kind_eq with ⟨rfl, -⟩ | ⟨-, hkind⟩ | ⟨-, hkind⟩
    · rfl
    · contradiction
    · contradiction
  subst htrack
  have hhost : (spotifyPage "track" id).host = some "open.spotify.com" := rfl
  have hquery : (spotifyPage "track" id).query = none := rfl
  simp [validPage, validSpotify, exactTrackPath, h.segments_page, hhost, hquery, h.id_valid]

end SpotifyLink

/-- The canonical link of a path and, for a song of an album, the song. -/
def applePage (path : String) (songId : Option String) : Url :=
  Url.https "music.apple.com" path (songId.map fun song => "i=" ++ song)

theorem applePage_appendPair (path song : String) :
    (applePage path none).appendPair "i" song = applePage path (some song) := by
  simp [applePage, Url.https, Url.appendPair]

/-- The segments of a path, its song, and the laws that each of them passes. -/
structure AppleLink (library : UrlLibrary) (path storefront pathKind slug pathId : String)
    (songId : Option String) : Prop where
  segments_eq : segments (applePage path none) = some [storefront, pathKind, slug, pathId]
  storefront_valid : validStorefront storefront = true
  slug_valid : validAppleSlug slug = true
  song_valid : ∀ song, songId = some song → validNumericId song = true
  parse_path : library.parse (applePage path none).asStr = some (applePage path none)

theorem validNumericId_iff {value : String} : validNumericId value = true ↔
    value ≠ "" ∧ value.utf8ByteSize ≤ 20 ∧ value.toList.all Char.isDigit = true := by
  simp [validNumericId, and_assoc]

theorem validNumericId_decimal (n : UInt64) : validNumericId (decimal n) = true := by
  have hdigits : ∀ c ∈ Nat.toDigits 10 n.toNat, c.isDigit = true :=
    fun c hc => Nat.isDigit_of_mem_toDigits (by decide) (by decide) hc
  have hall : (decimal n).toList.all Char.isDigit = true := by
    rw [decimal, String.toList_ofList, List.all_eq_true]
    exact hdigits
  have hsize : (decimal n).utf8ByteSize ≤ 20 := by
    rw [decimal, utf8ByteSize_ofList hdigits]
    exact digits_le (by decide) (n.toNat_lt.trans (by decide))
  have hne : decimal n ≠ "" := by
    intro hempty
    have hnil : (decimal n).toList = [] := by rw [hempty]; rfl
    rw [decimal, String.toList_ofList] at hnil
    exact Nat.toDigits_ne_nil hnil
  exact validNumericId_iff.mpr ⟨hne, hsize, hall⟩

/-- The song that a query names is a number. -/
theorem appleQuerySongId_valid {pairs : List (String × String)} {songId found : Option String}
    (h : appleQuerySongId pairs songId = .ok found)
    (hsong : ∀ song, songId = some song → validNumericId song = true) :
    ∀ song, found = some song → validNumericId song = true := by
  induction pairs generalizing songId with
  | nil =>
    have hfound : songId = found := by simpa [appleQuerySongId] using h
    exact hfound ▸ hsong
  | cons pair pairs ih =>
    obtain ⟨name, value⟩ := pair
    unfold appleQuerySongId at h
    split at h
    · rename_i hname
      have hvalue : validNumericId value = true := by simp_all
      exact ih h fun song hvalue' => Option.some.inj hvalue' ▸ hvalue
    · split at h
      · exact ih h hsong
      · contradiction

theorem appleItem_eq_some {pathKind pathId id : String} {songId : Option String}
    {kind : CatalogItemKind} (h : appleItem pathKind pathId songId = some (kind, id)) :
    (pathKind = "album" ∧ validNumericId pathId = true ∧
        ((∃ song, songId = some song ∧ kind = .track ∧ id = song) ∨
          (songId = none ∧ kind = .album ∧ id = pathId))) ∨
      (pathKind = "song" ∧ songId = none ∧ validNumericId pathId = true ∧ kind = .track ∧
        id = pathId) ∨
      (pathKind = "playlist" ∧ songId = none ∧ validApplePlaylistId pathId = true ∧
        kind = .playlist ∧ id = pathId) := by
  unfold appleItem at h
  split at h
  case h_5 => contradiction
  all_goals
    split at h
    all_goals simp_all

theorem asStr_applePage (path : String) :
    "https://music.apple.com" ++ path = (applePage path none).asStr := by
  rw [applePage, Option.map_none, Url.asStr_https]
  exact String.toList_inj.mp (by simp)

/-- The song is put back into the link of an album, and nowhere else. -/
theorem canonicalUrl_eq {path pathKind pathId id : String} {songId : Option String}
    {kind : CatalogItemKind} (h : appleItem pathKind pathId songId = some (kind, id)) :
    (if kind = .track ∧ pathKind = "album" then (applePage path none).appendPair "i" id
      else applePage path none) = applePage path songId := by
  rcases appleItem_eq_some h with
    ⟨rfl, -, ⟨song, rfl, rfl, rfl⟩ | ⟨rfl, rfl, rfl⟩⟩ | ⟨rfl, rfl, -, rfl, rfl⟩ |
      ⟨rfl, rfl, -, rfl, rfl⟩
  · rw [if_pos ⟨rfl, rfl⟩, applePage_appendPair]
  · rw [if_neg (by decide)]
  · rw [if_neg (by decide)]
  · rw [if_neg (by decide)]

namespace AppleLink

variable {library : UrlLibrary} {path storefront pathKind slug pathId : String}
  {songId : Option String}

theorem withSong (h : AppleLink library path storefront pathKind slug pathId none) {song : String}
    (hsong : validNumericId song = true) :
    AppleLink library path storefront pathKind slug pathId (some song) :=
  ⟨h.segments_eq, h.storefront_valid, h.slug_valid, fun _ hsome => Option.some.inj hsome ▸ hsong,
    h.parse_path⟩

theorem segments_page (h : AppleLink library path storefront pathKind slug pathId songId) :
    segments (applePage path songId) = some [storefront, pathKind, slug, pathId] := by
  rw [← h.segments_eq]
  exact segments_congr rfl

theorem parse_page (h : AppleLink library path storefront pathKind slug pathId songId)
    (hlawful : library.Lawful) :
    library.parse (applePage path songId).asStr = some (applePage path songId) := by
  cases songId with
  | none => exact h.parse_path
  | some song =>
    obtain ⟨hne, -, hdigits⟩ := validNumericId_iff.mp (h.song_valid song rfl)
    rw [← applePage_appendPair]
    exact hlawful.withDigits _ _ song h.parse_path rfl rfl rfl hne hdigits

theorem pairs_page (h : AppleLink library path storefront pathKind slug pathId songId)
    (hlawful : library.Lawful) :
    library.pairs (applePage path songId) = (songId.map fun song => ("i", song)).toList := by
  cases songId with
  | none => exact hlawful.pairs_empty
  | some song => exact hlawful.pairs_digits song (validNumericId_iff.mp (h.song_valid song rfl)).2.2

theorem querySongId_page (h : AppleLink library path storefront pathKind slug pathId songId)
    (hlawful : library.Lawful) :
    appleQuerySongId (library.pairs (applePage path songId)) none = .ok songId := by
  rw [h.pairs_page hlawful]
  cases songId with
  | none => rfl
  | some song => simp [appleQuerySongId, h.song_valid song rfl]

/-- A link is short, whatever its kind. -/
theorem size_page (h : AppleLink library path storefront pathKind slug pathId songId)
    (hkind : pathKind.utf8ByteSize ≤ 8) (hid : pathId.utf8ByteSize ≤ 128) :
    (applePage path songId).asStr.utf8ByteSize ≤ MAX_PUBLIC_PAGE_URL_BYTES := by
  have hpath := utf8ByteSize_path_le h.segments_eq
  have hstorefront : storefront.utf8ByteSize = 2 := by
    have hvalid := h.storefront_valid
    simp only [validStorefront, Bool.and_eq_true, decide_eq_true_eq] at hvalid
    exact hvalid.1
  have hslug : slug.utf8ByteSize ≤ 512 := by
    have hvalid := h.slug_valid
    simp only [validAppleSlug, MAX_APPLE_SLUG_BYTES, Bool.and_eq_true, decide_eq_true_eq] at hvalid
    exact of_decide_eq_true hvalid.1.1.1.2
  have hpath' : (applePage path none).path = path := rfl
  have hquery :
      ((songId.map fun song => "i=" ++ song).elim "" fun query => "?" ++ query).utf8ByteSize
      ≤ 23 := by
    cases songId with
    | none => decide
    | some song =>
      obtain ⟨-, hsize, -⟩ := validNumericId_iff.mp (h.song_valid song rfl)
      have hname : "i=".utf8ByteSize = 2 := by decide
      have hmark : "?".utf8ByteSize = 1 := rfl
      simp only [Option.map_some, Option.elim_some, String.utf8ByteSize_append, hname, hmark]
      omega
  have hscheme : "https://".utf8ByteSize = 8 := by decide
  have hhost : "music.apple.com".utf8ByteSize = 15 := by decide
  simp only [List.map_cons, List.map_nil, List.sum_cons, List.sum_nil, List.length_cons,
    List.length_nil, hpath'] at hpath
  rw [applePage, Url.asStr_https, String.utf8ByteSize_append, String.utf8ByteSize_append,
    String.utf8ByteSize_append, hscheme, hhost, MAX_PUBLIC_PAGE_URL_BYTES]
  omega

variable {kind : CatalogItemKind} {id : String}

theorem size_item (h : AppleLink library path storefront pathKind slug pathId songId)
    (hitem : appleItem pathKind pathId songId = some (kind, id)) :
    (applePage path songId).asStr.utf8ByteSize ≤ MAX_PUBLIC_PAGE_URL_BYTES := by
  rcases appleItem_eq_some hitem with ⟨rfl, hid, -⟩ | ⟨rfl, -, hid, -⟩ | ⟨rfl, -, hid, -⟩
  · have hsize := (validNumericId_iff.mp hid).2.1
    exact h.size_page (by decide) (by omega)
  · have hsize := (validNumericId_iff.mp hid).2.1
    exact h.size_page (by decide) (by omega)
  · have hsize : pathId.utf8ByteSize ≤ 128 := by
      simp only [validApplePlaylistId, Bool.and_eq_true, decide_eq_true_eq] at hid
      exact hid.1.2
    exact h.size_page (by decide) hsize

/-- The canonical link is read as the reference that has it. -/
theorem parseCatalogUrl_page (h : AppleLink library path storefront pathKind slug pathId songId)
    (hlawful : library.Lawful) (hitem : appleItem pathKind pathId songId = some (kind, id)) :
    parseCatalogUrl library (applePage path songId) =
      .ok ⟨.appleMusic, kind, id, some storefront, applePage path songId⟩ := by
  have horigin : validateOrigin (applePage path songId) = true := by
    have hlimit : MAX_PUBLIC_PAGE_URL_BYTES ≤ MAX_CATALOG_URL_BYTES := by decide
    simp only [validateOrigin, Bool.and_eq_true, decide_eq_true_eq]
    exact ⟨(h.size_item hitem).trans hlimit, publicOrigin_https _ _ _⟩
  have hhost : (applePage path songId).host = some "music.apple.com" := rfl
  have hpath : (applePage path songId).path = path := rfl
  unfold parseCatalogUrl
  simp only [horigin, Bool.not_true, Bool.false_eq_true, if_false, hhost]
  unfold parseAppleMusic
  simp only [h.segments_page, h.storefront_valid, h.slug_valid, h.querySongId_page hlawful, hitem,
    appleReference, hpath, asStr_applePage, h.parse_path, canonicalUrl_eq hitem, Bool.not_true,
      Bool.or_self, Bool.false_eq_true, if_false]

theorem validPage_page (h : AppleLink library path storefront pathKind slug pathId songId)
    (hlawful : library.Lawful) (hitem : appleItem pathKind pathId songId = some (.track, id)) :
    validPage library .appleMusic (applePage path songId) = true := by
  have hhost : (applePage path songId).host = some "music.apple.com" := rfl
  have hpairs := h.pairs_page hlawful
  rcases appleItem_eq_some hitem with
    ⟨rfl, hid, ⟨song, rfl, -, rfl⟩ | ⟨-, hkind, -⟩⟩ | ⟨rfl, rfl, hid, -, rfl⟩ | ⟨-, -, -, hkind, -⟩
  · simp [validPage, validAppleMusic, hhost, h.segments_page, h.storefront_valid, h.slug_valid, hid,
      oneQueryValue, hpairs, h.song_valid]
  · contradiction
  · have hquery : (applePage path none).query = none := rfl
    simp [validPage, validAppleMusic, hhost, h.segments_page, h.storefront_valid, h.slug_valid, hid,
      hquery]
  · contradiction

end AppleLink

/-- The links whose references have the canonical forms above. -/
inductive Canonical (library : UrlLibrary) : CatalogReference → Prop where
  | spotify {kindSegment id : String} {kind : CatalogItemKind}
      (link : SpotifyLink kindSegment id kind) :
      Canonical library ⟨.spotify, kind, id, none, spotifyPage kindSegment id⟩
  | appleMusic {path storefront pathKind slug pathId id : String} {songId : Option String}
      {kind : CatalogItemKind}
      (link : AppleLink library path storefront pathKind slug pathId songId)
      (item : appleItem pathKind pathId songId = some (kind, id)) :
      Canonical library ⟨.appleMusic, kind, id, some storefront, applePage path songId⟩

/-- A parsed link is refused with an error or read into a canonical reference: the texts of which
the canonical links are made are URLs, so that no call to `expect` fails. -/
theorem parseCatalogUrl_cases {library : UrlLibrary} (hlawful : library.Lawful) {text : String}
    {url : Url} (hparse : library.parse text = some url) :
    (∃ error, parseCatalogUrl library url = .error (.error error)) ∨
      ∃ reference, parseCatalogUrl library url = .ok reference ∧ Canonical library reference := by
  unfold parseCatalogUrl
  split
  · exact .inl ⟨_, rfl⟩
  · rename_i hvalid
    have horigin : publicOrigin url = true := by
      simp only [validateOrigin, Bool.not_eq_true, Bool.not_eq_false', Bool.and_eq_true] at hvalid
      simp_all
    split
    · rcases parseSpotify_cases library url with herror | ⟨kindSegment, id, kind, hid, hkind, heq⟩
      · exact .inl herror
      · have hlink : SpotifyLink kindSegment id kind := ⟨hid, hkind⟩
        rw [spotifyReference, hlink.parse_page hlawful] at heq
        exact .inr ⟨_, heq, .spotify hlink⟩
    · rename_i hhost
      rcases parseAppleMusic_cases library url with herror | ⟨storefront, pathKind, slug, pathId,
        songId, kind, id, hsegments, hstorefront, hslug, hsong, hitem, heq⟩
      · exact .inl herror
      · have hurl := eq_https_of_publicOrigin horigin hhost
        have hpath : library.parse (applePage url.path none).asStr =
            some (applePage url.path none) := by
          have hwithout := hlawful.withoutQuery text url hparse
          rw [hurl] at hwithout
          exact hwithout rfl rfl
        have hlink : AppleLink library url.path storefront pathKind slug pathId songId :=
          ⟨by rw [← hsegments]; exact segments_congr rfl, hstorefront, hslug,
            appleQuerySongId_valid hsong (by simp), hpath⟩
        rw [appleReference, asStr_applePage, hpath] at heq
        dsimp only at heq
        rw [canonicalUrl_eq hitem] at heq
        exact .inr ⟨_, heq, .appleMusic hlink hitem⟩
    · exact .inl ⟨_, rfl⟩

/-- Reading a link gives a canonical reference. -/
theorem canonical_of_parseCatalogUrl {library : UrlLibrary} (hlawful : library.Lawful)
    {text : String} {url : Url} (hparse : library.parse text = some url)
    {reference : CatalogReference} (h : parseCatalogUrl library url = .ok reference) :
    Canonical library reference := by
  rcases parseCatalogUrl_cases hlawful hparse with ⟨error, herror⟩ | ⟨found, hfound, hcanonical⟩
  · rw [herror] at h
    contradiction
  · rw [hfound] at h
    cases h
    exact hcanonical

/-- A canonical link is parsed and read back as the reference that has it. -/
theorem Canonical.stable {library : UrlLibrary} (hlawful : library.Lawful)
    {reference : CatalogReference} (h : Canonical library reference) :
    library.parse reference.canonicalUrl.asStr = some reference.canonicalUrl ∧
      parseCatalogUrl library reference.canonicalUrl = .ok reference := by
  cases h with
  | spotify link =>
    have hparse := link.parse_page hlawful
    rw [← SpotifyLink.asStr_page] at hparse
    exact ⟨hparse, link.parseCatalogUrl_page hlawful⟩
  | appleMusic link item => exact ⟨link.parse_page hlawful, link.parseCatalogUrl_page hlawful item⟩

end Catalog

def CatalogProvider.mediaProvider : CatalogProvider → MediaProvider
  | .spotify => .spotify
  | .appleMusic => .appleMusic

namespace Catalog

/-- The canonical link of a track is a public page of its provider. -/
theorem Canonical.publicMediaPage {library : UrlLibrary} (hlawful : library.Lawful)
    {reference : CatalogReference} (h : Canonical library reference)
    (htrack : reference.kind = .track) :
    PublicMediaPage.new library reference.provider.mediaProvider reference.canonicalUrl.asStr =
      .ok ⟨reference.provider.mediaProvider, reference.canonicalUrl.asStr⟩ := by
  have hparse := (h.stable hlawful).1
  rw [PublicMediaPage.new_asStr hlawful hparse]
  cases h with
  | spotify link =>
    cases htrack
    exact ⟨link.size_page, publicOrigin_https _ _ _, link.validPage_page library, rfl⟩
  | appleMusic link item =>
    cases htrack
    exact ⟨link.size_item item, publicOrigin_https _ _ _, link.validPage_page hlawful item, rfl⟩

/-- A track of an album has a canonical link of its own. -/
theorem Canonical.albumTrack {library : UrlLibrary} {reference : CatalogReference}
    (h : Canonical library reference) (happle : reference.provider = .appleMusic)
    (halbum : reference.kind = .album) (trackId : UInt64) :
    Canonical library (albumTrackReference reference trackId) := by
  cases h with
  | spotify link => contradiction
  | appleMusic link item =>
    cases halbum
    rcases appleItem_eq_some item with
      ⟨rfl, hid, ⟨song, -, hkind, -⟩ | ⟨rfl, -, rfl⟩⟩ | ⟨-, -, -, hkind, -⟩ | ⟨-, -, -, hkind, -⟩
    · contradiction
    · have hsong := validNumericId_decimal trackId
      have hitem : appleItem "album" _ (some (decimal trackId)) =
          some (.track, decimal trackId) := if_pos hid
      have hcanonical := Canonical.appleMusic (link.withSong hsong) hitem
      rw [← applePage_appendPair] at hcanonical
      exact hcanonical
    · contradiction
    · contradiction

end Catalog

end PepeAudio
