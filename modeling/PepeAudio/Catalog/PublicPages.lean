import PepeAudio.Catalog.Canonical
import PepeAudio.Lib.PlainUrl

/-!
# Catalog links as public pages

The two grammars agree on every accepted link of a track. What does not agree
with itself is the size of a page, which is checked on the text given and not
on the URL stored: a link that is shorter than its serialisation can pass the
check and be refused when it is read back.
-/
namespace PepeAudio

namespace Catalog

/-- Every accepted link has a canonical form that is read back as the same reference, and a track
has one that is a public page; a page is accepted from its stored URL as long as that fits. -/
theorem canonical_links_publishable {library : UrlLibrary} (hlawful : library.Lawful) :
    (∀ text url reference, library.parse text = some url →
      parseCatalogUrl library url = .ok reference →
      (library.parse reference.canonicalUrl.asStr = some reference.canonicalUrl ∧
        parseCatalogUrl library reference.canonicalUrl = .ok reference) ∧
      (reference.kind = .track → ∃ page, PublicMediaPage.new library
        reference.provider.mediaProvider reference.canonicalUrl.asStr = .ok page) ∧
      (reference.provider = .appleMusic → reference.kind = .album → ∀ trackId : UInt64, ∃ page,
        PublicMediaPage.new library .appleMusic
          (albumTrackReference reference trackId).canonicalUrl.asStr = .ok page)) ∧
    ∀ provider value url page, library.parse value = some url →
      PublicMediaPage.new library provider value = .ok page →
      (PublicMediaPage.new library page.provider page.url = .ok page ↔
        url.asStr.utf8ByteSize ≤ MAX_PUBLIC_PAGE_URL_BYTES) := by
  constructor
  · intro text url reference hparse href
    have hcanonical := canonical_of_parseCatalogUrl hlawful hparse href
    refine ⟨hcanonical.stable hlawful, fun htrack => ?_, fun happle halbum trackId => ?_⟩
    · exact ⟨_, hcanonical.publicMediaPage hlawful htrack⟩
    · exact ⟨_, (hcanonical.albumTrack happle halbum trackId).publicMediaPage hlawful rfl⟩
  · intro provider value url page hparse hpage
    obtain ⟨-, url', hparse', -, -, hurl⟩ := PublicMediaPage.new_eq_ok.mp hpage
    have heq : url = url' := Option.some.inj (hparse.symm.trans hparse')
    rw [PublicMediaPage.new_url hlawful hpage, hurl, heq]

/-- A watch link without the slashes of its scheme, whose query begins with empty pairs. -/
def paddedLink (padding : ℕ) : String :=
  String.ofList ("https:www.youtube.com/watch?".toList ++ (List.replicate padding '&' ++
    "v=dQw4w9WgXcQ".toList))

def paddedUrl (padding : ℕ) : Url :=
  PlainUrl.ofParts "www.youtube.com".toList "/watch".toList
    (some (List.replicate padding '&' ++ "v=dQw4w9WgXcQ".toList))

theorem parse_paddedLink (padding : ℕ) :
    plainUrls.parse (paddedLink padding) = some (paddedUrl padding) := by
  have hparts : PlainUrl.Parts "www.youtube.com".toList "/watch".toList
      (some (List.replicate padding '&' ++ "v=dQw4w9WgXcQ".toList)) := by
    refine ⟨by decide, List.all_eq_true.mp (by decide), by decide, List.all_eq_true.mp (by decide),
      ?_⟩
    have hid : "v=dQw4w9WgXcQ".toList.all PlainUrl.queryChar = true := by decide
    intro c hc
    simp only [Option.getD_some, List.mem_append, List.mem_replicate] at hc
    rcases hc with ⟨-, rfl⟩ | hc
    · decide
    · exact List.all_eq_true.mp hid c hc
  have htext : (paddedLink padding).toList = 'h' :: 't' :: 't' :: 'p' :: 's' :: ':' ::
      ("www.youtube.com".toList ++ ("/watch".toList ++
        '?' :: (List.replicate padding '&' ++ "v=dQw4w9WgXcQ".toList))) :=
    String.toList_ofList
  show PlainUrl.parse (paddedLink padding) = some (paddedUrl padding)
  unfold PlainUrl.parse
  rw [htext]
  exact hparts.parseAuthority

theorem byteSize_padded (before after : List Char) (padding : ℕ) :
    Url.byteSize (before ++ (List.replicate padding '&' ++ after)) =
      Url.byteSize before + (padding + Url.byteSize after) := by
  have hone : '&'.utf8Size = 1 := rfl
  have hpadding : Url.byteSize (List.replicate padding '&') = padding := by
    simp [Url.byteSize, hone]
  rw [Url.byteSize_append, Url.byteSize_append, hpadding]

theorem utf8ByteSize_paddedLink (padding : ℕ) :
    (paddedLink padding).utf8ByteSize = padding + 41 := by
  have hbefore : Url.byteSize "https:www.youtube.com/watch?".toList = 28 := by decide +kernel
  have hafter : Url.byteSize "v=dQw4w9WgXcQ".toList = 13 := by decide +kernel
  have hsize : (paddedLink padding).utf8ByteSize = Url.byteSize
      ("https:www.youtube.com/watch?".toList ++ (List.replicate padding '&' ++
        "v=dQw4w9WgXcQ".toList)) := Url.byteSize_ofList _
  rw [byteSize_padded, hbefore, hafter] at hsize
  omega

theorem utf8ByteSize_paddedUrl (padding : ℕ) :
    (paddedUrl padding).asStr.utf8ByteSize = padding + 43 := by
  have hbefore : Url.byteSize "https://www.youtube.com/watch?".toList = 30 := by decide +kernel
  have hafter : Url.byteSize "v=dQw4w9WgXcQ".toList = 13 := by decide +kernel
  have htext : (paddedUrl padding).asStr.toList = "https://www.youtube.com/watch?".toList ++
      (List.replicate padding '&' ++ "v=dQw4w9WgXcQ".toList) :=
    PlainUrl.toList_asStr _ _ _
  have hsize := Url.byteSize_toList (paddedUrl padding).asStr
  rw [htext, byteSize_padded, hbefore, hafter] at hsize
  omega

theorem validPage_paddedUrl (padding : ℕ) :
    validPage plainUrls .youTube (paddedUrl padding) = true := by
  have hquery : plainUrls.pairs (paddedUrl padding) = [("v", "dQw4w9WgXcQ")] := by
    have hlast : PlainUrl.queryPairs (String.ofList "v=dQw4w9WgXcQ".toList) =
        [("v", "dQw4w9WgXcQ")] := by decide +kernel
    rw [← hlast]
    exact PlainUrl.queryPairs_replicate_append padding _
  have hid : validYoutubeId "dQw4w9WgXcQ" = true := by decide +kernel
  have hhost : (paddedUrl padding).host = some "www.youtube.com" :=
    congrArg some (String.ofList_toList)
  have hpath : (paddedUrl padding).path = "/watch" := String.ofList_toList
  simp [validPage, validYoutube, hhost, hpath, oneQueryValue, hquery, hid]

/-- A padded link is a page as long as the link fits, although its URL is two bytes longer. -/
theorem new_paddedLink {padding : ℕ} (hfits : padding + 41 ≤ MAX_PUBLIC_PAGE_URL_BYTES) :
    PublicMediaPage.new plainUrls .youTube (paddedLink padding) =
      .ok ⟨.youTube, (paddedUrl padding).asStr⟩ := by
  have hne : paddedLink padding ≠ "" := by
    intro hempty
    have hsize := utf8ByteSize_paddedLink padding
    rw [hempty] at hsize
    have hzero : "".utf8ByteSize = 0 := rfl
    omega
  have hgraphic : ∀ c ∈ (paddedLink padding).toList, 0x20 ≤ c.toNat ∧ c.toNat < 0x7F := by
    have hbefore : ∀ c ∈ "https:www.youtube.com/watch?".toList,
        0x20 ≤ c.toNat ∧ c.toNat < 0x7F := List.all_iff_forall_prop.mp (by decide +kernel)
    have hafter : ∀ c ∈ "v=dQw4w9WgXcQ".toList, 0x20 ≤ c.toNat ∧ c.toNat < 0x7F :=
      List.all_iff_forall_prop.mp (by decide +kernel)
    intro c hc
    have htext : (paddedLink padding).toList = "https:www.youtube.com/watch?".toList ++
        (List.replicate padding '&' ++ "v=dQw4w9WgXcQ".toList) := String.toList_ofList
    rw [htext, List.mem_append, List.mem_append, List.mem_replicate] at hc
    rcases hc with hc | ⟨-, rfl⟩ | hc
    · exact hbefore c hc
    · decide
    · exact hafter c hc
  have hbounded := (PublicMediaPage.boundedText_iff hne hgraphic).mpr
    ((utf8ByteSize_paddedLink padding).trans_le hfits)
  exact PublicMediaPage.new_eq_ok.mpr
    ⟨hbounded, paddedUrl padding, parse_paddedLink padding, publicOrigin_https _ _ _,
      validPage_paddedUrl padding, rfl⟩

/-- A watch link of 2048 bytes is accepted and its page is refused when it is read back. -/
theorem paddedLink_not_stable : plainUrls.Lawful ∧
    ∃ page, PublicMediaPage.new plainUrls .youTube (paddedLink 2007) = .ok page ∧
      PublicMediaPage.new plainUrls page.provider page.url = .error .invalidUrl := by
  have hfits : 2007 + 41 ≤ MAX_PUBLIC_PAGE_URL_BYTES := by decide
  have hlong : PublicMediaPage.boundedText (paddedUrl 2007).asStr = false := by
    simp [PublicMediaPage.boundedText, utf8ByteSize_paddedUrl, MAX_PUBLIC_PAGE_URL_BYTES]
  refine ⟨PlainUrl.plainUrls_lawful, _, new_paddedLink hfits, ?_⟩
  simp [PublicMediaPage.new, hlong]

def sharedUrl : Url :=
  Url.https "music.apple.com" "/jp/album/example/1440833098" (some "l=ja&i=1440833542")

def sharedTrack : CatalogReference :=
  ⟨.appleMusic, .track, "1440833542", some "jp",
    Url.https "music.apple.com" "/jp/album/example/1440833098" (some "i=1440833542")⟩

theorem canonical_links_publishable_shared :
    parseCatalogUrl plainUrls sharedTrack.canonicalUrl = .ok sharedTrack ∧
      (∃ page, PublicMediaPage.new plainUrls .appleMusic sharedTrack.canonicalUrl.asStr =
        .ok page) ∧
      ∃ page, PublicMediaPage.new plainUrls .youTube (paddedLink 2005) = .ok page ∧
        PublicMediaPage.new plainUrls page.provider page.url = .ok page := by
  have hlinks := canonical_links_publishable PlainUrl.plainUrls_lawful
  have hparse : plainUrls.parse
      "https://music.apple.com/jp/album/example/1440833098?l=ja&i=1440833542" = some sharedUrl := by
    decide +kernel
  have href : parseCatalogUrl plainUrls sharedUrl = .ok sharedTrack := by decide +kernel
  have hlink := hlinks.1 _ sharedUrl sharedTrack hparse href
  have hfits : 2005 + 41 ≤ MAX_PUBLIC_PAGE_URL_BYTES := by decide
  have hpage := new_paddedLink hfits
  have hstored : (paddedUrl 2005).asStr.utf8ByteSize ≤ MAX_PUBLIC_PAGE_URL_BYTES :=
    (utf8ByteSize_paddedUrl 2005).trans_le (by decide)
  exact ⟨hlink.1.2, hlink.2.1 rfl, _, hpage,
    (hlinks.2 _ _ _ _ (parse_paddedLink 2005) hpage).mpr hstored⟩

end Catalog

end PepeAudio
