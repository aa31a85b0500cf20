import PepeAudio.Bot.SitePublication
import PepeAudio.Bot.SiteSearch
import PepeAudio.Lib.PlainUrl

/-!
# What becomes of the resolver's tracks

A page of YouTube is always published. A page of SoundCloud is published when its
host is written without a dot behind it and its path is an account and a title,
both of bounded size.
-/
namespace PepeAudio

namespace PlainUrl

/-- Plain URLs include the pages of videos. -/
theorem plainUrls_watchPages : plainUrls.WatchPages where
  parse := by
    intro id hid
    simp only [validYoutubeId, Bool.and_eq_true, decide_eq_true_eq] at hid
    have hvalue : ∀ c ∈ id.toList, queryChar c = true := by
      intro c hc
      have hchar := List.all_eq_true.mp hid.2 c hc
      simp only [queryChar, Bool.or_eq_true] at hchar ⊢
      tauto
    have hparts : Parts "www.youtube.com".toList "/watch".toList
        (some ('v' :: '=' :: id.toList)) := by
      refine ⟨by decide, List.all_eq_true.mp (by decide), by decide,
        List.all_eq_true.mp (by decide), ?_⟩
      intro c hc
      have hcases : c = 'v' ∨ c = '=' ∨ c ∈ id.toList := by simpa using hc
      rcases hcases with rfl | rfl | hmem
      · decide
      · decide
      · exact hvalue c hmem
    have hquery : String.ofList ('v' :: '=' :: id.toList) = "v=" ++ id :=
      String.toList_inj.mp (by simp)
    have hurl : ofParts "www.youtube.com".toList "/watch".toList
        (some ('v' :: '=' :: id.toList)) =
          Url.https "www.youtube.com" "/watch" (some ("v=" ++ id)) := by
      rw [ofParts, Option.map_some, hquery, String.ofList_toList, String.ofList_toList]
    have htext : "https://www.youtube.com/watch?v=" ++ id =
        (Url.https "www.youtube.com" "/watch" (some ("v=" ++ id))).asStr := by
      rw [Url.asStr_https]
      exact String.toList_inj.mp (by simp)
    rw [htext, ← hurl]
    exact hparts.parse_plainUrls
  pairs := by
    intro id hid
    simp only [validYoutubeId, Bool.and_eq_true, decide_eq_true_eq] at hid
    have hamp : '&' ∉ id.toList := fun hmem =>
      absurd (List.all_eq_true.mp hid.2 _ hmem) (by decide)
    have htext : "v=" ++ id = String.ofList (['v'] ++ '=' :: id.toList) :=
      String.toList_inj.mp (by simp)
    have hpair : queryPairs (String.ofList (['v'] ++ '=' :: id.toList)) =
        [(String.ofList ['v'], String.ofList id.toList)] :=
      queryPairs_pair (by decide) (by decide) hamp
    rw [String.ofList_toList] at hpair
    rw [htext]
    exact hpair
  port := by
    intro text url h _
    obtain ⟨host, path, query, -, rfl⟩ := parts_of_parse h
    simp [ofParts, Url.https]

end PlainUrl

namespace Site

section Acceptance

variable {library : UrlLibrary} {Seconds : Type} {tryFromSecs : Seconds → Option ℕ}

theorem pageUrl_of_validatedReference {provider : SiteProvider} {raw : String}
    {reference : SiteReference} (h : validatedReference library provider raw = .ok reference) :
    reference.provider = provider ∧ reference.pageUrl = raw := by
  unfold validatedReference at h
  obtain ⟨found, -, h⟩ := bind_eq_ok h
  split_ifs at h
  obtain rfl := Except.ok.inj h
  exact ⟨rfl, rfl⟩

/-- A found track of SoundCloud has the page the extractor names. -/
theorem referenceFromRaw_eq_ok {raw : RawInfo Seconds} {provider : SiteProvider}
    {reference : SiteReference}
    (h : referenceFromRaw tryFromSecs library raw provider = .ok reference) :
    reference.provider = provider ∧
      (provider = .soundCloud → raw.webpageUrl.or raw.url = some reference.pageUrl) := by
  unfold referenceFromRaw at h
  dsimp only at h
  split at h
  · rename_i found hfound
    obtain ⟨url, hurl, hvalid⟩ := Option.bind_eq_some_iff.mp hfound
    cases hcase : validatedReference library provider url with
    | error error =>
      rw [hcase] at hvalid
      contradiction
    | ok valid =>
      rw [hcase] at hvalid
      obtain rfl := Option.some.inj hvalid
      obtain ⟨hprovider, hpage⟩ := pageUrl_of_validatedReference hcase
      obtain rfl := Except.ok.inj h
      exact ⟨hprovider, fun _ => by rw [hurl, hpage]⟩
  · split_ifs at h with hyoutube
    subst hyoutube
    refine ⟨?_, fun hother => by contradiction⟩
    split at h
    · contradiction
    · rename_i id _
      split_ifs at h
      cases hcase : validatedReference library .youTube
          ("https://www.youtube.com/watch?v=" ++ id) with
      | error error =>
        rw [hcase] at h
        contradiction
      | ok valid =>
        rw [hcase] at h
        obtain rfl := Except.ok.inj h
        exact (pageUrl_of_validatedReference hcase).1

theorem searched_published_iff (hlawful : library.Lawful) (hpages : library.WatchPages)
    {config : YtDlpConfig} {raw entry : RawInfo Seconds} {provider : SiteProvider}
    {track : ResolvedTrack} (hentry : searchedInfo raw = .ok entry)
    (h : resolvedSearch tryFromSecs library config raw provider = .ok track) :
    Published library track ↔
      PublicCandidate library provider ((entry.webpageUrl.or entry.url).getD "") := by
  unfold resolvedSearch at h
  obtain ⟨found, hfound, h⟩ := bind_eq_ok h
  obtain rfl := Except.ok.inj (hentry.symm.trans hfound)
  obtain ⟨reference, hreference, h⟩ := bind_eq_ok h
  obtain ⟨hprovider, hpage⟩ := referenceFromRaw_eq_ok hreference
  rw [published_iff_candidate hlawful hpages h, hprovider]
  refine forall_congr' fun hcloud => ?_
  have hnamed := hpage hcloud
  have hsame : entry.webpageUrl.getD reference.pageUrl =
      (entry.webpageUrl.or entry.url).getD "" := by
    rw [hnamed, Option.getD_some]
    cases hcase : entry.webpageUrl with
    | none => rfl
    | some url =>
      rw [hcase, Option.some_or] at hnamed
      exact Option.some.inj hnamed
  rw [hsame]

variable (tryFromSecs) in
/-- A track that was resolved is published exactly when its page is public, and the search for a
track of a catalog is accepted. -/
theorem accepted_published_iff (hlawful : library.Lawful) (hpages : library.WatchPages) :
    (∀ (config : YtDlpConfig) (raw : RawInfo Seconds) (reference : SiteReference)
        (track : ResolvedTrack),
      SiteProvider.classify library reference.pageUrl = .ok (some reference.provider) →
      resolved tryFromSecs library config raw reference = .ok track →
      (Published library track ↔ PublicCandidate library reference.provider
        (raw.webpageUrl.getD reference.pageUrl))) ∧
    (∀ (config : YtDlpConfig) (raw entry : RawInfo Seconds) (provider : SiteProvider)
        (track : ResolvedTrack),
      searchedInfo raw = .ok entry →
      resolvedSearch tryFromSecs library config raw provider = .ok track →
      (Published library track ↔ PublicCandidate library provider
        ((entry.webpageUrl.or entry.url).getD ""))) ∧
    ∀ track, Catalog.FromClient library track → ∃ search, siteSearch track = .ok search :=
  ⟨fun _ _ _ _ _ h => published_iff_candidate hlawful hpages h,
    fun _ _ _ _ _ hentry h => searched_published_iff hlawful hpages hentry h,
    fun _ h => siteSearch_usable h.usable⟩

end Acceptance

/-- A second of audio, without a page of its own. -/
def secondOfAudio : RawInfo ℕ where
  kind := none
  title := some "Song"
  id := none
  url := some "https://media.sndcdn.com/audio"
  webpageUrl := none
  artist := none
  album := none
  uploader := none
  channel := none
  entries := none
  duration := some 1
  protocol := some "https"
  vcodec := some "none"
  acodec := some "mp3"
  isLive := none
  liveStatus := none
  httpHeaders := []

def wholeSeconds (seconds : ℕ) : Option ℕ := some (seconds * 1000000000)

def minute : YtDlpConfig := ⟨60000000000⟩

def soundcloudReference (page : String) : SiteReference := ⟨.soundCloud, page, none, none, none⟩

def audioAt (page : String) : ResolvedTrack where
  artist := none
  album := none
  provider := .soundCloud
  pageUrl := page
  title := "Song"
  durationMs := 1000
  request := ⟨"https://media.sndcdn.com/audio", .soundCloud, []⟩

theorem resolved_song : resolved wholeSeconds plainUrls minute secondOfAudio
    (soundcloudReference "https://soundcloud.com/artist/song") =
      .ok (audioAt "https://soundcloud.com/artist/song") := by
  decide +kernel

theorem publicCandidate_song : PublicCandidate plainUrls .soundCloud
    "https://soundcloud.com/artist/song" := fun _ =>
  ⟨Url.https "soundcloud.com" "/artist/song" none, by decide +kernel, .inl rfl, "artist", "song",
    ⟨.inl (by decide +kernel), by decide, by decide⟩, by decide, by decide⟩

theorem accepted_song_published :
    SiteProvider.classify plainUrls "https://soundcloud.com/artist/song" =
        .ok (some .soundCloud) ∧
      resolved wholeSeconds plainUrls minute secondOfAudio
        (soundcloudReference "https://soundcloud.com/artist/song") =
          .ok (audioAt "https://soundcloud.com/artist/song") ∧
      Published plainUrls (audioAt "https://soundcloud.com/artist/song") := by
  have hclassify : SiteProvider.classify plainUrls "https://soundcloud.com/artist/song" =
      .ok (some .soundCloud) := by decide +kernel
  have hall := accepted_published_iff wholeSeconds PlainUrl.plainUrls_lawful
    PlainUrl.plainUrls_watchPages
  exact ⟨hclassify, resolved_song,
    (hall.1 minute secondOfAudio (soundcloudReference "https://soundcloud.com/artist/song")
      _ hclassify resolved_song).mpr publicCandidate_song⟩

/-- An empty segment is overlooked by the resolver, and the track is thrown away later. -/
theorem accepted_not_published :
    SiteProvider.classify plainUrls "https://soundcloud.com/artist//song" =
        .ok (some .soundCloud) ∧
      resolved wholeSeconds plainUrls minute secondOfAudio
        (soundcloudReference "https://soundcloud.com/artist//song") =
          .ok (audioAt "https://soundcloud.com/artist//song") ∧
      TrackMetadata.fromSiteTrack plainUrls
        (audioAt "https://soundcloud.com/artist//song").toSiteResolvedTrack =
          .error TrackMetadata.invalidSiteMetadata := by
  refine ⟨by decide +kernel, by decide +kernel, by decide +kernel⟩

/-- So is a dot behind the host. -/
example : resolved wholeSeconds plainUrls minute secondOfAudio
      (soundcloudReference "https://soundcloud.com./artist/song") =
        .ok (audioAt "https://soundcloud.com./artist/song") ∧
    TrackMetadata.fromSiteTrack plainUrls
      (audioAt "https://soundcloud.com./artist/song").toSiteResolvedTrack =
        .error TrackMetadata.invalidSiteMetadata := by
  refine ⟨by decide +kernel, by decide +kernel⟩

end Site

end PepeAudio
