import PepeAudio.Bot.TrackMetadata

/-!
# What the site resolver accepts is published

The title, the artist and the album of a resolved track always pass the checks of
a snapshot. Its page is refused where the resolver knows a site by more names than
the public pages do, or overlooks empty and long segments of a path.
-/
namespace PepeAudio

/-- What is relied on for the page of a video and for ports. -/
structure UrlLibrary.WatchPages (library : UrlLibrary) : Prop where
  parse : ∀ id, validYoutubeId id = true →
    library.parse ("https://www.youtube.com/watch?v=" ++ id) =
      some (Url.https "www.youtube.com" "/watch" (some ("v=" ++ id)))
  pairs : ∀ id, validYoutubeId id = true → library.queryPairs ("v=" ++ id) = [("v", id)]
  port : ∀ text url, library.parse text = some url → url.scheme = "https" → url.port ≠ some 443

namespace Site

section Shapes

variable {library : UrlLibrary} {url : Url}

/-- Two segments, and perhaps a slash behind them. -/
def TwoSegments (url : Url) (account title : String) : Prop :=
  (url.pathSegments = some [account, title] ∨ url.pathSegments = some [account, title, ""]) ∧
    account ≠ "" ∧ title ≠ ""

theorem segments_eq_pair {account title : String} :
    segments url = some [account, title] ↔ TwoSegments url account title := by
  constructor
  · intro h
    have hne := ne_empty_of_segments h
    exact ⟨segments_eq_some h, hne account (by simp), hne title (by simp)⟩
  · rintro ⟨hpath | hpath, haccount, htitle⟩
    · simp [segments, hpath, haccount, htitle]
    · simp [segments, hpath, haccount, htitle]

/-- A page of a video is always public. -/
theorem new_watch (hlawful : library.Lawful) (hpages : library.WatchPages) {id : String}
    (hid : validYoutubeId id = true) :
    ∃ page, PublicMediaPage.new library .youTube
      ("https://www.youtube.com/watch?v=" ++ id) = .ok page := by
  have hurl : "https://www.youtube.com/watch?v=" ++ id =
      (Url.https "www.youtube.com" "/watch" (some ("v=" ++ id))).asStr := by
    rw [Url.asStr_https]
    exact String.toList_inj.mp (by simp)
  have hparse := hpages.parse id hid
  have hvalid : validPage library .youTube
      (Url.https "www.youtube.com" "/watch" (some ("v=" ++ id))) = true := by
    have hvalue : oneQueryValue library
        (Url.https "www.youtube.com" "/watch" (some ("v=" ++ id))) "v" = some id := by
      simp [oneQueryValue, UrlLibrary.pairs, Url.https, hpages.pairs id hid]
    simp [validPage, validYoutube, hvalue, hid]
    simp [Url.https]
  have hsize : (Url.https "www.youtube.com" "/watch" (some ("v=" ++ id))).asStr.utf8ByteSize ≤
      MAX_PUBLIC_PAGE_URL_BYTES := by
    rw [← hurl, String.utf8ByteSize_append]
    simp only [validYoutubeId, Bool.and_eq_true, decide_eq_true_eq] at hid
    rw [hid.1]
    decide
  rw [hurl]
  exact ⟨_, (PublicMediaPage.new_asStr hlawful hparse .youTube _).mpr ⟨hsize,
    publicOrigin_https _ _ _, hvalid, rfl⟩⟩

/-- What a page of SoundCloud must be, beside a page that the resolver accepts. -/
def PublicSoundcloud (url : Url) : Prop :=
  (url.host = some "soundcloud.com" ∨ url.host = some "www.soundcloud.com" ∨
      url.host = some "m.soundcloud.com") ∧
    ∃ account title, TwoSegments url account title ∧ account.utf8ByteSize ≤ 256 ∧
      title.utf8ByteSize ≤ 256

theorem validSoundcloud_iff :
    validSoundcloud { url with query := none } = true ↔ PublicSoundcloud url := by
  have hsegments : segments { url with query := none } = segments url := segments_congr rfl
  unfold validSoundcloud PublicSoundcloud
  rw [hsegments]
  simp only [Bool.and_eq_true, Bool.or_eq_true, decide_eq_true_eq, Option.isNone_none, and_true,
    or_assoc]
  refine and_congr_right fun _ => ?_
  constructor
  · intro h
    split at h
    · rename_i account title hpair
      simp only [Bool.and_eq_true, decide_eq_true_eq] at h
      exact ⟨account, title, segments_eq_pair.mp hpair, h⟩
    · contradiction
  · rintro ⟨account, title, hpair, haccount, htitle⟩
    rw [segments_eq_pair.mpr hpair]
    simp [haccount, htitle]

/-- The facts that `classify` has checked. -/
theorem classify_eq_ok (hpages : library.WatchPages) {raw : String} {provider : SiteProvider}
    (h : SiteProvider.classify library raw = .ok (some provider)) :
    ∃ url, library.parse raw = some url ∧ publicOrigin url = true ∧ url.host.isSome = true := by
  unfold SiteProvider.classify at h
  split_ifs at h
  split at h
  · contradiction
  · rename_i url hparse
    split_ifs at h with horigin
    have hhost : url.host.isSome = true := by
      cases hcase : url.host with
      | none =>
        rw [hcase] at h
        contradiction
      | some host => rfl
    refine ⟨url, hparse, ?_, hhost⟩
    simp only [ne_eq, Bool.or_eq_true, decide_eq_true_eq, not_or, not_not,
      Bool.not_eq_true, Option.isSome_eq_false_iff] at horigin
    obtain ⟨⟨⟨⟨hscheme, husername⟩, hpassword⟩, hfragment⟩, hport⟩ := horigin
    have hnone : url.port = none := by
      have hdefault := hpages.port raw url hparse hscheme
      unfold Url.portOrKnownDefault at hport
      cases hcase : url.port with
      | none => rfl
      | some port =>
        rw [hcase] at hport hdefault
        exact absurd hport hdefault
    simp [publicOrigin, hscheme, husername, hpassword, hfragment, hnone]

theorem canonicalSoundcloudPage_eq_ok (hpages : library.WatchPages) {candidate page : String}
    (h : canonicalSoundcloudPage library candidate = .ok page) :
    ∃ url, library.parse candidate = some url ∧ publicOrigin url = true ∧
      url.host.isSome = true ∧ page = ({ url with query := none } : Url).asStr := by
  unfold canonicalSoundcloudPage at h
  split at h
  · contradiction
  · rename_i url hparse
    obtain ⟨provider, hclassify, h⟩ := bind_eq_ok h
    split_ifs at h with hrefused
    simp only [Bool.or_eq_true, decide_eq_true_eq, not_or, ne_eq, not_not] at hrefused
    rw [hrefused.1.1] at hclassify
    obtain ⟨url', hparse', horigin, hhost⟩ := classify_eq_ok hpages hclassify
    obtain rfl := Option.some.inj (hparse.symm.trans hparse')
    exact ⟨url, hparse, horigin, hhost, (Except.ok.inj h).symm⟩

/-- The page of SoundCloud without its query is public exactly when it has the public form. -/
theorem new_soundcloud_iff (hlawful : library.Lawful) {text : String}
    (hparse : library.parse text = some url) (horigin : publicOrigin url = true)
    (hhost : url.host.isSome = true) :
    (∃ page, PublicMediaPage.new library .soundCloud ({ url with query := none } : Url).asStr =
      .ok page) ↔ PublicSoundcloud url := by
  have hscheme : url.scheme = "https" := by
    simp only [publicOrigin, Bool.and_eq_true, decide_eq_true_eq] at horigin
    exact horigin.1.1.1.1
  have hbare := hlawful.withoutQuery text url hparse hscheme hhost
  have hbareOrigin : publicOrigin { url with query := none } = true := horigin
  constructor
  · rintro ⟨page, hnew⟩
    obtain ⟨-, -, hvalid, -⟩ := (PublicMediaPage.new_asStr hlawful hbare .soundCloud page).mp hnew
    exact validSoundcloud_iff.mp hvalid
  · intro hpublic
    refine ⟨_, (PublicMediaPage.new_asStr hlawful hbare .soundCloud _).mpr
      ⟨?_, hbareOrigin, validSoundcloud_iff.mpr hpublic, rfl⟩⟩
    obtain ⟨hhost, account, title, htwo, haccount, htitle⟩ := hpublic
    have hpath := utf8ByteSize_path_le (segments_eq_pair.mpr htwo)
    simp only [List.map_cons, List.map_nil, List.sum_cons, List.sum_nil, List.length_cons,
      List.length_nil] at hpath
    have hbound : ∀ host : String, url.host = some host → host.utf8ByteSize ≤ 18 →
        ({ url with query := none } : Url).asStr.utf8ByteSize ≤ MAX_PUBLIC_PAGE_URL_BYTES := by
      intro host hsome hsize
      have hscheme : "https://".utf8ByteSize = 8 := rfl
      rw [eq_https_of_publicOrigin hbareOrigin hsome, Url.asStr_https, Option.elim_none,
        String.utf8ByteSize_append, String.utf8ByteSize_append, String.utf8ByteSize_append]
      unfold MAX_PUBLIC_PAGE_URL_BYTES
      rw [hscheme, String.utf8ByteSize_empty]
      dsimp only
      omega
    rcases hhost with hhost | hhost | hhost
    · exact hbound _ hhost (by decide)
    · exact hbound _ hhost (by decide)
    · exact hbound _ hhost (by decide)

/-- A page of YouTube is made from the identity of a video. -/
theorem canonicalYoutubePage_eq_ok {id : Option String} {candidate page : String}
    (h : canonicalYoutubePage library id candidate = .ok page) :
    ∃ id, validYoutubeId id = true ∧ page = "https://www.youtube.com/watch?v=" ++ id := by
  unfold canonicalYoutubePage at h
  split at h
  · contradiction
  · rename_i url hparse
    dsimp only at h
    split at h
    · rename_i found hfound
      refine ⟨found, ?_, (Except.ok.inj h).symm⟩
      rcases Option.or_eq_some_iff.mp hfound with hfound | ⟨-, hfound⟩
      · exact (Option.filter_eq_some_iff.mp hfound).2
      · split at hfound
        · split_ifs at hfound
          · exact (Option.filter_eq_some_iff.mp hfound).2
          · obtain ⟨pair, hpair, rfl⟩ := Option.map_eq_some_iff.mp hfound
            have hboth := List.find?_some hpair
            simp only [Bool.and_eq_true] at hboth
            exact hboth.2
        · contradiction
    · contradiction

end Shapes

/-- The characters of a title that are shown. -/
def sanitize (candidate : String) : String :=
  String.ofList ((candidate.toList.filter (!isControl ·)).take 120)

/-- Without a preferred title the last segment of the media's URL is taken. -/
def displayTitle (library : UrlLibrary) (preferred : Option String) (finalUrl : String) : String :=
  let lastSegment := (library.parse finalUrl).bind fun url =>
    url.pathSegments.bind List.getLast?
  let candidate :=
    ((preferred.filter fun value => !(trim value).isEmpty).or lastSegment).getD "Audio"
  let sanitized := sanitize candidate
  if (trim sanitized).isEmpty then "Audio" else sanitized

theorem byteSize_le_four_mul (cs : List Char) : Url.byteSize cs ≤ 4 * cs.length := by
  induction cs with
  | nil => exact Nat.zero_le _
  | cons c cs ih =>
    have hfour := c.utf8Size_le_four
    simp only [Url.byteSize, List.map_cons, List.sum_cons, List.length_cons] at ih ⊢
    omega

/-- What is shown is never blank, too long or controlled. -/
theorem validateText_displayTitle (library : UrlLibrary) (preferred : Option String)
    (finalUrl : String) :
    validateText (displayTitle library preferred finalUrl) MAX_TRACK_TITLE_BYTES = true := by
  unfold displayTitle
  dsimp only
  split_ifs with hblank
  · decide +kernel
  · generalize ((preferred.filter _).or _).getD "Audio" = candidate at hblank ⊢
    have hsize : (sanitize candidate).utf8ByteSize ≤ MAX_TRACK_TITLE_BYTES := by
      have hfour := byteSize_le_four_mul ((candidate.toList.filter (!isControl ·)).take 120)
      have hlength := List.length_take_le 120 (candidate.toList.filter (!isControl ·))
      rw [sanitize, Url.byteSize_ofList]
      unfold MAX_TRACK_TITLE_BYTES
      omega
    have hplain : (sanitize candidate).toList.any isControl = false := by
      rw [sanitize, String.toList_ofList, List.any_eq_false]
      intro c hc
      have hkept := (List.mem_filter.mp (List.mem_of_mem_take hc)).2
      simpa using hkept
    simp [validateText, hblank, hsize, hplain]

section Publication

variable {library : UrlLibrary} {Seconds : Type} {tryFromSecs : Seconds → Option ℕ}

/-- The track gets its metadata, and with a shown title it passes the checks of a snapshot. -/
def Published (library : UrlLibrary) (track : ResolvedTrack) : Prop :=
  ∃ metadata, TrackMetadata.fromSiteTrack library track.toSiteResolvedTrack = .ok metadata ∧
    ∀ (queued : QueueTrack) (preferred : Option String) (finalUrl : String) (positionMs : UInt64),
      queued.title = displayTitle library preferred finalUrl →
      queued.metadata = metadata → (∀ duration ∈ queued.durationMs, positionMs ≤ duration) →
      validateTrack (queued.snapshot positionMs) = .ok ()

theorem published_iff {track : ResolvedTrack} : Published library track ↔
    ∃ page, PublicMediaPage.new library track.provider.mediaProvider track.pageUrl = .ok page := by
  constructor
  · rintro ⟨metadata, hmetadata, -⟩
    obtain ⟨page, hpage, -⟩ := bind_eq_ok hmetadata
    unfold TrackMetadata.playbackPage at hpage
    cases hnew : PublicMediaPage.new library track.provider.mediaProvider track.pageUrl with
    | error error =>
      rw [hnew] at hpage
      contradiction
    | ok page => exact ⟨page, rfl⟩
  · rintro ⟨page, hnew⟩
    have hplayback : TrackMetadata.playbackPage library track.toSiteResolvedTrack = .ok page := by
      rw [TrackMetadata.playbackPage, hnew]
      rfl
    have hprovider := TrackMetadata.playbackPage_eq_ok hplayback
    have hprovenance : TrackProvenance.new none page = .ok ⟨none, page⟩ := by
      simp [TrackProvenance.new, hprovider]
    refine ⟨_, by
      rw [TrackMetadata.fromSiteTrack, hplayback]
      simp only [bind, Except.bind, hprovenance, Except.mapError]
      rfl, ?_⟩
    intro queued preferred finalUrl positionMs htitle _ hposition
    refine QueueTrack.validateTrack_snapshot ?_ hposition
    have hvalid := validateText_displayTitle library preferred finalUrl
    rw [← htitle] at hvalid
    exact hvalid

theorem pageUrl_of_resolvedInfo {config : YtDlpConfig} {raw : RawInfo Seconds}
    {reference : SiteReference} {track : ResolvedTrack}
    (h : resolvedInfo tryFromSecs library config raw reference = .ok track) :
    track.provider = reference.provider ∧ canonicalPageUrl library reference.provider raw.id
      (raw.webpageUrl.getD reference.pageUrl) = .ok track.pageUrl := by
  unfold resolvedInfo at h
  obtain ⟨-, -, h⟩ := bind_eq_ok h
  obtain ⟨seconds, -, h⟩ := bind_eq_ok h
  obtain ⟨duration, -, h⟩ := bind_eq_ok h
  obtain ⟨-, -, h⟩ := bind_eq_ok h
  obtain ⟨durationMs, -, h⟩ := bind_eq_ok h
  obtain ⟨url, -, h⟩ := bind_eq_ok h
  obtain ⟨-, -, h⟩ := bind_eq_ok h
  obtain ⟨headers, -, h⟩ := bind_eq_ok h
  obtain ⟨pageUrl, hpage, h⟩ := bind_eq_ok h
  obtain ⟨title, -, h⟩ := bind_eq_ok h
  obtain rfl := Except.ok.inj h
  exact ⟨rfl, hpage⟩

/-- The page that the resolver starts from can be made public. -/
def PublicCandidate (library : UrlLibrary) (provider : SiteProvider) (candidate : String) : Prop :=
  provider = .soundCloud → ∃ url, library.parse candidate = some url ∧ PublicSoundcloud url

theorem published_iff_candidate (hlawful : library.Lawful) (hpages : library.WatchPages)
    {config : YtDlpConfig} {raw : RawInfo Seconds} {reference : SiteReference}
    {track : ResolvedTrack}
    (h : resolvedInfo tryFromSecs library config raw reference = .ok track) :
    Published library track ↔ PublicCandidate library reference.provider
      (raw.webpageUrl.getD reference.pageUrl) := by
  obtain ⟨hprovider, hpage⟩ := pageUrl_of_resolvedInfo h
  rw [published_iff, hprovider]
  unfold PublicCandidate
  cases hcase : reference.provider with
  | youTube =>
    rw [hcase] at hpage
    obtain ⟨id, hid, hurl⟩ := canonicalYoutubePage_eq_ok hpage
    rw [hurl]
    exact iff_of_true (new_watch hlawful hpages hid) (fun hother => by contradiction)
  | soundCloud =>
    rw [hcase] at hpage
    obtain ⟨url, hparse, horigin, hhost, hurl⟩ := canonicalSoundcloudPage_eq_ok hpages hpage
    have hiff : (∃ page, PublicMediaPage.new library .soundCloud _ = .ok page) ↔ _ :=
      new_soundcloud_iff hlawful hparse horigin hhost
    rw [hurl]
    refine hiff.trans ⟨fun hpublic _ => ⟨url, hparse, hpublic⟩, fun hpublic => ?_⟩
    obtain ⟨url', hparse', hpublic⟩ := hpublic rfl
    obtain rfl := Option.some.inj (hparse.symm.trans hparse')
    exact hpublic

end Publication

end Site

end PepeAudio
