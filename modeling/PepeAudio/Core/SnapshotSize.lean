import PepeAudio.Core.TextSize

/-!
# How long a snapshot gets as JSON

The texts of a track are bounded, and so is a page: its host is one of a few, its
path has segments of bounded length, and its query is no longer than the text the
page was made from. A snapshot has at most a hundred tracks beside the current one.
-/
namespace PepeAudio

/-- The length of a text in a string of JSON, without the quotes. -/
def escapedSize (value : String) : ℕ := (value.toList.map serdeEscaped).sum

@[simp] theorem escapedSize_append (left right : String) :
    escapedSize (left ++ right) = escapedSize left + escapedSize right := by
  simp [escapedSize]

theorem quotedSize_serde (value : String) :
    quotedSize serdeEscaped value = 2 + escapedSize value := rfl

theorem escapedSize_le {value : String} (h : ∀ c ∈ value.toList, 0x20 ≤ c.toNat) :
    escapedSize value ≤ 2 * value.utf8ByteSize := by
  have hquoted : quotedSize serdeEscaped value ≤ 2 + 2 * value.utf8ByteSize :=
    quotedSize_le fun c hc => serdeEscaped_le (h c hc)
  rw [quotedSize_serde] at hquoted
  omega

theorem length_le_utf8ByteSize (value : String) : value.toList.length ≤ value.utf8ByteSize := by
  rw [← Url.byteSize_toList]
  unfold Url.byteSize
  induction value.toList with
  | nil => exact Nat.zero_le _
  | cons c cs ih =>
    have hpos := c.utf8Size_pos
    rw [List.length_cons, List.map_cons, List.sum_cons]
    omega

section Pages

variable {library : UrlLibrary} {url : Url}

theorem serdeEscaped_plain {c : Char}
    (h : UrlLibrary.plainChar c = true ∨ c = '&' ∨ c = '=' ∨ c = '%') : serdeEscaped c = 1 := by
  rcases h with h | rfl | rfl | rfl
  · have hcases : (c.isAlphanum = true ∨ c = '-') ∨ c = '_' := by
      simpa [UrlLibrary.plainChar] using h
    rcases hcases with (halnum | rfl) | rfl
    · rw [isAlphanum_iff] at halnum
      have hquote : c ≠ '"' := fun heq => by subst heq; revert halnum; decide
      have hslash : c ≠ '\\' := fun heq => by subst heq; revert halnum; decide
      have hone : c.utf8Size = 1 := by
        have hle : c.val ≤ 0x7F := UInt32.le_iff_toNat_le.mpr (by
          change c.toNat ≤ 127
          omega)
        exact if_pos hle
      unfold serdeEscaped
      rw [if_neg, if_neg (by omega), hone]
      simp only [hquote, hslash, decide_false, Bool.false_or, Bool.or_eq_true, decide_eq_true_eq]
      omega
    · rfl
    · rfl
  · rfl
  · rfl
  · rfl

/-- A query of plain pairs is not escaped. -/
theorem escapedSize_query (hqueries : library.PlainQueries) {text query : String}
    (hparse : library.parse text = some url) (hquery : url.query = some query)
    (hplain : library.PlainPairs query) : escapedSize query ≤ text.utf8ByteSize := by
  have hone : query.toList.map serdeEscaped = query.toList.map fun _ => 1 :=
    List.map_congr_left fun c hc =>
      serdeEscaped_plain (hqueries.characters text url query hparse hquery hplain c hc)
  have hlength := (hqueries.unchanged text url query hparse hquery hplain).length_le
  have htext := length_le_utf8ByteSize text
  unfold escapedSize
  rw [hone, List.map_const', List.sum_replicate_nat]
  omega

/-- What the shape of a provider says about the size of a page. -/
structure PageBounds (library : UrlLibrary) (url : Url) : Prop where
  host : ∃ host, url.host = some host ∧ escapedSize host ≤ 18
  path : url.path.utf8ByteSize ≤ 544
  query : ∀ query, url.query = some query → library.PlainPairs query

theorem PageBounds.of_isNone {host : String} (hhost : url.host = some host)
    (hsize : escapedSize host ≤ 18) (hpath : url.path.utf8ByteSize ≤ 544)
    (hquery : url.query.isNone = true) : PageBounds library url :=
  ⟨⟨host, hhost, hsize⟩, hpath, fun query h => by simp [h] at hquery⟩

theorem plainChar_of_isDigit {c : Char} (h : c.isDigit = true) :
    UrlLibrary.plainChar c = true := by
  simp [UrlLibrary.plainChar, Char.isAlphanum, h]

/-- The only pair of a query has a plain name, and a value of plain characters. -/
theorem plainPairs_of_oneQueryValue {name value query : String}
    (h : oneQueryValue library url name = some value) (hquery : url.query = some query)
    (hname : name.toList.all UrlLibrary.plainChar = true)
    (hvalue : value.toList.all UrlLibrary.plainChar = true) : library.PlainPairs query := by
  unfold oneQueryValue UrlLibrary.pairs at h
  rw [hquery, Option.getD_some] at h
  unfold UrlLibrary.PlainPairs
  split at h
  · rename_i found foundValue hpairs
    split_ifs at h with hfound
    obtain rfl := Option.some.inj h
    subst hfound
    rw [hpairs]
    intro pair hpair
    obtain rfl := List.mem_singleton.mp hpair
    exact ⟨hname, hvalue⟩
  · contradiction

theorem exists_of_any {value : Option String} {p : String → Bool} (h : value.any p = true) :
    ∃ found, value = some found ∧ p found = true := by
  cases value with
  | none => contradiction
  | some found => exact ⟨found, rfl, h⟩

theorem validSpotify_bounds (h : validSpotify url = true) : PageBounds library url := by
  simp only [validSpotify, Bool.and_eq_true, decide_eq_true_eq] at h
  obtain ⟨⟨hhost, hquery⟩, hpath⟩ := h
  refine .of_isNone hhost (by decide) ?_ hquery
  unfold exactTrackPath at hpath
  split at hpath
  · rename_i first id hsegments
    simp only [validSpotifyId, Bool.and_eq_true, decide_eq_true_eq] at hpath
    have htrack : first.utf8ByteSize = 5 := by rw [hpath.1]; rfl
    have hle := utf8ByteSize_path_le hsegments
    simp only [List.map_cons, List.map_nil, List.sum_cons, List.sum_nil, List.length_cons,
      List.length_nil] at hle
    omega
  · contradiction

theorem validAppleMusic_bounds (h : validAppleMusic library url = true) :
    PageBounds library url := by
  simp only [validAppleMusic, Bool.and_eq_true, decide_eq_true_eq] at h
  obtain ⟨hhost, h⟩ := h
  split at h
  · rename_i storefront kind slug id hsegments
    simp only [Bool.and_eq_true] at h
    obtain ⟨⟨⟨hstorefront, hslug⟩, hid⟩, hkind⟩ := h
    simp only [validStorefront, Bool.and_eq_true, decide_eq_true_eq] at hstorefront
    simp only [validAppleSlug, MAX_APPLE_SLUG_BYTES, Bool.and_eq_true] at hslug
    have hslugSize : slug.utf8ByteSize ≤ 512 := of_decide_eq_true hslug.1.1.1.2
    simp only [validNumericId, Bool.and_eq_true, decide_eq_true_eq] at hid
    have hle := utf8ByteSize_path_le hsegments
    simp only [List.map_cons, List.map_nil, List.sum_cons, List.sum_nil, List.length_cons,
      List.length_nil] at hle
    split_ifs at hkind with hsong
    · have hsize : kind.utf8ByteSize = 4 := by rw [hsong]; rfl
      exact .of_isNone hhost (by decide) (by omega) hkind
    · simp only [Bool.and_eq_true, decide_eq_true_eq] at hkind
      have hsize : kind.utf8ByteSize = 5 := by rw [hkind.1]; rfl
      refine ⟨⟨_, hhost, by decide⟩, by omega, fun query hquery => ?_⟩
      obtain ⟨value, hvalue, hnumeric⟩ := exists_of_any hkind.2
      simp only [validNumericId, Bool.and_eq_true, decide_eq_true_eq] at hnumeric
      refine plainPairs_of_oneQueryValue hvalue hquery (by decide) (List.all_eq_true.mpr ?_)
      exact fun c hc => plainChar_of_isDigit (List.all_eq_true.mp hnumeric.2 c hc)
  · contradiction

theorem plainChar_of_youtube {value : String} (h : validYoutubeId value = true) :
    value.utf8ByteSize = 11 ∧ value.toList.all UrlLibrary.plainChar = true := by
  simp only [validYoutubeId, Bool.and_eq_true, decide_eq_true_eq] at h
  refine ⟨h.1, List.all_eq_true.mpr fun c hc => ?_⟩
  have hc' := List.all_eq_true.mp h.2 c hc
  simp only [UrlLibrary.plainChar, Bool.or_eq_true] at hc' ⊢
  tauto

theorem validYoutube_bounds (h : validYoutube library url = true) : PageBounds library url := by
  unfold validYoutube at h
  split_ifs at h with hhost
  · simp only [Bool.and_eq_true, decide_eq_true_eq] at h
    obtain ⟨hpath, hid⟩ := h
    obtain ⟨value, hvalue, hid⟩ := exists_of_any hid
    have hsize : url.path.utf8ByteSize = 6 := by rw [hpath]; rfl
    refine ⟨?_, by omega, fun query hquery => plainPairs_of_oneQueryValue hvalue hquery (by decide)
      (plainChar_of_youtube hid).2⟩
    rcases hhost with hhost | hhost
    · exact ⟨_, hhost, by decide⟩
    · exact ⟨_, hhost, by decide⟩
  · simp only [Bool.and_eq_true, decide_eq_true_eq] at h
    obtain ⟨⟨hhost, hquery⟩, hsegment⟩ := h
    refine .of_isNone hhost (by decide) ?_ hquery
    obtain ⟨segment, hsegment, hid⟩ := exists_of_any hsegment
    unfold exactSingleSegment at hsegment
    split at hsegment
    · rename_i found hsegments
      obtain rfl := Option.some.inj hsegment
      have hle := utf8ByteSize_path_le hsegments
      have hsize := (plainChar_of_youtube hid).1
      simp only [List.map_cons, List.map_nil, List.sum_cons, List.sum_nil, List.length_cons,
        List.length_nil] at hle
      omega
    · contradiction

theorem validSoundcloud_bounds (h : validSoundcloud url = true) : PageBounds library url := by
  simp only [validSoundcloud, Bool.and_eq_true, Bool.or_eq_true, decide_eq_true_eq] at h
  obtain ⟨⟨hhost, hquery⟩, hpath⟩ := h
  have hsize : url.path.utf8ByteSize ≤ 544 := by
    split at hpath
    · rename_i account title hsegments
      simp only [Bool.and_eq_true, decide_eq_true_eq] at hpath
      have hle := utf8ByteSize_path_le hsegments
      simp only [List.map_cons, List.map_nil, List.sum_cons, List.sum_nil, List.length_cons,
        List.length_nil] at hle
      omega
    · contradiction
  rcases hhost with (hhost | hhost) | hhost
  · exact .of_isNone hhost (by decide) hsize hquery
  · exact .of_isNone hhost (by decide) hsize hquery
  · exact .of_isNone hhost (by decide) hsize hquery

theorem validPage_bounds {provider : MediaProvider} (h : validPage library provider url = true) :
    PageBounds library url := by
  cases provider with
  | spotify => exact validSpotify_bounds h
  | appleMusic => exact validAppleMusic_bounds h
  | youTube => exact validYoutube_bounds h
  | soundCloud => exact validSoundcloud_bounds h

/-- The serialisation of a public page of a provider. -/
theorem escapedSize_asStr (hlawful : library.Lawful) (hqueries : library.PlainQueries)
    {text : String} (hparse : library.parse text = some url)
    (htext : text.utf8ByteSize ≤ MAX_PUBLIC_PAGE_URL_BYTES) (horigin : publicOrigin url = true)
    (hbounds : PageBounds library url) : escapedSize url.asStr ≤ 3163 := by
  obtain ⟨⟨host, hhost, hhostSize⟩, hpath, hquery⟩ := hbounds
  have hurl := eq_https_of_publicOrigin horigin hhost
  have hstr : url.asStr = "https://" ++ host ++ url.path ++
      url.query.elim "" fun query => "?" ++ query := by
    conv_lhs => rw [hurl]
    exact Url.asStr_https host url.path url.query
  have hpathSize : escapedSize url.path ≤ 2 * url.path.utf8ByteSize := by
    refine escapedSize_le fun c hc => (hlawful.printable text url hparse c ?_).1
    rw [hstr]
    simp [hc]
  have hscheme : escapedSize "https://" = 8 := by decide
  have htail : escapedSize (url.query.elim "" fun query => "?" ++ query) ≤ 2049 := by
    cases hcase : url.query with
    | none => exact Nat.zero_le _
    | some query =>
      have hsize := escapedSize_query hqueries hparse hcase (hquery query hcase)
      have hmark : escapedSize "?" = 1 := by decide
      unfold MAX_PUBLIC_PAGE_URL_BYTES at htext
      rw [Option.elim_some, escapedSize_append]
      omega
  rw [hstr, escapedSize_append, escapedSize_append, escapedSize_append]
  omega

theorem PublicMediaPage.Accepted.escapedSize_le (hlawful : library.Lawful)
    (hqueries : library.PlainQueries) {page : PublicMediaPage} (h : page.Accepted library) :
    escapedSize page.url ≤ 3163 := by
  obtain ⟨text, hnew⟩ := h
  obtain ⟨hbounded, url, hparse, horigin, hvalid, hpage⟩ := PublicMediaPage.new_eq_ok.mp hnew
  simp only [PublicMediaPage.boundedText, Bool.and_eq_true, decide_eq_true_eq] at hbounded
  rw [hpage]
  exact escapedSize_asStr hlawful hqueries hparse hbounded.1.2 horigin (validPage_bounds hvalid)

end Pages

section Values

theorem size_natural_le (n : UInt64) : (natural n).size serdeEscaped ≤ 20 := digits_toNat_le n

theorem size_bool_le (value : Bool) : (Json.bool value).size serdeEscaped ≤ 5 := by
  cases value with
  | false => exact Nat.le_refl 5
  | true => exact Nat.le_succ 4

/-- An absent value is written as `null`. -/
theorem size_elim_le {α : Type} {value : Option α} {write : α → Json} {bound : ℕ}
    (hnull : 4 ≤ bound) (h : ∀ found ∈ value, (write found).size serdeEscaped ≤ bound) :
    (value.elim .null write).size serdeEscaped ≤ bound := by
  cases value with
  | none => exact hnull
  | some found => exact h found rfl

theorem size_snowflake_le {kind : SnowflakeKind} (id : Snowflake kind) :
    id.toJson.size serdeEscaped ≤ 42 := atMostDoubles_serde.decimal_le id.value.get

theorem size_text_le {value : String} {bytes : ℕ} (h : validateText value bytes = true) :
    quotedSize serdeEscaped value ≤ 2 + 2 * bytes := by
  simp only [validateText, Bool.and_eq_true, decide_eq_true_eq] at h
  exact atMostDoubles_serde.quotedSize h.2 h.1.2

theorem size_optionalText_le {value : Option String} {bytes : ℕ} (hbytes : 1 ≤ bytes)
    (h : ∀ text ∈ value, validateText text bytes = true) :
    (optionalText value).size serdeEscaped ≤ 2 + 2 * bytes := by
  cases value with
  | none =>
    simp only [optionalText, Json.size]
    omega
  | some text => exact size_text_le (h text rfl)

theorem sum_escaped_byteHex (bytes : List UInt8) :
    ((bytes.flatMap Uuid.byteHex).map serdeEscaped).sum = 2 * bytes.length := by
  have hdigit : ∀ n < 16, serdeEscaped (Nat.digitChar n) = 1 := by decide
  induction bytes with
  | nil => rfl
  | cons byte bytes ih =>
    have hbyte := byte.toNat_lt
    have hhigh := hdigit (byte.toNat / 16) (by omega)
    have hlow := hdigit (byte.toNat % 16) (by omega)
    rw [List.flatMap_cons, List.map_append, List.sum_append, ih]
    simp only [Uuid.byteHex, List.map_cons, List.map_nil, List.sum_cons, List.sum_nil, hhigh,
      hlow, List.length_cons]
    omega

/-- Thirty-two digits and four hyphens. -/
theorem escapedSize_uuid (id : Uuid) : escapedSize id.text = 36 := by
  have hlength : id.bytes.toList.length = 16 := id.bytes.length_toList
  have hhyphen : serdeEscaped '-' = 1 := by decide
  unfold escapedSize Uuid.text Uuid.groups
  simp only [String.toList_ofList, List.intercalate_cons_cons, List.intercalate_singleton,
    List.map_append, List.sum_append, sum_escaped_byteHex, List.map_cons, List.map_nil,
    List.sum_cons, List.sum_nil, hhyphen, List.length_take, List.length_drop, hlength]
  omega

end Values

section Snapshots

variable {library : UrlLibrary}

theorem PublicMediaPage.size_le {page : PublicMediaPage} (h : escapedSize page.url ≤ 3163) :
    page.toJson.size serdeEscaped ≤ 3198 := by
  have hprovider : quotedSize serdeEscaped page.provider.name ≤ 13 := by
    cases page.provider <;> decide
  have hurl := quotedSize_serde page.url
  have h1 : quotedSize serdeEscaped "provider" = 10 := by decide
  have h2 : quotedSize serdeEscaped "url" = 5 := by decide
  simp only [toJson, Json.size, fieldsSize, List.length_cons, List.length_nil]
  omega

theorem TrackProvenance.size_le {provenance : TrackProvenance}
    (h : ∀ page ∈ provenance.pages, escapedSize page.url ≤ 3163) :
    provenance.toJson.size serdeEscaped ≤ 6419 := by
  have horigin : (provenance.origin.elim Json.null PublicMediaPage.toJson).size serdeEscaped ≤
      3198 := size_elim_le (by omega) fun page hpage => PublicMediaPage.size_le
        (h page (List.mem_append_left _ (Option.mem_toList.mpr hpage)))
  have hplayback := PublicMediaPage.size_le
    (h provenance.playback (List.mem_append_right _ List.mem_cons_self))
  have h1 : quotedSize serdeEscaped "origin" = 8 := by decide
  have h2 : quotedSize serdeEscaped "playback" = 10 := by decide
  simp only [toJson, Json.size, fieldsSize, List.length_cons, List.length_nil] at horigin ⊢
  omega

theorem TrackSnapshot.size_le {track : TrackSnapshot} (hvalid : validateTrack track = .ok ())
    (hpages : ∀ page ∈ track.pages, escapedSize page.url ≤ 3163) :
    track.toJson.size serdeEscaped ≤ 9300 := by
  obtain ⟨htitle, hartist, halbum, -⟩ := validateTrack_eq_ok.mp hvalid
  have hid : (Json.string track.trackId.text).size serdeEscaped = 38 := by
    rw [Json.size, quotedSize_serde, escapedSize_uuid]
  have htitle' : (Json.string track.title).size serdeEscaped ≤ _ := size_text_le htitle
  have hartist' := size_optionalText_le (by decide) hartist
  have halbum' := size_optionalText_le (by decide) halbum
  unfold MAX_TRACK_TITLE_BYTES at htitle'
  unfold MAX_TRACK_ARTIST_BYTES at hartist'
  unfold MAX_TRACK_ALBUM_BYTES at halbum'
  have hprovenance : (track.provenance.elim Json.null TrackProvenance.toJson).size serdeEscaped ≤
      6419 := size_elim_le (by omega) fun provenance hsome => TrackProvenance.size_le
        fun page hpage => hpages page
          (by rw [TrackSnapshot.pages, Option.mem_def.mp hsome]; exact hpage)
  have hrequester : (track.requesterUserId.elim Json.null Snowflake.toJson).size serdeEscaped ≤
      42 := size_elim_le (by omega) fun id _ => size_snowflake_le id
  have hduration : (track.durationMs.elim Json.null natural).size serdeEscaped ≤ 20 :=
    size_elim_le (by omega) fun n _ => size_natural_le n
  have hposition := size_natural_le track.positionMs
  have hseekable := size_bool_le track.seekable
  have h1 : quotedSize serdeEscaped "track_id" = 10 := by decide
  have h2 : quotedSize serdeEscaped "title" = 7 := by decide
  have h3 : quotedSize serdeEscaped "artist" = 8 := by decide
  have h4 : quotedSize serdeEscaped "album" = 7 := by decide
  have h5 : quotedSize serdeEscaped "provenance" = 12 := by decide
  have h6 : quotedSize serdeEscaped "requester_user_id" = 19 := by decide
  have h7 : quotedSize serdeEscaped "duration_ms" = 13 := by decide
  have h8 : quotedSize serdeEscaped "position_ms" = 13 := by decide
  have h9 : quotedSize serdeEscaped "seekable" = 10 := by decide
  unfold toJson
  rw [Json.size]
  simp only [fieldsSize, List.length_cons, List.length_nil, h1, h2, h3, h4, h5, h6, h7, h8, h9]
  omega

/-- The current track and at most a hundred others. -/
theorem PlayerSnapshot.size_le {snapshot : PlayerSnapshot}
    (hvalid : snapshot.validatePublicShape = .ok ())
    (hpages : ∀ page ∈ snapshot.pages, escapedSize page.url ≤ 3163) :
    snapshot.toJson.size serdeEscaped ≤ 941000 := by
  obtain ⟨hcount, -, htracks, -⟩ := PlayerSnapshot.validatePublicShape_eq_ok.mp hvalid
  unfold MAX_SNAPSHOT_QUEUE_ITEMS at hcount
  have htrack : ∀ track ∈ snapshot.tracks, track.toJson.size serdeEscaped ≤ 9300 :=
    fun track hmem => TrackSnapshot.size_le (htracks track hmem) fun page hpage =>
      hpages page (List.mem_flatMap.mpr ⟨track, hmem, hpage⟩)
  have hguild := size_snowflake_le snapshot.guildId
  have hchannel : (snapshot.voiceChannelId.elim Json.null Snowflake.toJson).size serdeEscaped ≤
      42 := size_elim_le (by omega) fun id _ => size_snowflake_le id
  have hrevision := size_natural_le snapshot.revision.get
  have hstate : (Json.string snapshot.state.name).size serdeEscaped ≤ 16 := by
    rw [Json.size]
    cases snapshot.state <;> decide
  have hcurrent : (snapshot.currentTrack.elim Json.null TrackSnapshot.toJson).size serdeEscaped ≤
      9300 := size_elim_le (by omega) fun track hsome =>
        htrack track (List.mem_append_left _ (Option.mem_toList.mpr hsome))
  have hqueued : (Json.number (.natural snapshot.queuedTracks.toNat)).size serdeEscaped ≤ 20 :=
    digits_le (by decide) (snapshot.queuedTracks.toNat_lt.trans (by decide))
  have hupcoming : (Json.array (snapshot.upcomingTracks.map TrackSnapshot.toJson)).size
      serdeEscaped ≤ 930101 := by
    have hitems : itemsSize serdeEscaped (snapshot.upcomingTracks.map TrackSnapshot.toJson) ≤
        (snapshot.upcomingTracks.map TrackSnapshot.toJson).length * 9300 := by
      refine itemsSize_le fun item hitem => ?_
      obtain ⟨track, hmem, rfl⟩ := List.mem_map.mp hitem
      exact htrack track (List.mem_append_right _ hmem)
    rw [Json.size]
    rw [List.length_map] at hitems ⊢
    have hbound := Nat.mul_le_mul_right 9300 hcount
    omega
  have hprevious := size_bool_le snapshot.hasPreviousTrack
  have hvolume : (Json.number (.natural snapshot.volume.percent.toNat)).size serdeEscaped ≤ 20 :=
    digits_le (by decide) (snapshot.volume.percent.toNat_lt.trans (by decide))
  have hrepeat : (Json.string snapshot.repeatMode.name).size serdeEscaped ≤ 7 := by
    rw [Json.size]
    cases snapshot.repeatMode <;> decide
  have hshuffle := size_bool_le snapshot.shuffleEnabled
  have hpreset : (snapshot.hrirPreset.elim Json.null fun preset => Json.string preset.value).size
      serdeEscaped ≤ 258 := by
    refine size_elim_le (by omega) fun preset _ => ?_
    have hshape := preset.valid
    simp only [isHrirPresetId, MAX_HRIR_PRESET_ID_BYTES, Bool.and_eq_true] at hshape
    exact atMostDoubles_serde.quotedSize hshape.2 (of_decide_eq_true hshape.1.1.2)
  have hspatial := size_bool_le snapshot.spatialAudioEnabled
  have hobserved := size_natural_le snapshot.observedAt.get
  have hnames : ([ "guild_id", "voice_channel_id", "revision", "state", "current_track",
      "queued_tracks", "upcoming_tracks", "has_previous_track", "volume", "repeat_mode",
      "shuffle_enabled", "hrir_preset", "spatial_audio_enabled", "observed_at"].map
        (quotedSize serdeEscaped)).sum = 199 := by decide
  simp only [List.map_cons, List.map_nil, List.sum_cons, List.sum_nil] at hnames
  unfold toJson
  rw [Json.size]
  simp only [fieldsSize, List.length_cons, List.length_nil]
  omega

end Snapshots

end PepeAudio
