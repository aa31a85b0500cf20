import PepeAudio.Catalog.PublicPages
import PepeAudio.Web.SnapshotWire
import Mathlib.Data.List.Dedup

/-!
# The browser accepts what the server sends

Each check of the browser passes on the values the server writes, from the
identifiers up to the whole snapshot. The only values on which the two disagree
are public pages whose stored URL is longer than the limit of both.
-/
namespace PepeAudio

namespace Client

open JsValue

theorem whole_ofNat {n : ℕ} (h : n < 2 ^ 53) :
    whole (some (.number (JsNumber.ofNat n))) = some n := by
  rw [JsNumber.ofNat_eq h]
  simp [whole, (JsNumber.isWhole_natCast n).mpr h]

/-- A positive number is written without a zero in front. -/
theorem isDecimalId_toDigits {n : ℕ} (hpos : 0 < n) (hlt : n < 10 ^ 20) :
    isDecimalId (Nat.toDigits 10 n) = true := by
  have hdigits : ∀ c ∈ Nat.toDigits 10 n, c.isDigit = true :=
    fun c hc => Nat.isDigit_of_mem_toDigits (by decide) (by decide) hc
  have hvalue : Nat.ofDigitChars 10 (Nat.toDigits 10 n) 0 = n := Nat.ofDigitChars_ten_toDigits
  have hlength : (Nat.toDigits 10 n).length ≤ 20 := digits_le (by decide) hlt
  obtain ⟨first, rest, hcons⟩ := List.exists_cons_of_ne_nil (Nat.toDigits_ne_nil (n := n) (b := 10))
  have hfirst : first ≠ '0' := by
    rintro rfl
    have hrest : ∀ c ∈ rest, c.isDigit = true := fun c hc => hdigits c (by simp [hcons, hc])
    have hsmall := ofDigitChars_lt hrest
    rw [hcons, ofDigitChars_cons_zero, Nat.sub_self, Nat.mul_zero, Nat.zero_add] at hvalue
    rw [hvalue] at hsmall
    cases rest with
    | nil => simp at hsmall; omega
    | cons c cs =>
      have hshort := (Nat.length_toDigits_le_iff (b := 10) (by decide) (by simp)).mpr hsmall
      simp [hcons] at hshort
  rw [hcons] at hlength hdigits ⊢
  simp only [isDecimalId, Bool.and_eq_true, decide_eq_true_eq, List.all_eq_true]
  rw [List.length_cons] at hlength
  exact ⟨⟨⟨hdigits first (by simp), hfirst⟩, Nat.le_of_succ_le_succ hlength⟩,
    fun c hc => hdigits c (by simp [hc])⟩

theorem snowflakeText_decimal {n : UInt64} (hne : n ≠ 0) : snowflakeText (decimal n) = true := by
  have hpos : 0 < n.toNat := by
    rcases Nat.eq_zero_or_pos n.toNat with hzero | hpos
    · exact absurd (UInt64.toNat_inj.mp hzero) hne
    · exact hpos
  have hlt := n.toNat_lt
  have hdigits : ∀ c ∈ (decimal n).toList, c.isDigit = true := by
    rw [decimal, String.toList_ofList]
    exact fun c hc => Nat.isDigit_of_mem_toDigits (by decide) (by decide) hc
  have hascii : ∀ c ∈ (decimal n).toList, c.toNat < 0x80 := by
    intro c hc
    have hrange := isDigit_toNat (hdigits c hc)
    omega
  have hid : isDecimalId (decimal n).toList = true := by
    rw [decimal, String.toList_ofList]
    exact isDecimalId_toDigits hpos (by omega)
  have hlimit : utf16Length (decimal n) < 20 ∨
      ¬"18446744073709551615".toList < (decimal n).toList := by
    rw [utf16Length_eq_length hascii]
    rcases Nat.lt_or_ge (decimal n).toList.length 20 with hshort | hlong
    · exact .inl hshort
    · have hlength : (decimal n).toList.length ≤ 20 := by
        rw [decimal, String.toList_ofList]
        exact digits_le (by decide) (by omega)
      have hmax : ∀ c ∈ "18446744073709551615".toList, c.isDigit = true :=
        List.all_eq_true.mp (by decide)
      have hequal : "18446744073709551615".toList.length = (decimal n).toList.length := by
        have htwenty : "18446744073709551615".toList.length = 20 := by decide
        omega
      have horder := lt_iff_ofDigitChars_lt hequal hmax hdigits
      have hbound : Nat.ofDigitChars 10 "18446744073709551615".toList 0 = 2 ^ 64 - 1 := by
        decide +kernel
      have hvalue : Nat.ofDigitChars 10 (decimal n).toList 0 = n.toNat := by
        rw [decimal, String.toList_ofList, Nat.ofDigitChars_ten_toDigits]
      rw [hbound, hvalue] at horder
      exact .inr fun hgreater => absurd (horder.mp hgreater) (by omega)
  simp only [snowflakeText, hid, Bool.true_and, Bool.or_eq_true, decide_eq_true_eq,
    Bool.not_eq_true', decide_eq_false_iff_not]
  exact hlimit

theorem snowflake_toJson {kind : SnowflakeKind} (id : Snowflake kind) :
    snowflake (some id.toJson.toJs) = true :=
  snowflakeText_decimal id.value.ne_zero

theorem uuidText_text (id : Uuid) : uuidText id.text = true := by
  simp only [uuidText, Uuid.splitOn_text, Uuid.length_groups, decide_true, Bool.true_and,
    List.all_eq_true]
  intro group hgroup c hc
  exact (Uuid.mem_groups hgroup hc).1

theorem boundedUtf8Text_of_validateText {text : String} {limit : ℕ}
    (h : validateText text limit = true) :
    boundedUtf8Text (some (.string text)) limit = some text := by
  simp only [validateText, Bool.and_eq_true, Bool.not_eq_true', decide_eq_true_eq] at h
  obtain ⟨⟨hblank, hsize⟩, hcontrol⟩ := h
  have hne : text ≠ "" := by
    rintro rfl
    revert hblank
    decide
  rw [boundedUtf8Text_string hne hcontrol, if_pos hsize]

theorem optionalText_of_validateText {text : Option String} {limit : ℕ}
    (h : ∀ value, text = some value → validateText value limit = true) :
    optionalText (some (PepeAudio.optionalText text).toJs) limit =
      .ok (PepeAudio.optionalText text).toJs := by
  cases text with
  | none => rfl
  | some value =>
    have htext := boundedUtf8Text_of_validateText (h value rfl)
    simp [optionalText, PepeAudio.optionalText, Json.toJs, htext]

end Client

/-- The stored URL of a page is not longer than the limit. -/
def PublicMediaPage.Fits (page : PublicMediaPage) : Prop :=
  page.url.utf8ByteSize ≤ MAX_PUBLIC_PAGE_URL_BYTES

instance (page : PublicMediaPage) : Decidable page.Fits :=
  inferInstanceAs (Decidable (_ ≤ _))

/-- Numbers that a double holds exactly. -/
structure TrackSnapshot.Exact (track : TrackSnapshot) : Prop where
  position : track.positionMs.toNat < 2 ^ 53
  duration : ∀ duration, track.durationMs = some duration → duration.toNat < 2 ^ 53

structure PlayerSnapshot.Exact (snapshot : PlayerSnapshot) : Prop where
  revision : snapshot.revision.toNat < 2 ^ 53
  observedAt : snapshot.observedAt.get.toNat < 2 ^ 53
  tracks : ∀ track ∈ snapshot.tracks, track.Exact

namespace Client

open JsValue

theorem parsePublicMediaPage_value {library : UrlLibrary} (hlawful : library.Lawful)
    {page : PublicMediaPage} (hpage : page.Accepted library) :
    parsePublicMediaPage library (some page.toJson.toJs) =
      if page.Fits then .ok page else .error invalidPage :=
  parsePublicMediaPage_toJson hlawful hpage

theorem trackProvenance_toJson {library : UrlLibrary} (hlawful : library.Lawful)
    {provenance : TrackProvenance} (haccepted : provenance.Accepted library) :
    trackProvenance library (some provenance.toJson.toJs) =
      if ∀ page ∈ provenance.pages, page.Fits then .ok provenance.toJson.toJs
      else .error invalidPage := by
  obtain ⟨origin, playback⟩ := provenance
  have hplayback : (playback.provider = .youTube || playback.provider = .soundCloud) = true := by
    have hnew := haccepted.constructed
    unfold TrackProvenance.new at hnew
    split at hnew
    · contradiction
    · rename_i hprovider
      revert hprovider
      cases playback.provider <;> decide
  have hrecord : record invalidSnapshot (some (TrackProvenance.toJson ⟨origin, playback⟩).toJs) =
      .ok [("origin", (origin.elim .null PublicMediaPage.toJson).toJs),
        ("playback", playback.toJson.toJs)] := rfl
  have horigin : property "origin" [("origin", (origin.elim .null PublicMediaPage.toJson).toJs),
      ("playback", playback.toJson.toJs)] =
        some (origin.elim .null PublicMediaPage.toJson).toJs := property_at (by simp) 0 rfl
  have hplay : property "playback" [("origin", (origin.elim .null PublicMediaPage.toJson).toJs),
      ("playback", playback.toJson.toJs)] = some playback.toJson.toJs := property_at (by simp) 1 rfl
  have hpage := parsePublicMediaPage_value hlawful (haccepted.pages playback (by
    simp [TrackProvenance.pages]))
  simp only [trackProvenance, hrecord, horigin, hplay, hpage, bind, Except.bind]
  cases origin with
  | none =>
    by_cases hfits : playback.Fits
    · have hall : ∀ page ∈ (TrackProvenance.mk none playback).pages, page.Fits := by
        simpa [TrackProvenance.pages] using hfits
      simp only [Option.elim_none, Json.toJs, if_pos hfits, if_pos hall, need, hplayback]
      rfl
    · have hall : ¬∀ page ∈ (TrackProvenance.mk none playback).pages, page.Fits := by
        simpa [TrackProvenance.pages] using hfits
      simp only [Option.elim_none, Json.toJs, if_neg hfits, if_neg hall]
  | some origin =>
    have hpage' := parsePublicMediaPage_value hlawful (haccepted.pages origin (by
      simp [TrackProvenance.pages]))
    have hobject : ∃ fields, origin.toJson.toJs = .object fields := ⟨_, rfl⟩
    obtain ⟨fields, hfields⟩ := hobject
    rw [hfields] at hpage'
    simp only [Option.elim_some, hfields, hpage']
    by_cases horigin' : origin.Fits
    · by_cases hfits : playback.Fits
      · have hall : ∀ page ∈ (TrackProvenance.mk (some origin) playback).pages, page.Fits := by
          simp [TrackProvenance.pages, horigin', hfits]
        simp only [if_pos horigin', if_pos hfits, if_pos hall, need, hplayback, Except.map]
        rfl
      · have hall : ¬∀ page ∈ (TrackProvenance.mk (some origin) playback).pages, page.Fits := by
          simp [TrackProvenance.pages, hfits]
        simp only [if_pos horigin', if_neg hfits, if_neg hall, Except.map]
    · have hall : ¬∀ page ∈ (TrackProvenance.mk (some origin) playback).pages, page.Fits := by
        simp [TrackProvenance.pages, horigin']
      simp only [if_neg horigin', if_neg hall, Except.map]

/-- The fields of a track as the browser reads them. -/
def trackFields (snapshot : TrackSnapshot) : List (String × JsValue) :=
  [("track_id", .string snapshot.trackId.text), ("title", .string snapshot.title),
    ("artist", (PepeAudio.optionalText snapshot.artist).toJs),
    ("album", (PepeAudio.optionalText snapshot.album).toJs),
    ("provenance", (snapshot.provenance.elim .null TrackProvenance.toJson).toJs),
    ("requester_user_id", (snapshot.requesterUserId.elim .null Snowflake.toJson).toJs),
    ("duration_ms", (snapshot.durationMs.elim .null natural).toJs),
    ("position_ms", (natural snapshot.positionMs).toJs), ("seekable", .boolean snapshot.seekable)]

theorem track_toJs (snapshot : TrackSnapshot) :
    snapshot.toJson.toJs = .object (trackFields snapshot) := rfl

theorem trackFields_distinct (snapshot : TrackSnapshot) :
    ((trackFields snapshot).map Prod.fst).Nodup := by
  have hnames : (trackFields snapshot).map Prod.fst = ["track_id", "title", "artist", "album",
      "provenance", "requester_user_id", "duration_ms", "position_ms", "seekable"] := rfl
  rw [hnames]
  decide

theorem trackId_toJs (snapshot : TrackSnapshot) :
    trackId snapshot.toJson.toJs = some snapshot.trackId.text := by
  have hproperty : property "track_id" (trackFields snapshot) =
      some (.string snapshot.trackId.text) := property_at (trackFields_distinct snapshot) 0 rfl
  rw [track_toJs, trackId, hproperty]

theorem isNull_or_snowflake {kind : SnowflakeKind} (id : Option (Snowflake kind)) :
    (isNull (some (id.elim .null Snowflake.toJson).toJs) ||
      snowflake (some (id.elim .null Snowflake.toJson).toJs)) = true := by
  cases id with
  | none => rfl
  | some id => simp [snowflake_toJson]

/-- The provenance of a track, which may be missing. -/
theorem optionalProvenance_toJs {library : UrlLibrary} (hlawful : library.Lawful)
    {snapshot : TrackSnapshot}
    (haccepted : ∀ provenance, snapshot.provenance = some provenance →
      provenance.Accepted library) :
    optionalProvenance library
      (some (snapshot.provenance.elim Json.null TrackProvenance.toJson).toJs) =
      if ∀ page ∈ snapshot.pages, page.Fits then
        .ok (snapshot.provenance.elim .null TrackProvenance.toJson).toJs
      else .error invalidPage := by
  cases hprovenance : snapshot.provenance with
  | none =>
    have hall : ∀ page ∈ snapshot.pages, page.Fits := by
      simp [TrackSnapshot.pages, hprovenance]
    rw [if_pos hall]
    rfl
  | some provenance =>
    have hpages : snapshot.pages = provenance.pages := by simp [TrackSnapshot.pages, hprovenance]
    rw [hpages]
    exact trackProvenance_toJson hlawful (haccepted provenance hprovenance)

/-- A track of a valid shape is read as it was sent, if its pages fit. -/
theorem track_toJson {library : UrlLibrary} (hlawful : library.Lawful) {snapshot : TrackSnapshot}
    (hshape : validateTrack snapshot = .ok ()) (hexact : snapshot.Exact)
    (haccepted : ∀ provenance, snapshot.provenance = some provenance →
      provenance.Accepted library) :
    track library (some snapshot.toJson.toJs) =
      if ∀ page ∈ snapshot.pages, page.Fits then .ok snapshot.toJson.toJs
      else .error invalidPage := by
  obtain ⟨htitle, hartist, halbum, hposition⟩ := validateTrack_eq_ok.mp hshape
  have hdistinct := trackFields_distinct snapshot
  have hrecord : record invalidSnapshot (some (.object (trackFields snapshot))) =
      .ok (trackFields snapshot) := rfl
  have hid := property_at hdistinct 0 rfl
  have htitle' := property_at hdistinct 1 rfl
  have hartist' := property_at hdistinct 2 rfl
  have halbum' := property_at hdistinct 3 rfl
  have hprovenance := property_at hdistinct 4 rfl
  have hrequester := property_at hdistinct 5 rfl
  have hduration := property_at hdistinct 6 rfl
  have hposition' := property_at hdistinct 7 rfl
  have hseekable := property_at hdistinct 8 rfl
  have hwhole : whole (some (natural snapshot.positionMs).toJs) = some snapshot.positionMs.toNat :=
    whole_ofNat hexact.position
  have htext : boundedUtf8Text (some (.string snapshot.title)) 512 = some snapshot.title :=
    boundedUtf8Text_of_validateText htitle
  have hartistText : optionalText (some (PepeAudio.optionalText snapshot.artist).toJs) 256 =
      .ok (PepeAudio.optionalText snapshot.artist).toJs :=
    optionalText_of_validateText fun value hvalue => hartist value hvalue
  have halbumText : optionalText (some (PepeAudio.optionalText snapshot.album).toJs) 512 =
      .ok (PepeAudio.optionalText snapshot.album).toJs :=
    optionalText_of_validateText fun value hvalue => halbum value hvalue
  have hpages := optionalProvenance_toJs hlawful haccepted
  have hdurations : (isNull (some (snapshot.durationMs.elim Json.null natural).toJs) ||
        (whole (some (snapshot.durationMs.elim Json.null natural).toJs)).isSome) = true ∧
      (isNull (some (snapshot.durationMs.elim Json.null natural).toJs) ||
        decide (snapshot.positionMs.toNat ≤
          (whole (some (snapshot.durationMs.elim Json.null natural).toJs)).getD 0)) = true := by
    cases hms : snapshot.durationMs with
    | none => exact ⟨rfl, rfl⟩
    | some duration =>
      have hwhole' : whole (some (natural duration).toJs) = some duration.toNat :=
        whole_ofNat (hexact.duration duration hms)
      have hle := UInt64.le_iff_toNat_le.mp (hposition duration hms)
      simp [hwhole', hle]
  have hkeep : withProperty "provenance"
      (snapshot.provenance.elim Json.null TrackProvenance.toJson).toJs
      (withProperty "album" (PepeAudio.optionalText snapshot.album).toJs
        (withProperty "artist" (PepeAudio.optionalText snapshot.artist).toJs
          (trackFields snapshot))) = trackFields snapshot := by
    rw [withProperty_eq_self hdistinct hartist', withProperty_eq_self hdistinct halbum',
      withProperty_eq_self hdistinct hprovenance]
  rw [track_toJs, track, hrecord]
  simp only [bind, Except.bind, hid, htitle', hartist', halbum', hprovenance, hrequester, hduration,
    hposition', hseekable, uuid, uuidText_text, htext, hartistText, halbumText,
    isNull_or_snowflake, hdurations.1, hwhole, Option.isSome_some, Option.getD_some, hdurations.2,
    boolean, Bool.and_self, need, if_true, hpages]
  by_cases hall : ∀ page ∈ snapshot.pages, page.Fits
  · rw [if_pos hall, if_pos hall]
    simp only [hkeep]
    rfl
  · rw [if_neg hall, if_neg hall]

/-- Tracks are read one after the other; the first page that does not fit ends the reading. -/
theorem mapM_track {library : UrlLibrary} (hlawful : library.Lawful)
    {snapshots : List TrackSnapshot}
    (hshape : ∀ snapshot ∈ snapshots, validateTrack snapshot = .ok ())
    (hexact : ∀ snapshot ∈ snapshots, snapshot.Exact)
    (haccepted : ∀ snapshot ∈ snapshots, ∀ provenance, snapshot.provenance = some provenance →
      provenance.Accepted library) :
    (snapshots.map fun snapshot => snapshot.toJson.toJs).mapM
        (fun item => track library (some item)) =
      if ∀ page ∈ snapshots.flatMap TrackSnapshot.pages, page.Fits then
        .ok (snapshots.map fun snapshot => snapshot.toJson.toJs)
      else .error invalidPage := by
  induction snapshots with
  | nil => rfl
  | cons snapshot snapshots ih =>
    have htail := ih (fun other hother => hshape other (List.mem_cons_of_mem _ hother))
      (fun other hother => hexact other (List.mem_cons_of_mem _ hother))
      fun other hother => haccepted other (List.mem_cons_of_mem _ hother)
    have hhead := track_toJson hlawful (hshape snapshot List.mem_cons_self)
      (hexact snapshot List.mem_cons_self) (haccepted snapshot List.mem_cons_self)
    rw [List.map_cons, List.mapM_cons, htail, hhead]
    by_cases hfirst : ∀ page ∈ snapshot.pages, page.Fits
    · by_cases hrest : ∀ page ∈ snapshots.flatMap TrackSnapshot.pages, page.Fits
      · have hall : ∀ page ∈ (snapshot :: snapshots).flatMap TrackSnapshot.pages, page.Fits := by
          intro page hpage
          rw [List.flatMap_cons, List.mem_append] at hpage
          exact hpage.elim (hfirst page) (hrest page)
        rw [if_pos hfirst, if_pos hrest, if_pos hall]
        rfl
      · have hall : ¬∀ page ∈ (snapshot :: snapshots).flatMap TrackSnapshot.pages, page.Fits := by
          intro hall
          exact hrest fun page hpage => hall page (by
            rw [List.flatMap_cons]
            exact List.mem_append_right _ hpage)
        rw [if_pos hfirst, if_neg hrest, if_neg hall]
        rfl
    · have hall : ¬∀ page ∈ (snapshot :: snapshots).flatMap TrackSnapshot.pages, page.Fits := by
        intro hall
        exact hfirst fun page hpage => hall page (by
          rw [List.flatMap_cons]
          exact List.mem_append_left _ hpage)
      rw [if_neg hfirst, if_neg hall]
      rfl

/-- The fields of a snapshot as the browser reads them. -/
def snapshotFields (snapshot : PlayerSnapshot) : List (String × JsValue) :=
  [("guild_id", snapshot.guildId.toJson.toJs),
    ("voice_channel_id", (snapshot.voiceChannelId.elim .null Snowflake.toJson).toJs),
    ("revision", (natural snapshot.revision.get).toJs), ("state", .string snapshot.state.name),
    ("current_track", (snapshot.currentTrack.elim .null TrackSnapshot.toJson).toJs),
    ("queued_tracks", .number (JsNumber.ofNat snapshot.queuedTracks.toNat)),
    ("upcoming_tracks", .array (snapshot.upcomingTracks.map fun track => track.toJson.toJs)),
    ("has_previous_track", .boolean snapshot.hasPreviousTrack),
    ("volume", .number (JsNumber.ofNat snapshot.volume.percent.toNat)),
    ("repeat_mode", .string snapshot.repeatMode.name),
    ("shuffle_enabled", .boolean snapshot.shuffleEnabled),
    ("hrir_preset", (snapshot.hrirPreset.elim Json.null fun preset => .string preset.value).toJs),
    ("spatial_audio_enabled", .boolean snapshot.spatialAudioEnabled),
    ("observed_at", (natural snapshot.observedAt.get).toJs)]

theorem snapshot_toJs (snapshot : PlayerSnapshot) :
    snapshot.toJson.toJs = .object (snapshotFields snapshot) := by
  have hitems : itemsToJs (snapshot.upcomingTracks.map TrackSnapshot.toJson) =
      snapshot.upcomingTracks.map fun track => track.toJson.toJs := by
    rw [itemsToJs_eq_map, List.map_map]
    rfl
  simp only [PlayerSnapshot.toJson, Json.toJs, fieldsToJs, hitems, JsonNumber.toJs, snapshotFields]

theorem snapshotFields_distinct (snapshot : PlayerSnapshot) :
    ((snapshotFields snapshot).map Prod.fst).Nodup := by
  have hnames : (snapshotFields snapshot).map Prod.fst = ["guild_id", "voice_channel_id",
      "revision", "state", "current_track", "queued_tracks", "upcoming_tracks",
      "has_previous_track", "volume", "repeat_mode", "shuffle_enabled", "hrir_preset",
      "spatial_audio_enabled", "observed_at"] := rfl
  rw [hnames]
  decide

theorem oneOf_playerStates (state : PlayerState) :
    oneOf playerStates (some (.string state.name)) = true := by
  cases state <;> decide

theorem oneOf_repeatModes (mode : RepeatMode) :
    oneOf repeatModes (some (.string mode.name)) = true := by
  cases mode <;> decide

/-- A preset identifier has at most as many code units as bytes. -/
theorem isNull_or_boundedText (preset : Option HrirPresetId) :
    (isNull (some (preset.elim Json.null fun preset => Json.string preset.value).toJs) ||
      boundedText 128 (some (preset.elim Json.null fun preset => Json.string preset.value).toJs)) =
        true := by
  cases preset with
  | none => rfl
  | some preset =>
    have hvalid := preset.valid
    simp only [isHrirPresetId, Bool.and_eq_true, Bool.not_eq_true', decide_eq_true_eq] at hvalid
    obtain ⟨⟨⟨hne, hsize⟩, -⟩, hcontrol⟩ := hvalid
    have hunits := (utf16Length_le preset.value).trans hsize
    have hpos : 0 < utf16Length preset.value := utf16Length_pos (by
      rintro hempty
      rw [hempty] at hne
      revert hne
      decide)
    have hlimit : utf16Length preset.value ≤ 128 := hunits
    simp [boundedText, isNull, Json.toJs, hpos, hlimit]

/-- The current track, which may be missing. -/
theorem optionalTrack_toJs {library : UrlLibrary} (hlawful : library.Lawful)
    {current : Option TrackSnapshot}
    (hshape : ∀ snapshot ∈ current.toList, validateTrack snapshot = .ok ())
    (hexact : ∀ snapshot ∈ current.toList, snapshot.Exact)
    (haccepted : ∀ snapshot ∈ current.toList, ∀ provenance, snapshot.provenance = some provenance →
      provenance.Accepted library) :
    optionalTrack library (some (current.elim Json.null TrackSnapshot.toJson).toJs) =
      if ∀ page ∈ current.toList.flatMap TrackSnapshot.pages, page.Fits then
        .ok (current.map fun snapshot => snapshot.toJson.toJs)
      else .error invalidPage := by
  cases current with
  | none => rfl
  | some snapshot =>
    have htrack := track_toJson hlawful (hshape snapshot (by simp)) (hexact snapshot (by simp))
      (haccepted snapshot (by simp))
    have hnull : isNull (some snapshot.toJson.toJs) = false := rfl
    simp only [optionalTrack, Option.elim_some, hnull, htrack, Option.toList_some,
      List.flatMap_cons, List.flatMap_nil, List.append_nil]
    by_cases hall : ∀ page ∈ snapshot.pages, page.Fits
    · rw [if_pos hall, if_pos hall]
      rfl
    · rw [if_neg hall, if_neg hall]
      rfl

/-- Distinct identities stay distinct as texts. -/
theorem trackIds_distinct {current : Option TrackSnapshot} {upcoming : List TrackSnapshot}
    (hnodup : ((current.toList ++ upcoming).map TrackSnapshot.trackId).Nodup) :
    (((upcoming.map fun track => track.toJson.toJs).map trackId).dedup.length =
        (upcoming.map fun track => track.toJson.toJs).length &&
      !(current.map fun track => track.toJson.toJs).any fun track =>
        trackId track ∈ (upcoming.map fun track => track.toJson.toJs).map trackId) = true := by
  have hids : (upcoming.map fun track => track.toJson.toJs).map trackId =
      (upcoming.map TrackSnapshot.trackId).map fun id => some id.text := by
    simp [List.map_map, Function.comp_def, trackId_toJs]
  have hinjective : Function.Injective fun id : Uuid => some id.text := fun id id' h =>
    Uuid.text_injective (Option.some.inj h)
  rw [List.map_append, List.nodup_append] at hnodup
  have hdedup := List.dedup_eq_self.mpr (hnodup.2.1.map hinjective)
  have hcurrent : ((current.map fun track => track.toJson.toJs).any fun track =>
      trackId track ∈ (upcoming.map TrackSnapshot.trackId).map fun id => some id.text) = false := by
    cases current with
    | none => rfl
    | some track =>
      have hother := hnodup.2.2 track.trackId (by simp)
      simp only [Option.map_some, Option.any_some, trackId_toJs, decide_eq_false_iff_not]
      intro hmem
      obtain ⟨id, hid, heq⟩ := List.mem_map.mp hmem
      exact hother id hid (hinjective heq).symm
  rw [hids, hdedup, hcurrent]
  simp

/-- A snapshot of a valid shape is read as it was sent, if its pages fit. -/
theorem parsePlayerSnapshotWire_toJson {library : UrlLibrary} (hlawful : library.Lawful)
    {snapshot : PlayerSnapshot} (hshape : snapshot.validatePublicShape = .ok ())
    (hexact : snapshot.Exact)
    (haccepted : ∀ track ∈ snapshot.tracks, ∀ provenance, track.provenance = some provenance →
      provenance.Accepted library) :
    parsePlayerSnapshotWire library (some snapshot.toJson.toJs)
        (decimal snapshot.guildId.value.get) =
      if ∀ page ∈ snapshot.pages, page.Fits then .ok snapshot.toJson.toJs
      else .error invalidPage := by
  obtain ⟨hlength, hcount, htracks, hnodup⟩ := PlayerSnapshot.validatePublicShape_eq_ok.mp hshape
  have hdistinct := snapshotFields_distinct snapshot
  have hrecord : record invalidSnapshot (some (.object (snapshotFields snapshot))) =
      .ok (snapshotFields snapshot) := rfl
  have hguild := property_at hdistinct 0 rfl
  have hchannel := property_at hdistinct 1 rfl
  have hrevision := property_at hdistinct 2 rfl
  have hstate := property_at hdistinct 3 rfl
  have hcurrent := property_at hdistinct 4 rfl
  have hqueued := property_at hdistinct 5 rfl
  have hupcoming := property_at hdistinct 6 rfl
  have hprevious := property_at hdistinct 7 rfl
  have hvolume := property_at hdistinct 8 rfl
  have hrepeat := property_at hdistinct 9 rfl
  have hshuffle := property_at hdistinct 10 rfl
  have hpreset := property_at hdistinct 11 rfl
  have hspatial := property_at hdistinct 12 rfl
  have hobserved := property_at hdistinct 13 rfl
  have hguildText : isString (decimal snapshot.guildId.value.get)
      (some snapshot.guildId.toJson.toJs) = true := by
    simp [isString, Snowflake.toJson, Json.toJs]
  have hrevision' : whole (some (natural snapshot.revision.get).toJs) =
      some snapshot.revision.toNat := whole_ofNat hexact.revision
  have hqueued' : whole (some (.number (JsNumber.ofNat snapshot.queuedTracks.toNat))) =
      some snapshot.upcomingTracks.length := by
    have hsmall := snapshot.queuedTracks.toNat_lt
    rw [whole_ofNat (by omega), hcount]
  have hvolume' : whole (some (.number (JsNumber.ofNat snapshot.volume.percent.toNat))) =
      some snapshot.volume.percent.toNat := by
    have hsmall := snapshot.volume.percent.toNat_lt
    exact whole_ofNat (by omega)
  have hpercent : snapshot.volume.percent.toNat ≤ 100 :=
    UInt8.le_iff_toNat_le.mp snapshot.volume.bounded
  have hobserved' : whole (some (natural snapshot.observedAt.get).toJs) =
      some snapshot.observedAt.get.toNat := whole_ofNat hexact.observedAt
  have hitems : snapshot.upcomingTracks.length ≤ 100 := hlength
  have hcurrentTrack := optionalTrack_toJs hlawful
    (fun track htrack => htracks track (List.mem_append_left _ htrack))
    (fun track htrack => hexact.tracks track (List.mem_append_left _ htrack))
    fun track htrack => haccepted track (List.mem_append_left _ htrack)
  have hupcomingTracks := mapM_track hlawful
    (fun track htrack => htracks track (List.mem_append_right _ htrack))
    (fun track htrack => hexact.tracks track (List.mem_append_right _ htrack))
    fun track htrack => haccepted track (List.mem_append_right _ htrack)
  rw [snapshot_toJs, parsePlayerSnapshotWire, hrecord]
  simp only [bind, Except.bind, hguild, hchannel, hrevision, hstate, hcurrent, hqueued, hupcoming,
    hprevious, hvolume, hrepeat, hshuffle, hpreset, hspatial, hobserved, hguildText,
    snowflake_toJson, isNull_or_snowflake, hrevision', hqueued', hvolume', hobserved',
    oneOf_playerStates, oneOf_repeatModes, isNull_or_boundedText, List.length_map, hitems,
    Option.isSome_some, Option.any_some, hpercent, decide_true, boolean, Bool.and_self, need,
    if_true, hcurrentTrack, hupcomingTracks]
  have hpages : snapshot.pages = snapshot.currentTrack.toList.flatMap TrackSnapshot.pages ++
      snapshot.upcomingTracks.flatMap TrackSnapshot.pages := List.flatMap_append
  by_cases hfirst : ∀ page ∈ snapshot.currentTrack.toList.flatMap TrackSnapshot.pages, page.Fits
  · by_cases hrest : ∀ page ∈ snapshot.upcomingTracks.flatMap TrackSnapshot.pages, page.Fits
    · have hall : ∀ page ∈ snapshot.pages, page.Fits := by
        intro page hpage
        rw [hpages, List.mem_append] at hpage
        exact hpage.elim (hfirst page) (hrest page)
      have hids := trackIds_distinct hnodup
      have hkeep : withProperty "upcoming_tracks"
          (.array (snapshot.upcomingTracks.map fun track => track.toJson.toJs))
          (withProperty "current_track"
            ((snapshot.currentTrack.map fun track => track.toJson.toJs).getD .null)
            (snapshotFields snapshot)) = snapshotFields snapshot := by
        have hvalue : (snapshot.currentTrack.elim Json.null TrackSnapshot.toJson).toJs =
            (snapshot.currentTrack.map fun track => track.toJson.toJs).getD .null := by
          cases snapshot.currentTrack <;> rfl
        rw [hvalue] at hcurrent
        rw [withProperty_eq_self hdistinct hcurrent, withProperty_eq_self hdistinct hupcoming]
      simp only [if_pos hfirst, if_pos hrest, if_pos hall, List.length_map] at hids ⊢
      simp only [hids, decide_true, if_true, hkeep]
      rfl
    · have hall : ¬∀ page ∈ snapshot.pages, page.Fits := fun hall => hrest fun page hpage =>
        hall page (hpages ▸ List.mem_append_right _ hpage)
      simp only [if_pos hfirst, if_neg hrest, if_neg hall]
  · have hall : ¬∀ page ∈ snapshot.pages, page.Fits := fun hall => hfirst fun page hpage =>
      hall page (hpages ▸ List.mem_append_left _ hpage)
    simp only [if_neg hfirst, if_neg hall]

/-- The browser reads a snapshot as the server sent it exactly when the stored URLs of its pages
are not longer than the limit. -/
theorem snapshot_accepted_iff {library : UrlLibrary} (hlawful : library.Lawful)
    {snapshot : PlayerSnapshot} (hshape : snapshot.validatePublicShape = .ok ())
    (hexact : snapshot.Exact)
    (haccepted : ∀ track ∈ snapshot.tracks, ∀ provenance, track.provenance = some provenance →
      provenance.Accepted library) :
    parsePlayerSnapshotWire library (some snapshot.toJson.toJs)
        (decimal snapshot.guildId.value.get) = .ok snapshot.toJson.toJs ↔
      ∀ page ∈ snapshot.pages, page.Fits := by
  rw [parsePlayerSnapshotWire_toJson hlawful hshape hexact haccepted]
  by_cases hall : ∀ page ∈ snapshot.pages, page.Fits
  · rw [if_pos hall]
    exact iff_of_true rfl hall
  · rw [if_neg hall]
    exact iff_of_false (by simp) hall

/-- A track that was found at a padded link. -/
def paddedTrack (padding : ℕ) : TrackSnapshot where
  trackId := Uuid.fromU128 1
  title := "Example"
  artist := none
  album := none
  provenance := some ⟨none, ⟨.youTube, (Catalog.paddedUrl padding).asStr⟩⟩
  requesterUserId := none
  durationMs := none
  positionMs := 0
  seekable := false

def paddedSnapshot (padding : ℕ) : PlayerSnapshot where
  guildId := ⟨.MIN⟩
  voiceChannelId := none
  revision := ⟨1⟩
  state := .playing
  currentTrack := some (paddedTrack padding)
  queuedTracks := 0
  upcomingTracks := []
  hasPreviousTrack := false
  volume := Volume.DEFAULT
  repeatMode := .off
  shuffleEnabled := false
  hrirPreset := none
  spatialAudioEnabled := false
  observedAt := ⟨0⟩

theorem paddedSnapshot_shape (padding : ℕ) :
    (paddedSnapshot padding).validatePublicShape = .ok () := by
  have htitle : validateText "Example" MAX_TRACK_TITLE_BYTES = true := by decide +kernel
  simp [PlayerSnapshot.validatePublicShape, paddedSnapshot, paddedTrack, validateTracks,
    validateTrack, htitle]

theorem paddedSnapshot_exact (padding : ℕ) : (paddedSnapshot padding).Exact := by
  refine ⟨show (1 : UInt64).toNat < 2 ^ 53 by decide, show (0 : UInt64).toNat < 2 ^ 53 by decide,
    ?_⟩
  intro track htrack
  have heq : track = paddedTrack padding := List.mem_singleton.mp htrack
  subst heq
  exact ⟨show (0 : UInt64).toNat < 2 ^ 53 by decide, by simp [paddedTrack]⟩

theorem pages_paddedSnapshot (padding : ℕ) : (paddedSnapshot padding).pages =
    [⟨.youTube, (Catalog.paddedUrl padding).asStr⟩] := rfl

theorem paddedSnapshot_accepted {padding : ℕ} (hfits : padding + 41 ≤ MAX_PUBLIC_PAGE_URL_BYTES) :
    ∀ track ∈ (paddedSnapshot padding).tracks, ∀ provenance, track.provenance = some provenance →
      provenance.Accepted plainUrls := by
  intro track htrack provenance hprovenance
  have heq : track = paddedTrack padding := List.mem_singleton.mp htrack
  subst heq
  cases hprovenance
  refine ⟨rfl, ?_⟩
  intro page hpage
  have hpage' : page = ⟨.youTube, (Catalog.paddedUrl padding).asStr⟩ := List.mem_singleton.mp hpage
  subst hpage'
  exact ⟨_, Catalog.new_paddedLink hfits⟩

/-- The page of a link of 2048 bytes has a URL of 2050 bytes, which the browser refuses. -/
theorem paddedSnapshot_refused : plainUrls.Lawful ∧
    (paddedSnapshot 2007).validatePublicShape = .ok () ∧ (paddedSnapshot 2007).Exact ∧
    (∀ track ∈ (paddedSnapshot 2007).tracks, ∀ provenance, track.provenance = some provenance →
      provenance.Accepted plainUrls) ∧
    parsePlayerSnapshotWire plainUrls (some (paddedSnapshot 2007).toJson.toJs)
      (decimal (paddedSnapshot 2007).guildId.value.get) = .error invalidPage := by
  have hfits : 2007 + 41 ≤ MAX_PUBLIC_PAGE_URL_BYTES := by decide
  have hlong : ¬∀ page ∈ (paddedSnapshot 2007).pages, page.Fits := by
    rw [pages_paddedSnapshot]
    intro hall
    have hsize : (Catalog.paddedUrl 2007).asStr.utf8ByteSize ≤ MAX_PUBLIC_PAGE_URL_BYTES :=
      hall _ List.mem_cons_self
    rw [Catalog.utf8ByteSize_paddedUrl, MAX_PUBLIC_PAGE_URL_BYTES] at hsize
    omega
  have hparse := parsePlayerSnapshotWire_toJson PlainUrl.plainUrls_lawful
    (paddedSnapshot_shape 2007) (paddedSnapshot_exact 2007) (paddedSnapshot_accepted hfits)
  rw [if_neg hlong] at hparse
  exact ⟨PlainUrl.plainUrls_lawful, paddedSnapshot_shape 2007, paddedSnapshot_exact 2007,
    paddedSnapshot_accepted hfits, hparse⟩

/-- Two bytes less, and the snapshot is read as it was sent. -/
theorem snapshot_accepted_iff_padded :
    parsePlayerSnapshotWire plainUrls (some (paddedSnapshot 2005).toJson.toJs)
      (decimal (paddedSnapshot 2005).guildId.value.get) =
        .ok (paddedSnapshot 2005).toJson.toJs := by
  have hfits : 2005 + 41 ≤ MAX_PUBLIC_PAGE_URL_BYTES := by decide
  have hpages : ∀ page ∈ (paddedSnapshot 2005).pages, page.Fits := by
    rw [pages_paddedSnapshot]
    intro page hpage
    have hpage' : page = ⟨.youTube, (Catalog.paddedUrl 2005).asStr⟩ := List.mem_singleton.mp hpage
    subst hpage'
    exact (Catalog.utf8ByteSize_paddedUrl 2005).trans_le (by decide)
  exact (snapshot_accepted_iff PlainUrl.plainUrls_lawful (paddedSnapshot_shape 2005)
    (paddedSnapshot_exact 2005) (paddedSnapshot_accepted hfits)).mpr hpages

end Client

end PepeAudio
