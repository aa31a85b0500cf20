import PepeAudio.Core.SnapshotSize
import PepeAudio.Lib.PlainUrl
import PepeAudio.Runtime.PlayerStream
import PepeAudio.Storage.SnapshotStore

/-!
# Every public snapshot fits the transport

The store and the streams refuse a snapshot whose JSON is longer than a limit. No
snapshot of the public shape, with pages made by their constructor, is that long.
-/
namespace PepeAudio

/-- A snapshot of the public shape whose attribution was made by its constructors. -/
structure PlayerSnapshot.Admitted (library : UrlLibrary) (snapshot : PlayerSnapshot) : Prop where
  shape : snapshot.validatePublicShape = .ok ()
  provenance : ∀ track ∈ snapshot.tracks, ∀ provenance ∈ track.provenance,
    provenance.Accepted library

/-- The length of the text that is stored. -/
def PlayerSnapshot.encodedLength (snapshot : PlayerSnapshot) : ℕ := snapshot.toJson.serde.bytes

section Fits

variable {library : UrlLibrary} {snapshot : PlayerSnapshot}

theorem PlayerSnapshot.Admitted.size_le (hlawful : library.Lawful)
    (hqueries : library.PlainQueries) (h : snapshot.Admitted library) :
    snapshot.toJson.size serdeEscaped ≤ 941000 := by
  refine PlayerSnapshot.size_le h.shape fun page hpage => ?_
  obtain ⟨track, htrack, hpage⟩ := List.mem_flatMap.mp hpage
  unfold TrackSnapshot.pages at hpage
  cases hprovenance : track.provenance with
  | none => simp [hprovenance] at hpage
  | some provenance =>
    rw [hprovenance] at hpage
    exact ((h.provenance track htrack provenance hprovenance).pages page hpage).escapedSize_le
      hlawful hqueries

namespace PlayerStream

/-- The wrapping of an event adds the revision and two names. -/
theorem data_le (hlawful : library.Lawful) (hqueries : library.PlainQueries)
    (h : snapshot.Admitted library) (kind : String) :
    (Event.snapshot kind snapshot).data.serde.bytes ≤ MAX_PLAYER_SNAPSHOT_JSON_BYTES := by
  have hsize := h.size_le hlawful hqueries
  have hrevision := size_natural_le snapshot.revision.get
  have h1 : quotedSize serdeEscaped "revision" = 10 := by decide
  have h2 : quotedSize serdeEscaped "snapshot" = 10 := by decide
  unfold MAX_PLAYER_SNAPSHOT_JSON_BYTES
  rw [Json.serde, Event.data, Json.size]
  simp only [fieldsSize, List.length_cons, List.length_nil, h1, h2]
  omega

theorem snapshotEvent_admitted (hlawful : library.Lawful) (hqueries : library.PlainQueries)
    (h : snapshot.Admitted library) (kind : String) :
    snapshotEvent kind snapshot = .ok (.snapshot kind snapshot) := by
  have hle := data_le hlawful hqueries h kind
  unfold snapshotEvent
  rw [h.shape]
  dsimp only
  rw [if_neg (Nat.not_lt.mpr hle)]

/-- The end of a stream that could not write a snapshot. -/
def Event.failed : Event → Bool
  | .snapshot _ _ => false
  | .resync reason _ _ => reason = "serialization_failure"

def Received.Admitted (library : UrlLibrary) (item : Received) : Prop :=
  ∀ snapshot, item = .notification snapshot → snapshot.Admitted library

namespace StreamState

variable {state : StreamState}

/-- A round takes nothing from what is still to be received. -/
theorem receive_receiver (state : StreamState) (item : Received) :
    (state.receive item).2.receiver = state.receiver ∧
      (state.receive item).2.initial = state.initial := by
  cases item with
  | lagged skipped => exact ⟨rfl, rfl⟩
  | notification content =>
    unfold receive
    dsimp only
    split_ifs
    · exact ⟨rfl, rfl⟩
    · exact ⟨rfl, rfl⟩
    · exact ⟨rfl, rfl⟩
    · cases snapshotEvent "player" content with
      | error error => exact ⟨rfl, rfl⟩
      | ok event => exact ⟨rfl, rfl⟩

theorem receive_admitted (hlawful : library.Lawful) (hqueries : library.PlainQueries)
    {item : Received} (hitem : item.Admitted library) {event : Event}
    (h : (state.receive item).1 = some event) : event.failed = false := by
  cases item with
  | lagged skipped =>
    obtain rfl := Option.some.inj h
    simp [Event.failed]
  | notification content =>
    have hcontent := snapshotEvent_admitted hlawful hqueries (hitem content rfl) "player"
    unfold receive at h
    dsimp only at h
    rw [hcontent] at h
    split_ifs at h
    · obtain rfl := Option.some.inj h
      simp [Event.failed]
    · obtain rfl := Option.some.inj h
      simp [Event.failed]
    · obtain rfl := Option.some.inj h
      rfl

theorem loop_admitted (hlawful : library.Lawful) (hqueries : library.PlainQueries)
    {received : List Received} (hreceived : ∀ item ∈ received, item.Admitted library)
    {event : Event} {after : StreamState} (h : state.loop received = some (event, after)) :
    event.failed = false ∧ (∀ item ∈ after.receiver, item.Admitted library) ∧
      after.initial = state.initial := by
  induction received generalizing state with
  | nil => contradiction
  | cons item received ih =>
    have hrest : ∀ item ∈ received, item.Admitted library :=
      fun item hitem => hreceived item (List.mem_cons_of_mem _ hitem)
    obtain ⟨hreceiver, hinitial⟩ := receive_receiver { state with receiver := received } item
    unfold loop at h
    rcases hround : receive { state with receiver := received } item with ⟨sent | sent, next⟩
    · rw [hround] at h hinitial
      have hafter := ih hrest h
      exact ⟨hafter.1, hafter.2.1, hafter.2.2.trans hinitial⟩
    · have hsent := receive_admitted hlawful hqueries (hreceived item List.mem_cons_self)
        (congrArg Prod.fst hround)
      rw [hround] at h hreceiver hinitial
      obtain ⟨rfl, rfl⟩ := Prod.mk.inj (Option.some.inj h)
      dsimp only at hreceiver hinitial
      exact ⟨hsent, fun item hitem => hrest item (hreceiver ▸ hitem), hinitial⟩

/-- Induction on the polls: none of them fails, and what is left to receive stays admitted. -/
theorem collect_admitted (hlawful : library.Lawful) (hqueries : library.PlainQueries)
    (polls : ℕ) (hreceiver : ∀ item ∈ state.receiver, item.Admitted library)
    (hinitial : ∀ event ∈ state.initial, event.failed = false) :
    ∀ event ∈ (state.collect polls).1, event.failed = false := by
  induction polls generalizing state with
  | zero => simp [collect]
  | succ polls ih =>
    cases hnext : state.next with
    | none =>
      rw [collect_of_none hnext]
      simp
    | some result =>
      obtain ⟨event, after⟩ := result
      have hevent : event.failed = false ∧ (∀ item ∈ after.receiver, item.Admitted library) ∧
          ∀ event ∈ after.initial, event.failed = false := by
        unfold next at hnext
        split_ifs at hnext
        split at hnext
        · rename_i initial hsome
          obtain ⟨rfl, rfl⟩ := Prod.mk.inj (Option.some.inj hnext)
          exact ⟨hinitial _ hsome, hreceiver, by simp⟩
        · rename_i hnone
          obtain ⟨hfailed, hrest, hsame⟩ := loop_admitted hlawful hqueries hreceiver hnext
          exact ⟨hfailed, hrest, by simp [hsame, hnone]⟩
      rw [collect_succ hnext]
      intro other hother
      rcases List.mem_cons.mp hother with rfl | hother
      · exact hevent.1
      · exact ih hevent.2.1 hevent.2.2 other hother

end StreamState

end PlayerStream

/-- The JSON of an admitted snapshot and the event that carries it are within the limit, so that
the store does not refuse it for its size and a stream of such snapshots never fails to write. -/
theorem snapshot_fits_transport (hlawful : library.Lawful) (hqueries : library.PlainQueries)
    (h : snapshot.Admitted library) :
    snapshot.toJson.serde.bytes ≤ MAX_PLAYER_SNAPSHOT_JSON_BYTES ∧
    (∀ kind, (PlayerStream.Event.snapshot kind snapshot).data.serde.bytes ≤
      MAX_PLAYER_SNAPSHOT_JSON_BYTES) ∧
    (∀ (store : SnapshotStore) (ttl : ℕ) (resource : String),
      (store.putSnapshotIfNewer PlayerSnapshot.encodedLength snapshot ttl).1 ≠
        .error (.capacityExceeded resource)) ∧
    ∀ received : List PlayerStream.Received,
      (∀ item ∈ received, item.Admitted library) →
      ∃ stream, PlayerStream.playerStream snapshot received = .ok stream ∧
        ∀ polls, ∀ event ∈ (stream.collect polls).1, event.failed = false := by
  have hsize := h.size_le hlawful hqueries
  have hbytes : snapshot.toJson.serde.bytes ≤ MAX_PLAYER_SNAPSHOT_JSON_BYTES :=
    hsize.trans (by decide)
  refine ⟨hbytes, fun kind => PlayerStream.data_le hlawful hqueries h kind, ?_, ?_⟩
  · intro store ttl resource
    unfold SnapshotStore.putSnapshotIfNewer
    rw [h.shape]
    dsimp only
    have hlimit : ¬ MAX_PLAYER_SNAPSHOT_JSON_BYTES < snapshot.encodedLength := Nat.not_lt.mpr hbytes
    rw [if_neg hlimit]
    split_ifs <;> simp
  · intro received hreceived
    have hevent := PlayerStream.snapshotEvent_admitted hlawful hqueries h "snapshot"
    unfold PlayerStream.playerStream
    rw [hevent]
    refine ⟨_, rfl, fun polls => ?_⟩
    refine PlayerStream.StreamState.collect_admitted hlawful hqueries polls hreceived ?_
    intro event hinitial
    obtain rfl := Option.some.inj hinitial
    rfl

end Fits

/-- The pages of a song and of the video it is played from. -/
def songPage : PublicMediaPage :=
  ⟨.appleMusic, "https://music.apple.com/us/album/example/1440857781?i=1440857782"⟩

def videoPage : PublicMediaPage :=
  ⟨.youTube, "https://www.youtube.com/watch?v=dQw4w9WgXcQ"⟩

/-- Quotation marks, which are escaped. -/
def quotes (count : ℕ) : String := String.ofList (List.replicate count '"')

/-- Texts as long as they may be, and a page of each kind. -/
def fullTrack (n : ℕ) : TrackSnapshot where
  trackId := Uuid.fromU128 n
  title := quotes MAX_TRACK_TITLE_BYTES
  artist := some (quotes MAX_TRACK_ARTIST_BYTES)
  album := some (quotes MAX_TRACK_ALBUM_BYTES)
  provenance := some ⟨some songPage, videoPage⟩
  requesterUserId := none
  durationMs := none
  positionMs := 0
  seekable := true

/-- A full queue behind the track that plays. -/
def fullSnapshot : PlayerSnapshot where
  guildId := ⟨.MIN⟩
  voiceChannelId := none
  revision := ⟨1⟩
  state := .playing
  currentTrack := some (fullTrack 0)
  queuedTracks := 100
  upcomingTracks := (List.range' 1 MAX_SNAPSHOT_QUEUE_ITEMS).map fullTrack
  hasPreviousTrack := false
  volume := .DEFAULT
  repeatMode := .off
  shuffleEnabled := false
  hrirPreset := none
  spatialAudioEnabled := true
  observedAt := ⟨0⟩

theorem validateText_quotes {count maximumBytes : ℕ} (hpos : count ≠ 0)
    (hle : count ≤ maximumBytes) : validateText (quotes count) maximumBytes = true := by
  obtain ⟨count, rfl⟩ := Nat.exists_eq_succ_of_ne_zero hpos
  have htrim : trimChars (List.replicate (count + 1) '"') = List.replicate (count + 1) '"' := by
    have hfirst : (List.replicate (count + 1) '"').dropWhile isWhitespace =
        List.replicate (count + 1) '"' := by
      rw [List.replicate_succ, List.dropWhile_cons_of_neg (by decide)]
    rw [trimChars, hfirst, List.rdropWhile_eq_self_iff]
    intro hne
    rw [List.getLast_replicate]
    decide
  have hsize : (quotes (count + 1)).utf8ByteSize = count + 1 := by
    rw [quotes, Url.byteSize_ofList, Url.byteSize, List.map_replicate, List.sum_replicate]
    exact Nat.mul_one _
  have hplain : (List.replicate (count + 1) '"').any isControl = false := by
    rw [List.any_replicate, if_neg (Nat.succ_ne_zero count)]
    decide
  have hkept : (trim (quotes (count + 1))).isEmpty = false := by
    rw [trim, quotes, String.toList_ofList, htrim, String.isEmpty_eq_false_iff]
    exact fun hempty => by simpa using congrArg String.toList hempty
  rw [validateText, hkept, hsize, quotes, String.toList_ofList, hplain]
  simpa using hle

theorem validateTrack_fullTrack (n : ℕ) : validateTrack (fullTrack n) = .ok () := by
  refine validateTrack_eq_ok.mpr ⟨validateText_quotes (by decide) le_rfl, ?_, ?_, ?_⟩
  · intro artist hartist
    obtain rfl := Option.some.inj hartist
    exact validateText_quotes (by decide) le_rfl
  · intro album halbum
    obtain rfl := Option.some.inj halbum
    exact validateText_quotes (by decide) le_rfl
  · simp [fullTrack]

/-- Small numbers stand in the last byte. -/
theorem fromU128_inj {first second : ℕ} (hfirst : first < 256) (hsecond : second < 256)
    (h : Uuid.fromU128 first = Uuid.fromU128 second) : first = second := by
  have hbytes := congrArg (fun uuid : Uuid => uuid.bytes[15].toNat) h
  simpa [Uuid.fromU128, Nat.mod_eq_of_lt hfirst, Nat.mod_eq_of_lt hsecond] using hbytes

theorem tracks_fullSnapshot :
    fullSnapshot.currentTrack.toList ++ fullSnapshot.upcomingTracks =
      (List.range' 0 (MAX_SNAPSHOT_QUEUE_ITEMS + 1)).map fullTrack := rfl

theorem fullSnapshot_admitted : fullSnapshot.Admitted plainUrls := by
  constructor
  · rw [PlayerSnapshot.validatePublicShape_eq_ok, tracks_fullSnapshot]
    refine ⟨by simp [fullSnapshot], rfl, ?_, ?_⟩
    · intro track htrack
      obtain ⟨n, -, rfl⟩ := List.mem_map.mp htrack
      exact validateTrack_fullTrack n
    · rw [List.map_map]
      refine List.Nodup.map_on (fun first hfirst second hsecond hids => ?_) List.nodup_range'
      simp only [List.mem_range'_1, MAX_SNAPSHOT_QUEUE_ITEMS] at hfirst hsecond
      exact fromU128_inj (by omega) (by omega) hids
  · intro track htrack provenance hprovenance
    have hmem : track ∈ (List.range' 0 (MAX_SNAPSHOT_QUEUE_ITEMS + 1)).map fullTrack := htrack
    obtain ⟨n, -, rfl⟩ := List.mem_map.mp hmem
    obtain rfl := Option.some.inj hprovenance
    refine ⟨rfl, fun page hpage => ?_⟩
    have hcases : page = songPage ∨ page = videoPage := by
      simpa [TrackProvenance.pages] using hpage
    rcases hcases with rfl | rfl
    · exact ⟨songPage.url, by decide +kernel⟩
    · exact ⟨videoPage.url, by decide +kernel⟩

theorem snapshot_fits_transport_linked :
    fullSnapshot.toJson.serde.bytes ≤ MAX_PLAYER_SNAPSHOT_JSON_BYTES ∧
      (PlayerStream.Event.snapshot "player" fullSnapshot).data.serde.bytes ≤
        MAX_PLAYER_SNAPSHOT_JSON_BYTES ∧
      (SnapshotStore.empty.putSnapshotIfNewer PlayerSnapshot.encodedLength fullSnapshot 60000).1 ≠
        .error (.capacityExceeded "snapshot") ∧
      ∃ stream, PlayerStream.playerStream fullSnapshot [.notification fullSnapshot] = .ok stream ∧
        ∀ polls, ∀ event ∈ (stream.collect polls).1, event.failed = false := by
  obtain ⟨hbytes, hevent, hstore, hstream⟩ := snapshot_fits_transport PlainUrl.plainUrls_lawful
    PlainUrl.plainUrls_plainQueries fullSnapshot_admitted
  refine ⟨hbytes, hevent "player", hstore .empty 60000 "snapshot", hstream _ ?_⟩
  intro item hitem snapshot hsnapshot
  obtain rfl := List.mem_singleton.mp hitem
  obtain rfl := PlayerStream.Received.notification.inj hsnapshot
  exact fullSnapshot_admitted

end PepeAudio
