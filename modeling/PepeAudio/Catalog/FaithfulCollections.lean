import PepeAudio.Catalog.BoundedCollections
import PepeAudio.Lib.PlainUrl

/-!
# Collections of faithful servers

A server is faithful that answers with a list in pages, none empty unless the list
is, and with a link just where the list goes on. The links of the one catalog stand for the
positions in the list; the other is asked for positions.
-/
namespace PepeAudio

namespace Catalog

/-- Work that returns whatever has been asked for before. -/
def Returns {α : Type} (ok : α → Prop) (x : Requesting α) : Prop :=
  ∀ log, Ends x log (fun a _ => ok a) fun _ _ => False

section Returns

variable {α β γ τ : Type} {ok : α → Prop} {ok' : γ → Prop}

theorem returns_pure {a : α} (h : ok a) : Returns ok (pure a) := by
  intro log
  rw [ends_pure]
  exact h

theorem returns_ofExcept {x : Except CatalogError α} {a : α} (hx : x = .ok a) (h : ok a) :
    Returns ok (ofExcept x) := by
  rw [hx]
  exact returns_pure h

theorem Returns.bind {x : Requesting α} {f : α → Requesting γ} (h : Returns ok x)
    (hf : ∀ a, ok a → Returns ok' (f a)) : Returns ok' (x >>= f) := by
  intro log
  rw [ends_bind]
  exact (h log).imp (fun a log' ha => hf a ha log') fun _ _ hfalse => hfalse

namespace Server

/-- A token whenever one is needed, and an answer of the required kind for a URL. -/
structure Serves (server : Server β) (url : Url) (read : β → Option τ) (ok : τ → Prop) : Prop where
  token : ∀ history, ∃ token, server.token history = .ok token
  answer : ∀ request history, request.url = url → ∃ response value,
    server.execute (request :: history) = .ok response ∧ response.status = 200 ∧
      read response.body = some value ∧ ok value

variable {server : Server β} {url : Url} {read : β → Option τ} {ok : τ → Prop}

theorem Serves.returns (h : server.Serves url read ok) (provider : CatalogProvider) :
    Returns (fun response => response.status = 200 ∧ ∃ value, read response.body = some value ∧
      ok value) (authorizedGet provider server url) := by
  intro log
  simp only [authorizedGet, ends_bind, ends_get, ends_set, ends_ofExcept]
  obtain ⟨token, htoken⟩ := h.token log
  refine ⟨fun token _ => ?_, fun error herror => by simp [htoken] at herror⟩
  obtain ⟨response, value, hresponse, hstatus, hread, hvalue⟩ :=
    h.answer ⟨url, "Bearer " ++ token⟩ log rfl
  rw [hresponse]
  refine ⟨fun found hfound => ?_, fun error herror => by simp [Except.mapError] at herror⟩
  obtain rfl := Except.ok.inj hfound
  exact ⟨hstatus, value, hread, hvalue⟩

theorem returns_readResponse (provider : CatalogProvider) {response : HttpResponse β}
    (hstatus : response.status = 200) {value : τ} (hread : read response.body = some value)
    (hvalue : ok value) : Returns ok (ofExcept (readResponse provider read response)) := by
  refine returns_ofExcept ?_ hvalue
  rw [readResponse, if_pos hstatus, hread]
  rfl

end Server

end Returns

/-- The collection is the beginning of the list, and `cut` is what it says of the rest. -/
structure Complete {α : Type} (read : α → Option CatalogTrackMetadata) (limit : ℕ) (items : List α)
    (cut : Prop) (collection : CatalogCollection) : Prop where
  tracks : collection.tracks = (items.take limit).filterMap read
  skipped : collection.skippedItemCount = (items.take limit).countP fun item => (read item).isNone
  truncated : collection.truncated = true ↔ cut

/-- A total counts only if it is not left out. -/
theorem any_total_iff {total : Option ℕ} {length limit : ℕ} (h : ∀ n ∈ total, n = length) :
    total.any (min limit length < ·) = true → limit < length := by
  cases total with
  | none => simp
  | some n =>
    obtain rfl := h n rfl
    simp only [Option.any_some, decide_eq_true_eq]
    omega

namespace Spotify

/-- A page of the list from a position on, with the list's length if a total is given. -/
def Page.Of (page : Page) (items : List SimplifiedTrack) (position : ℕ) : Prop :=
  PageOf items position page.items page.next.isSome ∧ ∀ total ∈ page.total, total = items.length

namespace SpotifyCatalog

variable (client : SpotifyCatalog)

/-- The server has an album with these tracks. -/
structure ServesAlbum (id title : String) (items : List SimplifiedTrack) : Prop where
  album : client.server.Serves (client.apiUrl "albums" id none none) Body.album fun album =>
    cleanText album.name 512 = some title ∧ album.tracks.Of items 0
  pages : ∀ position < items.length, 0 < position →
    client.server.Serves (client.apiUrl "albums" id (some "tracks") (some position)) Body.page
      fun page => page.Of items position

theorem returns_getJson {τ : Type} {read : Body → Option τ} {ok : τ → Prop} {url : Url}
    (h : client.server.Serves url read ok) : Returns ok (client.getJson read url) := by
  refine (h.returns .spotify).bind fun response hresponse => ?_
  obtain ⟨hstatus, value, hread, hvalue⟩ := hresponse
  have haccepted : ¬response.status = 401 := by
    rw [hstatus]
    decide
  rw [if_neg haccepted, pure_bind]
  exact Server.returns_readResponse .spotify hstatus hread hvalue

variable {client}

theorem ServesAlbum.returns_albumPages {id title : String} {items : List SimplifiedTrack}
    (h : client.ServesAlbum id title items) (limit : ℕ) (page : Page)
    (gathered : Gathered CatalogTrackMetadata) {position : ℕ} (hpage : page.Of items position)
    (hposition : position ≤ items.length) (hlimit : position ≤ limit)
    (hgathered : gathered = .upTo (simplifiedTrackMetadata · title) position items) :
    Returns (fun read => read.1 = .upTo (simplifiedTrackMetadata · title) limit items ∧
        (read.2 = true ↔ limit < items.length))
      (client.albumPages id title limit page gathered) := by
  induction page, gathered using albumPages.induct title limit generalizing position with
  | case1 page gathered =>
    rename_i hends
    rw [albumPages, if_pos hends]
    obtain ⟨hpart, -⟩ := hpage
    subst hgathered
    have hprocessed := hpart.processed_absorb_upTo hposition hlimit
      (simplifiedTrackMetadata · title)
    have hend : limit ≤ position + page.items.length ∨ page.next.isSome = false := by
      rw [hprocessed] at hends
      exact hends.imp (fun hreached => hreached.trans (min_le_right ..)) fun hlast => hlast
    refine returns_pure ⟨?_, ?_⟩
    · rw [hpart.absorb_upTo hposition hlimit]
      exact hpart.upTo_end hposition hend _
    · have hreached : limit ≤ min limit (position + page.items.length) ↔
          limit ≤ position + page.items.length := by omega
      rw [hprocessed, Gathered.processed_upTo, min_eq_left hposition, Bool.or_eq_true,
        Bool.and_eq_true, decide_eq_true_eq, decide_eq_true_eq, hreached]
      exact hpart.truncated_iff hposition hlimit hend
  | case2 page gathered =>
    rename_i hends hlength
    exfalso
    obtain ⟨hpart, -⟩ := hpage
    push Not at hends
    have hmore := hpart.more_iff.mp (Bool.not_eq_false _ ▸ hends.2)
    exact hpart.ne_nil (by omega) (List.length_eq_zero_iff.mp hlength)
  | case3 page gathered =>
    rename_i gathered' hends hlength ih
    rw [albumPages, if_neg hends, if_neg hlength]
    obtain ⟨hpart, -⟩ := hpage
    subst hgathered
    have hprocessed := hpart.processed_absorb_upTo hposition hlimit
      (simplifiedTrackMetadata · title)
    have hgathered' := hpart.absorb_upTo hposition hlimit (simplifiedTrackMetadata · title)
    push Not at hends
    obtain ⟨hlimit', hnext⟩ := hends
    have hmore : position + page.items.length < items.length := by
      rw [← hpart.more_iff]
      simpa using hnext
    have hread : gathered'.processed = position + page.items.length := by
      have : gathered'.processed = min limit (position + page.items.length) := hprocessed
      omega
    rw [hread]
    have hpages := h.pages (position + page.items.length) hmore
      (Nat.add_pos_right position (Nat.pos_of_ne_zero hlength))
    refine (client.returns_getJson hpages).bind fun next hnext => ?_
    refine ih next hnext hmore.le (by omega) ?_
    have hwithin : min limit (position + page.items.length) = position + page.items.length := by
      omega
    rw [← hwithin]
    exact hgathered'

theorem ServesAlbum.returns {reference : CatalogReference} {title : String}
    {items : List SimplifiedTrack} (h : client.ServesAlbum reference.id title items) (limit : ℕ) :
    Returns (Complete (simplifiedTrackMetadata · title) limit items (limit < items.length))
      (client.resolveAlbum reference limit) := by
  refine (client.returns_getJson h.album).bind fun album halbum => ?_
  obtain ⟨htitle, hpage⟩ := halbum
  rw [htitle]
  have hempty : (Gathered.empty : Gathered CatalogTrackMetadata) =
      .upTo (simplifiedTrackMetadata · title) 0 items := by
    simp [Gathered.upTo]
  refine (h.returns_albumPages limit album.tracks .empty hpage (Nat.zero_le _) (Nat.zero_le _)
    hempty).bind fun read hread => returns_pure ?_
  obtain ⟨hgathered, hcut⟩ := hread
  refine ⟨?_, ?_, ?_⟩
  · rw [hgathered, Gathered.upTo_eq]
  · rw [hgathered, Gathered.upTo_eq]
  · rw [Bool.or_eq_true, hcut, hgathered, Gathered.processed_upTo]
    exact or_iff_left_of_imp (any_total_iff hpage.2)

end SpotifyCatalog

end Spotify

namespace AppleMusic.AppleMusicCatalog

variable (client : AppleMusicCatalog) (storefront expectedPath : String)
  (position : String → Option ℕ) (items : List Resource)

/-- A page of the list from a position on, with a link that stands for the position after it. -/
structure TracksFrom (start : ℕ) (page : Response Resource) : Prop where
  part : PageOf items start page.data page.next.isSome
  link : ∀ value ∈ page.next, ∃ url,
    client.validatedNextUrl value storefront expectedPath = .ok url ∧
    position url.asStr = some (start + page.data.length)
  total : ∀ pageMeta ∈ page.pageMeta, ∀ total ∈ pageMeta.total, total = items.length

/-- The server has a relationship with these tracks: its URLs stand for positions, the first for the
beginning. -/
structure ServesTracks (firstUrl : Url) : Prop where
  first : position firstUrl.asStr = some 0
  pages : ∀ url start, position url.asStr = some start → start ≤ items.length →
    client.server.Serves url Body.songs
      (client.TracksFrom storefront expectedPath position items start)

theorem returns_getJson {τ : Type} {read : Body → Option τ} {ok : τ → Prop} {url : Url}
    (h : client.server.Serves url read ok) : Returns ok (client.getJson read url) := by
  refine (h.returns .appleMusic).bind fun response hresponse => ?_
  obtain ⟨hstatus, value, hread, hvalue⟩ := hresponse
  exact Server.returns_readResponse .appleMusic hstatus hread hvalue

/-- The loop after the pages up to a position, which may lie beyond the limit. -/
structure Following (limit reached : ℕ) (s : PageLoop) : Prop where
  within : reached ≤ items.length
  gathered : s.gathered = .upTo (songMetadata client.urls · storefront) (min limit reached) items
  cut : s.currentPageTruncated = true ↔ limit < reached
  finished : s.pending = none → reached = items.length ∧ 0 < limit
  pending : ∀ url ∈ s.pending, position url.asStr = some reached
  further : s.pending.isSome = true → 0 < reached → reached < items.length
  unseen : ∀ url ∈ s.pending, url.asStr ∉ s.seen
  seen : ∀ text ∈ s.seen, ∃ earlier ≤ reached, position text = some earlier
  total : ∀ total ∈ s.total, total = items.length

variable {client storefront expectedPath position items} {limit reached : ℕ} {s : PageLoop}

theorem Following.start {firstUrl : Url}
    (h : client.ServesTracks storefront expectedPath position items firstUrl) :
    client.Following storefront position items limit 0 (.start firstUrl) := by
  refine ⟨Nat.zero_le _, by simp [PageLoop.start, Gathered.upTo], by simp [PageLoop.start],
    by simp [PageLoop.start], ?_, by simp, by simp [PageLoop.start], by simp [PageLoop.start],
    by simp [PageLoop.start]⟩
  intro url hurl
  obtain rfl := Option.some.inj hurl
  exact h.first

/-- What the loop has gathered and says, once it ends. -/
def Ended (client : AppleMusicCatalog) (storefront : String) (items : List Resource) (limit : ℕ)
    (s : PageLoop) : Prop :=
  s.gathered = .upTo (songMetadata client.urls · storefront) limit items ∧
    ((s.currentPageTruncated = true ∨ s.pending.isSome = true) ↔ limit = 0 ∨ limit < items.length) ∧
    ∀ total ∈ s.total, total = items.length

theorem Following.processed (h : client.Following storefront position items limit reached s) :
    s.gathered.processed = min limit reached := by
  have := h.within
  rw [h.gathered, Gathered.processed_upTo]
  omega

/-- The loop ends at the limit or at the end of the list. -/
theorem Following.ended (h : client.Following storefront position items limit reached s)
    (hend : limit ≤ s.gathered.processed ∨ s.pending = none) :
    Ended client storefront items limit s := by
  have hwithin := h.within
  rw [h.processed] at hend
  refine ⟨?_, ?_, h.total⟩
  · rw [h.gathered]
    apply Gathered.upTo_congr
    rcases hend with hlimit | hnone
    · omega
    · obtain ⟨hreached, -⟩ := h.finished hnone
      omega
  · rw [h.cut]
    cases hpending : s.pending with
    | none =>
      obtain ⟨hreached, hpos⟩ := h.finished hpending
      simp only [Option.isSome_none, Bool.false_eq_true, or_false]
      omega
    | some url =>
      have hfurther := h.further (by simp [hpending])
      simp only [hpending, reduceCtorEq, or_false] at hend
      simp only [Option.isSome_some, or_true, true_iff]
      omega

/-- The link of a page is accepted, and stands for what comes after the page. -/
theorem TracksFrom.nextUrl {start : ℕ} {page : Response Resource}
    (h : client.TracksFrom storefront expectedPath position items start page) :
    ∃ next, client.nextUrl storefront expectedPath page = .ok next ∧
      next.isSome = page.next.isSome ∧
      ∀ url ∈ next, position url.asStr = some (start + page.data.length) := by
  unfold AppleMusicCatalog.nextUrl
  cases hnext : page.next with
  | none => exact ⟨none, rfl, rfl, by simp⟩
  | some value =>
    obtain ⟨url, hurl, hposition⟩ := h.link value hnext
    refine ⟨some url, by simp [hurl, Except.map], rfl, ?_⟩
    intro found hfound
    obtain rfl := Option.some.inj hfound
    exact hposition

/-- A page is followed by the part of the list behind it. -/
theorem Following.absorb (h : client.Following storefront position items limit reached s)
    (hlimit : ¬limit ≤ s.gathered.processed) {url : Url} (hpending : s.pending = some url)
    {page : Response Resource}
    (hpage : client.TracksFrom storefront expectedPath position items reached page)
    {next : Option Url} (hsome : next.isSome = page.next.isSome)
    (hnext : ∀ url ∈ next, position url.asStr = some (reached + page.data.length)) :
    client.Following storefront position items limit (reached + page.data.length)
      (PageLoop.absorb client storefront limit url page next s) := by
  have hwithin := hpage.part.length_le h.within
  have hmore := hpage.part.more_iff
  rw [h.processed] at hlimit
  have hbelow : min limit reached = reached := by omega
  have hgathered := h.gathered
  rw [hbelow] at hgathered
  have hseen : ∀ text ∈ url.asStr :: s.seen, ∃ earlier ≤ reached, position text = some earlier := by
    intro text htext
    rcases List.mem_cons.mp htext with rfl | htext
    · exact ⟨reached, le_refl _, h.pending url hpending⟩
    · exact h.seen text htext
  refine ⟨hwithin, ?_, ?_, ?_, hnext, ?_, ?_, ?_, ?_⟩
  · simp only [PageLoop.absorb]
    rw [hgathered]
    exact hpage.part.absorb_upTo h.within (by omega) _
  · simp only [PageLoop.absorb, h.processed, decide_eq_true_eq]
    omega
  · intro hnone
    have hlast : next = none := hnone
    rw [hlast] at hsome
    rw [← hsome] at hmore
    simp only [Option.isSome_none, Bool.false_eq_true, false_iff] at hmore
    omega
  · intro hlink _
    rw [← hmore, ← hsome]
    exact hlink
  · intro url' hurl' hagain
    have hlink : next.isSome = true := Option.isSome_iff_exists.mpr ⟨url', hurl'⟩
    rw [hsome, hmore] at hlink
    have hlength := List.length_pos_of_ne_nil (hpage.part.ne_nil (by omega))
    obtain ⟨earlier, hle, hearlier⟩ := hseen _ hagain
    have := Option.some.inj ((hnext url' hurl').symm.trans hearlier)
    omega
  · intro text htext
    obtain ⟨earlier, hle, hearlier⟩ := hseen text htext
    exact ⟨earlier, by omega, hearlier⟩
  · intro total htotal
    rcases Option.or_eq_some_iff.mp htotal with hold | ⟨-, hnew⟩
    · exact h.total total hold
    · obtain ⟨pageMeta, hmeta, hnew⟩ := Option.bind_eq_some_iff.mp hnew
      exact hpage.total pageMeta hmeta total hnew

theorem ServesTracks.returns_trackPages {firstUrl : Url}
    (hserves : client.ServesTracks storefront expectedPath position items firstUrl)
    (h : client.Following storefront position items limit reached s) :
    Returns (Ended client storefront items limit)
      (client.trackPages storefront expectedPath limit s) := by
  induction s using trackPages.induct client storefront limit generalizing reached with
  | case1 s hlimit =>
    rw [trackPages_reached hlimit]
    exact returns_pure (h.ended (.inl hlimit))
  | case2 s hlimit hpending =>
    rw [trackPages_none hpending]
    exact returns_pure (h.ended (.inr hpending))
  | case3 s hlimit url hpending hseen => exact absurd hseen (h.unseen url hpending)
  | case4 s hlimit url hpending hseen ih =>
    rw [trackPages_some hlimit hpending, if_neg hseen]
    have hpages := hserves.pages url reached (h.pending url hpending) h.within
    refine (client.returns_getJson hpages).bind fun page hpage => ?_
    obtain ⟨next, hurl, hsome, hnext⟩ := hpage.nextUrl
    have hlink : Returns (· = next) (ofExcept (client.nextUrl storefront expectedPath page)) :=
      returns_ofExcept hurl rfl
    refine hlink.bind fun found hfound => ?_
    subst hfound
    have hproper : ¬(page.data.length = 0 ∧ found.isSome = true) := by
      rintro ⟨hlength, hlink⟩
      have hmore := hpage.part.more_iff
      rw [← hsome] at hmore
      have := List.length_pos_of_ne_nil (hpage.part.ne_nil (by have := hmore.mp hlink; omega))
      omega
    rw [if_neg hproper]
    exact ih page found hproper (h.absorb hlimit hpending hpage hsome hnext)

/-- What the loop has read makes a complete collection. -/
theorem Ended.complete (h : Ended client storefront items limit s) (reference : CatalogReference)
    (title : String) (version : Option String) :
    Complete (songMetadata client.urls · storefront) limit items (limit = 0 ∨ limit < items.length)
      (collection reference title version s) := by
  obtain ⟨hgathered, hcut, htotal⟩ := h
  refine ⟨?_, ?_, ?_⟩
  · rw [collection, hgathered, Gathered.upTo_eq]
  · rw [collection, hgathered, Gathered.upTo_eq]
  · rw [collection, hgathered, Gathered.processed_upTo]
    simp only [Bool.or_eq_true]
    rw [hcut]
    exact or_iff_left_of_imp fun hany => .inr (any_total_iff htotal hany)

variable (client items)

/-- The server has a collection of a kind with these tracks. -/
structure ServesCollection {α : Type} (read : Body → Option (Response (CollectionResource α)))
    (ok : Response (CollectionResource α) → Prop) (kind : String) (reference : CatalogReference)
    (storefront : String) (limit : ℕ) : Prop where
  located : AppleMusic.storefront reference = .ok storefront
  resource : client.server.Serves (resourceUrl storefront kind reference.id none) read ok
  tracks : ∃ position, client.ServesTracks storefront
    (resourceUrl storefront kind reference.id (some "tracks")).path position items
    ((resourceUrl storefront kind reference.id (some "tracks")).appendPair "limit" (toString limit))

variable {client items}

theorem ServesCollection.returns_tracks {α : Type}
    {read : Body → Option (Response (CollectionResource α))}
    {ok : Response (CollectionResource α) → Prop} {kind : String} {reference : CatalogReference}
    (h : client.ServesCollection items read ok kind reference storefront limit) :
    Returns (Ended client storefront items limit) (client.resolveTrackPages
      (resourceUrl storefront kind reference.id (some "tracks")) storefront limit) := by
  obtain ⟨position, htracks⟩ := h.tracks
  exact htracks.returns_trackPages (.start htracks)

/-- The title of an album as the client reads it. -/
def albumTitle (response : Response (CollectionResource AlbumAttributes)) : Option String :=
  ((oneResource response "albums").bind (·.attributes)).bind fun attributes =>
    cleanText attributes.name 512

/-- The title of a playlist. -/
def playlistTitle (response : Response (CollectionResource PlaylistAttributes)) : Option String :=
  ((oneResource response "playlists").bind (·.attributes)).bind fun attributes =>
    cleanText attributes.name 512

theorem returns_resolveAlbum {reference : CatalogReference} {title : String}
    (h : client.ServesCollection items Body.album (albumTitle · = some title) "albums" reference
      storefront limit) :
    Returns (Complete (songMetadata client.urls · storefront) limit items
      (limit = 0 ∨ limit < items.length)) (client.resolveAlbum reference limit) := by
  have hstorefront : Returns (· = storefront) (ofExcept (AppleMusic.storefront reference)) :=
    returns_ofExcept h.located rfl
  refine hstorefront.bind fun found hfound => ?_
  subst hfound
  refine (client.returns_getJson h.resource).bind fun response hresponse => ?_
  have htitle : ((oneResource response "albums").bind (·.attributes)).bind (fun attributes =>
    cleanText attributes.name 512) = some title := hresponse
  dsimp only
  rw [htitle]
  exact h.returns_tracks.bind fun s hs => returns_pure (hs.complete reference title none)

theorem returns_resolvePlaylist {reference : CatalogReference} {title : String}
    (h : client.ServesCollection items Body.playlist (playlistTitle · = some title) "playlists"
      reference storefront limit) :
    Returns (Complete (songMetadata client.urls · storefront) limit items
      (limit = 0 ∨ limit < items.length)) (client.resolvePlaylist reference limit) := by
  have hstorefront : Returns (· = storefront) (ofExcept (AppleMusic.storefront reference)) :=
    returns_ofExcept h.located rfl
  refine hstorefront.bind fun found hfound => ?_
  subst hfound
  refine (client.returns_getJson h.resource).bind fun response hresponse => ?_
  obtain ⟨attributes, hattributes, htitle⟩ := Option.bind_eq_some_iff.mp hresponse
  rw [hattributes]
  dsimp only
  rw [htitle]
  exact h.returns_tracks.bind fun s hs => returns_pure (hs.complete reference title _)

end AppleMusic.AppleMusicCatalog

namespace Spotify.SpotifyCatalog

def firstTrack : SimplifiedTrack :=
  ⟨some "1111111111111111111111", "First", ["Artist"], some 180000, some "track", false⟩

def secondTrack : SimplifiedTrack :=
  ⟨some "2222222222222222222222", "Second", ["Artist"], some 181000, some "track", false⟩

def albumReference : CatalogReference :=
  ⟨.spotify, .album, "4aawyAB9vmqN3uQ7FjRGTy", none,
    Url.https "open.spotify.com" "/album/4aawyAB9vmqN3uQ7FjRGTy" none⟩

def albumUrl : Url :=
  Url.https "api.spotify.com" "/v1/albums/4aawyAB9vmqN3uQ7FjRGTy" (some "market=JP")

def albumBody : Body :=
  { album := some ⟨"Example Album", [firstTrack], some 2,
      some "https://api.spotify.com/v1/albums/4aawyAB9vmqN3uQ7FjRGTy/tracks?offset=1"⟩,
    page := none }

def secondBody : Body := { album := none, page := some ⟨[secondTrack], some 2, none⟩ }

/-- The album with its first track, and the rest from its first offset on. -/
def twoPages : SpotifyCatalog :=
  { market := "JP",
    server :=
      { token := fun _ => .ok "access-token",
        execute := fun
          | [] => .error .transport
          | request :: _ =>
            if request.url = albumUrl then .ok ⟨200, none, albumBody⟩
            else .ok ⟨200, none, secondBody⟩ } }

theorem twoPages_serves :
    twoPages.ServesAlbum albumReference.id "Example Album" [firstTrack, secondTrack] := by
  constructor
  · refine ⟨fun _ => ⟨_, rfl⟩, fun request history hurl => ?_⟩
    have hrequest : request.url = albumUrl := hurl
    refine ⟨⟨200, none, albumBody⟩, _, by simp [twoPages, hrequest], rfl, rfl, by decide, ?_, ?_⟩
    · exact ⟨⟨[secondTrack], rfl⟩, by simp, by decide⟩
    · simp
  · intro position hlt hpos
    have hone : position = 1 := by
      simp only [List.length_cons, List.length_nil] at hlt
      omega
    subst hone
    refine ⟨fun _ => ⟨_, rfl⟩, fun request history hurl => ?_⟩
    have hrequest : request.url ≠ albumUrl := by
      rw [hurl]
      decide
    refine ⟨⟨200, none, secondBody⟩, _, by simp [twoPages, hrequest], rfl, rfl, ?_, ?_⟩
    · exact ⟨⟨[], rfl⟩, by simp, by decide⟩
    · simp

end Spotify.SpotifyCatalog

namespace AppleMusic.AppleMusicCatalog

def song (id name : String) : Resource :=
  ⟨id, "songs", some ⟨some name, some "Artist", none, none, none,
    some ("https://music.apple.com/jp/song/" ++ id)⟩⟩

def playlistReference : CatalogReference :=
  ⟨.appleMusic, .playlist, "pl.abc", some "jp",
    Url.https "music.apple.com" "/jp/playlist/mix/pl.abc" none⟩

def firstUrl : Url :=
  Url.https "api.music.apple.com" "/v1/catalog/jp/playlists/pl.abc/tracks" (some "limit=1")

def secondUrl : Url :=
  Url.https "api.music.apple.com" "/v1/catalog/jp/playlists/pl.abc/tracks" (some "offset=1")

def playlistBody : Body :=
  { album := none,
    playlist := some ⟨[⟨"pl.abc", "playlists", some ⟨"Mix", none⟩⟩], none, none⟩,
    songs := none }

def firstBody : Body :=
  { album := none,
    playlist := none,
    songs := some ⟨[song "1" "First"], some "/v1/catalog/jp/playlists/pl.abc/tracks?offset=1",
      some ⟨some 2⟩⟩ }

def secondBody : Body :=
  { album := none, playlist := none, songs := some ⟨[song "2" "Second"], none, none⟩ }

/-- A link from the root of the host, with a query. -/
def joinRoot (base : Url) (value : String) : Option Url :=
  match splitOnce value '?' with
  | some (path, query) =>
    if path.toList.head? = some '/' then some { base with path, query := some query } else none
  | none => none

/-- A playlist with a track on each of two pages. -/
def twoLinks : AppleMusicCatalog :=
  { urls := plainUrls,
    join := joinRoot,
    server :=
      { token := fun _ => .ok "developer-token",
        execute := fun
          | [] => .error .transport
          | request :: _ =>
            if request.url.asStr = firstUrl.asStr then .ok ⟨200, none, firstBody⟩
            else if request.url.asStr = secondUrl.asStr then .ok ⟨200, none, secondBody⟩
            else .ok ⟨200, none, playlistBody⟩ } }

def pagePosition (text : String) : Option ℕ :=
  if text = firstUrl.asStr then some 0
  else if text = secondUrl.asStr then some 1
  else none

theorem twoLinks_serves :
    twoLinks.ServesCollection [song "1" "First", song "2" "Second"] Body.playlist
      (playlistTitle · = some "Mix") "playlists" playlistReference "jp" 1 := by
  refine ⟨rfl, ?_, pagePosition, ?_, ?_⟩
  · refine ⟨fun _ => ⟨_, rfl⟩, fun request history hurl => ?_⟩
    have hfirst : request.url.asStr ≠ firstUrl.asStr := by
      rw [hurl]
      decide
    have hsecond : request.url.asStr ≠ secondUrl.asStr := by
      rw [hurl]
      decide
    exact ⟨⟨200, none, playlistBody⟩, _, by simp [twoLinks, hfirst, hsecond], rfl, rfl, by decide⟩
  · decide
  · intro url start hposition hstart
    refine ⟨fun _ => ⟨_, rfl⟩, fun request history hurl => ?_⟩
    subst hurl
    unfold pagePosition at hposition
    split at hposition
    · rename_i hfirst
      obtain rfl := Option.some.inj hposition
      refine ⟨⟨200, none, firstBody⟩, _, by simp [twoLinks, hfirst], rfl, rfl, ?_, ?_, ?_⟩
      · exact ⟨⟨[song "2" "Second"], rfl⟩, by simp, by decide⟩
      · intro value hvalue
        obtain rfl := Option.some.inj hvalue
        exact ⟨secondUrl, by decide, by decide⟩
      · intro pageMeta hmeta total htotal
        obtain rfl := Option.some.inj hmeta
        obtain rfl := Option.some.inj htotal
        rfl
    · split at hposition
      · rename_i hsecond
        obtain rfl := Option.some.inj hposition
        refine ⟨⟨200, none, secondBody⟩, _, ?_, rfl, rfl, ?_, ?_, ?_⟩
        · have hne : secondUrl.asStr ≠ firstUrl.asStr := by decide
          simp [twoLinks, hsecond, hne]
        · exact ⟨⟨[], rfl⟩, by simp, by decide⟩
        · intro value hvalue
          contradiction
        · intro pageMeta hmeta
          contradiction
      · contradiction

end AppleMusic.AppleMusicCatalog

end Catalog

end PepeAudio
