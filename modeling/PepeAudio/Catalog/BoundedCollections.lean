import PepeAudio.Catalog.CollectionPages
import Mathlib.Data.Finset.Card
import Mathlib.Data.List.Basic

/-!
# Collections within their limit

Whatever a server answers, a collection takes a bounded number of pages and has no
more items than asked for. From a server that serves a list faithfully, it is the
beginning of the list.
-/
namespace PepeAudio

namespace Catalog

section Requests

/-- The requests for one page: none without a token, one, or another one after the first is
refused. -/
inductive Fetched (refused : Url → List HttpRequest → Prop) (url : Url) (log : List HttpRequest) :
    List HttpRequest → Prop
  | unasked : Fetched refused url log log
  | once (request : HttpRequest) (hurl : request.url = url) :
      Fetched refused url log (request :: log)
  | twice (first second : HttpRequest) (hfirst : first.url = url) (hsecond : second.url = url)
      (hrefused : refused url (first :: log)) : Fetched refused url log (second :: first :: log)

/-- One page after the other. -/
inductive Fetches (refused : Url → List HttpRequest → Prop) :
    List Url → List HttpRequest → List HttpRequest → Prop
  | nil (log : List HttpRequest) : Fetches refused [] log log
  | cons {url : Url} {urls : List Url} {log log' log'' : List HttpRequest}
      (first : Fetched refused url log log') (rest : Fetches refused urls log' log'') :
      Fetches refused (url :: urls) log log''

/-- After `log`, at most so many pages have been fetched, different ones of those allowed. -/
def Asked (refused : Url → List HttpRequest → Prop) (pages : ℕ) (allowed : Url → Prop)
    (log log' : List HttpRequest) : Prop :=
  ∃ urls, Fetches refused urls log log' ∧ urls.Nodup ∧ urls.length ≤ pages ∧
    ∀ url ∈ urls, allowed url

/-- After `log`, at most so many different URLs have been asked for. Each has been asked for at
most twice, and again only when the latest request was for it and has been refused. -/
def Spared (refused : Url → List HttpRequest → Prop) (pages : ℕ) (log log' : List HttpRequest) :
    Prop :=
  ∃ new, log' = new ++ log ∧ (new.map (·.url)).toFinset.card ≤ pages ∧
    (∀ url, (new.filter (·.url = url)).length ≤ 2) ∧
    ∀ later request earlier, new = later ++ request :: earlier →
      request.url ∈ earlier.map (·.url) → refused request.url (earlier ++ log)

variable {refused : Url → List HttpRequest → Prop} {url : Url} {urls urls' : List Url}
  {pages others : ℕ} {allowed allowed' : Url → Prop} {log log' log'' : List HttpRequest}

theorem Fetches.append (h : Fetches refused urls log log') (h' : Fetches refused urls' log' log'') :
    Fetches refused (urls ++ urls') log log'' := by
  induction h with
  | nil log => exact h'
  | cons first rest ih => exact .cons first (ih h')

/-- The requests of one page name it, at most twice. -/
theorem Fetched.requests (h : Fetched refused url log log') :
    ∃ new, log' = new ++ log ∧ new.length ≤ 2 ∧ (∀ request ∈ new, request.url = url) ∧
      ∀ later request earlier, new = later ++ request :: earlier →
        earlier ≠ [] → refused url (earlier ++ log) := by
  cases h with
  | unasked => exact ⟨[], by simp⟩
  | once request hurl =>
    refine ⟨[request], rfl, by simp, by simpa using hurl, ?_⟩
    intro later other earlier hnew hearlier
    have hlength := congrArg List.length hnew
    simp only [List.length_append, List.length_cons, List.length_nil] at hlength
    exact absurd (List.eq_nil_of_length_eq_zero (by omega)) hearlier
  | twice first second hfirst hsecond hrefused =>
    refine ⟨[second, first], rfl, by simp, by simp [hfirst, hsecond], ?_⟩
    intro later other earlier hnew hearlier
    cases later with
    | nil =>
      obtain ⟨-, rfl⟩ := List.cons.inj hnew
      exact hrefused
    | cons last later =>
      have hlength := congrArg List.length hnew
      simp only [List.length_append, List.length_cons, List.length_nil] at hlength
      exact absurd (List.eq_nil_of_length_eq_zero (by omega)) hearlier

theorem Fetches.spared (h : Fetches refused urls log log') (hnodup : urls.Nodup) :
    ∃ new, log' = new ++ log ∧ (∀ request ∈ new, request.url ∈ urls) ∧
      (∀ url, (new.filter (·.url = url)).length ≤ 2) ∧
      ∀ later request earlier, new = later ++ request :: earlier →
        request.url ∈ earlier.map (·.url) → refused request.url (earlier ++ log) := by
  induction h with
  | nil log => exact ⟨[], by simp⟩
  | @cons url urls log log' log'' first rest ih =>
    obtain ⟨hfresh, hnodup⟩ := List.nodup_cons.mp hnodup
    obtain ⟨more, rfl, hmore, hcount, hagain⟩ := ih hnodup
    obtain ⟨few, rfl, hfew, hurl, hrefused⟩ := first.requests
    refine ⟨more ++ few, (List.append_assoc ..).symm, ?_, ?_, ?_⟩
    · intro request hrequest
      rcases List.mem_append.mp hrequest with hrequest | hrequest
      · exact List.mem_cons_of_mem _ (hmore request hrequest)
      · rw [hurl request hrequest]
        exact List.mem_cons_self
    · -- a page is among the later ones or the first one
      intro other
      rw [List.filter_append, List.length_append]
      by_cases hother : other = url
      · have hnone : more.filter (·.url = other) = [] := by
          refine List.filter_eq_nil_iff.mpr fun request hrequest => ?_
          intro hsame
          exact hfresh (hother ▸ of_decide_eq_true hsame ▸ hmore request hrequest)
        have hlength := List.length_filter_le (fun request => decide (request.url = other)) few
        rw [hnone, List.length_nil]
        omega
      · have hnone : few.filter (·.url = other) = [] := by
          refine List.filter_eq_nil_iff.mpr fun request hrequest => ?_
          intro hsame
          exact hother ((of_decide_eq_true hsame).symm.trans (hurl request hrequest))
        rw [hnone, List.length_nil]
        exact hcount other
    · intro later request earlier hnew hsame
      rcases List.append_eq_append_iff.mp hnew with ⟨middle, rfl, hrest⟩ | ⟨middle, hmiddle, hrest⟩
      · -- the request belongs to the first page
        have hmem : request ∈ few := by
          rw [hrest]
          exact List.mem_append_right _ List.mem_cons_self
        rw [hurl request hmem]
        refine hrefused middle request earlier hrest fun hnil => ?_
        simp [hnil] at hsame
      · cases middle with
        | nil =>
          have hmem : request ∈ few := by
            rw [← List.nil_append few, ← hrest]
            exact List.mem_cons_self
          rw [hurl request hmem]
          refine hrefused [] request earlier (by simpa using hrest.symm) fun hnil => ?_
          simp [hnil] at hsame
        | cons last middle =>
          obtain ⟨rfl, hbehind⟩ := List.cons.inj hrest
          obtain rfl : earlier = middle ++ few := hbehind
          rw [List.append_assoc]
          refine hagain later request middle hmiddle ?_
          rw [List.map_append] at hsame
          rcases List.mem_append.mp hsame with hsame | hsame
          · exact hsame
          · obtain ⟨other, hother, heq⟩ := List.mem_map.mp hsame
            have hmem : request ∈ more := by
              rw [hmiddle]
              exact List.mem_append_right _ List.mem_cons_self
            exact absurd (heq.symm.trans (hurl other hother) ▸ hmore request hmem) hfresh

theorem Asked.spared (h : Asked refused pages allowed log log') :
    Spared refused pages log log' := by
  obtain ⟨urls, hfetches, hnodup, hlength, -⟩ := h
  obtain ⟨new, hnew, hurls, hcount, hagain⟩ := hfetches.spared hnodup
  refine ⟨new, hnew, ?_, hcount, hagain⟩
  have hsubset : (new.map (·.url)).toFinset ⊆ urls.toFinset := by
    intro url hurl
    obtain ⟨request, hrequest, rfl⟩ := List.mem_map.mp (List.mem_toFinset.mp hurl)
    exact List.mem_toFinset.mpr (hurls request hrequest)
  exact (Finset.card_le_card hsubset).trans ((List.toFinset_card_le urls).trans hlength)

theorem Asked.refl : Asked refused pages allowed log log :=
  ⟨[], .nil log, List.nodup_nil, Nat.zero_le _, by simp⟩

theorem Fetched.asked (h : Fetched refused url log log') :
    Asked refused 1 (· = url) log log' :=
  ⟨[url], .cons h (.nil _), List.nodup_singleton _, le_rfl, by simp⟩

theorem Asked.trans (h : Asked refused pages allowed log log')
    (h' : Asked refused others allowed' log' log'') (hapart : ∀ url, allowed url → ¬allowed' url) :
    Asked refused (pages + others) (fun url => allowed url ∨ allowed' url) log log'' := by
  obtain ⟨urls, hfetches, hnodup, hlength, hallowed⟩ := h
  obtain ⟨urls', hfetches', hnodup', hlength', hallowed'⟩ := h'
  refine ⟨urls ++ urls', hfetches.append hfetches', ?_, ?_, ?_⟩
  · refine hnodup.append hnodup' fun url hurl hurl' => ?_
    exact hapart url (hallowed url hurl) (hallowed' url hurl')
  · rw [List.length_append]
    omega
  · intro url hurl
    exact (List.mem_append.mp hurl).imp (hallowed url) (hallowed' url)

theorem Asked.mono (h : Asked refused pages allowed log log') (hpages : pages ≤ others)
    (hallowed : ∀ url, allowed url → allowed' url) :
    Asked refused others allowed' log log' := by
  obtain ⟨urls, hfetches, hnodup, hlength, hurls⟩ := h
  exact ⟨urls, hfetches, hnodup, hlength.trans hpages, fun url hurl =>
    hallowed url (hurls url hurl)⟩

end Requests

theorem ends_ofExcept {α : Type} {x : Except CatalogError α} {log : List HttpRequest}
    {ok : α → List HttpRequest → Prop} {err : CatalogError → List HttpRequest → Prop} :
    Ends (ofExcept x) log ok err ↔
      (∀ a, x = .ok a → ok a log) ∧ ∀ error, x = .error error → err error log := by
  cases x with
  | ok a => simp [ofExcept]
  | error error => simp [ofExcept]

/-- Work that fetches at most so many pages, however it ends. -/
def Asks {α : Type} (refused : Url → List HttpRequest → Prop) (pages : ℕ) (allowed : Url → Prop)
    (ok : α → Prop) (x : Requesting α) : Prop :=
  ∀ log, Ends x log (fun a log' => ok a ∧ Asked refused pages allowed log log')
    fun _ => Asked refused pages allowed log

/-- Work that asks for at most so many pages, and for none more often than it has to. -/
def Spares {α : Type} (refused : Url → List HttpRequest → Prop) (pages : ℕ) (ok : α → Prop)
    (x : Requesting α) : Prop :=
  ∀ log, Ends x log (fun a log' => ok a ∧ Spared refused pages log log')
    fun _ => Spared refused pages log

section Pages

variable {α β γ : Type} {refused : Url → List HttpRequest → Prop} {url : Url} {pages others : ℕ}
  {allowed allowed' : Url → Prop}

/-- One request, unless there is no token for it; the answer is the server's. -/
theorem ends_authorizedGet (provider : CatalogProvider) (server : Server β) (url : Url)
    (log : List HttpRequest) : Ends (authorizedGet provider server url) log
      (fun response log' => ∃ request : HttpRequest, request.url = url ∧ log' = request :: log ∧
        server.execute log' = .ok response)
      fun _ log' => log' = log ∨ ∃ request : HttpRequest, request.url = url ∧
        log' = request :: log := by
  simp only [authorizedGet, ends_bind, ends_get, ends_set, ends_ofExcept]
  refine ⟨fun token _ => ⟨fun response hresponse => ?_, fun _ _ => .inr ⟨_, rfl, rfl⟩⟩,
    fun _ _ => .inl trivial⟩
  refine ⟨⟨url, "Bearer " ++ token⟩, rfl, rfl, ?_⟩
  cases hexecuted : server.execute (⟨url, "Bearer " ++ token⟩ :: log) with
  | ok found =>
    rw [hexecuted] at hresponse
    exact congrArg _ (Except.ok.inj hresponse)
  | error error =>
    rw [hexecuted] at hresponse
    contradiction

theorem Asks.spares {x : Requesting α} {ok : α → Prop} (h : Asks refused pages allowed ok x) :
    Spares refused pages ok x := by
  intro log
  exact (h log).imp (fun _ _ hasked => ⟨hasked.1, hasked.2.spared⟩) fun _ _ hasked => hasked.spared

theorem Asks.mono {x : Requesting α} {ok : α → Prop} (h : Asks refused pages allowed ok x)
    (hpages : pages ≤ others) (hallowed : ∀ url, allowed url → allowed' url) :
    Asks refused others allowed' ok x := by
  intro log
  exact (h log).imp (fun _ _ hasked => ⟨hasked.1, hasked.2.mono hpages hallowed⟩)
    fun _ _ hasked => hasked.mono hpages hallowed

theorem Asks.bind {x : Requesting α} {f : α → Requesting γ} {ok : α → Prop} {ok' : γ → Prop}
    (h : Asks refused pages allowed ok x) (hf : ∀ a, ok a → Asks refused others allowed' ok' (f a))
    (hapart : ∀ url, allowed url → ¬allowed' url) :
    Asks refused (pages + others) (fun url => allowed url ∨ allowed' url) ok' (x >>= f) := by
  intro log
  rw [ends_bind]
  refine (h log).imp (fun a log' hasked => ?_) fun _ _ hasked =>
    hasked.mono (Nat.le_add_right ..) fun _ => .inl
  exact (hf a hasked.1 log').imp (fun _ _ hafter => ⟨hafter.1, hasked.2.trans hafter.2 hapart⟩)
    fun _ _ hafter => hasked.2.trans hafter hapart

theorem asks_pure {ok : α → Prop} {a : α} (h : ok a) : Asks refused pages allowed ok (pure a) := by
  intro log
  rw [ends_pure]
  exact ⟨h, .refl⟩

theorem asks_throw {ok : α → Prop} (error : CatalogError) :
    Asks refused pages allowed ok (throw error : Requesting α) := by
  intro log
  rw [ends_throw]
  exact .refl

/-- What is computed without a request. -/
theorem asks_ofExcept_bind {x : Except CatalogError α} {f : α → Requesting γ} {ok : γ → Prop}
    (hf : ∀ a, x = .ok a → Asks refused pages allowed ok (f a)) :
    Asks refused pages allowed ok (ofExcept x >>= f) := by
  intro log
  rw [ends_bind, ends_ofExcept]
  exact ⟨fun a ha => hf a ha log, fun _ _ => .refl⟩

theorem Asks.bind_pure {x : Requesting α} {f : α → γ} {ok : α → Prop} {ok' : γ → Prop}
    (h : Asks refused pages allowed ok x) (hf : ∀ a, ok a → ok' (f a)) :
    Asks refused pages allowed ok' (x >>= fun a => pure (f a)) := by
  intro log
  simp only [ends_bind, ends_pure]
  exact (h log).imp (fun a _ hasked => ⟨hf a hasked.1, hasked.2⟩) fun _ _ hasked => hasked

end Pages

/-- As many items as asked for at most, each read or skipped. -/
def Within (limit : ℕ) (gathered : Gathered CatalogTrackMetadata) : Prop :=
  gathered.Counted ∧ gathered.processed ≤ limit

theorem within_empty (limit : ℕ) : Within limit .empty := ⟨Gathered.empty_counted, Nat.zero_le _⟩

theorem Within.absorb {α : Type} {limit : ℕ} {gathered : Gathered CatalogTrackMetadata}
    (h : Within limit gathered) (read : α → Option CatalogTrackMetadata) (page : List α) :
    Within limit (gathered.absorb read (page.take (limit - gathered.processed))) := by
  obtain ⟨hcounted, hlimit⟩ := h
  refine ⟨hcounted.absorb read _, ?_⟩
  rw [Gathered.processed_absorb, List.length_take]
  omega

namespace Spotify.SpotifyCatalog

variable (client : SpotifyCatalog)

/-- The latest request was for the URL, and the token of it was refused. -/
def Refused (url : Url) (log : List HttpRequest) : Prop :=
  ∃ request earlier response, log = request :: earlier ∧ request.url = url ∧
    client.server.execute log = .ok response ∧ response.status = 401

/-- A request that is refused is made a second time. -/
theorem asks_getJson {τ : Type} (read : Body → Option τ) (url : Url) :
    Asks client.Refused 1 (· = url) (fun _ => True) (client.getJson read url) := by
  intro log
  unfold getJson
  rw [ends_bind]
  refine (ends_authorizedGet .spotify client.server url log).imp ?_ ?_
  · rintro response _ ⟨request, hurl, rfl, hresponse⟩
    have honce : Asked client.Refused 1 (· = url) log (request :: log) :=
      (Fetched.once request hurl).asked
    by_cases hrefused : response.status = 401
    · rw [if_pos hrefused, ends_bind]
      have hlatest : client.Refused url (request :: log) :=
        ⟨request, log, response, rfl, hurl, hresponse, hrefused⟩
      refine (ends_authorizedGet .spotify client.server url (request :: log)).imp ?_ ?_
      · rintro _ _ ⟨again, hagain, rfl, -⟩
        have htwice : Asked client.Refused 1 (· = url) log (again :: request :: log) :=
          (Fetched.twice request again hurl hagain hlatest).asked
        rw [ends_ofExcept]
        exact ⟨fun _ _ => ⟨trivial, htwice⟩, fun _ _ => htwice⟩
      · rintro _ _ (rfl | ⟨again, hagain, rfl⟩)
        · exact honce
        · exact (Fetched.twice request again hurl hagain hlatest).asked
    · rw [if_neg hrefused, pure_bind, ends_ofExcept]
      exact ⟨fun _ _ => ⟨trivial, honce⟩, fun _ _ => honce⟩
  · rintro _ _ (rfl | ⟨request, hurl, rfl⟩)
    · exact Asked.refl
    · exact (Fetched.once request hurl).asked

/-- The URL of a further page of an album. -/
def pageUrl (id : String) (offset : ℕ) : Url :=
  client.apiUrl "albums" id (some "tracks") (some offset)

theorem pageUrl_injective (id : String) : Function.Injective (client.pageUrl id) := by
  intro offset offset' h
  have hquery := Option.some.inj (congrArg Url.query h)
  have hlist := congrArg String.toList hquery
  have hdigits : Nat.toDigits 10 offset = Nat.toDigits 10 offset' := by
    simpa [Url.appendPair, Url.https] using hlist
  calc offset = Nat.ofDigitChars 10 (Nat.toDigits 10 offset) 0 :=
        Nat.ofDigitChars_ten_toDigits.symm
    _ = Nat.ofDigitChars 10 (Nat.toDigits 10 offset') 0 := by rw [hdigits]
    _ = offset' := Nat.ofDigitChars_ten_toDigits

/-- The first page is no further page. -/
theorem pageUrl_ne (id : String) (offset : ℕ) :
    client.pageUrl id offset ≠ client.apiUrl "albums" id none none := by
  intro h
  have hlength := congrArg (fun url : Url => url.path.length) h
  simp [pageUrl, apiUrl, Url.appendPair, Url.https, String.length_append] at hlength

/-- Every further page comes after an item, and below the limit. -/
theorem asks_albumPages (id title : String) (limit : ℕ) (page : Page)
    (gathered : Gathered CatalogTrackMetadata) (h : Within limit gathered) :
    Asks client.Refused (limit - gathered.processed - 1)
      (fun url => ∃ offset, gathered.processed < offset ∧ url = client.pageUrl id offset)
      (fun read => Within limit read.1) (client.albumPages id title limit page gathered) := by
  induction page, gathered using albumPages.induct title limit with
  | case1 page gathered hadNext remaining gathered' hends =>
    rw [albumPages, if_pos hends]
    exact asks_pure (h.absorb _ page.items)
  | case2 page gathered hadNext pageLength remaining gathered' hends hlength =>
    rw [albumPages, if_neg hends, if_pos hlength]
    exact asks_throw _
  | case3 page gathered hadNext pageLength remaining gathered' hends hlength ih =>
    rw [albumPages, if_neg hends, if_neg hlength]
    have hwithin : Within limit gathered' := h.absorb _ page.items
    have hprocessed : gathered'.processed = gathered.processed + min remaining pageLength := by
      simp [gathered', pageLength]
    have hfurther := (client.asks_getJson Body.page (client.pageUrl id gathered'.processed)).bind
      (fun page _ => ih page hwithin) ?_
    · refine hfurther.mono (by omega) ?_
      rintro url (rfl | ⟨offset, hoffset, rfl⟩)
      · exact ⟨gathered'.processed, by omega, rfl⟩
      · exact ⟨offset, by omega, rfl⟩
    · rintro url rfl ⟨offset, hoffset, hsame⟩
      exact hoffset.ne (client.pageUrl_injective id hsame)

/-- An album takes at most as many pages as items, and one if there are none. -/
theorem spares_resolveAlbum (reference : CatalogReference) (limit : ℕ) :
    Spares client.Refused (max 1 limit)
      (fun collection => collection.tracks.length + collection.skippedItemCount ≤ limit)
      (client.resolveAlbum reference limit) := by
  have hfirst : 1 + (limit - 1) = max 1 limit := by omega
  rw [← hfirst]
  refine ((client.asks_getJson Body.album _).bind (?_ : ∀ album, True →
    Asks client.Refused (limit - 1) (fun url => ∃ offset, url = client.pageUrl reference.id offset)
      (fun collection : CatalogCollection =>
        collection.tracks.length + collection.skippedItemCount ≤ limit) _) ?_).spares
  · rintro album -
    cases cleanText album.name 512 with
    | none => exact asks_throw _
    | some title =>
      refine ((client.asks_albumPages reference.id title limit album.tracks .empty
        (within_empty limit)).bind_pure fun read hread => ?_).mono le_rfl ?_
      · obtain ⟨hcounted, hlimit⟩ := hread
        exact hcounted.trans_le hlimit
      · rintro url ⟨offset, -, rfl⟩
        exact ⟨offset, rfl⟩
  · rintro url rfl ⟨offset, hsame⟩
    exact client.pageUrl_ne reference.id offset hsame.symm

end Spotify.SpotifyCatalog

namespace AppleMusic.AppleMusicCatalog

variable (client : AppleMusicCatalog)

/-- No request is repeated. -/
theorem asks_getJson {τ : Type} (read : Body → Option τ) (url : Url) :
    Asks (fun _ _ => False) 1 (· = url) (fun _ => True) (client.getJson read url) := by
  intro log
  unfold getJson
  rw [ends_bind]
  refine (ends_authorizedGet .appleMusic client.server url log).imp ?_ ?_
  · rintro response _ ⟨request, hurl, rfl, -⟩
    rw [ends_ofExcept]
    have honce : Asked (fun _ _ => False) 1 (· = url) log (request :: log) :=
      (Fetched.once request hurl).asked
    exact ⟨fun _ _ => ⟨trivial, honce⟩, fun _ _ => honce⟩
  · rintro _ _ (rfl | ⟨request, hurl, rfl⟩)
    · exact Asked.refl
    · exact (Fetched.once request hurl).asked

/-- A link leads to another page of the same relationship. -/
theorem path_of_nextUrl {storefront expectedPath : String} {page : Response Resource} {url : Url}
    (h : client.nextUrl storefront expectedPath page = .ok (some url)) :
    url.path = expectedPath := by
  unfold nextUrl at h
  cases hnext : page.next with
  | none => simp [hnext] at h
  | some value =>
    simp only [hnext] at h
    unfold validatedNextUrl at h
    split at h
    · contradiction
    · cases hjoined : client.join API_BASE value with
      | none => simp [hjoined, invalid, Except.map] at h
      | some joined =>
        simp only [hjoined] at h
        split at h
        · contradiction
        · rename_i hvalid
          obtain rfl := Option.some.inj (Except.ok.inj h)
          by_contra hpath
          simp [hpath] at hvalid

/-- Every page but the last brings an item, and no page comes after one without a link. -/
theorem asks_trackPages (storefront expectedPath : String) (limit : ℕ) (s : PageLoop)
    (h : Within limit s.gathered) (hpath : ∀ url ∈ s.pending, url.path = expectedPath) :
    Asks (fun _ _ => False) (if s.pending.isSome then limit - s.gathered.processed else 0)
      (fun url => url.path = expectedPath ∧ url.asStr ∉ s.seen)
      (fun s' => Within limit s'.gathered)
      (client.trackPages storefront expectedPath limit s) := by
  induction s using trackPages.induct client storefront limit with
  | case1 s hlimit =>
    rw [trackPages_reached hlimit]
    exact asks_pure h
  | case2 s hlimit hpending =>
    rw [trackPages_none hpending]
    exact asks_pure h
  | case3 s hlimit url hpending hseen =>
    rw [trackPages_some hlimit hpending, if_pos hseen]
    exact asks_throw _
  | case4 s hlimit url hpending hseen ih =>
    rw [trackPages_some hlimit hpending, if_neg hseen]
    have hfurther (page : Response Resource) :
        Asks (fun _ _ => False) (limit - s.gathered.processed - 1)
        (fun other => other.path = expectedPath ∧ other.asStr ∉ url.asStr :: s.seen)
        (fun s' => Within limit s'.gathered) (do
          let next ← ofExcept (client.nextUrl storefront expectedPath page)
          if page.data.length = 0 ∧ next.isSome = true then throw (.invalidResponse .appleMusic)
          else
            client.trackPages storefront expectedPath limit
              (PageLoop.absorb client storefront limit url page next s)) := by
      refine asks_ofExcept_bind fun next hnext => ?_
      by_cases hempty : page.data.length = 0 ∧ next.isSome = true
      · rw [if_pos hempty]
        exact asks_throw _
      · rw [if_neg hempty]
        have hnextPath : ∀ other ∈ next, other.path = expectedPath := by
          rintro other rfl
          exact client.path_of_nextUrl hnext
        refine (ih page next hempty (h.absorb _ page.data) hnextPath).mono ?_ fun _ hother => hother
        rw [processed_absorb]
        cases next with
        | none => simp [PageLoop.absorb]
        | some next =>
          have hlength : page.data.length ≠ 0 := fun hzero => hempty ⟨hzero, rfl⟩
          simp only [PageLoop.absorb, Option.isSome_some, if_true]
          omega
    refine ((client.asks_getJson Body.songs url).bind (fun page _ => hfurther page) ?_).mono ?_ ?_
    · rintro other rfl ⟨-, hother⟩
      exact hother List.mem_cons_self
    · simp only [hpending, Option.isSome_some, if_true]
      omega
    · rintro other (rfl | ⟨hother, hunseen⟩)
      · exact ⟨hpath other hpending, hseen⟩
      · exact ⟨hother, fun hmem => hunseen (List.mem_cons_of_mem _ hmem)⟩

/-- The pages of a relationship are at most as many as items asked for. -/
theorem asks_resolveTrackPages (tracksUrl : Url) (storefront : String) (limit : ℕ) :
    Asks (fun _ _ => False) limit (fun url => url.path = tracksUrl.path)
      (fun s => Within limit s.gathered)
      (client.resolveTrackPages tracksUrl storefront limit) := by
  refine (client.asks_trackPages storefront _ limit _ (within_empty limit) ?_).mono le_rfl
    fun url hurl => hurl.1
  rintro url ⟨⟩
  rfl

/-- The resource itself is not among the pages of its relationship. -/
theorem resourceUrl_path_ne (storefront resource id : String) :
    (resourceUrl storefront resource id none).path ≠
      (resourceUrl storefront resource id (some "tracks")).path := by
  intro h
  have hlength := congrArg String.length h
  simp [resourceUrl, Url.https, String.length_append] at hlength

/-- A resource, and then the pages of its tracks. -/
theorem spares_collection {τ : Type} (reference : CatalogReference) (kind : String) (limit : ℕ)
    (read : Body → Option τ) (finish : String → τ → Requesting CatalogCollection)
    (hfinish : ∀ storefront resource, Asks (fun _ _ => False) limit
      (fun url => url.path = (resourceUrl storefront kind reference.id (some "tracks")).path)
      (fun collection => collection.tracks.length + collection.skippedItemCount ≤ limit)
      (finish storefront resource)) :
    Spares (fun _ _ => False) (limit + 1)
      (fun collection => collection.tracks.length + collection.skippedItemCount ≤ limit) (do
        let storefront ← ofExcept (storefront reference)
        let resource ← client.getJson read (resourceUrl storefront kind reference.id none)
        finish storefront resource) := by
  have hasks : Asks (fun _ _ => False) (limit + 1) (fun _ => True)
      (fun collection => collection.tracks.length + collection.skippedItemCount ≤ limit) (do
        let storefront ← ofExcept (storefront reference)
        let resource ← client.getJson read (resourceUrl storefront kind reference.id none)
        finish storefront resource) := by
    refine asks_ofExcept_bind fun storefront _ => ?_
    refine ((client.asks_getJson read _).bind (fun resource _ => hfinish storefront resource)
      ?_).mono (by omega) fun _ _ => trivial
    rintro url rfl
    exact resourceUrl_path_ne storefront kind reference.id
  exact hasks.spares

theorem spares_resolveAlbum (reference : CatalogReference) (limit : ℕ) :
    Spares (fun _ _ => False) (limit + 1)
      (fun collection => collection.tracks.length + collection.skippedItemCount ≤ limit)
      (client.resolveAlbum reference limit) := by
  refine client.spares_collection reference "albums" limit Body.album _
    fun storefront response => ?_
  dsimp only
  split
  · exact asks_throw _
  · refine (client.asks_resolveTrackPages _ storefront limit).bind_pure fun s hs => ?_
    obtain ⟨hcounted, hlimit⟩ := hs
    exact hcounted.trans_le hlimit

theorem spares_resolvePlaylist (reference : CatalogReference) (limit : ℕ) :
    Spares (fun _ _ => False) (limit + 1)
      (fun collection => collection.tracks.length + collection.skippedItemCount ≤ limit)
      (client.resolvePlaylist reference limit) := by
  refine client.spares_collection reference "playlists" limit Body.playlist _
    fun storefront response => ?_
  split
  · exact asks_throw _
  · split
    · exact asks_throw _
    · refine (client.asks_resolveTrackPages _ storefront limit).bind_pure fun s hs => ?_
      obtain ⟨hcounted, hlimit⟩ := hs
      exact hcounted.trans_le hlimit

end AppleMusic.AppleMusicCatalog

end Catalog

end PepeAudio
