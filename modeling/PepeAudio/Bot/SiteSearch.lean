import PepeAudio.Bot.TrackMetadata

/-!
# The search for a catalog track

The title and the artists of a catalog track are cut to the sizes that a search of
a site takes. A text that is not blank stays so, since what is cut off is its end.
-/
namespace PepeAudio

namespace Site

def SITE_SEARCH_TEXT_BYTES : ℕ := 200
def SITE_SEARCH_ARTISTS : ℕ := 16

/-- The characters of a text that fit, without control characters and blank ends. -/
def boundedText (value : String) (maximumBytes : ℕ) : String :=
  trim (String.ofList (TrackMetadata.prefixWithin (value.toList.filter (!isControl ·))
    maximumBytes))

def appendQueryComponent (query value : String) (maximumBytes : ℕ) : String :=
  let separatorBytes := if query = "" then 0 else 1
  if maximumBytes ≤ query.utf8ByteSize + separatorBytes then query
  else
    let component := boundedText value (maximumBytes - query.utf8ByteSize - separatorBytes)
    if component = "" then query
    else (if query = "" then "" else query ++ " ") ++ component

/-- The loop over the artists, which stops when the query is full. -/
def appendArtists (query : String) : List String → String
  | [] => query
  | artist :: artists =>
    if query.utf8ByteSize = 256 then query
    else appendArtists (appendQueryComponent query artist 256) artists

def textQuery (title : String) (artists : List String) : String :=
  appendArtists (appendQueryComponent "" title 256) artists

def boundedArtists (artists : List String) : List String :=
  ((artists.take SITE_SEARCH_ARTISTS).map (boundedText · SITE_SEARCH_TEXT_BYTES)).filter (· ≠ "")

def mapSiteError : SiteError → ResolveError
  | .unsupportedStream => .unsupportedStream
  | .noSearchMatch => .noSearchMatch
  | .durationLimit => .trackLimitExceeded
  | .invalidUrl => .unsupportedUrl
  | .invalidMetadata | .unsafeHeader | .invalidSearch => .failed "site media resolution failed"

def siteSearch (track : CatalogTrackMetadata) : Except ResolveError SiteSearch :=
  (SiteSearch.new (textQuery track.title track.artists)
    (boundedText track.title SITE_SEARCH_TEXT_BYTES) (boundedArtists track.artists)
    track.durationMs track.isrc).mapError mapSiteError

theorem trimChars_ne_nil {cs : List Char} :
    trimChars cs ≠ [] ↔ ∃ c ∈ cs, isWhitespace c = false := by
  constructor
  · intro hne
    by_contra hall
    push Not at hall
    have hdrop : cs.dropWhile isWhitespace = [] :=
      List.dropWhile_eq_nil_iff.mpr fun c hc => by simpa using hall c hc
    exact hne (by rw [trimChars, hdrop]; rfl)
  · rintro ⟨c, hc, hvisible⟩ hnil
    unfold trimChars at hnil
    have hall := List.rdropWhile_eq_nil_iff.mp hnil
    have hsplit : c ∈ cs.takeWhile isWhitespace ++ cs.dropWhile isWhitespace := by
      rw [List.takeWhile_append_dropWhile]
      exact hc
    rcases List.mem_append.mp hsplit with hmem | hmem
    · rw [List.mem_takeWhile_imp hmem] at hvisible
      contradiction
    · rw [hall c hmem] at hvisible
      contradiction

/-- A text of which something is left when its ends are trimmed. -/
theorem trim_isEmpty {value : String} :
    (trim value).isEmpty = false ↔ ∃ c ∈ value.toList, isWhitespace c = false := by
  rw [← trimChars_ne_nil, trim, ← Bool.not_eq_true, String.isEmpty_iff]
  simp

theorem validateText_iff {value : String} {maximumBytes : ℕ} :
    validateText value maximumBytes = true ↔ (∃ c ∈ value.toList, isWhitespace c = false) ∧
      value.utf8ByteSize ≤ maximumBytes ∧ ∀ c ∈ value.toList, isControl c = false := by
  rw [← trim_isEmpty]
  simp [validateText, and_assoc]

theorem byteSize_le_of_sublist {cs ds : List Char} (h : cs.Sublist ds) :
    Url.byteSize cs ≤ Url.byteSize ds := by
  induction h with
  | slnil => exact Nat.le_refl _
  | cons d _ ih =>
    simp only [Url.byteSize, List.map_cons, List.sum_cons] at ih ⊢
    omega
  | cons_cons c _ ih =>
    simp only [Url.byteSize, List.map_cons, List.sum_cons] at ih ⊢
    omega

theorem trim_sublist (value : String) : (trim value).toList.Sublist value.toList := by
  rw [trim, String.toList_ofList, trimChars]
  exact (List.rdropWhile_prefix _ _).sublist.trans (List.dropWhile_sublist _)

/-- Cut and trimmed, a text is within its bound and shows no control character. -/
theorem boundedText_bounds (value : String) (maximumBytes : ℕ) :
    (boundedText value maximumBytes).utf8ByteSize ≤ maximumBytes ∧
      ∀ c ∈ (boundedText value maximumBytes).toList, isControl c = false := by
  have hsub := trim_sublist (String.ofList
    (TrackMetadata.prefixWithin (value.toList.filter (!isControl ·)) maximumBytes))
  rw [String.toList_ofList] at hsub
  unfold boundedText
  constructor
  · rw [← Url.byteSize_toList]
    exact (byteSize_le_of_sublist hsub).trans (TrackMetadata.byteSize_prefixWithin_le _ _)
  · intro c hc
    have hmem := (TrackMetadata.prefixWithin_prefix _ _).subset (hsub.subset hc)
    simpa using (List.mem_filter.mp hmem).2

/-- A text that is left over is not blank. -/
theorem visible_boundedText {value : String} {maximumBytes : ℕ}
    (h : boundedText value maximumBytes ≠ "") :
    ∃ c ∈ (boundedText value maximumBytes).toList, isWhitespace c = false := by
  rw [← trim_isEmpty]
  unfold boundedText at h ⊢
  rw [trim_trim, ← Bool.not_eq_true, String.isEmpty_iff]
  exact h

theorem validateText_boundedText {value : String} {maximumBytes : ℕ}
    (h : boundedText value maximumBytes ≠ "") :
    validateText (boundedText value maximumBytes) maximumBytes = true :=
  validateText_iff.mpr ⟨visible_boundedText h, boundedText_bounds value maximumBytes⟩

/-- A cleaned text begins with a visible character. -/
theorem cleanText_head {name title : String} {maximumBytes : ℕ}
    (h : Catalog.cleanText name maximumBytes = some title) :
    ∃ first rest, title.toList = first :: rest ∧ isWhitespace first = false ∧
      ∀ c ∈ title.toList, isControl c = false := by
  unfold Catalog.cleanText at h
  dsimp only at h
  split_ifs at h with hclean
  obtain rfl := Option.some.inj h
  obtain ⟨hne, -, hcontrol⟩ := hclean
  have hlist : (trim name).toList = trimChars name.toList := String.toList_ofList
  obtain ⟨first, rest, hcons⟩ : ∃ first rest, (trim name).toList = first :: rest :=
    List.exists_cons_of_ne_nil (by simpa using hne)
  refine ⟨first, rest, hcons, ?_, fun c hc => by
    simpa using List.any_eq_false.mp hcontrol c hc⟩
  have hdrop : (trim name).toList.dropWhile isWhitespace = (trim name).toList := by
    rw [hlist]
    exact dropWhile_rdropWhile_dropWhile isWhitespace name.toList
  rw [hcons, List.dropWhile_cons] at hdrop
  cases hfirst : isWhitespace first with
  | false => rfl
  | true =>
    rw [hfirst, if_pos rfl] at hdrop
    have hlength := congrArg List.length hdrop
    have hle := (List.dropWhile_sublist isWhitespace (l := rest)).length_le
    rw [List.length_cons] at hlength
    omega

/-- Its beginning is kept as long as one character fits. -/
theorem boundedText_ne_empty {name title : String} {nameBytes maximumBytes : ℕ}
    (h : Catalog.cleanText name nameBytes = some title) (hbytes : 4 ≤ maximumBytes) :
    boundedText title maximumBytes ≠ "" := by
  obtain ⟨first, rest, hcons, hvisible, hcontrol⟩ := cleanText_head h
  have hfilter : title.toList.filter (!isControl ·) = title.toList :=
    List.filter_eq_self.mpr fun c hc => by simp [hcontrol c hc]
  have hfits : first.utf8Size ≤ maximumBytes := first.utf8Size_le_four.trans hbytes
  have hmem : ∃ c ∈ (String.ofList (TrackMetadata.prefixWithin
      (title.toList.filter (!isControl ·)) maximumBytes)).toList, isWhitespace c = false := by
    rw [hfilter, hcons, TrackMetadata.prefixWithin, if_pos hfits, String.toList_ofList]
    exact ⟨first, List.mem_cons_self, hvisible⟩
  have hempty := trim_isEmpty.mpr hmem
  unfold boundedText
  intro heq
  rw [heq] at hempty
  contradiction

/-- Another component keeps a query valid. -/
theorem validateText_append {query value : String} (h : validateText query 256 = true) :
    validateText (appendQueryComponent query value 256) 256 = true := by
  obtain ⟨hvisible, hsize, hcontrol⟩ := validateText_iff.mp h
  have hne : query ≠ "" := by
    rintro rfl
    obtain ⟨c, hc, -⟩ := hvisible
    simp at hc
  unfold appendQueryComponent
  dsimp only
  rw [if_neg hne, if_neg hne]
  split_ifs with hfull hnothing
  · exact h
  · exact h
  · obtain ⟨hbytes, hplain⟩ := boundedText_bounds value (256 - query.utf8ByteSize - 1)
    have hspace : " ".utf8ByteSize = 1 := rfl
    refine validateText_iff.mpr ⟨?_, ?_, ?_⟩
    · obtain ⟨c, hc, hc'⟩ := hvisible
      exact ⟨c, by simp [hc], hc'⟩
    · rw [String.utf8ByteSize_append, String.utf8ByteSize_append]
      omega
    · intro c hc
      rw [String.toList_append, String.toList_append, List.mem_append, List.mem_append] at hc
      rcases hc with (hc | hc) | hc
      · exact hcontrol c hc
      · obtain rfl : c = ' ' := by simpa using hc
        decide
      · exact hplain c hc

theorem validateText_appendArtists {artists : List String} {query : String}
    (h : validateText query 256 = true) :
    validateText (appendArtists query artists) 256 = true := by
  induction artists generalizing query with
  | nil => exact h
  | cons artist artists ih =>
    unfold appendArtists
    split_ifs
    · exact h
    · exact ih (validateText_append h)

theorem validIsrc_normalizeIsrc {value code : String}
    (h : Catalog.normalizeIsrc value = some code) : validIsrc code = true := by
  unfold Catalog.normalizeIsrc at h
  dsimp only at h
  split_ifs at h with hshape
  obtain rfl := Option.some.inj h
  have hsize := utf8ByteSize_of_all (by rw [String.toList_ofList]; exact hshape.2)
    fun _ => isAlphanum_lt
  rw [validIsrc, hsize, String.toList_ofList, hshape.1, hshape.2]
  rfl

/-- The search for a usable track is accepted. -/
theorem siteSearch_usable {track : CatalogTrackMetadata} (h : Catalog.Usable track) :
    ∃ search, siteSearch track = .ok search := by
  obtain ⟨name, htitle⟩ := h.title
  have hquery : validateText (textQuery track.title track.artists) 256 = true := by
    refine validateText_appendArtists ?_
    have hne : boundedText track.title 256 ≠ "" := boundedText_ne_empty htitle (by decide)
    have hfirst : appendQueryComponent "" track.title 256 = boundedText track.title 256 := by
      simp [appendQueryComponent, hne]
    rw [hfirst]
    exact validateText_boundedText hne
  have hexpected : validateText (boundedText track.title SITE_SEARCH_TEXT_BYTES) 200 = true :=
    validateText_boundedText (boundedText_ne_empty htitle (by decide))
  have hcount : (boundedArtists track.artists).length ≤ 16 :=
    (List.length_filter_le _ _).trans (by
      rw [List.length_map]
      exact List.length_take_le _ _)
  have hartists : ∀ artist ∈ boundedArtists track.artists, validateText artist 200 = true := by
    intro artist hmem
    obtain ⟨hmapped, hne⟩ := List.mem_filter.mp hmem
    obtain ⟨value, -, rfl⟩ := List.mem_map.mp hmapped
    exact validateText_boundedText (by simpa using hne)
  have hisrc : ∀ code ∈ track.isrc, validIsrc code = true := fun code hcode =>
    (h.isrc code hcode).elim fun _ => validIsrc_normalizeIsrc
  unfold siteSearch SiteSearch.new
  rw [if_neg]
  · exact ⟨_, rfl⟩
  · simp only [Bool.or_eq_true, Bool.not_eq_true', decide_eq_true_eq, List.any_eq_true, not_or,
      Option.any_eq_true]
    refine ⟨⟨⟨⟨by simp [hquery], by simp [hexpected]⟩, Nat.not_lt.mpr hcount⟩, ?_⟩, ?_⟩
    · rintro ⟨artist, hmem, hbad⟩
      simp [hartists artist hmem] at hbad
    · rintro ⟨code, hmem, hbad⟩
      simp [hisrc code hmem] at hbad

end Site

end PepeAudio
