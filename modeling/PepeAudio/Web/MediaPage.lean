import PepeAudio.Core.WireFormat
import PepeAudio.Lib.JsValue

/-!
# Public media pages in the browser

The dashboard checks a page with expressions of its own before it shows it.
Whatever the server accepts matches them; the size is checked on the text that
was sent, which is the stored URL.
-/
namespace PepeAudio

namespace Client

open JsValue

/-- The fields of an object; anything else is refused with the module's message. -/
def record (message : String) : Option JsValue → Except String (List (String × JsValue))
  | some (.object fields) => .ok fields
  | _ => .error message

def need (message : String) (holds : Bool) : Except String Unit :=
  if holds then .ok () else .error message

/-- The text itself when it is one of bounded size without control characters. -/
def boundedUtf8Text (value : Option JsValue) (limit : ℕ) : Option String :=
  match value with
  | some (.string text) =>
    if 0 < utf16Length text ∧ text.utf8ByteSize ≤ limit ∧ ¬text.toList.any isControl then some text
    else none
  | _ => none

def invalidPage : String := "Public media page is invalid"

def mediaProvider : Option JsValue → Option MediaProvider
  | some (.string "spotify") => some .spotify
  | some (.string "apple_music") => some .appleMusic
  | some (.string "youtube") => some .youTube
  | some (.string "soundcloud") => some .soundCloud
  | _ => none

/-- `URL.search`, which is empty for an empty query. -/
def hasSearch (url : Url) : Bool := url.query.any (· ≠ "")

/-- The class `[A-Za-z0-9_-]`. -/
def isYoutubeIdChar (c : Char) : Bool := c.isAlphanum || c == '_' || c == '-'

/-- An expression that ends in `\/?`, of which the rest does not match a final slash. -/
def optionalSlash (expression : List Char → Bool) (path : String) : Bool :=
  expression path.toList || (path.toList.getLast? = some '/' && expression path.toList.dropLast)

def oneSearchParameter (library : UrlLibrary) (url : Url) (name : String)
    (pattern : String → Bool) : Bool :=
  (library.pairs url).length = 1 &&
    match (library.pairs url).filter fun pair => pair.1 = name with
    | [(_, value)] => pattern value
    | _ => false

def canonicalPathSegments (url : Url) : Option (List String) :=
  let parts := ((url.path.toList.drop 1).splitOn '/').map String.ofList
  let parts := if parts.getLast? = some "" then parts.dropLast else parts
  if parts ≠ [] ∧ parts.all (· ≠ "") then some parts else none

/-- `/^[a-z]{2}$/` -/
def isStorefront (value : String) : Bool :=
  value.toList.length = 2 && value.toList.all Char.isLower

/-- `/^[0-9]{1,20}$/` -/
def isNumericId (value : String) : Bool :=
  1 ≤ value.toList.length && value.toList.length ≤ 20 && value.toList.all Char.isDigit

def appleSlug (value : String) : Bool :=
  value ≠ "." && value ≠ ".." && value ≠ "" && value.toList.all isAsciiGraphic &&
    value.utf8ByteSize ≤ 512

def appleMusicPageMatches (library : UrlLibrary) (url : Url) : Bool :=
  match canonicalPathSegments url with
  | some [storefront, kind, slug, id] =>
    url.host = some "music.apple.com" && isStorefront storefront && appleSlug slug &&
      isNumericId id &&
        if kind = "song" then !hasSearch url
        else kind = "album" && oneSearchParameter library url "i" isNumericId
  | _ => false

/-- `/^\/track\/[A-Za-z0-9]{22}\/?$/` -/
def spotifyPath : List Char → Bool
  | '/' :: 't' :: 'r' :: 'a' :: 'c' :: 'k' :: '/' :: id => id.length = 22 && id.all Char.isAlphanum
  | _ => false

/-- `/^\/[A-Za-z0-9_-]{11}\/?$/` -/
def shortPath : List Char → Bool
  | '/' :: id => id.length = 11 && id.all isYoutubeIdChar
  | _ => false

/-- `/^\/[^/]+\/[^/]+\/?$/` -/
def twoSegmentPath : List Char → Bool
  | '/' :: rest =>
    match rest.splitOn '/' with
    | [first, second] => first ≠ [] && second ≠ []
    | _ => false
  | _ => false

def providerPageMatches (library : UrlLibrary) (provider : MediaProvider) (url : Url) : Bool :=
  match provider with
  | .spotify =>
    url.host = some "open.spotify.com" && !hasSearch url && optionalSlash spotifyPath url.path
  | .appleMusic => appleMusicPageMatches library url
  | .youTube =>
    let watch := (url.host = some "youtube.com" || url.host = some "www.youtube.com") &&
      url.path = "/watch" && oneSearchParameter library url "v" fun value =>
        value.toList.length = 11 && value.toList.all isYoutubeIdChar
    let short := url.host = some "youtu.be" && !hasSearch url && optionalSlash shortPath url.path
    watch || short
  | .soundCloud =>
    (url.host = some "soundcloud.com" || url.host = some "www.soundcloud.com" ||
      url.host = some "m.soundcloud.com") && !hasSearch url &&
        optionalSlash twoSegmentPath url.path

def parsePublicMediaPage (library : UrlLibrary) (value : Option JsValue) :
    Except String PublicMediaPage := do
  let candidate ← record invalidPage value
  match mediaProvider (property "provider" candidate),
      boundedUtf8Text (property "url" candidate) 2048 with
  | some provider, some text =>
    match library.parse text with
    | none => .error invalidPage
    | some url =>
      need invalidPage (url.scheme = "https" && url.port.isNone && url.username = "" &&
        !url.password.any (· ≠ "") && !url.fragment.any (· ≠ "") &&
          providerPageMatches library provider url)
      return ⟨provider, url.asStr⟩
  | _, _ => .error invalidPage

theorem hasSearch_of_isNone {url : Url} (h : url.query.isNone = true) : hasSearch url = false := by
  rw [Option.isNone_iff_eq_none] at h
  simp [hasSearch, h]

theorem isYoutubeIdChar_lt {c : Char} (h : isYoutubeIdChar c = true) : c.toNat < 0x80 := by
  have hcases : (c.isAlphanum = true ∨ c = '_') ∨ c = '-' := by simpa [isYoutubeIdChar] using h
  rcases hcases with (halnum | rfl) | rfl
  · exact isAlphanum_lt halnum
  · decide
  · decide

theorem validSpotifyId_length {value : String} (h : validSpotifyId value = true) :
    value.toList.length = 22 ∧ value.toList.all Char.isAlphanum = true := by
  simp only [validSpotifyId, Bool.and_eq_true, decide_eq_true_eq] at h
  exact ⟨utf8ByteSize_of_all h.2 (fun _ => isAlphanum_lt) ▸ h.1, h.2⟩

theorem validYoutubeId_length {value : String} (h : validYoutubeId value = true) :
    value.toList.length = 11 ∧ value.toList.all isYoutubeIdChar = true := by
  simp only [validYoutubeId, Bool.and_eq_true, decide_eq_true_eq] at h
  exact ⟨utf8ByteSize_of_all h.2 (fun _ => isYoutubeIdChar_lt) ▸ h.1, h.2⟩

theorem isStorefront_of_valid {value : String} (h : validStorefront value = true) :
    isStorefront value = true := by
  simp only [validStorefront, Bool.and_eq_true, decide_eq_true_eq] at h
  have hlower : ∀ c : Char, c.isLower = true → c.toNat < 0x80 := fun c hc =>
    isAlphanum_lt (isAlphanum_of_isLower hc)
  simp only [isStorefront, ← utf8ByteSize_of_all h.2 hlower, h.1, h.2, decide_true, Bool.and_true]

theorem isNumericId_of_valid {value : String} (h : validNumericId value = true) :
    isNumericId value = true := by
  simp only [validNumericId, Bool.and_eq_true, decide_eq_true_eq] at h
  have hdigit : ∀ c : Char, c.isDigit = true → c.toNat < 0x80 := fun c hc =>
    isAlphanum_lt (by simp [Char.isAlphanum, hc])
  have hlength := utf8ByteSize_of_all h.2 hdigit
  have hpos : 1 ≤ value.toList.length := by
    rw [Nat.one_le_iff_ne_zero, ne_eq, List.length_eq_zero_iff, String.toList_eq_nil_iff]
    exact h.1.1
  simp only [isNumericId, Bool.and_eq_true, decide_eq_true_eq]
  exact ⟨⟨hpos, hlength ▸ h.1.2⟩, h.2⟩

theorem appleSlug_of_valid {value : String} (h : validAppleSlug value = true) :
    appleSlug value = true := by
  simp only [validAppleSlug, MAX_APPLE_SLUG_BYTES, Bool.and_eq_true, decide_eq_true_eq] at h
  simp only [appleSlug, Bool.and_eq_true, decide_eq_true_eq]
  obtain ⟨⟨⟨⟨hne, hsize⟩, hdot⟩, hdots⟩, hgraphic⟩ := h
  exact ⟨⟨⟨⟨hdot, hdots⟩, hne⟩, hgraphic⟩, of_decide_eq_true hsize⟩

theorem canonicalPathSegments_eq {url : Url} {parts : List String}
    (h : segments url = some parts) : canonicalPathSegments url = some parts := by
  rw [← h]
  unfold segments Url.pathSegments
  cases hpath : url.path.toList with
  | nil => simp [segments, Url.pathSegments, hpath] at h
  | cons c rest =>
    by_cases hslash : c = '/'
    · subst hslash
      simp [canonicalPathSegments, hpath]
    · simp [segments, Url.pathSegments, hpath, hslash] at h

theorem oneSearchParameter_of_oneQueryValue {library : UrlLibrary} {url : Url} {name value : String}
    (h : oneQueryValue library url name = some value) {pattern : String → Bool}
    (hpattern : pattern value = true) : oneSearchParameter library url name pattern = true := by
  unfold oneQueryValue at h
  split at h
  · rename_i found foundValue hpairs
    split at h
    · rename_i hname
      cases h
      simp [oneSearchParameter, hpairs, hname, hpattern]
    · contradiction
  · contradiction

/-- A path with or without a final slash. -/
theorem optionalSlash_of {expression : List Char → Bool} {path : String} {body : List Char}
    (hbody : expression body = true)
    (h : path.toList = body ∨ path.toList = body ++ ['/']) :
    optionalSlash expression path = true := by
  rcases h with h | h
  · simp [optionalSlash, h, hbody]
  · simp [optionalSlash, h, hbody]

theorem intercalate_append_nil {parts : List (List Char)} (hne : parts ≠ []) :
    ['/'].intercalate (parts ++ [[]]) = ['/'].intercalate parts ++ ['/'] := by
  induction parts with
  | nil => contradiction
  | cons part parts ih =>
    cases parts with
    | nil => simp
    | cons next parts =>
      have htail := ih (by simp)
      rw [List.cons_append, List.cons_append, List.intercalate_cons_cons, ← List.cons_append,
        htail, List.intercalate_cons_cons, List.append_assoc, List.append_assoc, List.append_assoc]

theorem toList_path_of_segments {url : Url} {parts : List String} (hne : parts ≠ [])
    (h : segments url = some parts) :
    url.path.toList = '/' :: ['/'].intercalate (parts.map String.toList) ∨
      url.path.toList = ('/' :: ['/'].intercalate (parts.map String.toList)) ++ ['/'] := by
  rcases segments_eq_some h with hparts | hparts
  · exact .inl (Url.toList_path hparts)
  · have hpath := Url.toList_path hparts
    rw [List.map_append, List.map_cons, List.map_nil, String.toList_empty,
      intercalate_append_nil (by simpa using hne)] at hpath
    exact .inr hpath

/-- No segment holds a slash. -/
theorem not_mem_of_segments {url : Url} {parts : List String} (h : segments url = some parts) :
    ∀ part ∈ parts, '/' ∉ part.toList := by
  have hall : ∀ all : List String, url.pathSegments = some all →
      ∀ part ∈ all, '/' ∉ part.toList := by
    intro all hpath part hmem
    unfold Url.pathSegments at hpath
    split at hpath
    · cases hpath
      obtain ⟨cs, hcs, rfl⟩ := List.mem_map.mp hmem
      rw [String.toList_ofList]
      exact Url.not_mem_of_mem_splitOn hcs
    · contradiction
  intro part hmem
  rcases segments_eq_some h with hparts | hparts
  · exact hall _ hparts part hmem
  · exact hall _ hparts part (List.mem_append_left _ hmem)

/-- The server's shapes match the expressions. -/
theorem providerPageMatches_of_validPage {library : UrlLibrary} {provider : MediaProvider}
    {url : Url} (h : validPage library provider url = true) :
    providerPageMatches library provider url = true := by
  cases provider with
  | spotify =>
    simp only [validPage, validSpotify, Bool.and_eq_true, decide_eq_true_eq] at h
    obtain ⟨⟨hhost, hquery⟩, hpath⟩ := h
    unfold exactTrackPath at hpath
    split at hpath
    · rename_i first id hsegments
      have hid : first = "track" ∧ validSpotifyId id = true := by simpa using hpath
      obtain ⟨rfl, hid⟩ := hid
      have hlength := validSpotifyId_length hid
      have htrack : "track".toList = ['t', 'r', 'a', 'c', 'k'] := by decide
      have hbody : spotifyPath ('/' :: ['/'].intercalate (["track", id].map String.toList)) =
          true := by
        simp only [List.map_cons, List.map_nil, htrack, List.intercalate_cons_cons,
          List.intercalate_singleton, List.cons_append, List.nil_append, spotifyPath, hlength.1,
          hlength.2, decide_true, Bool.and_self]
      simp [providerPageMatches, hhost, hasSearch_of_isNone hquery,
        optionalSlash_of hbody (toList_path_of_segments (by simp) hsegments)]
    · contradiction
  | appleMusic =>
    simp only [validPage, validAppleMusic, Bool.and_eq_true, decide_eq_true_eq] at h
    obtain ⟨hhost, hpath⟩ := h
    split at hpath
    · rename_i storefront kind slug id hsegments
      simp only [Bool.and_eq_true] at hpath
      obtain ⟨⟨⟨hstorefront, hslug⟩, hid⟩, hkind⟩ := hpath
      have hparts := isStorefront_of_valid hstorefront
      have hslug' := appleSlug_of_valid hslug
      have hid' := isNumericId_of_valid hid
      have hmatches : (if kind = "song" then !hasSearch url
          else kind = "album" && oneSearchParameter library url "i" isNumericId) = true := by
        by_cases hsong : kind = "song"
        · rw [if_pos hsong] at hkind ⊢
          simp [hasSearch_of_isNone hkind]
        · rw [if_neg hsong] at hkind ⊢
          simp only [Bool.and_eq_true, Option.any_eq_true] at hkind ⊢
          obtain ⟨halbum, value, hvalue, hnumeric⟩ := hkind
          exact ⟨halbum, oneSearchParameter_of_oneQueryValue hvalue (isNumericId_of_valid hnumeric)⟩
      simp only [providerPageMatches, appleMusicPageMatches, canonicalPathSegments_eq hsegments,
        hhost, hparts, hslug', hid', hmatches, decide_true, Bool.and_self]
    · contradiction
  | youTube =>
    simp only [validPage, validYoutube] at h
    by_cases hhost : url.host = some "youtube.com" ∨ url.host = some "www.youtube.com"
    · rw [if_pos hhost] at h
      simp only [Bool.and_eq_true, decide_eq_true_eq, Option.any_eq_true] at h
      obtain ⟨hpath, value, hvalue, hid⟩ := h
      have hlength := validYoutubeId_length hid
      have hsearch : oneSearchParameter library url "v" (fun value =>
          value.toList.length = 11 && value.toList.all isYoutubeIdChar) = true :=
        oneSearchParameter_of_oneQueryValue hvalue
          (by simp only [hlength.1, hlength.2, decide_true, Bool.and_self])
      rcases hhost with hhost | hhost <;> simp [providerPageMatches, hhost, hpath, hsearch]
    · rw [if_neg hhost] at h
      simp only [Bool.and_eq_true, decide_eq_true_eq, Option.any_eq_true] at h
      obtain ⟨⟨hshort, hquery⟩, id, hsegment, hid⟩ := h
      have hlength := validYoutubeId_length hid
      have hsegments : segments url = some [id] := by
        unfold exactSingleSegment at hsegment
        split at hsegment
        · cases hsegment
          assumption
        · contradiction
      have hbody : shortPath ('/' :: ['/'].intercalate ([id].map String.toList)) = true := by
        simp only [List.map_cons, List.map_nil, List.intercalate_singleton, shortPath, hlength.1,
          hlength.2, decide_true, Bool.and_self]
      simp [providerPageMatches, hshort, hasSearch_of_isNone hquery,
        optionalSlash_of hbody (toList_path_of_segments (by simp) hsegments)]
  | soundCloud =>
    simp only [validPage, validSoundcloud, Bool.and_eq_true] at h
    obtain ⟨⟨hhost, hquery⟩, hpath⟩ := h
    split at hpath
    · rename_i account title hsegments
      have hne := ne_empty_of_segments hsegments
      have hslash := not_mem_of_segments hsegments
      have hsplit : (['/'].intercalate ([account, title].map String.toList)).splitOn '/' =
          [account, title].map String.toList := by
        apply List.splitOn_intercalate
        · simpa using hslash
        · simp
      have hbody : twoSegmentPath ('/' :: ['/'].intercalate ([account, title].map String.toList)) =
          true := by
        rw [twoSegmentPath, hsplit]
        simp [String.toList_eq_nil_iff, hne]
      simp only [providerPageMatches, hhost, hasSearch_of_isNone hquery,
        optionalSlash_of hbody (toList_path_of_segments (by simp) hsegments), Bool.not_false,
        Bool.and_self]
    · contradiction

theorem boundedUtf8Text_string {text : String} {limit : ℕ} (hne : text ≠ "")
    (hcontrol : text.toList.any isControl = false) :
    boundedUtf8Text (some (.string text)) limit =
      if text.utf8ByteSize ≤ limit then some text else none := by
  have hpos := utf16Length_pos hne
  simp [boundedUtf8Text, hpos, hcontrol]

theorem mediaProvider_name (provider : MediaProvider) :
    mediaProvider (some (.string provider.name)) = some provider := by
  cases provider <;> rfl

/-- A page that the server made is accepted as it is, if its URL fits. -/
theorem parsePublicMediaPage_toJson {library : UrlLibrary} (hlawful : library.Lawful)
    {page : PublicMediaPage} (hpage : page.Accepted library) :
    parsePublicMediaPage library (some page.toJson.toJs) =
      if page.url.utf8ByteSize ≤ MAX_PUBLIC_PAGE_URL_BYTES then .ok page
      else .error invalidPage := by
  obtain ⟨value, hvalue⟩ := hpage
  obtain ⟨-, url, hparse, horigin, hvalid, hpage⟩ := PublicMediaPage.new_eq_ok.mp hvalue
  have hurl : page.url = url.asStr := by rw [hpage]
  have hcontrol : url.asStr.toList.any isControl = false :=
    PublicMediaPage.any_isControl_eq_false (hlawful.printable value url hparse)
  have hmatches := providerPageMatches_of_validPage hvalid
  have htext : boundedUtf8Text (some (.string page.url)) 2048 =
      if page.url.utf8ByteSize ≤ MAX_PUBLIC_PAGE_URL_BYTES then some page.url else none := by
    rw [hurl]
    exact boundedUtf8Text_string url.asStr_ne_empty hcontrol
  have hrecord : record invalidPage (some page.toJson.toJs) =
      .ok [("provider", .string page.provider.name), ("url", .string page.url)] := rfl
  have hprovider : property "provider" [("provider", .string page.provider.name),
      ("url", .string page.url)] = some (.string page.provider.name) := by simp [property]
  have hproperty : property "url" [("provider", .string page.provider.name),
      ("url", .string page.url)] = some (.string page.url) := by simp [property]
  have hfixed : library.parse page.url = some url := hurl ▸ hlawful.fixed value url hparse
  have hpublic : (url.scheme = "https" && url.port.isNone && url.username = "" &&
      !url.password.any (· ≠ "") && !url.fragment.any (· ≠ "")) = true := by
    simp only [publicOrigin, Bool.and_eq_true, decide_eq_true_eq, Option.isNone_iff_eq_none]
      at horigin
    simp [horigin]
  simp only [parsePublicMediaPage, hrecord, hprovider, hproperty, mediaProvider_name, htext, bind,
    Except.bind]
  by_cases hfits : page.url.utf8ByteSize ≤ MAX_PUBLIC_PAGE_URL_BYTES
  · rw [if_pos hfits, if_pos hfits]
    simp only [hfixed, hpublic, hmatches, Bool.and_self, need, if_true, pure, Except.pure, ← hurl]
  · rw [if_neg hfits, if_neg hfits]

end Client

end PepeAudio
