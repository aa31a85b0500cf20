import PepeAudio.Lib.Url
import Mathlib.Data.Bool.AllAny
import Mathlib.Data.List.TakeWhile

/-!
# A library for plain URLs

The URLs whose parts are written with letters, digits and a few separators, so
that nothing is encoded or normalised except the slashes after the scheme, of
which any number is read as two. All other text is refused.
-/
namespace PepeAudio

namespace PlainUrl

def hostChar (c : Char) : Bool := c.isLower || c == '.'

def pathChar (c : Char) : Bool := c.isAlphanum || c == '/' || c == '-' || c == '_'

def queryChar (c : Char) : Bool :=
  c.isAlphanum || c == '&' || c == '=' || c == '-' || c == '_'

def ofParts (host path : List Char) (query : Option (List Char)) : Url :=
  Url.https (String.ofList host) (String.ofList path) (query.map String.ofList)

/-- What follows the scheme and its slashes. -/
def parseAuthority (rest : List Char) : Option Url :=
  let host := rest.takeWhile hostChar
  let tail := rest.dropWhile hostChar
  let path := tail.takeWhile pathChar
  if host = [] ∨ path.head? ≠ some '/' then none
  else match tail.dropWhile pathChar with
    | [] => some (ofParts host path none)
    | '?' :: query => if query.all queryChar then some (ofParts host path (some query)) else none
    | _ => none

def parse (text : String) : Option Url :=
  match text.toList with
  | 'h' :: 't' :: 't' :: 'p' :: 's' :: ':' :: rest =>
    parseAuthority (rest.dropWhile (· == '/'))
  | _ => none

/-- The name and the value of a pair, apart at the first `=`. -/
def splitPair (part : List Char) : String × String :=
  (String.ofList (part.takeWhile (· != '=')), String.ofList ((part.dropWhile (· != '=')).drop 1))

/-- The pairs of a query, of which the empty ones are passed over. -/
def queryPairs (query : String) : List (String × String) :=
  ((query.toList.splitOn '&').filter (· != [])).map splitPair

/-- The parts of a plain URL. -/
structure Parts (host path : List Char) (query : Option (List Char)) : Prop where
  host_ne_nil : host ≠ []
  host_plain : ∀ c ∈ host, hostChar c = true
  path_head : path.head? = some '/'
  path_plain : ∀ c ∈ path, pathChar c = true
  query_plain : ∀ c ∈ query.getD [], queryChar c = true

theorem toList_asStr (host path : List Char) (query : Option (List Char)) :
    (ofParts host path query).asStr.toList =
      "https://".toList ++ (host ++ (path ++ query.elim [] ('?' :: ·))) := by
  rw [ofParts, Url.asStr_https]
  cases query with
  | none => simp [String.toList_append]
  | some query => simp [String.toList_append]

theorem parts_of_parseAuthority {rest : List Char} {url : Url}
    (h : parseAuthority rest = some url) :
    ∃ host path query, Parts host path query ∧ url = ofParts host path query := by
  unfold parseAuthority at h
  dsimp only at h
  split at h
  · contradiction
  · rename_i hparts
    push Not at hparts
    split at h
    · exact ⟨_, _, none, ⟨hparts.1, fun c hc => List.mem_takeWhile_imp hc, hparts.2,
        fun c hc => List.mem_takeWhile_imp hc, by simp⟩, (Option.some.inj h).symm⟩
    · rename_i query _
      split at h
      · rename_i hquery
        exact ⟨_, _, some query, ⟨hparts.1, fun c hc => List.mem_takeWhile_imp hc, hparts.2,
          fun c hc => List.mem_takeWhile_imp hc, by simpa using hquery⟩, (Option.some.inj h).symm⟩
      · contradiction
    · contradiction

theorem parts_of_parse {text : String} {url : Url} (h : parse text = some url) :
    ∃ host path query, Parts host path query ∧ url = ofParts host path query := by
  unfold parse at h
  split at h
  · exact parts_of_parseAuthority h
  · contradiction

/-- The host ends where the path begins, and the path where the query does. -/
theorem Parts.parseAuthority {host path : List Char} {query : Option (List Char)}
    (h : Parts host path query) :
    parseAuthority (host ++ (path ++ query.elim [] ('?' :: ·))) =
      some (ofParts host path query) := by
  obtain ⟨tail, rfl⟩ : ∃ tail, path = '/' :: tail := by
    cases path with
    | nil => simpa using h.path_head
    | cons c tail =>
      have hc : c = '/' := by simpa using h.path_head
      exact ⟨tail, by rw [hc]⟩
  have hhost : ∀ rest, (host ++ '/' :: rest).takeWhile hostChar = host ∧
      (host ++ '/' :: rest).dropWhile hostChar = '/' :: rest := by
    intro rest
    rw [List.takeWhile_append_of_pos h.host_plain, List.dropWhile_append_of_pos h.host_plain]
    exact ⟨by simp [hostChar], by simp [hostChar]⟩
  have hpath : ∀ rest, rest.head?.all (fun c => !pathChar c) = true →
      ('/' :: tail ++ rest).takeWhile pathChar = '/' :: tail ∧
        ('/' :: tail ++ rest).dropWhile pathChar = rest := by
    intro rest hrest
    rw [List.takeWhile_append_of_pos h.path_plain, List.dropWhile_append_of_pos h.path_plain]
    cases rest with
    | nil => simp
    | cons c rest =>
      have hc : pathChar c = false := by simpa using hrest
      simp [hc]
  unfold PlainUrl.parseAuthority
  dsimp only
  rw [List.cons_append, (hhost _).1, (hhost _).2, ← List.cons_append]
  cases query with
  | none =>
    have hend := hpath [] rfl
    rw [Option.elim_none, hend.1, hend.2]
    simp [h.host_ne_nil]
  | some query =>
    have hq : ('?' :: query).head?.all (fun c => !pathChar c) = true := by simp [pathChar]
    have hend := hpath _ hq
    have hquery : query.all queryChar = true := by simpa using h.query_plain
    rw [Option.elim_some, hend.1, hend.2]
    simp [h.host_ne_nil]
    simpa using hquery

theorem Parts.parse_asStr {host path : List Char} {query : Option (List Char)}
    (h : Parts host path query) :
    parse (ofParts host path query).asStr = some (ofParts host path query) := by
  obtain ⟨first, rest, hhost⟩ := List.exists_cons_of_ne_nil h.host_ne_nil
  have hfirst : (first == '/') = false := by
    have hplain := h.host_plain first (by simp [hhost])
    by_contra hslash
    have heq : first = '/' := by simpa using hslash
    subst heq
    simp [hostChar] at hplain
  have hdrop : ('/' :: '/' :: (host ++ (path ++ query.elim [] ('?' :: ·)))).dropWhile (· == '/') =
      host ++ (path ++ query.elim [] ('?' :: ·)) := by
    rw [hhost]
    simp [hfirst]
  have hscheme : "https://".toList = ['h', 't', 't', 'p', 's', ':', '/', '/'] := by decide
  unfold parse
  rw [toList_asStr, hscheme]
  simp only [List.cons_append, List.nil_append, hdrop]
  exact h.parseAuthority

theorem fixed {text : String} {url : Url} (h : parse text = some url) :
    parse url.asStr = some url := by
  obtain ⟨host, path, query, hparts, rfl⟩ := parts_of_parse h
  exact hparts.parse_asStr

/-- The characters that are neither blank nor control characters. -/
def Graphic (c : Char) : Prop := 0x20 ≤ c.toNat ∧ c.toNat < 0x7F

instance (c : Char) : Decidable (Graphic c) := inferInstanceAs (Decidable (_ ∧ _))

theorem graphic_of_isAlphanum {c : Char} (h : c.isAlphanum = true) : Graphic c := by
  rw [isAlphanum_iff] at h
  unfold Graphic
  omega

theorem graphic_of_hostChar {c : Char} (h : hostChar c = true) : Graphic c := by
  have hcases : c.isLower = true ∨ c = '.' := by simpa [hostChar] using h
  rcases hcases with hlower | rfl
  · exact graphic_of_isAlphanum (isAlphanum_of_isLower hlower)
  · decide

theorem graphic_of_pathChar {c : Char} (h : pathChar c = true) : Graphic c := by
  have hcases : ((c.isAlphanum = true ∨ c = '/') ∨ c = '-') ∨ c = '_' := by
    simpa [pathChar] using h
  rcases hcases with ((halnum | rfl) | rfl) | rfl
  · exact graphic_of_isAlphanum halnum
  all_goals decide

theorem graphic_of_queryChar {c : Char} (h : queryChar c = true) : Graphic c := by
  have hcases : (((c.isAlphanum = true ∨ c = '&') ∨ c = '=') ∨ c = '-') ∨ c = '_' := by
    simpa [queryChar] using h
  rcases hcases with (((halnum | rfl) | rfl) | rfl) | rfl
  · exact graphic_of_isAlphanum halnum
  all_goals decide

theorem Parts.graphic {host path : List Char} {query : Option (List Char)}
    (h : Parts host path query) : ∀ c ∈ (ofParts host path query).asStr.toList, Graphic c := by
  intro c hc
  have hscheme : ∀ c ∈ "https://".toList, Graphic c := List.all_iff_forall_prop.mp (by decide)
  rw [toList_asStr] at hc
  simp only [List.mem_append] at hc
  rcases hc with hc | hc | hc | hc
  · exact hscheme c hc
  · exact graphic_of_hostChar (h.host_plain c hc)
  · exact graphic_of_pathChar (h.path_plain c hc)
  · cases query with
    | none => simp at hc
    | some query =>
      have hcases : c = '?' ∨ c ∈ query := by simpa using hc
      rcases hcases with rfl | hmem
      · decide
      · exact graphic_of_queryChar (h.query_plain c hmem)

theorem queryPairs_replicate_append (count : ℕ) (cs : List Char) :
    queryPairs (String.ofList (List.replicate count '&' ++ cs)) =
      queryPairs (String.ofList cs) := by
  induction count with
  | zero => simp
  | succ count ih =>
    rw [← ih]
    simp [queryPairs, List.replicate_succ, List.splitOn_cons_eq_if_modifyHead]

/-- A single pair, of a name without separators and a value without `&`. -/
theorem queryPairs_pair {name value : List Char} (hname : '&' ∉ name) (hequals : '=' ∉ name)
    (hvalue : '&' ∉ value) :
    queryPairs (String.ofList (name ++ '=' :: value)) =
      [(String.ofList name, String.ofList value)] := by
  have hsplit : (name ++ '=' :: value).splitOn '&' = [name ++ '=' :: value] := by
    apply List.splitOn_eq_singleton
    simp [hname, hvalue]
  have hbefore : ∀ c ∈ name, (c != '=') = true := by
    intro c hc
    simp only [bne_iff_ne, ne_eq]
    rintro rfl
    exact hequals hc
  rw [queryPairs, String.toList_ofList, hsplit]
  simp [splitPair, List.takeWhile_append_of_pos hbefore, List.dropWhile_append_of_pos hbefore]

end PlainUrl

/-- The plain URLs as a library. -/
def plainUrls : UrlLibrary := ⟨PlainUrl.parse, PlainUrl.queryPairs⟩

namespace PlainUrl

theorem Parts.withoutQuery {host path : List Char} {query : Option (List Char)}
    (h : Parts host path query) : Parts host path none :=
  ⟨h.host_ne_nil, h.host_plain, h.path_head, h.path_plain, by simp⟩

theorem Parts.withQuery {host path query : List Char} (h : Parts host path none)
    (hquery : ∀ c ∈ query, queryChar c = true) : Parts host path (some query) :=
  ⟨h.host_ne_nil, h.host_plain, h.path_head, h.path_plain, by simpa using hquery⟩

theorem queryChar_of_isDigit {c : Char} (h : c.isDigit = true) : queryChar c = true := by
  simp [queryChar, Char.isAlphanum, h]

theorem Parts.parse_plainUrls {host path : List Char} {query : Option (List Char)}
    (h : Parts host path query) :
    plainUrls.parse (ofParts host path query).asStr = some (ofParts host path query) :=
  h.parse_asStr

theorem plainUrls_lawful : plainUrls.Lawful where
  fixed := fun _ _ h => fixed h
  printable := by
    intro text url h
    obtain ⟨host, path, query, hparts, rfl⟩ := parts_of_parse h
    exact hparts.graphic
  withoutQuery := by
    intro text url h _ _
    obtain ⟨host, path, query, hparts, rfl⟩ := parts_of_parse h
    have hurl : { ofParts host path query with query := none } = ofParts host path none := rfl
    rw [hurl]
    exact hparts.withoutQuery.parse_plainUrls
  withDigits := by
    intro text url digits h _ _ hnone hne hdigits
    obtain ⟨host, path, query, hparts, rfl⟩ := parts_of_parse h
    have hquery : query = none := by simpa [ofParts, Url.https] using hnone
    subst hquery
    have hplain : ∀ c ∈ 'i' :: '=' :: digits.toList, queryChar c = true := by
      intro c hc
      have hcases : c = 'i' ∨ c = '=' ∨ c ∈ digits.toList := by simpa using hc
      rcases hcases with rfl | rfl | hmem
      · decide
      · decide
      · exact queryChar_of_isDigit (List.all_eq_true.mp hdigits c hmem)
    have hurl : (ofParts host path none).appendPair "i" digits =
        ofParts host path (some ('i' :: '=' :: digits.toList)) := by
      have hpair : "i" ++ "=" ++ digits = String.ofList ('i' :: '=' :: digits.toList) :=
        String.toList_inj.mp (by simp)
      simp [Url.appendPair, ofParts, Url.https, ← hpair]
    rw [hurl]
    exact (hparts.withQuery hplain).parse_plainUrls
  words := by
    intro kind id hkind hid
    have hword : ∀ word : String, word.toList.all Char.isAlphanum = true →
        ∀ c ∈ word.toList, pathChar c = true := by
      intro word hall c hc
      simp [pathChar, List.all_eq_true.mp hall c hc]
    have hparts : Parts "open.spotify.com".toList ('/' :: (kind.toList ++ '/' :: id.toList))
        none := by
      refine ⟨by decide, List.all_eq_true.mp (by decide), rfl, ?_, by simp⟩
      intro c hc
      simp only [List.mem_cons, List.mem_append] at hc
      rcases hc with rfl | hc | rfl | hc
      · decide
      · exact hword kind hkind c hc
      · decide
      · exact hword id hid c hc
    have hurl : Url.https "open.spotify.com" ("/" ++ kind ++ "/" ++ id) none =
        ofParts "open.spotify.com".toList ('/' :: (kind.toList ++ '/' :: id.toList)) none := by
      have hpath : "/" ++ kind ++ "/" ++ id =
          String.ofList ('/' :: (kind.toList ++ '/' :: id.toList)) :=
        String.toList_inj.mp (by simp)
      rw [ofParts, String.ofList_toList, ← hpath]
      rfl
    have htext : "https://open.spotify.com/" ++ kind ++ "/" ++ id =
        (Url.https "open.spotify.com" ("/" ++ kind ++ "/" ++ id) none).asStr := by
      rw [Url.asStr_https]
      exact String.toList_inj.mp (by simp)
    rw [htext, hurl]
    exact hparts.parse_plainUrls
  pairs_digits := by
    intro digits hdigits
    have hamp : '&' ∉ digits.toList := by
      intro hmem
      exact absurd (List.all_eq_true.mp hdigits _ hmem) (by decide)
    have htext : "i=" ++ digits = String.ofList (['i'] ++ '=' :: digits.toList) :=
      String.toList_inj.mp (by simp)
    have hpair : queryPairs (String.ofList (['i'] ++ '=' :: digits.toList)) =
        [(String.ofList ['i'], String.ofList digits.toList)] :=
      queryPairs_pair (by decide) (by decide) hamp
    rw [String.ofList_toList] at hpair
    rw [htext]
    exact hpair
  pairs_empty := by decide

theorem query_sublist_of_parseAuthority {rest : List Char} {url : Url} {query : String}
    (h : parseAuthority rest = some url) (hquery : url.query = some query) :
    query.toList.Sublist rest ∧ ∀ c ∈ query.toList, queryChar c = true := by
  unfold parseAuthority at h
  dsimp only at h
  split at h
  · contradiction
  · split at h
    · obtain rfl := Option.some.inj h
      simp [ofParts, Url.https] at hquery
    · rename_i parsed htail
      split at h
      · rename_i hplain
        obtain rfl := Option.some.inj h
        have hparsed : String.ofList parsed = query := by simpa [ofParts, Url.https] using hquery
        obtain rfl := hparsed
        rw [String.toList_ofList]
        refine ⟨?_, List.all_eq_true.mp hplain⟩
        have hsub : ('?' :: parsed).Sublist rest := htail ▸
          (List.dropWhile_sublist _).trans (List.dropWhile_sublist _)
        exact (List.sublist_cons_self _ _).trans hsub
      · contradiction
    · contradiction

/-- A plain URL has its query as it stands. -/
theorem query_sublist_of_parse {text : String} {url : Url} {query : String}
    (h : parse text = some url) (hquery : url.query = some query) :
    query.toList.Sublist text.toList ∧ ∀ c ∈ query.toList, queryChar c = true := by
  unfold parse at h
  split at h
  · rename_i rest htext
    obtain ⟨hsub, hplain⟩ := query_sublist_of_parseAuthority h hquery
    refine ⟨?_, hplain⟩
    rw [htext]
    exact (hsub.trans (List.dropWhile_sublist _)).trans (List.sublist_append_right
      ['h', 't', 't', 'p', 's', ':'] rest)
  · contradiction

theorem plainUrls_plainQueries : plainUrls.PlainQueries where
  unchanged _ _ _ h hquery _ := (query_sublist_of_parse h hquery).1
  characters := by
    intro text url query h hquery _ c hc
    have hplain := (query_sublist_of_parse h hquery).2 c hc
    simp only [queryChar, Bool.or_eq_true, beq_iff_eq] at hplain
    simp only [UrlLibrary.plainChar, Bool.or_eq_true, beq_iff_eq]
    tauto

end PlainUrl

end PepeAudio
