import PepeAudio.Lib.Words
import PepeAudio.Media.SiteParse
import Mathlib.Data.List.Dedup
import Mathlib.Data.List.Sort

/-!
# Choosing among the candidates of a search

A candidate is scored by its title, by the artists that are named in its title or as
its artist, and by its duration. The best three that score enough are resolved in turn.
-/
namespace PepeAudio

namespace Site

def MINIMUM_SCORE : ℕ := 55
def MAXIMUM_CANDIDATES_TO_RESOLVE : ℕ := 3
def DURATION_TOLERANCE_MS : UInt64 := 15000

def PRESENTATION_MARKERS : List (List String) :=
  [["official", "music", "video"], ["official", "lyric", "video"], ["official", "visualizer"],
    ["official", "video"], ["official", "audio"], ["lyric", "video"], ["lyrics"], ["visualizer"]]

def VISUAL_PRESENTATION_MARKERS : List (List String) :=
  [["official", "music", "video"], ["official", "lyric", "video"], ["official", "visualizer"],
    ["official", "video"], ["lyric", "video"], ["lyrics"], ["visualizer"]]

def QUALIFIERS : List String :=
  ["live", "cover", "remix", "karaoke", "instrumental", "nightcore", "slowed", "sped up",
    "radio edit", "tribute", "impersonator", "teaser", "acoustic", "demo", "re recorded",
    "remaster", "remastered", "extended", "歌ってみた", "カバー", "ライブ"]

/-- The tables of the standard library: `char::to_lowercase` and `char::is_alphanumeric`. -/
structure CharTables where
  toLowercase : Char → List Char
  isAlphanumeric : Char → Bool

/-- What is relied on: a blank has no other case and is neither a letter nor a digit. -/
structure CharTables.Lawful (tables : CharTables) : Prop where
  lowercase : tables.toLowercase ' ' = [' ']
  alphanumeric : tables.isAlphanumeric ' ' = false

/-- The tables for ASCII text. -/
def asciiTables : CharTables := ⟨fun c => [c.toLower], Char.isAlphanum⟩

/-- `str::split_whitespace`. -/
def splitWhitespace (value : String) : List String :=
  (Words.split isWhitespace value.toList).map String.ofList

section Matching

variable (tables : CharTables)

def lettersAndDigits (value : String) : List Char :=
  (value.toList.flatMap tables.toLowercase).map fun c =>
    if tables.isAlphanumeric c then c else ' '

def normalize (value : String) : String :=
  " ".intercalate (splitWhitespace (String.ofList (lettersAndDigits tables value)))

/-- A phrase in ASCII must stand between blanks. -/
def phrasePresent (text phrase : String) : Bool :=
  if phrase.toList.all (·.toNat < 0x80) then
    decide ((" " ++ phrase ++ " ").toList <:+: (" " ++ text ++ " ").toList)
  else decide (phrase.toList <:+: text.toList)

def qualifierConflict (expected candidate : String) : Bool :=
  QUALIFIERS.any fun qualifier =>
    phrasePresent candidate qualifier != phrasePresent expected qualifier

/-- The share of common words, in percent. -/
def tokenOverlap (expected candidate : String) : ℕ :=
  let expected := (splitWhitespace expected).dedup
  let candidate := (splitWhitespace candidate).dedup
  if expected = [] ∨ candidate = [] then 0
  else (expected.filter (· ∈ candidate)).length * 2 * 100 / (expected.length + candidate.length)

/-- What is in front of a group in brackets, the group and what follows it. -/
structure Group where
  front : List Char
  opening : Char
  content : List Char
  closing : Char
  rest : List Char

def nextGroup (value : List Char) : Option Group :=
  match value.dropWhile fun c => !(c == '(' || c == '[') with
  | [] => none
  | opening :: tail =>
    let closing := if opening = '(' then ')' else ']'
    match tail.dropWhile (· ≠ closing) with
    | [] => none
    | closing' :: rest => some ⟨value.takeWhile fun c => !(c == '(' || c == '['), opening,
        tail.takeWhile (· ≠ closing), closing', rest⟩

def isArtistCredit (content : String) (expectedArtists : List String) : Bool :=
  match splitWhitespace (normalize tables content) with
  | [] => false
  | marker :: parts =>
    if marker = "with" ∨ marker = "feat" ∨ marker = "featuring" ∨ marker = "ft" then
      let credited := " ".intercalate parts
      credited ≠ "" && (expectedArtists.map (normalize tables)).any fun artist =>
        phrasePresent credited artist || phrasePresent artist credited ||
          70 ≤ tokenOverlap artist credited
    else false

/-- The loop over the groups, which is over when no group is left. Every group takes characters, so
as many rounds as characters are enough. -/
def stripGroups (expectedArtists : List String) : ℕ → List Char → List Char
  | 0, value => value
  | steps + 1, value =>
    match nextGroup value with
    | none => value
    | some group =>
      group.front ++
        ((if isArtistCredit tables (String.ofList group.content) expectedArtists then [' ']
          else group.opening :: group.content ++ [group.closing]) ++
        stripGroups expectedArtists steps group.rest)

def stripArtistCreditGroups (value : String) (expectedArtists : List String) : String :=
  String.ofList (stripGroups tables expectedArtists value.toList.length value.toList)

/-- The first window that is the marker. -/
def position (marker : List String) : List String → Option ℕ
  | [] => none
  | token :: tokens =>
    if marker.isPrefixOf (token :: tokens) then some 0 else (position marker tokens).map (· + 1)

/-- The loop that drains a marker until it is found no more, which takes a word every time. -/
def drainMarker (marker : List String) : ℕ → List String → List String
  | 0, tokens => tokens
  | steps + 1, tokens =>
    match position marker tokens with
    | none => tokens
    | some start =>
      drainMarker marker steps (tokens.take start ++ tokens.drop (start + marker.length))

def withoutMarker (tokens marker : List String) : List String :=
  drainMarker marker tokens.length tokens

def normalizeTitle (value : String) (expectedArtists : List String) : String :=
  let normalized := normalize tables (stripArtistCreditGroups tables value expectedArtists)
  let canonical := (splitWhitespace normalized).map fun token =>
    if token = "ft" ∨ token = "featuring" then "feat" else token
  let semantic := PRESENTATION_MARKERS.foldl withoutMarker canonical
  if semantic = [] then " ".intercalate canonical else " ".intercalate semantic

def hasVisualPresentationMarker (value : String) : Bool :=
  let tokens := splitWhitespace (normalize tables value)
  VISUAL_PRESENTATION_MARKERS.any fun marker => (position marker tokens).isSome

def absDiff (a b : UInt64) : UInt64 := if a ≤ b then b - a else a - b

def durationMatches (preferred : Option UInt64) (actual : UInt64) : Bool :=
  preferred.all fun preferred => absDiff preferred actual ≤ DURATION_TOLERANCE_MS

/-- An artist with all its words in the context. -/
def mentioned (candidateContext artist : String) : Bool :=
  normalize tables artist ≠ "" &&
    (splitWhitespace (normalize tables artist)).all (phrasePresent candidateContext ·)

def artistScore (candidateContext : String) (expectedArtists : List String) : Option ℕ :=
  if expectedArtists.isEmpty then some 10
  else
    let matched := min (expectedArtists.filter (mentioned tables candidateContext)).length 2
    if 0 < matched then some (matched * 15) else none

def durationScore (preferred actual : Option UInt64) : Option ℕ :=
  match preferred, actual with
  | some expected, some actual =>
    if !durationMatches (some expected) actual then none
    else if absDiff expected actual ≤ max (expected / 20) 5000 then some 15
    else some 5
  | _, _ => some 0

def candidateContext (candidate : SiteReference) : String :=
  normalize tables (candidate.title.getD "" ++ " " ++ candidate.artist.getD "")

def expectedContext (search : SiteSearch) : String :=
  normalize tables (search.expectedTitle ++ " " ++ " ".intercalate search.expectedArtists)

def titleScore (expected title : String) : ℕ :=
  if title = expected then 65
  else if phrasePresent title expected || phrasePresent expected title then 55
  else tokenOverlap expected title * 55 / 100

def presentationPenalty (candidate : SiteReference) : ℕ :=
  if hasVisualPresentationMarker tables (candidate.title.getD "") then 10 else 0

def candidateScore (candidate : SiteReference) (search : SiteSearch) : Option ℕ := do
  let candidateTitle ← candidate.title
  let title := normalizeTitle tables candidateTitle search.expectedArtists
  let expected := normalizeTitle tables search.expectedTitle search.expectedArtists
  if qualifierConflict expected title then none
  else if titleScore expected title < 30 then none
  else if qualifierConflict (expectedContext tables search) (candidateContext tables candidate) then
    none
  else
    let artist ← artistScore tables (candidateContext tables candidate) search.expectedArtists
    let duration ← durationScore search.preferredDurationMs candidate.durationMs
    some (titleScore expected title + artist + duration - presentationPenalty tables candidate)

/-- A candidate with its score does not come behind another. -/
def NotBehind (scored other : ℕ × SiteReference) : Prop := other.1 ≤ scored.1

instance : DecidableRel NotBehind := fun scored other =>
  inferInstanceAs (Decidable (other.1 ≤ scored.1))

/-- The candidates with their scores, the best first and equal ones in their order. -/
def scoredCandidates (candidates : List SiteReference) (search : SiteSearch) :
    List (ℕ × SiteReference) :=
  (candidates.filterMap fun candidate =>
    (candidateScore tables candidate search).map (·, candidate)).insertionSort NotBehind

def rankedCandidates (candidates : List SiteReference) (search : SiteSearch) :
    Except SiteError (List SiteReference) :=
  match scoredCandidates tables candidates search with
  | [] => .error .noSearchMatch
  | best :: scored =>
    if best.1 < MINIMUM_SCORE then .error .noSearchMatch
    else .ok (((((best :: scored).filter (MINIMUM_SCORE ≤ ·.1)).take
      MAXIMUM_CANDIDATES_TO_RESOLVE).map Prod.snd))

end Matching

section Loops

variable {tables : CharTables} {expectedArtists : List String}

end Loops

section Faithful

variable {tables : CharTables} {candidate : SiteReference} {search : SiteSearch} {artist : String}

/-- The expected title, one of the expected artists, and a duration within the tolerance. -/
structure Faithful (candidate : SiteReference) (search : SiteSearch) (artist : String) : Prop where
  title : candidate.title = some search.expectedTitle
  named : candidate.artist = some artist
  expected : artist ∈ search.expectedArtists
  duration : ∀ actual ∈ candidate.durationMs,
    durationMatches search.preferredDurationMs actual = true

theorem phrasePresent_of_mem {words : List String} {word : String} (h : word ∈ words) :
    phrasePresent (" ".intercalate words) word = true := by
  have hmem : word.toList ∈ words.map String.toList := List.mem_map_of_mem h
  unfold phrasePresent
  split_ifs
  · have hpadded := Words.padded_infix_intercalate ' ' hmem
    simpa [String.toList_intercalate] using hpadded
  · have hinfix := Words.infix_intercalate ' ' hmem
    simpa [String.toList_intercalate] using hinfix

/-- The words of a normalized text are those of its letters and digits. -/
theorem splitWhitespace_normalize (value : String) :
    splitWhitespace (normalize tables value) =
      (Words.split isWhitespace (lettersAndDigits tables value)).map String.ofList := by
  have hblank : isWhitespace ' ' = true := by decide
  have hjoined := Words.split_intercalate hblank
    (Words.valid_split isWhitespace (lettersAndDigits tables value))
  have htext : (normalize tables value).toList = [' '].intercalate
      (Words.split isWhitespace (lettersAndDigits tables value)) := by
    simp [normalize, splitWhitespace, String.toList_intercalate, List.map_map, Function.comp_def]
  rw [splitWhitespace, htext, hjoined]

theorem lettersAndDigits_append (hlawful : tables.Lawful) (value other : String) :
    lettersAndDigits tables (value ++ " " ++ other) =
      lettersAndDigits tables value ++ ' ' :: lettersAndDigits tables other := by
  simp [lettersAndDigits, hlawful.lowercase, hlawful.alphanumeric]

/-- Every word of the artist is in the context of the candidate. -/
theorem mentioned_artist (hlawful : tables.Lawful) (hartist : candidate.artist = some artist)
    (hne : normalize tables artist ≠ "") :
    mentioned tables (candidateContext tables candidate) artist = true := by
  have hblank : isWhitespace ' ' = true := by decide
  have hwords : splitWhitespace (String.ofList (lettersAndDigits tables
      (candidate.title.getD "" ++ " " ++ artist))) =
        (Words.split isWhitespace (lettersAndDigits tables (candidate.title.getD ""))).map
          String.ofList ++ splitWhitespace (normalize tables artist) := by
    rw [splitWhitespace_normalize, splitWhitespace, String.toList_ofList,
      lettersAndDigits_append hlawful, Words.split_append_cons hblank, List.map_append]
  simp only [mentioned, hne, ne_eq, not_false_eq_true, decide_true, Bool.true_and,
    List.all_eq_true]
  intro word hword
  rw [candidateContext, hartist, Option.getD_some, normalize, hwords]
  exact phrasePresent_of_mem (List.mem_append_right _ hword)

theorem qualifierConflict_self (value : String) : qualifierConflict value value = false := by
  simp [qualifierConflict]

theorem artistScore_of_mentioned {context : String} {artists : List String}
    (hmem : artist ∈ artists) (h : mentioned tables context artist = true) :
    ∃ score, artistScore tables context artists = some score ∧ 15 ≤ score := by
  have hpos : 0 < (artists.filter (mentioned tables context)).length :=
    List.length_pos_of_mem (List.mem_filter.mpr ⟨hmem, h⟩)
  have hne : artists.isEmpty = false := by
    cases artists with
    | nil => simp at hmem
    | cons => rfl
  unfold artistScore
  rw [hne]
  simp only [Bool.false_eq_true, ↓reduceIte]
  rw [if_pos (by omega)]
  exact ⟨_, rfl, by omega⟩

theorem durationScore_of_matches {preferred actual : Option UInt64}
    (h : ∀ duration ∈ actual, durationMatches preferred duration = true) :
    ∃ score, durationScore preferred actual = some score := by
  unfold durationScore
  split
  · rename_i expected duration
    rw [h duration rfl]
    simp only [Bool.not_true, Bool.false_eq_true, ↓reduceIte]
    split_ifs
    · exact ⟨_, rfl⟩
    · exact ⟨_, rfl⟩
  · exact ⟨_, rfl⟩

/-- A faithful candidate has the full score of its title, and is rejected for a qualifier only. -/
theorem candidateScore_of_faithful (hlawful : tables.Lawful) (h : Faithful candidate search artist)
    (hne : normalize tables artist ≠ "") :
    ((∃ score, candidateScore tables candidate search = some score) ↔
      qualifierConflict (expectedContext tables search) (candidateContext tables candidate) =
        false) ∧
    ∀ score, candidateScore tables candidate search = some score → 70 ≤ score := by
  obtain ⟨artistPart, hartist, henough⟩ :=
    artistScore_of_mentioned h.expected (mentioned_artist hlawful h.named hne)
  obtain ⟨durationPart, hduration⟩ := durationScore_of_matches h.duration
  have hpenalty : presentationPenalty tables candidate ≤ 10 := by
    unfold presentationPenalty
    split_ifs
    · exact le_rfl
    · exact Nat.zero_le _
  have hscore : candidateScore tables candidate search =
      if qualifierConflict (expectedContext tables search) (candidateContext tables candidate) then
        none
      else some (65 + artistPart + durationPart - presentationPenalty tables candidate) := by
    unfold candidateScore
    simp only [h.title, hartist, hduration, Option.bind_eq_bind, Option.bind_some,
      qualifierConflict_self, titleScore, Bool.false_eq_true, ↓reduceIte]
    exact if_neg (by decide)
  rw [hscore]
  cases hconflict : qualifierConflict (expectedContext tables search)
      (candidateContext tables candidate) with
  | true => simp
  | false =>
    refine ⟨by simp, fun score hsome => ?_⟩
    rw [if_neg Bool.false_ne_true] at hsome
    obtain rfl := Option.some.inj hsome
    omega

instance : IsTrans (ℕ × SiteReference) NotBehind where
  trans _ _ _ h h' := Nat.le_trans h' h

instance : Std.Total NotBehind where
  total scored other := Nat.le_total other.1 scored.1

/-- A candidate that scores enough is ranked, unless three that are as good fill the list. -/
theorem rankedCandidates_of_score {candidates : List SiteReference} {score : ℕ}
    (hmem : candidate ∈ candidates) (hscore : candidateScore tables candidate search = some score)
    (henough : MINIMUM_SCORE ≤ score) :
    ∃ ranked, rankedCandidates tables candidates search = .ok ranked ∧
      (candidate ∈ ranked ∨ ranked.length = MAXIMUM_CANDIDATES_TO_RESOLVE ∧
        ∀ other ∈ ranked, ∃ otherScore,
          candidateScore tables other search = some otherScore ∧ score ≤ otherScore) := by
  have hscored : (score, candidate) ∈ scoredCandidates tables candidates search := by
    refine (List.mem_insertionSort _).mpr (List.mem_filterMap.mpr ⟨candidate, hmem, ?_⟩)
    rw [hscore, Option.map_some]
  have hsorted : (scoredCandidates tables candidates search).Pairwise NotBehind :=
    List.pairwise_insertionSort _ _
  have horigin : ∀ entry ∈ scoredCandidates tables candidates search,
      candidateScore tables entry.2 search = some entry.1 := by
    intro entry hentry
    obtain ⟨other, -, hother⟩ := List.mem_filterMap.mp ((List.mem_insertionSort _).mp hentry)
    obtain ⟨found, hfound, rfl⟩ := Option.map_eq_some_iff.mp hother
    exact hfound
  have hranked : rankedCandidates tables candidates search =
      .ok ((((scoredCandidates tables candidates search).filter (MINIMUM_SCORE ≤ ·.1)).take
        MAXIMUM_CANDIDATES_TO_RESOLVE).map Prod.snd) := by
    unfold rankedCandidates
    cases hcase : scoredCandidates tables candidates search with
    | nil =>
      rw [hcase] at hscored
      simp at hscored
    | cons best scored =>
      rw [hcase] at hscored hsorted
      have hbest : score ≤ best.1 := by
        rcases List.mem_cons.mp hscored with rfl | hrest
        · exact le_rfl
        · exact List.rel_of_pairwise_cons hsorted hrest
      dsimp only
      rw [if_neg (by omega)]
  refine ⟨_, hranked, ?_⟩
  generalize hkept : (scoredCandidates tables candidates search).filter (MINIMUM_SCORE ≤ ·.1) = kept
  have hsub : kept.Sublist (scoredCandidates tables candidates search) :=
    hkept ▸ List.filter_sublist
  have hkeptMem : (score, candidate) ∈ kept :=
    hkept ▸ List.mem_filter.mpr ⟨hscored, by simpa using henough⟩
  have hkeptSorted : kept.Pairwise NotBehind := hsorted.sublist hsub
  rw [← List.take_append_drop MAXIMUM_CANDIDATES_TO_RESOLVE kept] at hkeptMem hkeptSorted
  rcases List.mem_append.mp hkeptMem with htaken | hdropped
  · exact .inl (List.mem_map.mpr ⟨_, htaken, rfl⟩)
  · right
    have hlong := List.length_pos_of_mem hdropped
    rw [List.length_drop] at hlong
    constructor
    · rw [List.length_map, List.length_take]
      omega
    · intro other hother
      obtain ⟨entry, hentry, rfl⟩ := List.mem_map.mp hother
      refine ⟨entry.1, horigin entry (hsub.subset (List.mem_of_mem_take hentry)), ?_⟩
      exact (List.pairwise_append.mp hkeptSorted).2.2 entry hentry _ hdropped

/-- With one expected artist the two contexts are the same. -/
theorem contexts_eq (h : Faithful candidate search artist)
    (hsingle : search.expectedArtists = [artist]) :
    candidateContext tables candidate = expectedContext tables search := by
  simp [candidateContext, expectedContext, h.title, h.named, hsingle, String.intercalate_singleton]

theorem qualifierConflict_eq_false {expected text : String} :
    qualifierConflict expected text = false ↔
      ∀ qualifier ∈ QUALIFIERS,
        phrasePresent text qualifier = phrasePresent expected qualifier := by
  simp [qualifierConflict, List.any_eq_false]

/-- A faithful candidate is rejected only for a qualifier that is in one of the contexts alone,
which takes another expected artist; otherwise it is ranked as long as there is room. -/
theorem faithful_candidate_ranked (hlawful : tables.Lawful)
    (h : Faithful candidate search artist) (hne : normalize tables artist ≠ "") :
    ((∃ score, candidateScore tables candidate search = some score) ↔
      ∀ qualifier ∈ QUALIFIERS, phrasePresent (candidateContext tables candidate) qualifier =
        phrasePresent (expectedContext tables search) qualifier) ∧
    (search.expectedArtists = [artist] →
      ∃ score, candidateScore tables candidate search = some score) ∧
    ∀ score, candidateScore tables candidate search = some score → 70 ≤ score ∧
      ∀ candidates, candidate ∈ candidates →
        ∃ ranked, rankedCandidates tables candidates search = .ok ranked ∧
          (candidate ∈ ranked ∨ ranked.length = MAXIMUM_CANDIDATES_TO_RESOLVE ∧
            ∀ other ∈ ranked, ∃ otherScore,
              candidateScore tables other search = some otherScore ∧ score ≤ otherScore) := by
  obtain ⟨hiff, hbound⟩ := candidateScore_of_faithful hlawful h hne
  refine ⟨hiff.trans qualifierConflict_eq_false, fun hsingle => hiff.mpr ?_, ?_⟩
  · rw [contexts_eq h hsingle]
    exact qualifierConflict_self _
  · intro score hscore
    have henough := hbound score hscore
    refine ⟨henough, fun candidates hmem => ?_⟩
    exact rankedCandidates_of_score hmem hscore (Nat.le_trans (by decide) henough)

end Faithful

/-- A candidate for a song by one artist. -/
def songBy (page artist : String) : SiteReference :=
  ⟨.youTube, page, some "Song", some artist, none⟩

def songSearch (artists : List String) : SiteSearch := ⟨"Song", "Song", artists, none, none⟩

theorem asciiTables_lawful : asciiTables.Lawful := ⟨by decide, by decide⟩

theorem song_ranked :
    ∃ ranked, rankedCandidates asciiTables [songBy "a" "Singer"] (songSearch ["Singer"]) =
      .ok ranked ∧ (songBy "a" "Singer" ∈ ranked ∨ ranked.length = 3 ∧ ∀ other ∈ ranked,
        ∃ score, candidateScore asciiTables other (songSearch ["Singer"]) = some score ∧
          80 ≤ score) := by
  have hfaithful : Faithful (songBy "a" "Singer") (songSearch ["Singer"]) "Singer" :=
    ⟨rfl, rfl, List.mem_cons_self, fun _ hnone => nomatch hnone⟩
  have hall := faithful_candidate_ranked asciiTables_lawful hfaithful (by decide +kernel)
  have hscore : candidateScore asciiTables (songBy "a" "Singer") (songSearch ["Singer"]) =
      some 80 := by decide +kernel
  exact (hall.2.2 80 hscore).2 _ List.mem_cons_self

/-- A second artist with the name of a qualifier, an artist without letters, and a fourth
candidate. -/
theorem song_not_ranked :
    candidateScore asciiTables (songBy "a" "Singer") (songSearch ["Singer", "Live"]) = none ∧
      rankedCandidates asciiTables [songBy "a" "Singer"] (songSearch ["Singer", "Live"]) =
        .error .noSearchMatch ∧
      candidateScore asciiTables (songBy "a" "!!!") (songSearch ["!!!"]) = none ∧
      rankedCandidates asciiTables
        (["a", "b", "c", "d"].map (songBy · "Singer")) (songSearch ["Singer"]) =
          .ok (["a", "b", "c"].map (songBy · "Singer")) := by
  refine ⟨by decide +kernel, by decide +kernel, by decide +kernel, by decide +kernel⟩

end Site

end PepeAudio
