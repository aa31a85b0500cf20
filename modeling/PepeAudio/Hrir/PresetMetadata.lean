import PepeAudio.Core.Identifier
import Mathlib.Data.List.Sort

/-!
# How presets are presented

The operator describes the presets in a text of lines `id;information`. What is shown
of a preset is cut at a word so that it fits, and a preset that the text does not
describe is shown by its id, which is the stem of its file.
-/
namespace PepeAudio.Presets

def MAX_METADATA_ENTRIES : ℕ := 512
def MAX_DISPLAY_NAME_CHARS : ℕ := 100
def MAX_DESCRIPTION_CHARS : ℕ := 240

structure PresetPresentation where
  displayName : String
  description : Option String
  deriving DecidableEq, Repr

inductive CatalogError where
  | invalidMetadata (line : ℕ) (reason : String)
  | duplicateMetadata (presetId : HrirPresetId)
  | invalidIdentifier (reason : String)
  | duplicateId (presetId : HrirPresetId)
  deriving DecidableEq, Repr

/-- What precedes the last white space, or everything when there is none. -/
def upToLastSpace (cs : List Char) : List Char :=
  match (cs.reverse.dropWhile fun c => !isWhitespace c) with
  | [] => cs
  | _ :: front => front.reverse

def abbreviate (value : String) (maximum : ℕ) : String :=
  if value.length ≤ maximum then value
  else String.ofList (upToLastSpace (value.toList.take (maximum - 1)) ++ ['…'])

def curatedPresentation : String → Option PresetPresentation
  | "atmos-" => some ⟨"Dolby Atmos 7.1 (No Reverb)",
    some "Virtual surround sound for headphones without reverb."⟩
  | "cmss_game" => some ⟨"CMSS-3D — Game Mode", some "Recorded on X-Fi Titanium by Sossaman."⟩
  | "dht" => some ⟨"Aura Cinema 4.1", some "Headphone Surround Virtualizer."⟩
  | "ssc_ny" => some ⟨"Spatial Sound Card — New York",
    some "Short room envelope. Do not use any upmix."⟩
  | "waves" => some ⟨"Waves NX", none⟩
  | _ => none

def presentation (presetId : HrirPresetId) (information : String) (line : ℕ) :
    Except CatalogError PresetPresentation :=
  if trim information ≠ information ∨ information.isEmpty ∨ information.toList.any isControl then
    .error (.invalidMetadata line "description must be non-empty canonical text")
  else match curatedPresentation presetId.value with
    | some curated => .ok curated
    | none =>
      let paragraphs := (information.splitOn "/n/n").map trim
      let primary := paragraphs.headD ""
      if primary.isEmpty then .error (.invalidMetadata line "display name must not be empty")
      else
        let extra := " ".intercalate (paragraphs.tail.filter fun value => !value.isEmpty)
        let displayName := abbreviate primary MAX_DISPLAY_NAME_CHARS
        if displayName = primary ∧ extra.isEmpty then .ok ⟨displayName, none⟩
        else
          let detail := if displayName = primary then extra
            else if extra.isEmpty then primary
            else primary ++ " " ++ extra
          .ok ⟨displayName, some (abbreviate detail MAX_DESCRIPTION_CHARS)⟩

/-- `str::lines`: a carriage return goes with the line feed behind it, and what follows the last
line feed is a line unless it is empty. -/
def lines (text : String) : List String :=
  let parts := text.toList.splitOn '\n'
  let ended := parts.dropLast.map fun cs =>
    String.ofList (if cs.getLast? = some '\r' then cs.dropLast else cs)
  match parts.getLast? with
  | some (c :: last) => ended ++ [String.ofList (c :: last)]
  | _ => ended

/-- `split_once(';')`. -/
def splitOnce (separator : Char) (text : String) : Option (String × String) :=
  match text.toList.span (· != separator) with
  | (_, []) => none
  | (front, _ :: back) => some (String.ofList front, String.ofList back)

/-- One line after the other, with its number. -/
def parseLines : List (String × ℕ) → List (HrirPresetId × PresetPresentation) →
    Except CatalogError (List (HrirPresetId × PresetPresentation))
  | [], presentations => .ok presentations
  | (line, lineNumber) :: rest, presentations =>
    if line.isEmpty then parseLines rest presentations
    else if presentations.length = MAX_METADATA_ENTRIES then
      .error (.invalidMetadata lineNumber "file contains too many entries")
    else match splitOnce ';' line with
      | none => .error (.invalidMetadata lineNumber
          "expected an ID and description separated by a semicolon")
      | some (rawId, rawInformation) =>
        if rawId = "*" then parseLines rest presentations
        else match HrirPresetId.new rawId with
          | .error _ => .error (.invalidMetadata lineNumber "preset ID is invalid")
          | .ok presetId =>
            match presentation presetId rawInformation lineNumber with
            | .error error => .error error
            | .ok shown =>
              if presetId ∈ presentations.map Prod.fst then .error (.duplicateMetadata presetId)
              else parseLines rest (presentations ++ [(presetId, shown)])

def parse (text : String) : Except CatalogError (List (HrirPresetId × PresetPresentation)) :=
  parseLines ((lines text).zipIdx 1) []

/-- The part of a descriptor that is shown. -/
structure HrirDescriptor where
  id : HrirPresetId
  displayName : String
  description : Option String
  deriving DecidableEq, Repr

/-- The descriptor of a candidate whose file and impulse responses are accepted, from the stem of
the file's name. -/
def loadEntry (stem : String) (presentations : List (HrirPresetId × PresetPresentation)) :
    Except CatalogError HrirDescriptor :=
  if MAX_DISPLAY_NAME_CHARS < stem.length then
    .error (.invalidIdentifier "filename stem must fit a 100-character Discord option")
  else match HrirPresetId.new stem with
    | .error _ =>
      .error (.invalidIdentifier "filename stem violates the canonical preset ID rules")
    | .ok id =>
      match presentations.lookup id with
      | none => .ok ⟨id, id.value, none⟩
      | some shown => .ok ⟨id, shown.displayName, shown.description⟩

/-- One candidate after the other, into a map that is ordered by the ids. -/
def loadEntries (presentations : List (HrirPresetId × PresetPresentation)) :
    List String → List HrirDescriptor → Except CatalogError (List HrirDescriptor)
  | [], entries => .ok entries
  | stem :: stems, entries =>
    match loadEntry stem presentations with
    | .error error => .error error
    | .ok entry =>
      if entry.id ∈ entries.map (·.id) then .error (.duplicateId entry.id)
      else loadEntries presentations stems
        (entries.orderedInsert (fun first second => first.id.value ≤ second.id.value) entry)

/-- `HrirCatalog::load`, from the text of the operator, if there is one, and the stems of the
candidates. -/
def loadCatalog (metadata : Option String) (stems : List String) :
    Except CatalogError (List HrirDescriptor) :=
  match metadata.elim (.ok []) parse with
  | .error error => .error error
  | .ok presentations => loadEntries presentations stems []

theorem length_upToLastSpace (cs : List Char) : (upToLastSpace cs).length ≤ cs.length := by
  unfold upToLastSpace
  split
  · exact le_rfl
  · rename_i space front hdrop
    have hsuffix : (cs.reverse.dropWhile fun c => !isWhitespace c).length ≤ cs.reverse.length :=
      (List.dropWhile_suffix _).length_le
    rw [hdrop, List.length_cons, List.length_reverse] at hsuffix
    rw [List.length_reverse]
    omega

theorem length_abbreviate (value : String) {maximum : ℕ} (hmaximum : 0 < maximum) :
    (abbreviate value maximum).length ≤ maximum := by
  unfold abbreviate
  split_ifs with hshort
  · exact hshort
  · have hprefix := length_upToLastSpace (value.toList.take (maximum - 1))
    have htake := List.length_take_le (maximum - 1) value.toList
    rw [String.length_ofList, List.length_append, List.length_singleton]
    omega

theorem abbreviate_ne {value : String} {maximum : ℕ} (h : value ≠ "") :
    abbreviate value maximum ≠ "" := by
  unfold abbreviate
  split_ifs
  · exact h
  · intro hempty
    have hchars := congrArg String.toList hempty
    simp at hchars

/-- A name of 1 to 100 characters. -/
def NameFits (name : String) : Prop := name ≠ "" ∧ name.length ≤ MAX_DISPLAY_NAME_CHARS

structure PresetPresentation.Fits (shown : PresetPresentation) : Prop where
  name : NameFits shown.displayName
  description : ∀ description ∈ shown.description, description.length ≤ MAX_DESCRIPTION_CHARS

theorem curatedPresentation_fits {presetId : String} {shown : PresetPresentation}
    (h : curatedPresentation presetId = some shown) : shown.Fits := by
  unfold curatedPresentation at h
  split at h <;> cases h <;> refine ⟨⟨by decide, by decide⟩, ?_⟩ <;> rintro _ ⟨⟩ <;> decide

theorem presentation_fits {presetId : HrirPresetId} {information : String} {line : ℕ}
    {shown : PresetPresentation} (h : presentation presetId information line = .ok shown) :
    shown.Fits := by
  have hname {primary : String} (hprimary : ¬ primary.isEmpty = true) :
      NameFits (abbreviate primary MAX_DISPLAY_NAME_CHARS) :=
    ⟨abbreviate_ne (by simpa using hprimary), length_abbreviate _ (by decide)⟩
  unfold presentation at h
  split_ifs at h
  split at h
  · cases h
    exact curatedPresentation_fits ‹_›
  · dsimp only at h
    split_ifs at h with hprimary
    all_goals
      cases h
      refine ⟨hname hprimary, ?_⟩
      rintro _ ⟨⟩
    all_goals exact length_abbreviate _ (by decide)

theorem parseLines_fits {rest : List (String × ℕ)}
    {presentations presentations' : List (HrirPresetId × PresetPresentation)}
    (h : parseLines rest presentations = .ok presentations')
    (hfits : ∀ entry ∈ presentations, entry.2.Fits) : ∀ entry ∈ presentations', entry.2.Fits := by
  induction rest generalizing presentations with
  | nil =>
    cases h
    exact hfits
  | cons first rest ih =>
    obtain ⟨line, lineNumber⟩ := first
    rw [parseLines] at h
    split_ifs at h
    · exact ih h hfits
    · split at h
      · cases h
      · split_ifs at h
        · exact ih h hfits
        · split at h
          · cases h
          · split at h
            · cases h
            · split_ifs at h
              refine ih h fun entry hentry => ?_
              rcases List.mem_append.mp hentry with hentry | hentry
              · exact hfits entry hentry
              · obtain rfl := List.mem_singleton.mp hentry
                exact presentation_fits ‹_›

structure HrirDescriptor.Fits (descriptor : HrirDescriptor) : Prop where
  name : NameFits descriptor.displayName
  id : NameFits descriptor.id.value

theorem value_of_new {value : String} {presetId : HrirPresetId}
    (h : HrirPresetId.new value = .ok presetId) : presetId.value = value ∧ value ≠ "" := by
  unfold HrirPresetId.new at h
  split_ifs at h with hempty
  cases h
  exact ⟨rfl, by simpa using hempty⟩

theorem loadEntry_fits {stem : String}
    {presentations : List (HrirPresetId × PresetPresentation)} {entry : HrirDescriptor}
    (h : loadEntry stem presentations = .ok entry)
    (hfits : ∀ entry ∈ presentations, entry.2.Fits) : entry.Fits := by
  unfold loadEntry at h
  split_ifs at h with hlong
  split at h
  · cases h
  · rename_i id hid
    obtain ⟨hvalue, hne⟩ := value_of_new hid
    have hidFits : NameFits id.value := by
      rw [hvalue]
      exact ⟨hne, Nat.le_of_not_lt hlong⟩
    split at h
    · cases h
      exact ⟨hidFits, hidFits⟩
    · rename_i shown hshown
      cases h
      obtain ⟨front, back, rfl, -⟩ := List.lookup_eq_some_iff.mp hshown
      exact ⟨(hfits (id, shown) (by simp)).name, hidFits⟩

theorem loadEntries_fits {presentations : List (HrirPresetId × PresetPresentation)}
    {stems : List String} {entries descriptors : List HrirDescriptor}
    (h : loadEntries presentations stems entries = .ok descriptors)
    (hpresentations : ∀ entry ∈ presentations, entry.2.Fits)
    (hnodup : (entries.map (·.id)).Nodup) (hfits : ∀ entry ∈ entries, entry.Fits) :
    (descriptors.map (·.id)).Nodup ∧ ∀ descriptor ∈ descriptors, descriptor.Fits := by
  induction stems generalizing entries with
  | nil =>
    cases h
    exact ⟨hnodup, hfits⟩
  | cons stem stems ih =>
    rw [loadEntries] at h
    split at h
    · cases h
    · rename_i entry hentry
      split_ifs at h with hknown
      have hperm := List.perm_orderedInsert
        (fun first second : HrirDescriptor => first.id.value ≤ second.id.value) entry entries
      refine ih h ?_ fun other hother => ?_
      · rw [(hperm.map (·.id)).nodup_iff, List.map_cons, List.nodup_cons]
        exact ⟨hknown, hnodup⟩
      · rcases List.mem_cons.mp (hperm.mem_iff.mp hother) with rfl | hother
        · exact loadEntry_fits hentry hpresentations
        · exact hfits other hother

/-- Whatever the operator wrote: the presets have different ids, and names and ids that can be
shown. -/
theorem loadCatalog_fits {metadata : Option String} {stems : List String}
    {descriptors : List HrirDescriptor} (h : loadCatalog metadata stems = .ok descriptors) :
    (descriptors.map (·.id)).Nodup ∧ ∀ descriptor ∈ descriptors, descriptor.Fits := by
  unfold loadCatalog at h
  split at h
  · cases h
  · rename_i presentations hpresentations
    refine loadEntries_fits h ?_ (by simp) (by simp)
    cases metadata with
    | none =>
      cases hpresentations
      simp
    | some text => exact parseLines_fits hpresentations (by simp)

end PepeAudio.Presets
