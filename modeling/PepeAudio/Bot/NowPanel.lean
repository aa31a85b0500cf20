import PepeAudio.Bot.ComponentIdRoundTrip
import PepeAudio.Bot.ComponentsV2
import PepeAudio.Core.Command
import PepeAudio.Core.MediaPage
import PepeAudio.Hrir.PresetMetadata
import PepeAudio.Lib.Decimal

/-!
# The panel of a player

The panel shows what plays and offers controls whose ids name the action, the guild
and the revision it was made for. A control that is used comes back as its id and the
chosen value, and is mapped to a command for the player.
-/
namespace PepeAudio.NowPanel

open ComponentsV2

def HRIR_OFF_VALUE : String := "pepeaudio:hrir:off"
def MAX_VISIBLE_HRIR_PRESETS : ℕ := 24
def PROGRESS_SEGMENTS : ℕ := 18

structure HrirOption where
  id : String
  label : String
  description : Option String
  deriving DecidableEq, Repr

/-- The options in the order of the catalog. -/
def hrirOptions (catalog : List Presets.HrirDescriptor) : List HrirOption :=
  catalog.map fun descriptor =>
    ⟨descriptor.id.value, descriptor.displayName, descriptor.description⟩

def escapeDiscordMarkdown (value : String) : String :=
  String.ofList (value.toList.flatMap fun character =>
    if character ∈ ['\\', '*', '_', '`', '~', '|', '>', '[', ']', '(', ')', '<']
    then ['\\', character] else [character])

/-- The parentheses of a link's destination, percent-encoded. -/
def markdownLinkDestination (value : String) : String :=
  String.ofList (value.toList.flatMap fun character =>
    if character = '(' then ['%', '2', '8']
    else if character = ')' then ['%', '2', '9']
    else [character])

def title (snapshot : PlayerSnapshot) : String :=
  match snapshot.currentTrack with
  | none => "## 再生中の曲はありません"
  | some track =>
    let title := escapeDiscordMarkdown track.title
    match track.provenance with
    | none => "## " ++ title
    | some provenance =>
      let page := provenance.origin.getD provenance.playback
      "## [" ++ title ++ "](" ++ markdownLinkDestination page.url ++ ")"

/-- What a page of the provider calls the video. -/
def videoIdentifier (library : UrlLibrary) (url : Url) : Option String :=
  match url.host with
  | some "youtu.be" => url.pathSegments.bind List.head?
  | some "youtube.com" | some "www.youtube.com" => (library.pairs url).lookup "v"
  | _ => none

def youtubeThumbnail (library : UrlLibrary) (track : TrackSnapshot) : Option String := do
  let provenance ← track.provenance
  let playback := provenance.playback
  if playback.provider ≠ .youTube then none
  else
    let url ← library.parse playback.url
    let identifier ← videoIdentifier library url
    if identifier.utf8ByteSize = 11 ∧
        identifier.toList.all (fun c => c.isAlphanum || c == '_' || c == '-') then
      some ("https://i.ytimg.com/vi/" ++ identifier ++ "/hqdefault.jpg")
    else none

def formatMillis (milliseconds : ℕ) : String :=
  let seconds := milliseconds / 1000
  let minutes := seconds / 60
  if minutes < 60 then toString minutes ++ ":" ++ zeroPadded 2 (seconds % 60)
  else toString (minutes / 60) ++ ":" ++ zeroPadded 2 (minutes % 60) ++ ":"
    ++ zeroPadded 2 (seconds % 60)

/-- `str::repeat`. -/
def repeated (count : ℕ) (character : Char) : String :=
  String.ofList (List.replicate count character)

/-- The bar of a track of known length: a marker on a line. -/
def progressBar (positionMs durationMs : ℕ) : String :=
  let maximumIndex := PROGRESS_SEGMENTS - 1
  let marker := min positionMs durationMs * maximumIndex / durationMs
  repeated marker '━' ++ "●" ++ repeated (maximumIndex - marker) '─'

def progress (snapshot : PlayerSnapshot) : String :=
  match snapshot.currentTrack with
  | none => "`0:00` `" ++ repeated PROGRESS_SEGMENTS '─' ++ "` `0:00`"
  | some track =>
    let elapsed := formatMillis track.positionMs.toNat
    match track.durationMs.filter (0 < ·) with
    | none => "`" ++ elapsed ++ "` `" ++ repeated PROGRESS_SEGMENTS '━' ++ "` `LIVE`"
    | some duration =>
      "`" ++ elapsed ++ "` `" ++ progressBar track.positionMs.toNat duration.toNat ++ "` `"
        ++ formatMillis duration.toNat ++ "`"

def statusComponents (library : UrlLibrary) (snapshot : PlayerSnapshot) :
    Except ValidationError (List Component) := do
  let title := title snapshot
  let title ← match snapshot.currentTrack.bind (youtubeThumbnail library) with
    | some thumbnail => (SectionComponent.withThumbnail [⟨title⟩] thumbnail
        (some "再生中の曲のサムネイル")).map .sectionOf
    | none => .ok (.text title)
  pure [title, .text (progress snapshot)]

section controls
variable (library : UrlLibrary) (snapshot : PlayerSnapshot) (action : ComponentAction → String)

def playbackButtons : List ButtonComponent :=
  let playPause := if snapshot.state = .playing then
      ButtonComponent.primary (action .playPause) "⏸"
    else ButtonComponent.success (action .playPause) "▶"
  [{ ButtonComponent.neutral (action .previous) "⏮" with disabled := !snapshot.hasPreviousTrack },
    { playPause with disabled := snapshot.currentTrack.isNone },
    { ButtonComponent.neutral (action .skip) "⏭" with disabled := snapshot.currentTrack.isNone },
    { ButtonComponent.danger (action .stop) "⏹" with
      disabled := snapshot.currentTrack.isNone && snapshot.queuedTracks == 0 }]

def playbackControls : Except ValidationError Component :=
  Component.buttons library (playbackButtons snapshot action)

def repeatLabel : RepeatMode → String
  | .off => "無効"
  | .track => "曲"
  | .queue => "キュー"

/-- The button of a mode, which stands out while the mode is on. -/
def modeButton (on : Bool) (customId label : String) : ButtonComponent :=
  if on then ButtonComponent.primary customId label else ButtonComponent.neutral customId label

def modeButtons : List ButtonComponent :=
  [modeButton (snapshot.repeatMode != .off) (action .repeat)
      ("リピート: " ++ repeatLabel snapshot.repeatMode),
    modeButton snapshot.shuffleEnabled (action .shuffle) "シャッフル",
    modeButton snapshot.spatialAudioEnabled (action .spatial) "360° Audio"]

def modeControls : Except ValidationError Component :=
  Component.buttons library (modeButtons snapshot action)

def volumeOptions : List SelectOption :=
  ((List.range 21).map (· * 5)).map fun value =>
    ⟨toString value ++ "%", toString value, none, value == snapshot.volume.percent.toNat⟩

def volumeSelector : Except ValidationError Component := do
  let select ← StringSelectComponent.single (action .volume) (volumeOptions snapshot)
    (some "音量")
  Component.select library select

def discordOptionDescription (value : String) : String := Presets.abbreviate value 100

/-- The first presets; the selected one takes the last place when it comes later. -/
def visibleHrirOptions (options : List HrirOption) (selected : Option String) : List HrirOption :=
  let visible := options.take MAX_VISIBLE_HRIR_PRESETS
  match selected with
  | none => visible
  | some selected =>
    if visible.any (·.id == selected) then visible
    else match (options.drop MAX_VISIBLE_HRIR_PRESETS).find? (·.id == selected) with
      | none => visible
      | some option => if visible.isEmpty then visible else visible.dropLast ++ [option]

/-- The preset that the snapshot uses. -/
def selectedPreset : Option String :=
  if snapshot.spatialAudioEnabled then snapshot.hrirPreset.map (·.value) else none

def hrirSelectOptions (options : List HrirOption) : List SelectOption :=
  let selected := selectedPreset snapshot
  ⟨"オフ", HRIR_OFF_VALUE, some "HRIR空間処理を無効にします", !snapshot.spatialAudioEnabled⟩ ::
    (visibleHrirOptions options selected).map fun option =>
      ⟨option.label, option.id, option.description.map discordOptionDescription,
        selected == some option.id⟩

def hrirSelector (options : List HrirOption) : Except ValidationError (Option Component) :=
  if options.isEmpty then .ok none
  else do
    let select ← StringSelectComponent.single (action .hrir) (hrirSelectOptions snapshot options)
      (some "HRIRプリセット")
    (Component.select library select).map some

end controls

section panel
variable (library : UrlLibrary) (hash : KeyedHash)
  (base64 : Base64Codec) (codec : ComponentIdCodec)

/-- The custom id of an action for what a snapshot shows. -/
def actionId (snapshot : PlayerSnapshot) (action : ComponentAction) : String :=
  codec.encode hash base64 action snapshot.guildId snapshot.revision

def buildNowPanel (snapshot : PlayerSnapshot) (options : List HrirOption) :
    Except ValidationError Message := do
  let action := actionId hash base64 codec snapshot
  let status ← statusComponents library snapshot
  let playback ← playbackControls library snapshot action
  let mode ← modeControls library snapshot action
  let volume ← volumeSelector library snapshot action
  let hrir ← hrirSelector library snapshot action options
  let note := if MAX_VISIBLE_HRIR_PRESETS < options.length then
      [Component.text "Discordでは24件まで表示しています。すべてのHRIRプリセットはWebダッシュボードで選べます。"]
    else []
  Message.withFlags library
    [.container (status ++ [playback, mode, volume] ++ hrir.toList ++ note)] false

end panel

/-- The value that comes with the id of a used control. -/
inductive InteractionInput where
  | button
  | select (value : String)
  deriving DecidableEq, Repr

inductive InteractionMapError where
  | guildMismatch
  | staleRevision
  | inputKindMismatch
  | invalidValue
  deriving DecidableEq, Repr

/-- `str::parse::<u8>`. -/
def parsePercent (value : String) : Option UInt8 :=
  (fromStrRadix 10 (2 ^ 8) value.toList).map UInt8.ofNat

def mapAction (action : ComponentAction) (input : InteractionInput) (snapshot : PlayerSnapshot) :
    Except InteractionMapError PlayerCommand :=
  match action, input with
  | .playPause, .button => .ok (if snapshot.state = .playing then .pause else .play)
  | .previous, .button => .ok .previous
  | .skip, .button => .ok .skip
  | .stop, .button => .ok .stop
  | .repeat, .button =>
    .ok (.setRepeat (match snapshot.repeatMode with
      | .off => .track
      | .track => .queue
      | .queue => .off))
  | .shuffle, .button => .ok (.setShuffle (!snapshot.shuffleEnabled))
  | .spatial, .button => .ok (.setSpatialAudio (!snapshot.spatialAudioEnabled))
  | .volume, .select value => do
    let percent ← okOr (parsePercent value) .invalidValue
    let volume ← (Volume.new percent).mapError fun _ => .invalidValue
    pure (.setVolume volume)
  | .hrir, .select value =>
    if value = HRIR_OFF_VALUE then .ok (.setSpatialAudio false)
    else do
      let preset ← (HrirPresetId.new value).mapError fun _ => .invalidValue
      pure (.setHrir preset)
  | _, _ => .error .inputKindMismatch

/-- The ids of the command are drawn at random. -/
def mapInteraction (commandId idempotencyKey : Uuid) (decoded : DecodedComponentId)
    (input : InteractionInput) (actorUserId : UserId) (snapshot : PlayerSnapshot)
    (deadline : UnixTimeMillis) : Except InteractionMapError CommandEnvelope :=
  if decoded.guildId ≠ snapshot.guildId then .error .guildMismatch
  else if decoded.revision ≠ snapshot.revision then .error .staleRevision
  else do
    let command ← mapAction decoded.action input snapshot
    pure ⟨commandId, idempotencyKey, decoded.guildId, some actorUserId, decoded.revision, deadline,
      command⟩

/-- What a user can choose: one button, or one option of a select. -/
structure Control where
  customId : String
  input : InteractionInput
  marked : Bool
  enabled : Bool
  deriving DecidableEq, Repr

def controlsOf : InteractiveComponent → List Control
  | .button inner => inner.customId.toList.map fun customId =>
      ⟨customId, .button, false, !inner.disabled⟩
  | .stringSelect inner => inner.options.map fun option =>
      ⟨inner.customId, .select option.value, option.selected, !inner.disabled⟩

def controls (message : Message) : List Control :=
  (Component.interactivesAll message.components).flatMap controlsOf

end PepeAudio.NowPanel
