import PepeAudio.Core.Command
import PepeAudio.Worker.SettingsRuntime

/-!
# What a new player starts with

A new actor takes its settings from the guild's row and from what the settings
worker still has to write, and its first revision from the two watermarks of the
snapshots. The settings are then replayed as commands. Of a preset only its
identifier matters here.
-/
namespace PepeAudio

/-- The part of the player limits that the factory reads; the times are in seconds. -/
structure PlayerLimits where
  idleDisconnect : ℕ
  defaultVolume : Volume
  defaultHrirPreset : HrirPresetId
  defaultSpatialAudioEnabled : Bool
  maxQueueItems : UInt32

/-- The installed presets. -/
structure HrirCatalog where
  entries : List HrirPresetId

def HrirCatalog.isInstalled (catalog : HrirCatalog) (preset : HrirPresetId) : Bool :=
  preset ∈ catalog.entries

structure InitialSettings where
  volume : Volume
  idleDisconnect : ℕ
  hrirPreset : HrirPresetId
  spatialAudioEnabled : Bool
  durableSeed : GuildSettings
  deriving DecidableEq

namespace InitialSettings

def persistent (settings : InitialSettings) : PersistentPlayerSettings :=
  ⟨settings.volume, settings.hrirPreset, settings.spatialAudioEnabled⟩

/-- The commands of `initialize`. -/
def commands (settings : InitialSettings) : List PlayerCommand :=
  [.setVolume settings.volume, .setHrir settings.hrirPreset,
    .setSpatialAudio settings.spatialAudioEnabled]

end InitialSettings

/-- The row a guild gets that has none. -/
def PlayerLimits.guildSettings (limits : PlayerLimits) (guildId : GuildId) : GuildSettings where
  guildId := guildId
  volume := limits.defaultVolume
  idleDisconnect := limits.idleDisconnect
  controlPolicy := .sameVoiceChannel
  djRoleId := none
  defaultHrirPresetId := some limits.defaultHrirPreset
  spatialAudioEnabled := limits.defaultSpatialAudioEnabled
  revision := SettingsRevision.INITIAL

def newestDurable (first second : GuildSettings) : GuildSettings :=
  if first.revision.get < second.revision.get then second else first

/-- `settings` from the moment it has looked at the worker on. -/
def initialSettings (limits : PlayerLimits) (catalog : HrirCatalog) (stored : GuildSettings)
    (live : Option SettingsWorkerState) : InitialSettings :=
  let stored := match live with
    | some view => newestDurable stored view.durable
    | none => stored
  let storedHrir :=
    (stored.defaultHrirPresetId.filter catalog.isInstalled).getD limits.defaultHrirPreset
  let pending := (live.bind fun view => view.pending.map SettingsUpdate.settings).filter
    fun settings => catalog.isInstalled settings.hrirPreset
  { volume := pending.elim stored.volume PersistentPlayerSettings.volume
    idleDisconnect := stored.idleDisconnect
    hrirPreset := pending.elim storedHrir PersistentPlayerSettings.hrirPreset
    spatialAudioEnabled :=
      pending.elim stored.spatialAudioEnabled PersistentPlayerSettings.spatialAudioEnabled
    durableSeed := stored }

/-- The revision after the greater one of those there are. -/
def nextActorRevision (durable volatile : Option StateRevision) : Option StateRevision :=
  match durable.merge (fun a b => if a.get ≤ b.get then b else a) volatile with
  | none => some StateRevision.INITIAL
  | some revision => revision.checkedNext

/-- The envelope of a command of `initialize`. -/
def initialEnvelope (guildId : GuildId) (revision : StateRevision) (commandId idempotencyKey : Uuid)
    (command : PlayerCommand) : CommandEnvelope :=
  ⟨commandId, idempotencyKey, guildId, none, revision, ⟨UInt64.ofNat (UInt64.size - 1)⟩, command⟩

end PepeAudio
