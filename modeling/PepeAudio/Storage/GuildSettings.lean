import PepeAudio.Core.Identifier
import PepeAudio.Storage.Error
import Mathlib.Logic.Function.Basic

/-!
# Rows of guild settings

A row is written only under the revision it was read with, and every write
counts the revision up. The times at which a row was made and written are not
modelled.
-/
namespace PepeAudio

/-- Monotonic optimistic-concurrency version for durable guild settings. -/
structure SettingsRevision where
  get : UInt64
  deriving DecidableEq, Repr

namespace SettingsRevision

def INITIAL : SettingsRevision := ⟨0⟩

def toNat (revision : SettingsRevision) : ℕ := revision.get.toNat

end SettingsRevision

inductive ControlPolicy where
  | sameVoiceChannel
  | djOnly
  | manageGuild
  deriving DecidableEq, Repr

/-- The durable defaults of a guild; `idleDisconnect` is in seconds, as rows keep it. -/
structure GuildSettings where
  guildId : GuildId
  volume : Volume
  idleDisconnect : ℕ
  controlPolicy : ControlPolicy
  djRoleId : Option UInt64
  defaultHrirPresetId : Option HrirPresetId
  spatialAudioEnabled : Bool
  revision : SettingsRevision
  deriving DecidableEq, Repr

/-- The greatest `i32` and the greatest `i64`. -/
def I32_MAX : ℕ := 2 ^ 31 - 1

def I64_MAX : ℕ := 2 ^ 63 - 1

/-- The table `guild_settings`. -/
abbrev GuildSettingsTable := GuildId → Option GuildSettings

namespace GuildSettingsTable

def getGuildSettings (guildId : GuildId) (table : GuildSettingsTable) :
    Except StorageError (Option GuildSettings) :=
  .ok (table guildId)

/-- A row that is there already is returned as it is. -/
def createGuildSettings (defaults : GuildSettings) (table : GuildSettingsTable) :
    Except StorageError GuildSettings × GuildSettingsTable :=
  if I32_MAX < defaults.idleDisconnect then
    (.error (.corruptData "guild_settings" "idle_disconnect_seconds"), table)
  else if I64_MAX < defaults.revision.toNat then
    (.error (.corruptData "guild_settings" "revision"), table)
  else match table defaults.guildId with
    | some row => (.ok row, table)
    | none => (.ok defaults, Function.update table defaults.guildId (some defaults))

/-- The database counts the revision up, and fails where it has no room for it. -/
def updateGuildSettings (settings : GuildSettings) (expectedRevision : SettingsRevision)
    (table : GuildSettingsTable) :
    Except StorageError (Option GuildSettings) × GuildSettingsTable :=
  if I32_MAX < settings.idleDisconnect then
    (.error (.corruptData "guild_settings" "idle_disconnect_seconds"), table)
  else if I64_MAX < expectedRevision.toNat then
    (.error (.corruptData "guild_settings" "revision"), table)
  else match table settings.guildId with
    | none => (.ok none, table)
    | some row =>
      if row.revision ≠ expectedRevision then (.ok none, table)
      else if expectedRevision.toNat = I64_MAX then (.error .database, table)
      else
        let updated := { settings with revision := ⟨expectedRevision.get + 1⟩ }
        (.ok (some updated), Function.update table settings.guildId (some updated))

/-- A write under the row's own revision replaces it by a row with the next one; every other
write leaves the table as it was. -/
theorem updateGuildSettings_cases (settings : GuildSettings)
    (expectedRevision : SettingsRevision) (table : GuildSettingsTable) :
    (∃ row updated, table settings.guildId = some row ∧ row.revision = expectedRevision ∧
      updated = { settings with revision := updated.revision } ∧
      updated.revision.toNat = expectedRevision.toNat + 1 ∧
      updateGuildSettings settings expectedRevision table =
        (.ok (some updated), Function.update table settings.guildId (some updated))) ∨
    (∃ reply, (∀ updated, reply ≠ .ok (some updated)) ∧
      updateGuildSettings settings expectedRevision table = (reply, table)) := by
  unfold updateGuildSettings
  split
  · exact .inr ⟨_, by simp, rfl⟩
  · split
    · exact .inr ⟨_, by simp, rfl⟩
    · rename_i hfits
      cases hrow : table settings.guildId with
      | none => exact .inr ⟨_, by simp, rfl⟩
      | some row =>
        dsimp only
        split
        · exact .inr ⟨_, by simp, rfl⟩
        · rename_i hsame
          split
          · exact .inr ⟨_, by simp, rfl⟩
          · rename_i hroom
            left
            refine ⟨row, _, rfl, by simpa using hsame, rfl, ?_, rfl⟩
            have hlt : expectedRevision.get.toNat + 1 < 2 ^ 64 := by
              have hle : expectedRevision.toNat ≤ I64_MAX := by omega
              have hbound : I64_MAX + 1 < 2 ^ 64 := by decide
              have hget : expectedRevision.get.toNat = expectedRevision.toNat := rfl
              omega
            show (expectedRevision.get + 1).toNat = expectedRevision.get.toNat + 1
            rw [UInt64.toNat_add]
            simpa using hlt

end GuildSettingsTable

end PepeAudio
