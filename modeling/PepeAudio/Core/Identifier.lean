import PepeAudio.Core.Text
import PepeAudio.Lib.Counter
import Mathlib.Order.Basic

/-!
# Identifiers, clocks and bounded settings

Each newtype of the core crate is a structure. The ones with a validating
constructor carry what it checks, so that an invalid value does not exist.
-/
namespace PepeAudio

/-- A UUID as its sixteen bytes in memory order. -/
structure Uuid where
  bytes : Vector UInt8 16
  deriving DecidableEq, Repr

/-- `Uuid::from_u128`, most significant byte first. -/
def Uuid.fromU128 (n : ℕ) : Uuid := ⟨Vector.ofFn fun i => UInt8.ofNat (n >>> (8 * (15 - i.val)))⟩

/-- `NonZeroU64`. -/
structure NonZeroU64 where
  get : UInt64
  ne_zero : get ≠ 0
  deriving DecidableEq, Repr

namespace NonZeroU64

/-- `NonZeroU64::MIN` -/
def MIN : NonZeroU64 := ⟨1, by decide⟩

def two : NonZeroU64 := ⟨2, by decide⟩

def seven : NonZeroU64 := ⟨7, by decide⟩

end NonZeroU64

/-- The three uses of the identifier macro. -/
inductive SnowflakeKind where
  | guild
  | channel
  | user
  deriving DecidableEq, Repr

/-- A validated Discord identifier; the kind keeps the three newtypes apart. -/
structure Snowflake (kind : SnowflakeKind) where
  value : NonZeroU64
  deriving DecidableEq, Repr

abbrev GuildId := Snowflake .guild
abbrev ChannelId := Snowflake .channel
abbrev UserId := Snowflake .user

inductive SnowflakeParseError where
  | zero
  | invalidDecimal
  deriving DecidableEq, Repr

def Snowflake.new (kind : SnowflakeKind) (value : UInt64) :
    Except SnowflakeParseError (Snowflake kind) :=
  if h : value = 0 then .error .zero else .ok ⟨⟨value, h⟩⟩

/-- A monotonically increasing version of a guild's player state. -/
structure StateRevision where
  get : UInt64
  deriving DecidableEq, Repr

namespace StateRevision

def INITIAL : StateRevision := ⟨0⟩

def checkedNext (revision : StateRevision) : Option StateRevision :=
  (checkedSucc revision.get).map StateRevision.mk

/-- The revision as a number, for comparisons. -/
def toNat (revision : StateRevision) : ℕ := revision.get.toNat

theorem checkedNext_toNat {r r' : StateRevision} (h : r.checkedNext = some r') :
    r'.toNat = r.toNat + 1 := by
  obtain ⟨n, hn, rfl⟩ := Option.map_eq_some_iff.mp h
  exact checkedSucc_toNat hn

theorem checkedNext_of_toNat {r r' : StateRevision} (h : r'.toNat = r.toNat + 1) :
    r.checkedNext = some r' := by
  rw [checkedNext, checkedSucc_of_toNat h]
  rfl

theorem toNat_injective : Function.Injective toNat := by
  rintro ⟨a⟩ ⟨b⟩ h
  exact congrArg StateRevision.mk (UInt64.toNat_inj.mp h)

end StateRevision

/-- A Unix timestamp in milliseconds. -/
structure UnixTimeMillis where
  get : UInt64
  deriving DecidableEq, Repr

/-- Identity of one started or sought playback instance. -/
structure PlaybackGeneration where
  get : UInt64
  deriving DecidableEq, Repr

namespace PlaybackGeneration

def next (generation : PlaybackGeneration) : Option PlaybackGeneration :=
  (checkedSucc generation.get).map PlaybackGeneration.mk

def toNat (generation : PlaybackGeneration) : ℕ := generation.get.toNat

theorem next_toNat {g g' : PlaybackGeneration} (h : g.next = some g') :
    g'.toNat = g.toNat + 1 := by
  obtain ⟨n, hn, rfl⟩ := Option.map_eq_some_iff.mp h
  exact checkedSucc_toNat hn

end PlaybackGeneration

/-- Identity assigned whenever the idle timer is armed or invalidated. -/
structure IdleGeneration where
  get : UInt64
  deriving DecidableEq, Repr

namespace IdleGeneration

def next (generation : IdleGeneration) : Option IdleGeneration :=
  (checkedSucc generation.get).map IdleGeneration.mk

def toNat (generation : IdleGeneration) : ℕ := generation.get.toNat

theorem next_toNat {g g' : IdleGeneration} (h : g.next = some g') :
    g'.toNat = g.toNat + 1 := by
  obtain ⟨n, hn, rfl⟩ := Option.map_eq_some_iff.mp h
  exact checkedSucc_toNat hn

end IdleGeneration

/-- An integral volume percentage. -/
structure Volume where
  percent : UInt8
  bounded : percent ≤ 100
  deriving DecidableEq, Repr

structure VolumeError where
  percent : UInt8
  deriving DecidableEq, Repr

namespace Volume

def DEFAULT : Volume := ⟨10, by decide⟩

def half : Volume := ⟨50, by decide⟩

def new (percent : UInt8) : Except VolumeError Volume :=
  if h : percent ≤ 100 then .ok ⟨percent, h⟩ else .error ⟨percent⟩

end Volume

/-- Maximum accepted length of a preset identifier, in UTF-8 bytes. -/
def MAX_HRIR_PRESET_ID_BYTES : ℕ := 128

/-- What the preset identifier constructor requires of its text. -/
def isHrirPresetId (value : String) : Bool :=
  !value.isEmpty && value.utf8ByteSize ≤ MAX_HRIR_PRESET_ID_BYTES && trim value == value &&
    !value.toList.any isControl

/-- A stable identifier of an installed HRIR preset. -/
structure HrirPresetId where
  value : String
  valid : isHrirPresetId value = true
  deriving DecidableEq, Repr

def HrirPresetId.alpha : HrirPresetId := ⟨"alpha", by decide⟩

inductive HrirPresetIdError where
  | empty
  | tooLong (bytes : ℕ)
  | surroundingWhitespace
  | controlCharacter
  deriving DecidableEq, Repr

/-- The checks in the order the constructor makes them. -/
def HrirPresetId.new (value : String) : Except HrirPresetIdError HrirPresetId :=
  if h₁ : value.isEmpty then .error .empty
  else if h₂ : MAX_HRIR_PRESET_ID_BYTES < value.utf8ByteSize then
    .error (.tooLong value.utf8ByteSize)
  else if h₃ : trim value ≠ value then .error .surroundingWhitespace
  else if h₄ : value.toList.any isControl then .error .controlCharacter
  else .ok ⟨value, by
    have hlen : value.utf8ByteSize ≤ MAX_HRIR_PRESET_ID_BYTES := Nat.le_of_not_lt h₂
    have htrim : trim value = value := not_not.mp h₃
    simp only [isHrirPresetId, htrim, hlen, beq_self_eq_true, decide_true, Bool.and_true]
    simpa using And.intro h₁ h₄⟩

end PepeAudio
