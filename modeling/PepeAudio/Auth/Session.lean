import PepeAudio.Auth.Repository
import PepeAudio.Core.TextSize
import PepeAudio.Lib.Program

/-!
# Session data

What the server keeps of a signed-in user, the shape it is checked for and its
JSON. A session of a valid shape is read back as it was written, in a text of
bounded length.
-/
namespace PepeAudio

/-- Discord guild membership projected into a session. -/
structure GuildSummary where
  id : GuildId
  name : String
  /-- Icon hash, not a URL. -/
  icon : Option String
  owner : Bool
  /-- Guild-level permission bits. -/
  permissions : UInt64
  deriving DecidableEq, Repr

/-- Browser-safe Discord identity. -/
structure UserProfile where
  username : String
  displayName : String
  /-- Avatar hash, not a URL. -/
  avatar : Option String
  deriving DecidableEq, Repr

/-- Full session data held only on the server. -/
structure SessionData where
  schemaVersion : UInt8
  userId : UserId
  profile : Option UserProfile
  /-- Synchronizer token. -/
  csrfToken : String
  guilds : List GuildSummary
  createdAtMs : UInt64
  /-- Hard expiry. -/
  expiresAtMs : UInt64
  /-- Most recent successful lookup. -/
  lastSeenAtMs : UInt64
  deriving DecidableEq, Repr

def validProfileText (value : String) : Bool := validateText value 128

def validAssetHash (value : String) : Bool :=
  !value.isEmpty && value.utf8ByteSize ≤ 128 && value.toList.all fun c => c.isAlphanum || c = '_'

def UserProfile.isValidShape (profile : UserProfile) : Bool :=
  validProfileText profile.username && validProfileText profile.displayName &&
    profile.avatar.all validAssetHash

/-- What a guild is checked for besides its identifier. -/
def GuildSummary.isValidShape (guild : GuildSummary) : Bool :=
  !guild.name.isEmpty && guild.name.utf8ByteSize ≤ 256 && !guild.name.toList.any isControl &&
    guild.icon.all validAssetHash

namespace SessionData

def SCHEMA_VERSION : UInt8 := 1

def isValidShape (session : SessionData) : Bool :=
  session.schemaVersion = SCHEMA_VERSION && isTokenShape session.csrfToken &&
    session.guilds.length ≤ 200 && session.profile.all UserProfile.isValidShape &&
    (session.guilds.map GuildSummary.id).Nodup && session.guilds.all GuildSummary.isValidShape &&
    session.createdAtMs ≤ session.lastSeenAtMs && session.lastSeenAtMs < session.expiresAtMs

/-- The shape, part by part. -/
structure Valid (session : SessionData) : Prop where
  schema : session.schemaVersion = SCHEMA_VERSION
  csrf : isTokenShape session.csrfToken = true
  guilds_le : session.guilds.length ≤ 200
  profile : ∀ profile ∈ session.profile, profile.isValidShape = true
  distinct : (session.guilds.map GuildSummary.id).Nodup
  guilds : ∀ guild ∈ session.guilds, guild.isValidShape = true
  seen : session.createdAtMs.toNat ≤ session.lastSeenAtMs.toNat
  live : session.lastSeenAtMs.toNat < session.expiresAtMs.toNat

theorem isValidShape_iff {session : SessionData} : session.isValidShape = true ↔ session.Valid := by
  unfold isValidShape
  simp only [Bool.and_eq_true, decide_eq_true_eq, UInt64.le_iff_toNat_le, UInt64.lt_iff_toNat_lt,
    Option.all_eq_true, List.all_eq_true]
  constructor
  · rintro ⟨⟨⟨⟨⟨⟨⟨hschema, hcsrf⟩, hcount⟩, hprofile⟩, hdistinct⟩, hguilds⟩, hseen⟩, hlive⟩
    exact ⟨hschema, hcsrf, hcount, hprofile, hdistinct, hguilds, hseen, hlive⟩
  · intro h
    exact ⟨⟨⟨⟨⟨⟨⟨h.schema, h.csrf⟩, h.guilds_le⟩, h.profile⟩, h.distinct⟩, h.guilds⟩, h.seen⟩,
      h.live⟩

end SessionData

def GuildSummary.toJson (guild : GuildSummary) : Json :=
  .object [("id", guild.id.toJson), ("name", .string guild.name), ("icon", optionalText guild.icon),
    ("owner", .bool guild.owner), ("permissions", .string (decimal guild.permissions))]

def GuildSummary.fromJson (json : Json) : Except Unit GuildSummary := do
  let fields ← json.asObject
  let id ← Snowflake.fromJson .guild (← requiredField "id" fields)
  let name ← (← requiredField "name" fields).asString
  let icon ← optional Json.asString (← field "icon" fields)
  let owner ← (← requiredField "owner" fields).asBool
  let permissions ← parseU64 (← (← requiredField "permissions" fields).asString)
  return { id, name, icon, owner, permissions }

def UserProfile.toJson (profile : UserProfile) : Json :=
  .object [("username", .string profile.username), ("display_name", .string profile.displayName),
    ("avatar", optionalText profile.avatar)]

def UserProfile.fromJson (json : Json) : Except Unit UserProfile := do
  let fields ← json.asObject
  let username ← (← requiredField "username" fields).asString
  let displayName ← (← requiredField "display_name" fields).asString
  let avatar ← optional Json.asString (← field "avatar" fields)
  return { username, displayName, avatar }

namespace SessionData

def fields (session : SessionData) : List (String × Json) :=
  [("schema_version", .number (.natural session.schemaVersion.toNat)),
    ("user_id", session.userId.toJson),
    ("profile", session.profile.elim .null UserProfile.toJson),
    ("csrf_token", .string session.csrfToken),
    ("guilds", .array (session.guilds.map GuildSummary.toJson)),
    ("created_at_ms", .number (.natural session.createdAtMs.toNat)),
    ("expires_at_ms", .number (.natural session.expiresAtMs.toNat)),
    ("last_seen_at_ms", .number (.natural session.lastSeenAtMs.toNat))]

def toJson (session : SessionData) : Json := .object session.fields

/-- The fields of an object in any order. A profile may be missing. -/
def fromJson (json : Json) : Except Unit SessionData := do
  let fields ← json.asObject
  let schemaVersion ← (← requiredField "schema_version" fields).asNatBelow UInt8.size
  let userId ← Snowflake.fromJson .user (← requiredField "user_id" fields)
  let profile ← optional UserProfile.fromJson (← field "profile" fields)
  let csrfToken ← (← requiredField "csrf_token" fields).asString
  let guilds ← (← (← requiredField "guilds" fields).asArray).mapM GuildSummary.fromJson
  let createdAtMs ← (← requiredField "created_at_ms" fields).asNatBelow UInt64.size
  let expiresAtMs ← (← requiredField "expires_at_ms" fields).asNatBelow UInt64.size
  let lastSeenAtMs ← (← requiredField "last_seen_at_ms" fields).asNatBelow UInt64.size
  return { schemaVersion := .ofNat schemaVersion, userId, profile, csrfToken, guilds,
           createdAtMs := .ofNat createdAtMs, expiresAtMs := .ofNat expiresAtMs,
           lastSeenAtMs := .ofNat lastSeenAtMs }

end SessionData

theorem GuildSummary.fromJson_toJson (guild : GuildSummary) :
    GuildSummary.fromJson guild.toJson = .ok guild := by
  have hid := Snowflake.fromJson_toJson guild.id
  have hicon := optional_optionalText guild.icon
  have hpermissions := parseU64_decimal guild.permissions
  simp [GuildSummary.fromJson, GuildSummary.toJson, Json.asObject, requiredField, field, hid,
    Json.asString, hicon, Json.asBool, hpermissions, bind, Except.bind, pure, Except.pure]

theorem UserProfile.fromJson_toJson (profile : UserProfile) :
    UserProfile.fromJson profile.toJson = .ok profile := by
  have havatar := optional_optionalText profile.avatar
  simp [UserProfile.fromJson, UserProfile.toJson, Json.asObject, requiredField, field,
    Json.asString, havatar, bind, Except.bind, pure, Except.pure]

theorem optional_profile (profile : Option UserProfile) :
    optional UserProfile.fromJson (some (profile.elim .null UserProfile.toJson)) = .ok profile := by
  cases profile with
  | none => rfl
  | some profile =>
    have hprofile := UserProfile.fromJson_toJson profile
    show (UserProfile.fromJson profile.toJson).map some = _
    rw [hprofile]
    rfl

theorem mapM_guilds (guilds : List GuildSummary) :
    (guilds.map GuildSummary.toJson).mapM GuildSummary.fromJson = .ok guilds := by
  induction guilds with
  | nil => rfl
  | cons guild guilds ih =>
    rw [List.map_cons, List.mapM_cons, GuildSummary.fromJson_toJson, ih]
    rfl

theorem SessionData.fromJson_toJson (session : SessionData) :
    SessionData.fromJson session.toJson = .ok session := by
  have huser := Snowflake.fromJson_toJson session.userId
  have hprofile := optional_profile session.profile
  have hguilds := mapM_guilds session.guilds
  have hschema := session.schemaVersion.toNat_lt
  have hcreated := session.createdAtMs.toNat_lt
  have hexpires := session.expiresAtMs.toNat_lt
  have hseen := session.lastSeenAtMs.toNat_lt
  simp [SessionData.fromJson, SessionData.toJson, SessionData.fields, Json.asObject, requiredField,
    field, huser,
    hprofile, Json.asString, Json.asArray, hguilds, Json.asNatBelow, UInt8.size, UInt64.size,
    hschema, hcreated, hexpires, hseen, bind, Except.bind, pure, Except.pure]

/-- What a text must hold to be read as a session. -/
theorem SessionData.of_fromJson {json : Json} {session : SessionData}
    (h : SessionData.fromJson json = .ok session) :
    ∃ fields, json = .object fields ∧
      (∃ value, requiredField "user_id" fields = .ok value ∧
        Snowflake.fromJson .user value = .ok session.userId) ∧
      (∃ items, requiredField "guilds" fields = .ok (.array items)) ∧
      requiredField "expires_at_ms" fields =
        .ok (.number (.natural session.expiresAtMs.toNat)) := by
  obtain ⟨fields, hfields, h⟩ := bind_eq_ok h
  obtain ⟨schema, hschema, h⟩ := bind_eq_ok h
  obtain ⟨schemaVersion, -, h⟩ := bind_eq_ok h
  obtain ⟨user, huser, h⟩ := bind_eq_ok h
  obtain ⟨userId, huserId, h⟩ := bind_eq_ok h
  obtain ⟨profileField, -, h⟩ := bind_eq_ok h
  obtain ⟨profile, -, h⟩ := bind_eq_ok h
  obtain ⟨csrfField, -, h⟩ := bind_eq_ok h
  obtain ⟨csrfToken, -, h⟩ := bind_eq_ok h
  obtain ⟨guildsField, hguilds, h⟩ := bind_eq_ok h
  obtain ⟨items, hitems, h⟩ := bind_eq_ok h
  obtain ⟨guilds, -, h⟩ := bind_eq_ok h
  obtain ⟨createdField, -, h⟩ := bind_eq_ok h
  obtain ⟨createdAtMs, -, h⟩ := bind_eq_ok h
  obtain ⟨expiresField, hexpires, h⟩ := bind_eq_ok h
  obtain ⟨expiresAtMs, hnumber, h⟩ := bind_eq_ok h
  obtain ⟨seenField, -, h⟩ := bind_eq_ok h
  obtain ⟨lastSeenAtMs, -, h⟩ := bind_eq_ok h
  injection h with h
  have hobject : json = .object fields := by
    cases json with
    | object => exact congrArg Json.object (Except.ok.inj hfields)
    | _ => contradiction
  have harray : guildsField = .array items := by
    cases guildsField with
    | array => exact congrArg Json.array (Except.ok.inj hitems)
    | _ => contradiction
  refine ⟨fields, hobject, ⟨user, huser, ?_⟩, ⟨items, harray ▸ hguilds⟩, ?_⟩
  · rw [huserId, ← h]
  · cases expiresField with
    | number number =>
      cases number with
      | natural n =>
        simp only [Json.asNatBelow] at hnumber
        split_ifs at hnumber with hlt
        obtain rfl := Except.ok.inj hnumber
        rw [hexpires, ← h, UInt64.toNat_ofNat_of_lt' hlt]
      | scientific => contradiction
    | _ => contradiction

variable {escaped : Char → ℕ}

theorem AtMostDoubles.assetHash (h : AtMostDoubles escaped) {value : String}
    (hvalue : validAssetHash value = true) : PepeAudio.quotedSize escaped value ≤ 258 := by
  simp only [validAssetHash, Bool.and_eq_true, decide_eq_true_eq] at hvalue
  refine h.quotedSize (isPlainText_of_all hvalue.2 fun c hc => isControl_eq_false ?_) hvalue.1.2
  simp only [Bool.or_eq_true, decide_eq_true_eq] at hc
  tauto

theorem AtMostDoubles.optionalAssetHash (h : AtMostDoubles escaped) {value : Option String}
    (hvalue : value.all validAssetHash = true) : (optionalText value).size escaped ≤ 258 := by
  cases value with
  | none => exact Nat.le_of_ble_eq_true rfl
  | some value =>
    rw [optionalText, Json.size]
    exact h.assetHash hvalue

theorem AtMostDoubles.profileText (h : AtMostDoubles escaped) {value : String}
    (hvalue : validProfileText value = true) : PepeAudio.quotedSize escaped value ≤ 258 := by
  simp only [validProfileText, validateText, Bool.and_eq_true, decide_eq_true_eq] at hvalue
  exact h.quotedSize hvalue.2 hvalue.1.2

theorem GuildSummary.size_le (h : AtMostDoubles escaped) {guild : GuildSummary}
    (hshape : guild.isValidShape = true) : guild.toJson.size escaped ≤ 1000 := by
  simp only [isValidShape, Bool.and_eq_true, decide_eq_true_eq] at hshape
  have hid := h.decimal_le guild.id.value.get
  have hname := h.quotedSize hshape.1.2 hshape.1.1.2
  have hicon := h.optionalAssetHash hshape.2
  have hpermissions := h.decimal_le guild.permissions
  have howner : (Json.bool guild.owner).size escaped ≤ 5 := by
    cases guild.owner with
    | false => exact Nat.le_refl 5
    | true => exact Nat.le_succ 4
  have h1 : quotedSize escaped "id" ≤ 2 + 2 * 2 := h.quotedSize (by decide) (by decide)
  have h2 : quotedSize escaped "name" ≤ 2 + 2 * 4 := h.quotedSize (by decide) (by decide)
  have h3 : quotedSize escaped "icon" ≤ 2 + 2 * 4 := h.quotedSize (by decide) (by decide)
  have h4 : quotedSize escaped "owner" ≤ 2 + 2 * 5 := h.quotedSize (by decide) (by decide)
  have h5 : quotedSize escaped "permissions" ≤ 2 + 2 * 11 :=
    h.quotedSize (by decide) (by decide)
  simp only [toJson, Snowflake.toJson, Json.size, fieldsSize, List.length_cons,
    List.length_nil] at howner ⊢
  omega

theorem UserProfile.size_le (h : AtMostDoubles escaped) {profile : UserProfile}
    (hshape : profile.isValidShape = true) : profile.toJson.size escaped ≤ 1000 := by
  simp only [isValidShape, Bool.and_eq_true] at hshape
  have husername := h.profileText hshape.1.1
  have hdisplayName := h.profileText hshape.1.2
  have havatar := h.optionalAssetHash hshape.2
  have h1 : quotedSize escaped "username" ≤ 2 + 2 * 8 := h.quotedSize (by decide) (by decide)
  have h2 : quotedSize escaped "display_name" ≤ 2 + 2 * 12 :=
    h.quotedSize (by decide) (by decide)
  have h3 : quotedSize escaped "avatar" ≤ 2 + 2 * 6 := h.quotedSize (by decide) (by decide)
  simp only [toJson, Json.size, fieldsSize, List.length_cons, List.length_nil]
  omega

def MAX_SESSION_JSON_BYTES : ℕ := 256 * 1024

/-- A session of a valid shape fits into the text that is read back. -/
theorem SessionData.Valid.size_le {session : SessionData} (hvalid : session.Valid)
    (h : AtMostDoubles escaped) : session.toJson.size escaped ≤ MAX_SESSION_JSON_BYTES := by
  have hschema : digits session.schemaVersion.toNat ≤ 3 :=
    digits_le (by decide) (session.schemaVersion.toNat_lt.trans (by decide))
  have huser := h.decimal_le session.userId.value.get
  have hprofile : (session.profile.elim .null UserProfile.toJson).size escaped ≤ 1000 := by
    cases hprofile : session.profile with
    | none => exact Nat.le_of_ble_eq_true rfl
    | some profile => exact UserProfile.size_le h (hvalid.profile profile hprofile)
  have hcsrf : quotedSize escaped session.csrfToken ≤ 2 + 2 * 43 := by
    have hshape := hvalid.csrf
    simp only [isTokenShape, Bool.and_eq_true, decide_eq_true_eq] at hshape
    refine h.quotedSize (isPlainText_of_all hshape.2 fun c hc => isControl_eq_false ?_)
      hshape.1.le
    simp only [Bool.or_eq_true, decide_eq_true_eq] at hc
    tauto
  have hcount := hvalid.guilds_le
  have hguilds : itemsSize escaped (session.guilds.map GuildSummary.toJson) ≤
      session.guilds.length * 1000 := by
    rw [← List.length_map (f := GuildSummary.toJson)]
    refine itemsSize_le fun item hitem => ?_
    obtain ⟨guild, hguild, rfl⟩ := List.mem_map.mp hitem
    exact GuildSummary.size_le h (hvalid.guilds guild hguild)
  have hcreated : digits session.createdAtMs.toNat ≤ 20 := digits_toNat_le session.createdAtMs
  have hexpires : digits session.expiresAtMs.toNat ≤ 20 := digits_toNat_le session.expiresAtMs
  have hseen : digits session.lastSeenAtMs.toNat ≤ 20 := digits_toNat_le session.lastSeenAtMs
  have h1 : quotedSize escaped "schema_version" ≤ 2 + 2 * 14 :=
    h.quotedSize (by decide) (by decide)
  have h2 : quotedSize escaped "user_id" ≤ 2 + 2 * 7 := h.quotedSize (by decide) (by decide)
  have h3 : quotedSize escaped "profile" ≤ 2 + 2 * 7 := h.quotedSize (by decide) (by decide)
  have h4 : quotedSize escaped "csrf_token" ≤ 2 + 2 * 10 := h.quotedSize (by decide) (by decide)
  have h5 : quotedSize escaped "guilds" ≤ 2 + 2 * 6 := h.quotedSize (by decide) (by decide)
  have h6 : quotedSize escaped "created_at_ms" ≤ 2 + 2 * 13 :=
    h.quotedSize (by decide) (by decide)
  have h7 : quotedSize escaped "expires_at_ms" ≤ 2 + 2 * 13 :=
    h.quotedSize (by decide) (by decide)
  have h8 : quotedSize escaped "last_seen_at_ms" ≤ 2 + 2 * 15 :=
    h.quotedSize (by decide) (by decide)
  unfold MAX_SESSION_JSON_BYTES
  simp only [toJson, fields, Snowflake.toJson, Json.size, JsonNumber.size, fieldsSize,
    List.length_cons, List.length_nil, List.length_map]
  omega

end PepeAudio
