import Mathlib.Data.List.TakeDrop
import PepeAudio.Bot.ComponentId

/-!
# Component ids are read back and authenticated
-/
namespace PepeAudio

theorem rsplitOnce_append {separator : Char} {value front last : String}
    (hvalue : value.toList = front.toList ++ separator :: last.toList)
    (h : separator ∉ last.toList) : rsplitOnce separator value = some (front, last) := by
  have hlast : ∀ c ∈ last.toList.reverse, (c != separator) = true := by
    intro c hc
    rw [bne_iff_ne]
    rintro rfl
    exact h (List.mem_reverse.mp hc)
  have hreverse : value.toList.reverse
      = last.toList.reverse ++ separator :: front.toList.reverse := by
    simp [hvalue]
  simp [rsplitOnce, List.span_eq_takeWhile_dropWhile, hreverse,
    List.takeWhile_append_of_pos hlast, List.dropWhile_append_of_pos hlast]

theorem rsplitOnce_some {separator : Char} {value front last : String}
    (h : rsplitOnce separator value = some (front, last)) :
    value.toList = front.toList ++ separator :: last.toList ∧ separator ∉ last.toList := by
  rw [rsplitOnce, List.span_eq_takeWhile_dropWhile] at h
  have hsplit := List.takeWhile_append_dropWhile (p := (· != separator)) (l := value.toList.reverse)
  have hbefore : ∀ c ∈ value.toList.reverse.takeWhile (· != separator), c ≠ separator :=
    fun c hc => by simpa using List.mem_takeWhile_imp hc
  have hhead := List.head?_dropWhile_not (· != separator) value.toList.reverse
  generalize value.toList.reverse.takeWhile (· != separator) = before at h hsplit hbefore
  generalize value.toList.reverse.dropWhile (· != separator) = behind at h hsplit hhead
  cases behind with
  | nil => contradiction
  | cons c behind =>
    obtain ⟨rfl, rfl⟩ := Prod.mk.inj (Option.some.inj h)
    have hc : c = separator := by simpa using hhead
    have hvalue := congrArg List.reverse hsplit
    constructor
    · simpa [hc] using hvalue.symm
    · intro hmem
      exact hbefore separator (by simpa using hmem) rfl

theorem okOr_eq_ok {ε α : Type} {value : Option α} {error : ε} {a : α}
    (h : okOr value error = .ok a) : value = some a := by
  cases value with
  | none => contradiction
  | some b => exact congrArg some (Except.ok.inj h)

theorem parse_code (action : ComponentAction) :
    ComponentAction.parse action.code = some action := by
  cases action <;> rfl

theorem code_alphanum (action : ComponentAction) : ∀ c ∈ action.code.toList, c.isAlphanum := by
  have hall : action.code.toList.all Char.isAlphanum = true := by cases action <;> decide
  exact List.all_eq_true.mp hall

theorem parseHex_lowerHex (n : UInt64) : parseHex (lowerHex n) = some n := by
  have hread := fromStrRadix_toDigits (show 1 < 16 by decide) le_rfl n.toNat_lt
  simp [parseHex, lowerHex, hread]

theorem lowerHex_alphanum (n : UInt64) : ∀ c ∈ (lowerHex n).toList, c.isAlphanum := by
  intro c hc
  exact isAlphanum_of_mem_toDigits (show 1 < 16 by decide) le_rfl
    (by simpa [lowerHex] using hc)

theorem lowerHex_length (n : UInt64) : (lowerHex n).toList.length ≤ 16 := by
  have hlength : (Nat.toDigits 16 n.toNat).length ≤ 16 :=
    (Nat.length_toDigits_le_iff (by decide) (by decide)).mpr n.toNat_lt
  simpa [lowerHex] using hlength

theorem not_mem_of_isAlphanum {cs : List Char} (h : ∀ c ∈ cs, c.isAlphanum) : '.' ∉ cs := by
  intro hmem
  have := h '.' hmem
  contradiction

theorem ascii_of_isAlphanum {cs : List Char} (h : ∀ c ∈ cs, c.isAlphanum) :
    ∀ c ∈ cs, c.toNat < 0x80 :=
  fun c hc => isAlphanum_lt (h c hc)

namespace ComponentIdCodec

variable (action : ComponentAction) (guildId : GuildId) (revision : StateRevision)

theorem toList_body : (body action guildId revision).toList
    = COMPONENT_PREFIX.toList ++ '.' :: (action.code.toList ++ '.' ::
      ((lowerHex guildId.value.get).toList ++ '.' :: (lowerHex revision.get).toList)) := by
  simp [body]

theorem splitOn_body : (body action guildId revision).toList.splitOn '.'
    = [COMPONENT_PREFIX.toList, action.code.toList, (lowerHex guildId.value.get).toList,
      (lowerHex revision.get).toList] := by
  have hleading : '.' ∉ COMPONENT_PREFIX.toList := by decide
  rw [toList_body, List.splitOn_append_cons_self_of_not_mem hleading,
    List.splitOn_append_cons_self_of_not_mem (not_mem_of_isAlphanum (code_alphanum action)),
    List.splitOn_append_cons_self_of_not_mem (not_mem_of_isAlphanum (lowerHex_alphanum _)),
    List.splitOn_eq_singleton (not_mem_of_isAlphanum (lowerHex_alphanum _))]

theorem decodeFields_body :
    decodeFields (body action guildId revision) = .ok ⟨action, guildId, revision⟩ := by
  have hguild : Snowflake.new .guild guildId.value.get = .ok guildId := by
    simp [Snowflake.new, guildId.value.ne_zero]
  simp [decodeFields, splitOn_body, parse_code, parseHex_lowerHex, hguild, okOr,
    Except.mapError, bind, Except.bind, pure, Except.pure]

theorem body_ascii : ∀ c ∈ (body action guildId revision).toList, c.toNat < 0x80 := by
  have hleading : COMPONENT_PREFIX.toList.all (fun c => c.toNat < 0x80) = true := by decide
  have hcode := ascii_of_isAlphanum (code_alphanum action)
  have hguild := ascii_of_isAlphanum (lowerHex_alphanum guildId.value.get)
  have hrevision := ascii_of_isAlphanum (lowerHex_alphanum revision.get)
  intro c hc
  simp only [toList_body, List.mem_append, List.mem_cons] at hc
  rcases hc with hc | rfl | hc | rfl | hc | rfl | hc
  · exact of_decide_eq_true (List.all_eq_true.mp hleading c hc)
  · decide
  · exact hcode c hc
  · decide
  · exact hguild c hc
  · decide
  · exact hrevision c hc

theorem body_length : (body action guildId revision).toList.length ≤ 39 := by
  have hleading : COMPONENT_PREFIX.toList.length = 3 := rfl
  have hcode : action.code.toList.length = 1 := by cases action <;> rfl
  have hguild := lowerHex_length guildId.value.get
  have hrevision := lowerHex_length revision.get
  simp only [toList_body, List.length_append, List.length_cons]
  omega

variable (hash : KeyedHash) (base64 : Base64Codec) (codec : ComponentIdCodec)

theorem tag_length (value : List UInt8) : (codec.tag hash value).length = TAG_BYTES := by
  simp [tag, TAG_BYTES]

theorem signature_ascii (body : String) :
    ∀ c ∈ (codec.signature hash base64 body).toList, c.toNat < 0x80 ∧ c ≠ '.' := by
  simpa [signature] using base64.ascii_encode (codec.tag hash body.toByteArray.toList)

theorem signature_length (body : String) :
    (codec.signature hash base64 body).toList.length = 14 := by
  simp [signature, base64.length_encode, tag_length, TAG_BYTES]

theorem verifyTruncatedLeft_iff (full : Vector UInt8 32) {tag : List UInt8}
    (h : tag.length = TAG_BYTES) :
    verifyTruncatedLeft full tag = true ↔ full.toList.take TAG_BYTES = tag := by
  simp [verifyTruncatedLeft, h, TAG_BYTES]

theorem toList_encode : (codec.encode hash base64 action guildId revision).toList
    = (body action guildId revision).toList ++ '.' ::
      (codec.signature hash base64 (body action guildId revision)).toList := by
  simp [encode]

theorem encode_length :
    (codec.encode hash base64 action guildId revision).toList.length ≤ 54 := by
  have hbody := body_length action guildId revision
  have hsignature := signature_length hash base64 codec (body action guildId revision)
  simp only [toList_encode, List.length_append, List.length_cons]
  omega

theorem encode_byteSize :
    (codec.encode hash base64 action guildId revision).utf8ByteSize ≤ 54 := by
  have hascii : ∀ c ∈ (codec.encode hash base64 action guildId revision).toList,
      c.toNat < 0x80 := by
    intro c hc
    simp only [toList_encode, List.mem_append, List.mem_cons] at hc
    rcases hc with hc | rfl | hc
    · exact body_ascii action guildId revision c hc
    · decide
    · exact (signature_ascii hash base64 codec _ c hc).1
  rw [Url.utf8ByteSize_of_ascii hascii]
  exact encode_length action guildId revision hash base64 codec

theorem rsplitOnce_encode : rsplitOnce '.' (codec.encode hash base64 action guildId revision)
    = some (body action guildId revision,
      codec.signature hash base64 (body action guildId revision)) := by
  refine rsplitOnce_append (toList_encode action guildId revision hash base64 codec) ?_
  intro hmem
  exact (signature_ascii hash base64 codec _ '.' hmem).2 rfl

theorem decode_encode : codec.decode hash base64 (codec.encode hash base64 action guildId revision)
    = .ok ⟨action, guildId, revision⟩ := by
  have hsize := encode_byteSize action guildId revision hash base64 codec
  have hverified := (verifyTruncatedLeft_iff
    (hash codec.key (body action guildId revision).toByteArray.toList)
    (tag_length hash codec (body action guildId revision).toByteArray.toList)).mpr rfl
  rw [decode, if_neg (by omega), rsplitOnce_encode]
  simp only [okOr, signature, String.toList_ofList, base64.decode_encode, tag_length, hverified,
    decodeFields_body, bind, Except.bind]
  rfl

variable {hash base64 codec}

/-- What is read carries the tag of its body behind its last dot. -/
theorem authentic_of_decode {value : String} {decoded : DecodedComponentId}
    (h : codec.decode hash base64 value = .ok decoded) :
    ∃ body tag : String, value = body ++ "." ++ tag ∧ '.' ∉ tag.toList
      ∧ tag = codec.signature hash base64 body := by
  unfold decode at h
  split at h
  · contradiction
  · obtain ⟨⟨body, tag⟩, hsplit, h⟩ := bind_eq_ok h
    obtain ⟨decodedTag, htag, h⟩ := bind_eq_ok h
    have hparts := rsplitOnce_some (okOr_eq_ok hsplit)
    have hencoded := base64.encode_of_decode _ _ (okOr_eq_ok htag)
    refine ⟨body, tag, ?_, hparts.2, ?_⟩
    · apply String.toList_injective
      simpa using hparts.1
    · split at h
      · contradiction
      · next hlength =>
        split at h
        · contradiction
        · next hverified =>
          have hequal := (verifyTruncatedLeft_iff _ (not_not.mp hlength)).mp
            (by simpa using hverified)
          apply String.toList_injective
          rw [signature, String.toList_ofList, ComponentIdCodec.tag, hequal, hencoded]

variable (hash base64 codec)

/-- An id is read back as what it was written for and has at most a hundred characters; no two
are the same; and only ids that end in the tag of the rest are read. -/
theorem component_ids_authenticate :
    (∀ action guildId revision,
      codec.decode hash base64 (codec.encode hash base64 action guildId revision)
          = .ok ⟨action, guildId, revision⟩
        ∧ (codec.encode hash base64 action guildId revision).length ≤ 100)
      ∧ (∀ action guildId revision action' guildId' revision',
        codec.encode hash base64 action guildId revision
            = codec.encode hash base64 action' guildId' revision' →
          action = action' ∧ guildId = guildId' ∧ revision = revision')
      ∧ ∀ value decoded, codec.decode hash base64 value = .ok decoded →
        ∃ body tag : String, value = body ++ "." ++ tag ∧ '.' ∉ tag.toList
          ∧ tag = String.ofList (base64.encode
            ((hash codec.key body.toByteArray.toList).toList.take 10)) := by
  refine ⟨?_, ?_, fun value decoded h => authentic_of_decode h⟩
  · intro action guildId revision
    have hlength := encode_length action guildId revision hash base64 codec
    rw [String.length_toList] at hlength
    exact ⟨decode_encode action guildId revision hash base64 codec, by omega⟩
  · intro action guildId revision action' guildId' revision' h
    have hdecode := decode_encode action guildId revision hash base64 codec
    rw [h, decode_encode] at hdecode
    obtain ⟨rfl, rfl, rfl⟩ := DecodedComponentId.mk.inj (Except.ok.inj hdecode)
    exact ⟨rfl, rfl, rfl⟩

/-- Under a hash that is zero everywhere. -/
theorem component_ids_authenticate_zeroTag :
    (⟨List.replicate 32 7, by decide⟩ : ComponentIdCodec).encode
        (fun _ _ => Vector.replicate 32 0) Base64.urlSafeNoPad .skip ⟨⟨255, by decide⟩⟩ ⟨2⟩
      = "pa1.n.ff.2.AAAAAAAAAAAAAA"
      ∧ (⟨List.replicate 32 7, by decide⟩ : ComponentIdCodec).decode
        (fun _ _ => Vector.replicate 32 0) Base64.urlSafeNoPad "pa1.n.ff.2.AAAAAAAAAAAAAA"
      = .ok ⟨.skip, ⟨⟨255, by decide⟩⟩, ⟨2⟩⟩ := by
  have hencoded : (⟨List.replicate 32 7, by decide⟩ : ComponentIdCodec).encode
      (fun _ _ => Vector.replicate 32 0) Base64.urlSafeNoPad .skip ⟨⟨255, by decide⟩⟩ ⟨2⟩
      = "pa1.n.ff.2.AAAAAAAAAAAAAA" := by decide +kernel
  have hdecoded := ((component_ids_authenticate (fun _ _ => Vector.replicate 32 0)
    Base64.urlSafeNoPad ⟨List.replicate 32 7, by decide⟩).1 .skip ⟨⟨255, by decide⟩⟩ ⟨2⟩).1
  rw [hencoded] at hdecoded
  exact ⟨hencoded, hdecoded⟩

end ComponentIdCodec

end PepeAudio
