import PepeAudio.Catalog.PublicScanSafety

/-!
# Entities are decoded to the text they were written for
-/
namespace PepeAudio.Catalog.PublicScan

/-- The entities of the five characters that have a meaning in a page. -/
inductive EntityName : Char → List Char → Prop
  | amp : EntityName '&' "amp".toList
  | lt : EntityName '<' "lt".toList
  | gt : EntityName '>' "gt".toList
  | quot : EntityName '"' "quot".toList
  | apos : EntityName '\'' "apos".toList
  | number : EntityName '\'' "#39".toList

/-- `Escaped text written`: the text with these characters written as entities. -/
inductive Escaped : List Char → List Char → Prop
  | nil : Escaped [] []
  | plain {c : Char} {text written : List Char} (hplain : c ∉ ['&', '<', '>', '"', '\''])
      (rest : Escaped text written) : Escaped (c :: text) (c :: written)
  | entity {c : Char} {name text written : List Char} (hname : EntityName c name)
      (rest : Escaped text written) :
      Escaped (c :: text) ('&' :: (name ++ ';' :: written))

/-- Every text can be written so. -/
theorem exists_escaped (text : List Char) : ∃ written, Escaped text written := by
  induction text with
  | nil => exact ⟨[], .nil⟩
  | cons c text ih =>
    obtain ⟨written, hwritten⟩ := ih
    by_cases hplain : c ∈ ['&', '<', '>', '"', '\'']
    · simp only [List.mem_cons, List.not_mem_nil, or_false] at hplain
      rcases hplain with rfl | rfl | rfl | rfl | rfl
      · exact ⟨_, .entity .amp hwritten⟩
      · exact ⟨_, .entity .lt hwritten⟩
      · exact ⟨_, .entity .gt hwritten⟩
      · exact ⟨_, .entity .quot hwritten⟩
      · exact ⟨_, .entity .apos hwritten⟩
    · exact ⟨_, .plain hplain hwritten⟩

theorem byte_inj {c d : Char} (hc : c.toNat < 0x80) (hd : d.toNat < 0x80)
    (h : byte c = byte d) : c = d := by
  have hnat := congrArg UInt8.toNat h
  rw [byte, byte, UInt8.toNat_ofNat', UInt8.toNat_ofNat'] at hnat
  exact Char.toNat_inj.mp (by omega)

/-- The first byte of a character is that of another, ASCII one only if they are the same. -/
theorem head?_utf8EncodeChar_ne {c d : Char} (hd : d.toNat < 0x80) (hne : c ≠ d) :
    ∀ b ∈ (String.utf8EncodeChar c).head?, b ≠ byte d := by
  intro b hb heq
  subst heq
  by_cases hc : c.toNat < 0x80
  · rw [utf8EncodeChar_of_ascii hc] at hb
    exact hne (byte_inj hc hd (Option.some.inj hb))
  · have hlarge := not_ascii_of_mem hc (byte d) (List.mem_of_mem_head? hb)
    rw [byte, UInt8.toNat_ofNat'] at hlarge
    omega

theorem getElem?_utf8_append (front behind : List Char) (c : Char) :
    (utf8 (front ++ c :: behind))[(utf8 front).length]? = (String.utf8EncodeChar c).head? := by
  rw [utf8_append, List.getElem?_append_right le_rfl, Nat.sub_self, utf8_cons]
  cases hbytes : String.utf8EncodeChar c with
  | nil => exact absurd hbytes String.utf8EncodeChar_ne_nil
  | cons b bytes => rfl

theorem utf8_of_ascii {cs : List Char} (h : ∀ c ∈ cs, c.toNat < 0x80) :
    utf8 cs = cs.map byte := by
  induction cs with
  | nil => rfl
  | cons c cs ih =>
    rw [utf8_cons_of_ascii (h c List.mem_cons_self),
      ih fun d hd => h d (List.mem_cons_of_mem _ hd)]
    rfl

theorem findIdx?_take {xs : List UInt8} (ys : List UInt8) {b : UInt8} {k : ℕ} (hxs : b ∉ xs)
    (hk : xs.length < k) : ((xs ++ b :: ys).take k).findIdx? (· == b) = some xs.length := by
  induction xs generalizing k with
  | nil =>
    obtain ⟨k, rfl⟩ : ∃ k', k = k' + 1 := ⟨k - 1, by simp at hk; omega⟩
    simp [List.findIdx?_cons]
  | cons x xs ih =>
    obtain ⟨k, rfl⟩ : ∃ k', k = k' + 1 := ⟨k - 1, by simp at hk; omega⟩
    have hx : (x == b) = false := by
      rw [beq_eq_false_iff_ne]
      rintro rfl
      exact hxs List.mem_cons_self
    have hrest := ih (k := k) (fun hmem => hxs (List.mem_cons_of_mem _ hmem)) (by simpa using hk)
    simp [List.findIdx?_cons, hx, hrest]

theorem nextCharacter_plain (front behind : List Char) {c : Char} (hc : c ≠ '&') :
    nextCharacter (front ++ c :: behind) (utf8 front).length
      = .ok (some (c, (utf8 (front ++ [c])).length)) := by
  have hbyte := getElem?_utf8_append front behind c
  have hne := head?_utf8EncodeChar_ne (d := '&') (by decide) hc
  have hnone : entityAt (front ++ c :: behind) (utf8 front).length = .ok none := by
    unfold entityAt
    simp only [hbyte]
    cases hhead : (String.utf8EncodeChar c).head? with
    | none => exact absurd (List.head?_eq_none_iff.mp hhead) String.utf8EncodeChar_ne_nil
    | some b =>
      simp only
      rw [if_neg (hne b hhead)]
  have hslice := slice_append front (c :: behind) []
  rw [List.append_nil] at hslice
  simp only [nextCharacter, hnone, bind, Except.bind, hslice]
  simp [pure, Except.pure, length_utf8_cons]

theorem entityName_spec {c : Char} {name : List Char} (h : EntityName c name) :
    (∀ d ∈ name, d.toNat < 0x80) ∧ byte ';' ∉ name.map byte ∧ name.length ≤ 4
      ∧ htmlEntity name = .ok (some c) := by
  have hascii : name.all (fun d => d.toNat < 0x80) = true := by cases h <;> decide
  refine ⟨fun d hd => of_decide_eq_true (List.all_eq_true.mp hascii d hd), ?_, ?_, ?_⟩
  · cases h <;> decide
  · cases h <;> decide
  · cases h <;> rfl

theorem nextCharacter_entity (front behind : List Char) {c : Char} {name : List Char}
    (h : EntityName c name) :
    nextCharacter (front ++ '&' :: (name ++ ';' :: behind)) (utf8 front).length
      = .ok (some (c, (utf8 (front ++ '&' :: (name ++ [';']))).length)) := by
  obtain ⟨hascii, hsemicolon, hshort, hdecoded⟩ := entityName_spec h
  have hname := utf8_of_ascii hascii
  have hlength : (utf8 name).length = name.length := by rw [hname, List.length_map]
  have hbytes : utf8 (front ++ '&' :: (name ++ ';' :: behind))
      = utf8 front ++ byte '&' :: (name.map byte ++ byte ';' :: utf8 behind) := by
    rw [utf8_append, utf8_cons_of_ascii (by decide), utf8_append, hname,
      utf8_cons_of_ascii (by decide)]
    rfl
  have hslice := slice_append (front ++ ['&']) name (';' :: behind)
  have hoffset : (utf8 (front ++ ['&'])).length = (utf8 front).length + 1 := by
    rw [utf8_append, utf8_cons_of_ascii (by decide)]
    simp
  have hoffset' : (utf8 (front ++ ['&'] ++ name)).length
      = (utf8 front).length + 1 + name.length := by
    rw [utf8_append, List.length_append, hoffset, hlength]
  have hbehind : (utf8 (front ++ '&' :: (name ++ [';']))).length
      = (utf8 front).length + 1 + name.length + 1 := by
    rw [utf8_append, utf8_cons_of_ascii (by decide), utf8_append, hname,
      utf8_cons_of_ascii (by decide)]
    simp
    omega
  rw [hoffset, hoffset'] at hslice
  have htext : front ++ ['&'] ++ name ++ ';' :: behind =
      front ++ '&' :: (name ++ ';' :: behind) := by
    simp
  rw [htext] at hslice
  have hat : (utf8 (front ++ '&' :: (name ++ ';' :: behind)))[(utf8 front).length]?
      = some (byte '&') := by
    rw [hbytes, List.getElem?_append_right le_rfl, Nat.sub_self]
    rfl
  have htotal : (utf8 (front ++ '&' :: (name ++ ';' :: behind))).length
      = (utf8 front).length + 1 + name.length + 1 + (utf8 behind).length := by
    rw [hbytes]
    simp
    omega
  have hfind : (((utf8 (front ++ '&' :: (name ++ ';' :: behind))).take
      (min (utf8 (front ++ '&' :: (name ++ ';' :: behind))).length
        ((utf8 front).length + 13))).drop ((utf8 front).length + 1)).findIdx? (· == byte ';')
      = some name.length := by
    have hdrop : (utf8 (front ++ '&' :: (name ++ ';' :: behind))).drop ((utf8 front).length + 1)
        = name.map byte ++ byte ';' :: utf8 behind := by
      rw [hbytes, List.drop_append, List.drop_eq_nil_of_le (by omega), List.nil_append,
        Nat.add_sub_cancel_left]
      rfl
    rw [List.drop_take, hdrop]
    have hfound := findIdx?_take (utf8 behind) (k := min
      (utf8 (front ++ '&' :: (name ++ ';' :: behind))).length ((utf8 front).length + 13)
        - ((utf8 front).length + 1)) hsemicolon (by rw [List.length_map]; omega)
    rw [List.length_map] at hfound
    exact hfound
  have hentity : entityAt (front ++ '&' :: (name ++ ';' :: behind)) (utf8 front).length
      = .ok (some (c, (utf8 front).length + 1 + name.length + 1)) := by
    unfold entityAt
    simp only [hat]
    rw [if_pos trivial, if_neg (by omega)]
    simp only [hfind, hslice, hdecoded]
    rfl
  simp only [nextCharacter, hentity, bind, Except.bind, hbehind]
  rfl

theorem decodeFrom_escaped {text written : List Char} (h : Escaped text written)
    (front decoded : List Char) (maximumBytes fuel : ℕ) (hfuel : (utf8 written).length < fuel)
    (hfits : (utf8 (decoded ++ text)).length ≤ maximumBytes) :
    decodeFrom (front ++ written) maximumBytes fuel (utf8 front).length decoded
      = .ok (some (decoded ++ text)) := by
  induction h generalizing front decoded fuel with
  | nil =>
    obtain ⟨fuel, rfl⟩ : ∃ fuel', fuel = fuel' + 1 := ⟨fuel - 1, by omega⟩
    rw [decodeFrom, if_neg (by simp)]
    simp
  | @plain c text written hplain _ ih =>
    obtain ⟨fuel, rfl⟩ : ∃ fuel', fuel = fuel' + 1 := ⟨fuel - 1, by omega⟩
    have hc : c ≠ '&' := by
      rintro rfl
      exact hplain List.mem_cons_self
    have hpos := c.utf8Size_pos
    rw [length_utf8_cons] at hfuel
    have hlength : (utf8 (front ++ c :: written)).length
        = (utf8 front).length + (c.utf8Size + (utf8 written).length) := by
      rw [utf8_append, List.length_append, length_utf8_cons]
    have hpushed : pushBounded decoded c maximumBytes = some (decoded ++ [c]) := by
      rw [utf8_append, List.length_append, length_utf8_cons] at hfits
      exact if_pos (by omega)
    have hrest := ih (front ++ [c]) (decoded ++ [c]) fuel (by omega) (by simpa using hfits)
    rw [decodeFrom, if_pos (by omega), nextCharacter_plain front written hc]
    simp only [bind, Except.bind, hpushed]
    simpa using hrest
  | @entity c name text written hname _ ih =>
    obtain ⟨fuel, rfl⟩ : ∃ fuel', fuel = fuel' + 1 := ⟨fuel - 1, by omega⟩
    have hlength : (utf8 ('&' :: (name ++ ';' :: written))).length
        = 1 + ((utf8 name).length + (1 + (utf8 written).length)) := by
      rw [utf8_cons_of_ascii (by decide), utf8_append, utf8_cons_of_ascii (by decide)]
      simp
      omega
    rw [hlength] at hfuel
    have htotal : (utf8 (front ++ '&' :: (name ++ ';' :: written))).length
        = (utf8 front).length + (1 + ((utf8 name).length + (1 + (utf8 written).length))) := by
      rw [utf8_append, List.length_append, hlength]
    have hpushed : pushBounded decoded c maximumBytes = some (decoded ++ [c]) := by
      rw [utf8_append, List.length_append, length_utf8_cons] at hfits
      exact if_pos (by omega)
    have hrest := ih (front ++ '&' :: (name ++ [';'])) (decoded ++ [c]) fuel (by omega)
      (by simpa using hfits)
    rw [decodeFrom, if_pos (by omega), nextCharacter_entity front written hname]
    simp only [bind, Except.bind, hpushed]
    simpa using hrest

/-- A text that fits is decoded from what it was written as. -/
theorem decodeHtmlEntities_escaped {text written : List Char} (h : Escaped text written)
    {maximumBytes : ℕ} (hfits : (utf8 text).length ≤ maximumBytes) :
    decodeHtmlEntities written maximumBytes = .ok (some text) := by
  have hdecoded := decodeFrom_escaped h [] [] maximumBytes ((utf8 written).length + 1)
    (Nat.lt_succ_self _) (by simpa using hfits)
  simpa [decodeHtmlEntities] using hdecoded

end PepeAudio.Catalog.PublicScan
