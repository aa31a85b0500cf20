import PepeAudio.Catalog.MetaTags

/-!
# Documents of text and meta tags

A document of text without an opening bracket and of meta tags is scanned tag by tag, and the
first tag that names a property and has a content gives its value.
-/
namespace PepeAudio.Catalog.PublicScan

/-- Outside of quotes the scan for the end of a tag goes on behind these bytes. -/
def Passes (bytes : List UInt8) : Prop :=
  ∀ rest, tagEnd none (bytes ++ rest) = (tagEnd none rest).map (bytes.length + ·)

theorem Passes.nil : Passes [] := by
  intro rest
  simp

theorem Passes.append {xs ys : List UInt8} (hxs : Passes xs) (hys : Passes ys) :
    Passes (xs ++ ys) := by
  intro rest
  rw [List.append_assoc, hxs, hys, Option.map_map, List.length_append]
  congr 1
  funext offset
  simp only [Function.comp_apply]
  omega

theorem Passes.cons {b : UInt8} {bytes : List UInt8}
    (hb : b ≠ byte '\'' ∧ b ≠ byte '"' ∧ b ≠ byte '>') (h : Passes bytes) :
    Passes (b :: bytes) := by
  intro rest
  have hquote : ¬ (b = byte '\'' ∨ b = byte '"') := by simp [hb]
  rw [List.cons_append, tagEnd, if_neg hquote, if_neg hb.2.2, h, Option.map_map,
    List.length_cons]
  congr 1
  funext offset
  simp only [Function.comp_apply]
  omega

theorem Passes.of_plain {bytes : List UInt8}
    (h : ∀ b ∈ bytes, b ≠ byte '\'' ∧ b ≠ byte '"' ∧ b ≠ byte '>') : Passes bytes := by
  induction bytes with
  | nil => exact .nil
  | cons b bytes ih =>
    exact .cons (h b List.mem_cons_self) (ih fun b' hb' => h b' (List.mem_cons_of_mem _ hb'))

theorem tagEnd_quoted {bytes : List UInt8} (h : byte '"' ∉ bytes) (rest : List UInt8) :
    tagEnd (some (byte '"')) (bytes ++ byte '"' :: rest)
      = (tagEnd none rest).map (bytes.length + 1 + ·) := by
  induction bytes with
  | nil =>
    rw [List.nil_append, tagEnd, if_pos rfl]
    congr 1
    funext offset
    exact Nat.add_comm offset 1
  | cons b bytes ih =>
    have hb : byte '"' ≠ b := fun heq => h (List.mem_cons.mpr (.inl heq))
    rw [List.cons_append, tagEnd, if_neg hb, ih fun hmem => h (List.mem_cons_of_mem _ hmem),
      Option.map_map, List.length_cons]
    congr 1
    funext offset
    simp only [Function.comp_apply]
    omega

/-- Quotes are passed with what stands between them. -/
theorem Passes.quoted {bytes : List UInt8} (h : byte '"' ∉ bytes) :
    Passes (byte '"' :: (bytes ++ [byte '"'])) := by
  intro rest
  rw [List.cons_append, List.append_assoc, List.singleton_append, tagEnd, if_pos (.inr rfl),
    tagEnd_quoted h, Option.map_map]
  congr 1
  funext offset
  simp only [Function.comp_apply, List.length_cons, List.length_append, List.length_nil]
  omega

theorem MetaAttribute.passes (a : MetaAttribute) : Passes (utf8 a.text) := by
  have hseparator : Passes (utf8 a.separator) := .of_plain (forall_mem_utf8 fun c hc =>
    ⟨(isSeparator_spec (a.separator_all c hc)).1, (isSeparator_spec (a.separator_all c hc)).2.2⟩)
  have hname : Passes (utf8 a.name) := .of_plain (forall_mem_utf8 fun c hc =>
    ⟨(isNameChar_spec (a.name_all c hc)).1,
      (isNameByte_spec (isNameChar_spec (a.name_all c hc)).2).2⟩)
  have hbefore : Passes (utf8 a.before) := .of_plain (forall_mem_utf8 fun c hc =>
    ⟨(isBlank_spec (a.before_all c hc)).1, (isBlank_spec (a.before_all c hc)).2.2.2⟩)
  have hbehind : Passes (utf8 a.behind) := .of_plain (forall_mem_utf8 fun c hc =>
    ⟨(isBlank_spec (a.behind_all c hc)).1, (isBlank_spec (a.behind_all c hc)).2.2.2⟩)
  have hvalue := Passes.quoted (byte_not_mem_utf8 (by decide) a.value_all)
  have hequals := Passes.cons (b := byte '=') (by decide) (hbehind.append hvalue)
  have hall := hseparator.append (hname.append (hbefore.append hequals))
  simpa [MetaAttribute.text, utf8_cons_of_ascii, byte] using hall

theorem passes_attributes (attributes : List MetaAttribute) :
    Passes (utf8 (attributes.flatMap MetaAttribute.text)) := by
  induction attributes with
  | nil => exact .nil
  | cons a attributes ih =>
    rw [List.flatMap_cons, utf8_append]
    exact a.passes.append ih

namespace MetaTag

theorem passes_opening (tag : MetaTag) : Passes (utf8 tag.opening) := by
  refine .of_plain ?_
  intro b hb
  have hlower : lowerByte b ∈ (utf8 "<meta".toList).map lowerByte := by
    rw [← beq_iff_eq.mp tag.opening_eq]
    exact List.mem_map_of_mem hb
  refine ⟨?_, ?_, ?_⟩ <;> (rintro rfl; revert hlower; decide)

/-- The scan ends at the last byte of the tag. -/
theorem tagEnd_text (tag : MetaTag) (rest : List UInt8) :
    ∃ offset, tagEnd none (utf8 tag.text ++ rest) = some offset
      ∧ offset + 1 = (utf8 tag.text).length := by
  have hclosing : Passes (utf8 tag.closing) := .of_plain (forall_mem_utf8 fun c hc =>
    ⟨(isSeparator_spec (tag.closing_all c hc)).1,
      (isSeparator_spec (tag.closing_all c hc)).2.2⟩)
  have hpasses := tag.passes_opening.append ((passes_attributes tag.attributes).append hclosing)
  have htext : utf8 tag.text = utf8 tag.opening ++ (utf8 (tag.attributes.flatMap
      MetaAttribute.text) ++ utf8 tag.closing) ++ [byte '>'] := by
    simp [text, tagText, utf8_cons_of_ascii, byte]
  have hclose : tagEnd none (byte '>' :: rest) = some 0 := by
    rw [tagEnd, if_neg (by decide), if_pos rfl]
  have hfound := hpasses (byte '>' :: rest)
  rw [hclose, Option.map_some, Nat.add_zero] at hfound
  generalize utf8 tag.opening ++ (utf8 (tag.attributes.flatMap MetaAttribute.text) ++
    utf8 tag.closing) = inner at htext hfound
  refine ⟨inner.length, ?_, ?_⟩
  · rw [htext, List.append_assoc, List.singleton_append]
    exact hfound
  · rw [htext, List.length_append, List.length_singleton]

/-- In a document the end of the tag that begins at the cursor is found. -/
theorem findTagEnd_document (tag : MetaTag) (front rest : List Char) :
    ∃ stop, findTagEnd (utf8 (front ++ (tag.text ++ rest))) (utf8 front).length = some stop
      ∧ stop + 1 = (utf8 (front ++ tag.text)).length := by
  have hshort : (utf8 tag.text).length < MAX_META_TAG_BYTES := tag.short
  have hlength : (utf8 (front ++ (tag.text ++ rest))).length
      = (utf8 front).length + ((utf8 tag.text).length + (utf8 rest).length) := by
    simp
  let boundary := min (utf8 (front ++ (tag.text ++ rest))).length
    ((utf8 front).length + MAX_META_TAG_BYTES)
  have hboundary : (utf8 front).length + (utf8 tag.text).length ≤ boundary := by
    refine Nat.le_min.mpr ⟨?_, ?_⟩ <;> omega
  have hbytes : ((utf8 (front ++ (tag.text ++ rest))).take boundary).drop (utf8 front).length
      = utf8 tag.text ++ (utf8 rest).take (boundary - (utf8 front).length
          - (utf8 tag.text).length) := by
    rw [List.drop_take, utf8_append, List.drop_left, utf8_append, List.take_append,
      List.take_of_length_le (by omega)]
  obtain ⟨offset, hoffset, hlast⟩ := tag.tagEnd_text
    ((utf8 rest).take (boundary - (utf8 front).length - (utf8 tag.text).length))
  refine ⟨(utf8 front).length + offset, ?_, ?_⟩
  · simp only [findTagEnd]
    rw [if_pos (by omega), hbytes, hoffset]
    rfl
  · rw [utf8_append, List.length_append]
    omega

end MetaTag

/-- The scan for a tag passes the bytes in front of the next bracket. -/
theorem position_append {needle bytes : List UInt8} (rest : List UInt8)
    (h : byte '<' ∉ bytes) :
    position (byte '<' :: needle) (bytes ++ rest)
      = (position (byte '<' :: needle) rest).map (bytes.length + ·) := by
  induction bytes with
  | nil => simp
  | cons b bytes ih =>
    have hwindow : equalsIgnoreCase ((b :: (bytes ++ rest)).take (needle.length + 1))
        (byte '<' :: needle) = false := by
      by_contra htrue
      rw [Bool.not_eq_false] at htrue
      obtain ⟨first, hfirst, hlower⟩ := getElem?_of_equalsIgnoreCase htrue
      obtain rfl := Option.some.inj hfirst
      exact h (List.mem_cons.mpr (.inl (eq_of_lowerByte (by decide) hlower).symm))
    rw [List.cons_append, position, List.length_cons, hwindow, if_neg (by decide),
      ih fun hmem => h (List.mem_cons_of_mem _ hmem), Option.map_map]
    congr 1
    funext offset
    simp only [Function.comp_apply, List.length_cons]
    omega

theorem find_document (needle : List UInt8) (front rest : List Char) :
    findAsciiCaseInsensitive (utf8 (front ++ rest)) needle (utf8 front).length
      = (position needle (utf8 rest)).map ((utf8 front).length + ·) := by
  unfold findAsciiCaseInsensitive
  rw [utf8_append, List.drop_left, List.length_append, if_pos (by omega)]

/-- Text without a bracket does not change what is found. -/
theorem find_text (needle : List UInt8) (front rest : List Char) {text : List Char}
    (h : '<' ∉ text) :
    findAsciiCaseInsensitive (utf8 (front ++ (text ++ rest))) (byte '<' :: needle)
        (utf8 front).length
      = findAsciiCaseInsensitive (utf8 (front ++ (text ++ rest))) (byte '<' :: needle)
        (utf8 (front ++ text)).length := by
  have hbehind := find_document (byte '<' :: needle) (front ++ text) rest
  rw [List.append_assoc] at hbehind
  rw [find_document, hbehind, utf8_append text, position_append _ (byte_not_mem_utf8 (by decide) h),
    Option.map_map, utf8_append, List.length_append]
  congr 1
  funext offset
  simp only [Function.comp_apply]
  omega

/-- A tag is found at its first byte. -/
theorem find_tag (tag : MetaTag) (front rest : List Char) :
    findAsciiCaseInsensitive (utf8 (front ++ (tag.text ++ rest))) (utf8 "<meta".toList)
      (utf8 front).length = some (utf8 front).length := by
  have htext : utf8 (tag.text ++ rest) = utf8 tag.opening ++ utf8 (tag.attributes.flatMap
      MetaAttribute.text ++ (tag.closing ++ ['>']) ++ rest) := by
    simp [MetaTag.text, tagText]
  have hfive : (utf8 "<meta".toList).length = 5 := rfl
  have hfound : position (utf8 "<meta".toList) (utf8 (tag.text ++ rest)) = some 0 := by
    have htake : (utf8 (tag.text ++ rest)).take (utf8 "<meta".toList).length
        = utf8 tag.opening := by
      rw [htext, hfive, ← tag.length_opening, List.take_left]
    cases hbytes : utf8 (tag.text ++ rest) with
    | nil =>
      have hlength := tag.length_opening
      rw [htext] at hbytes
      rw [(List.append_eq_nil_iff.mp hbytes).1] at hlength
      contradiction
    | cons b bytes => rw [position, ← hbytes, htake, tag.opening_eq, if_pos rfl]
  rw [find_document, hfound]
  rfl

inductive Piece where
  | text (cs : List Char) (h : '<' ∉ cs)
  | metaTag (tag : MetaTag)

def Piece.chars : Piece → List Char
  | .text cs _ => cs
  | .metaTag tag => tag.text

def document (pieces : List Piece) : List Char := pieces.flatMap Piece.chars

def tags (pieces : List Piece) : List MetaTag :=
  pieces.filterMap fun
    | .text _ _ => none
    | .metaTag tag => some tag

/-- The content of the first tag that names the property and has one. -/
def firstContent (property : List Char) (tags : List MetaTag) : Option (List Char) :=
  tags.findSome? fun tag =>
    if tag.names property then tag.attribute? "content".toList else none

/-- The decoded and cleaned text of a content. -/
def cleanContent (maximumBytes : ℕ) : Option (List Char) → Scanned (Option String)
  | none => .ok none
  | some content => do
    let decoded ← decodeHtmlEntities content maximumBytes
    pure (decoded.bind fun decoded => cleanText (String.ofList decoded) maximumBytes)

/-- A text is skipped. -/
theorem metaValueFrom_text (front rest property : List Char) (maximumBytes fuel : ℕ)
    {text : List Char} (h : '<' ∉ text) :
    metaValueFrom (front ++ (text ++ rest)) property maximumBytes fuel (utf8 front).length
      = metaValueFrom (front ++ (text ++ rest)) property maximumBytes fuel
          (utf8 (front ++ text)).length := by
  cases fuel with
  | zero => rfl
  | succ fuel =>
    have hfind : findAsciiCaseInsensitive (utf8 (front ++ (text ++ rest)))
        (utf8 "<meta".toList) (utf8 front).length
        = findAsciiCaseInsensitive (utf8 (front ++ (text ++ rest)))
          (utf8 "<meta".toList) (utf8 (front ++ text)).length :=
      find_text (utf8 "meta".toList) front rest h
    simp only [metaValueFrom, hfind]

/-- A tag gives its content, or the scan goes on behind it. -/
theorem metaValueFrom_tag (front rest property : List Char) (maximumBytes fuel : ℕ)
    (tag : MetaTag) :
    metaValueFrom (front ++ (tag.text ++ rest)) property maximumBytes (fuel + 1)
        (utf8 front).length
      = match if tag.names property then tag.attribute? "content".toList else none with
        | some content => cleanContent maximumBytes (some content)
        | none => metaValueFrom (front ++ (tag.text ++ rest)) property maximumBytes fuel
            (utf8 (front ++ tag.text)).length := by
  obtain ⟨stop, hstop, hlast⟩ := tag.findTagEnd_document front rest
  have hslice := slice_append front tag.text rest
  rw [List.append_assoc] at hslice
  rw [metaValueFrom]
  simp only [find_tag, hstop, hlast, hslice, tag.matchesProperty_text, bind, Except.bind]
  cases hnames : tag.names property with
  | false => rfl
  | true =>
    simp only [if_true, tag.attributeValue_text]
    cases tag.attribute? "content".toList with
    | none => rfl
    | some content => rfl

theorem metaValueFrom_document (front property : List Char) (maximumBytes fuel : ℕ)
    (pieces : List Piece) (hfuel : (tags pieces).length < fuel) :
    metaValueFrom (front ++ document pieces) property maximumBytes fuel (utf8 front).length
      = cleanContent maximumBytes (firstContent property (tags pieces)) := by
  induction pieces generalizing front fuel with
  | nil =>
    obtain ⟨fuel, rfl⟩ : ∃ fuel', fuel = fuel' + 1 := ⟨fuel - 1, by omega⟩
    have hfind : findAsciiCaseInsensitive (utf8 (front ++ document []))
        (utf8 "<meta".toList) (utf8 front).length = none :=
      find_document (utf8 "<meta".toList) front []
    simp only [metaValueFrom, hfind]
    rfl
  | cons piece pieces ih =>
    cases piece with
    | text cs h =>
      have hrest := ih (front ++ cs) fuel hfuel
      have hskip := metaValueFrom_text front (document pieces) property maximumBytes fuel h
      rw [List.append_assoc] at hrest
      exact hskip.trans hrest
    | metaTag tag =>
      obtain ⟨fuel, rfl⟩ : ∃ fuel', fuel = fuel' + 1 := ⟨fuel - 1, by omega⟩
      have hrest := ih (front ++ tag.text) fuel (Nat.lt_of_succ_lt_succ hfuel)
      have hread := metaValueFrom_tag front (document pieces) property maximumBytes fuel tag
      rw [List.append_assoc] at hrest
      refine hread.trans ?_
      show _ = cleanContent maximumBytes (firstContent property (tag :: tags pieces))
      rw [firstContent, List.findSome?_cons]
      cases if tag.names property then tag.attribute? "content".toList else none with
      | none => exact hrest
      | some content => rfl

theorem length_tags_le (pieces : List Piece) :
    (tags pieces).length ≤ (utf8 (document pieces)).length := by
  induction pieces with
  | nil => exact Nat.zero_le _
  | cons piece pieces ih =>
    have hdocument : document (piece :: pieces) = piece.chars ++ document pieces := rfl
    rw [hdocument, utf8_append, List.length_append]
    cases piece with
    | text cs h => exact Nat.le_trans ih (Nat.le_add_left _ _)
    | metaTag tag =>
      have hopening := tag.length_opening
      have htext : 1 ≤ (utf8 tag.text).length := by
        rw [MetaTag.text, tagText, utf8_append, List.length_append]
        omega
      have htags : (tags (.metaTag tag :: pieces)).length = (tags pieces).length + 1 := rfl
      have hchars : (Piece.metaTag tag).chars = tag.text := rfl
      rw [htags, hchars]
      omega

/-- The scan of a whole document. -/
theorem metaValue_document (pieces : List Piece) (property : String) (maximumBytes : ℕ) :
    metaValue (String.ofList (document pieces)) property maximumBytes
      = cleanContent maximumBytes (firstContent property.toList (tags pieces)) := by
  have hle := length_tags_le pieces
  have hread := metaValueFrom_document [] property.toList maximumBytes
    ((utf8 (document pieces)).length + 1) pieces (by omega)
  rw [metaValue, String.toList_ofList]
  exact hread

/-- The slices that the scanners take exist. -/
structure Sliced (document : List Char) : Prop where
  tag : ∀ needle cursor start stop,
    findAsciiCaseInsensitive (utf8 document) (byte '<' :: needle) cursor = some start →
    findTagEnd (utf8 document) start = some stop →
    stop + 1 ≤ (utf8 document).length ∧ ∃ tag, slice document start (stop + 1) = some tag
  content : ∀ needle start tagStop stop, findTagEnd (utf8 document) start = some tagStop →
    findAsciiCaseInsensitive (utf8 document) (byte '<' :: needle) (tagStop + 1) = some stop →
    ∃ content, slice document (tagStop + 1) stop = some content
  value : ∀ cursor quote, (utf8 document)[cursor]? = some quote →
    quote = byte '\'' ∨ quote = byte '"' →
    ∃ value, slice document (cursor + 1)
      (skipWhile (utf8 document) (· != quote) (cursor + 1)) = some value

theorem sliced (document : List Char) : Sliced document where
  tag := by
    intro needle cursor start stop hstart hstop
    obtain ⟨-, -, hslice⟩ := slice_tag hstart hstop
    exact ⟨lt_length_of_findTagEnd hstop, hslice⟩
  content := by
    intro needle start tagStop stop htag hstop
    obtain ⟨-, hclose⟩ := findTagEnd_some htag
    obtain ⟨hle, hopen⟩ := findAsciiCaseInsensitive_some (by decide) hstop
    have hbehind := (boundary_of_ascii hclose (by decide)).2
    have hbefore := (boundary_of_ascii hopen (by decide)).1
    obtain ⟨-, content, -, -, -, -, hslice⟩ := slice_of_boundary hbehind hbefore hle
    exact ⟨content, hslice⟩
  value := by
    intro cursor quote hquote hkind
    have hascii : quote.toNat < 0x80 := by
      rcases hkind with rfl | rfl <;> decide
    have hlt := (List.getElem?_eq_some_iff.mp hquote).1
    have hstart := (boundary_of_ascii hquote hascii).2
    have hstop : Boundary document (skipWhile (utf8 document) (· != quote) (cursor + 1)) :=
      boundary_skipWhile hascii hlt
    obtain ⟨-, value, -, -, -, -, hslice⟩ :=
      slice_of_boundary hstart hstop (le_skipWhile _ _ _)
    exact ⟨value, hslice⟩

/-- Every document is scanned to an end without a panic and through slices that exist; a text
that fits is decoded from what it was written as; and out of a document of text and meta tags
the scan reads the content of the first tag that names the property and has one. -/
theorem scans_public_pages :
    (∀ document property maximumBytes,
      ∃ value, metaValue document property maximumBytes = .ok value)
    ∧ (∀ document, ∃ state, initialState document = .ok state)
    ∧ (∀ tag wanted, ∃ value, attributeValue tag wanted = .ok value)
    ∧ (∀ value maximumBytes, ∃ text, decodeHtmlEntities value maximumBytes = .ok text)
    ∧ (∀ document, Sliced document)
    ∧ (∀ text, ∃ written, Escaped text written)
    ∧ (∀ text written maximumBytes, Escaped text written → (utf8 text).length ≤ maximumBytes →
      decodeHtmlEntities written maximumBytes = .ok (some text))
    ∧ (∀ pieces property maximumBytes,
      metaValue (String.ofList (document pieces)) property maximumBytes
        = cleanContent maximumBytes (firstContent property.toList (tags pieces))) :=
  ⟨metaValue_ok, initialState_ok, attributeValue_ok, decodeHtmlEntities_ok, sliced,
    exists_escaped, fun _ _ _ h hfits => decodeHtmlEntities_escaped h hfits,
    metaValue_document⟩

end PepeAudio.Catalog.PublicScan
