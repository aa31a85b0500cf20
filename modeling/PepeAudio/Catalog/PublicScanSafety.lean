import PepeAudio.Catalog.PublicScan

/-!
# Scanning never panics

Every slice of the scanners begins and ends next to an ASCII byte, and every loop moves its
cursor on, so that the fuel of one step for each byte is enough.
-/
namespace PepeAudio.Catalog.PublicScan

theorem getElem?_of_equalsIgnoreCase {bytes needle : List UInt8} {b : UInt8}
    (h : equalsIgnoreCase (bytes.take (needle.length + 1)) (b :: needle) = true) :
    ∃ first, bytes[0]? = some first ∧ lowerByte first = lowerByte b := by
  cases bytes with
  | nil => simp [equalsIgnoreCase] at h
  | cons first bytes =>
    have heq := beq_iff_eq.mp h
    exact ⟨first, rfl, (List.cons.inj heq).1⟩

/-- A window that is found begins with the first byte of the needle, in either case. -/
theorem position_some {b : UInt8} {needle bytes : List UInt8} {offset : ℕ}
    (h : position (b :: needle) bytes = some offset) :
    ∃ first, bytes[offset]? = some first ∧ lowerByte first = lowerByte b := by
  induction bytes generalizing offset with
  | nil => contradiction
  | cons head bytes ih =>
    unfold position at h
    split at h
    · next hwindow =>
      obtain rfl := Option.some.inj h
      exact getElem?_of_equalsIgnoreCase hwindow
    · obtain ⟨offset', hoffset, rfl⟩ := Option.map_eq_some_iff.mp h
      exact ih hoffset

theorem eq_of_lowerByte {first b : UInt8} (hb : b.toNat < 65)
    (h : lowerByte first = lowerByte b) : first = b := by
  have hlower : lowerByte b = b := if_neg (by omega)
  rw [hlower] at h
  unfold lowerByte at h
  split at h
  · next hupper =>
    have hsum := congrArg UInt8.toNat h
    rw [UInt8.toNat_add] at hsum
    have : (32 : UInt8).toNat = 32 := rfl
    omega
  · exact h

/-- What is found begins at an ASCII byte that is not a letter. -/
theorem findAsciiCaseInsensitive_some {haystack needle : List UInt8} {b : UInt8}
    {cursor start : ℕ} (hb : b.toNat < 65)
    (h : findAsciiCaseInsensitive haystack (b :: needle) cursor = some start) :
    cursor ≤ start ∧ haystack[start]? = some b := by
  unfold findAsciiCaseInsensitive at h
  split at h
  · obtain ⟨offset, hoffset, rfl⟩ := Option.map_eq_some_iff.mp h
    obtain ⟨first, hfirst, hlower⟩ := position_some hoffset
    obtain rfl := eq_of_lowerByte hb hlower
    rw [List.getElem?_drop] at hfirst
    exact ⟨by omega, hfirst⟩
  · contradiction

theorem tagEnd_some {quote : Option UInt8} {bytes : List UInt8} {offset : ℕ}
    (h : tagEnd quote bytes = some offset) : bytes[offset]? = some (byte '>') := by
  induction quote, bytes using tagEnd.induct generalizing offset with
  | case1 quote => contradiction
  | case2 b bytes hquote ih =>
    rw [tagEnd, if_pos hquote] at h
    obtain ⟨offset', hoffset, rfl⟩ := Option.map_eq_some_iff.mp h
    exact ih hoffset
  | case3 bytes hquote =>
    rw [tagEnd, if_neg hquote, if_pos rfl] at h
    obtain rfl := Option.some.inj h
    rfl
  | case4 b bytes hquote hclose ih =>
    rw [tagEnd, if_neg hquote, if_neg hclose] at h
    obtain ⟨offset', hoffset, rfl⟩ := Option.map_eq_some_iff.mp h
    exact ih hoffset
  | case5 quote bytes ih =>
    rw [tagEnd, if_pos rfl] at h
    obtain ⟨offset', hoffset, rfl⟩ := Option.map_eq_some_iff.mp h
    exact ih hoffset
  | case6 quote b bytes hopen ih =>
    rw [tagEnd, if_neg hopen] at h
    obtain ⟨offset', hoffset, rfl⟩ := Option.map_eq_some_iff.mp h
    exact ih hoffset

theorem getElem?_take_drop {bytes : List UInt8} {stop start offset : ℕ} {b : UInt8}
    (h : ((bytes.take stop).drop start)[offset]? = some b) :
    bytes[start + offset]? = some b ∧ start + offset < stop := by
  rw [List.getElem?_drop, List.getElem?_take] at h
  split at h
  · exact ⟨h, by assumption⟩
  · contradiction

theorem findTagEnd_some {bytes : List UInt8} {start stop : ℕ}
    (h : findTagEnd bytes start = some stop) :
    start ≤ stop ∧ bytes[stop]? = some (byte '>') := by
  simp only [findTagEnd] at h
  split at h
  · obtain ⟨offset, hoffset, rfl⟩ := Option.map_eq_some_iff.mp h
    exact ⟨by omega, (getElem?_take_drop (tagEnd_some hoffset)).1⟩
  · contradiction

theorem isNameByte_ascii {b : UInt8} (h : isNameByte b = true) : b.toNat < 0x80 := by
  have hdash : (byte '-').toNat = 45 := rfl
  have hline : (byte '_').toNat = 95 := rfl
  have hcolon : (byte ':').toNat = 58 := rfl
  simp only [isNameByte, Bool.or_eq_true, Bool.and_eq_true, decide_eq_true_eq, beq_iff_eq] at h
  rcases h with ((((h | h) | h) | rfl) | rfl) | rfl <;> omega

/-- The name of an attribute is a slice of the tag. -/
theorem slice_name {tag : List Char} {start : ℕ}
    (h : skipWhile (utf8 tag) isNameByte start ≠ start) :
    ∃ name, slice tag start (skipWhile (utf8 tag) isNameByte start) = some name := by
  have hle := le_skipWhile (utf8 tag) isNameByte start
  have hbytes : ∀ offset, start ≤ offset → offset < skipWhile (utf8 tag) isNameByte start →
      ∃ b, (utf8 tag)[offset]? = some b ∧ isNameByte b = true :=
    fun _ hlow hhigh => of_skipWhile hlow hhigh
  obtain ⟨first, hfirst, hname⟩ := hbytes start le_rfl (by omega)
  obtain ⟨last, hlast, hname'⟩ :=
    hbytes (skipWhile (utf8 tag) isNameByte start - 1) (by omega) (by omega)
  have hstart := (boundary_of_ascii hfirst (isNameByte_ascii hname)).1
  have hstop := (boundary_of_ascii hlast (isNameByte_ascii hname')).2
  rw [Nat.sub_add_cancel (by omega)] at hstop
  obtain ⟨-, name, -, -, -, -, hslice⟩ := slice_of_boundary hstart hstop hle
  exact ⟨name, hslice⟩

theorem attributeFrom_ok (tag wanted : List Char) (fuel cursor : ℕ) (hfuel : 0 < fuel)
    (henough : (utf8 tag).length < cursor + fuel) :
    ∃ value, attributeFrom tag wanted fuel cursor = .ok value := by
  induction fuel generalizing cursor with
  | zero => omega
  | succ fuel ih =>
    have hmore : ∀ next, cursor < next → cursor < (utf8 tag).length →
        ∃ value, attributeFrom tag wanted fuel next = .ok value := by
      intro next hnext hcursor
      exact ih next (by omega) (by omega)
    unfold attributeFrom
    by_cases hcursor : cursor < (utf8 tag).length
    · rw [if_pos hcursor]
      have hskip := le_skipWhile (utf8 tag)
        (fun b => isAsciiWhitespace b || b == byte '/') cursor
      generalize skipWhile (utf8 tag) (fun b => isAsciiWhitespace b || b == byte '/') cursor
        = nameStart at hskip ⊢
      simp only
      split
      · exact ⟨none, rfl⟩
      · split
        · exact ⟨none, rfl⟩
        · have hname := le_skipWhile (utf8 tag) isNameByte nameStart
          split
          · exact hmore _ (by omega) hcursor
          · next hsome =>
            obtain ⟨name, hslice⟩ := slice_name hsome
            rw [hslice]
            simp only
            have hspace := le_skipWhile (utf8 tag) isAsciiWhitespace
              (skipWhile (utf8 tag) isNameByte nameStart)
            split
            · exact hmore _ (by omega) hcursor
            · generalize skipWhile (utf8 tag) isAsciiWhitespace
                (skipWhile (utf8 tag) isNameByte nameStart) = equals at hspace ⊢
              have hspace' := le_skipWhile (utf8 tag) isAsciiWhitespace (equals + 1)
              split
              · exact ⟨none, rfl⟩
              · next quote hquote =>
                split
                · exact ⟨none, rfl⟩
                · have hvalue := le_skipWhile (utf8 tag) (· != quote)
                    (skipWhile (utf8 tag) isAsciiWhitespace (equals + 1) + 1)
                  split
                  · exact ⟨none, rfl⟩
                  · split
                    · exact ⟨_, rfl⟩
                    · exact hmore _ (by omega) hcursor
    · rw [if_neg hcursor]
      exact ⟨none, rfl⟩

theorem attributeValue_ok (tag wanted : List Char) :
    ∃ value, attributeValue tag wanted = .ok value :=
  attributeFrom_ok tag wanted _ 5 (Nat.succ_pos _) (by omega)

theorem numericEntity_ok (front digits : List Char) (radix : ℕ) :
    ∃ character, numericEntity (front ++ digits) (utf8 front).length radix = .ok character := by
  have hslice := slice_append front digits []
  rw [List.append_nil] at hslice
  unfold numericEntity
  rw [hslice]
  exact ⟨_, rfl⟩

theorem htmlEntity_ok (entity : List Char) : ∃ character, htmlEntity entity = .ok character := by
  unfold htmlEntity
  split
  · exact ⟨_, rfl⟩
  · exact ⟨_, rfl⟩
  · exact ⟨_, rfl⟩
  · exact ⟨_, rfl⟩
  · exact ⟨_, rfl⟩
  · exact ⟨_, rfl⟩
  · exact ⟨_, rfl⟩
  · next digits => exact numericEntity_ok ['#', 'x'] digits 16
  · next digits => exact numericEntity_ok ['#', 'X'] digits 16
  · next digits _ _ _ => exact numericEntity_ok ['#'] digits 10
  · exact ⟨_, rfl⟩

/-- A decoded character moves the cursor on to a boundary. -/
def Moves (value : List Char) (cursor : ℕ) (decoded : Option (Char × ℕ)) : Prop :=
  ∀ character next, decoded = some (character, next) → cursor < next ∧ Boundary value next

theorem entityAt_ok {value : List Char} {cursor : ℕ} (hcursor : cursor < (utf8 value).length) :
    ∃ decoded, entityAt value cursor = .ok decoded ∧ Moves value cursor decoded := by
  have hnone : Moves value cursor none := fun _ _ h => nomatch h
  unfold entityAt
  simp only [List.getElem?_eq_getElem hcursor]
  split
  · next hamp =>
    rw [if_neg (by omega)]
    split
    · exact ⟨none, rfl, hnone⟩
    · next offset hoffset =>
      obtain ⟨hlt, hsemicolon, -⟩ := List.findIdx?_eq_some_iff_getElem.mp hoffset
      have hbyte := (getElem?_take_drop (List.getElem?_eq_getElem hlt)).1
      rw [beq_iff_eq.mp hsemicolon] at hbyte
      have hat : (utf8 value)[cursor]? = some (byte '&') := by
        rw [List.getElem?_eq_getElem hcursor, hamp]
      have hstart := (boundary_of_ascii hat (by decide)).2
      have hstop := boundary_of_ascii hbyte (by decide)
      obtain ⟨-, entity, -, -, -, -, hslice⟩ :=
        slice_of_boundary hstart hstop.1 (by omega)
      obtain ⟨character, hcharacter⟩ := htmlEntity_ok entity
      rw [hslice]
      simp only [hcharacter]
      refine ⟨_, rfl, ?_⟩
      intro other next hnext
      obtain ⟨found, -, hpair⟩ := Option.map_eq_some_iff.mp hnext
      obtain ⟨rfl, rfl⟩ := Prod.mk.inj hpair
      exact ⟨by omega, hstop.2⟩
  · exact ⟨none, rfl, hnone⟩

theorem nextCharacter_ok {value : List Char} {cursor : ℕ} (hboundary : Boundary value cursor)
    (hcursor : cursor < (utf8 value).length) :
    ∃ decoded, nextCharacter value cursor = .ok decoded ∧ Moves value cursor decoded := by
  obtain ⟨decoded, hentity, hmoves⟩ := entityAt_ok hcursor
  cases decoded with
  | some decoded =>
    refine ⟨some decoded, ?_, hmoves⟩
    simp [nextCharacter, hentity, bind, Except.bind, pure, Except.pure]
  | none =>
    obtain ⟨front, behind, rfl, rfl⟩ := hboundary
    have hslice := slice_append front behind []
    rw [List.append_nil] at hslice
    refine ⟨behind.head?.map fun character =>
      (character, (utf8 front).length + character.utf8Size), ?_, ?_⟩
    · simp only [nextCharacter, hentity, bind, Except.bind, hslice]
      rfl
    · intro character next hnext
      cases behind with
      | nil => contradiction
      | cons first behind =>
        obtain ⟨rfl, rfl⟩ := Prod.mk.inj (Option.some.inj hnext)
        have hpos := first.utf8Size_pos
        refine ⟨by omega, front ++ [first], behind, by simp, ?_⟩
        simp [length_utf8_cons]

theorem decodeFrom_ok (value : List Char) (maximumBytes fuel cursor : ℕ) (decoded : List Char)
    (hfuel : 0 < fuel) (henough : (utf8 value).length < cursor + fuel)
    (hboundary : Boundary value cursor) :
    ∃ text, decodeFrom value maximumBytes fuel cursor decoded = .ok text := by
  induction fuel generalizing cursor decoded with
  | zero => omega
  | succ fuel ih =>
    unfold decodeFrom
    by_cases hcursor : cursor < (utf8 value).length
    · obtain ⟨next, hnext, hmoves⟩ := nextCharacter_ok hboundary hcursor
      rw [if_pos hcursor, hnext]
      cases next with
      | none => exact ⟨none, rfl⟩
      | some moved =>
        obtain ⟨character, next⟩ := moved
        obtain ⟨hlt, hnextBoundary⟩ := hmoves character next rfl
        cases hpush : pushBounded decoded character maximumBytes with
        | none =>
          refine ⟨none, ?_⟩
          simp [bind, Except.bind, hpush, pure, Except.pure]
        | some pushed =>
          obtain ⟨text, htext⟩ := ih next pushed (by omega) (by omega) hnextBoundary
          refine ⟨text, ?_⟩
          simp [bind, Except.bind, hpush, htext]
    · rw [if_neg hcursor]
      exact ⟨_, rfl⟩

theorem decodeHtmlEntities_ok (value : List Char) (maximumBytes : ℕ) :
    ∃ text, decodeHtmlEntities value maximumBytes = .ok text :=
  decodeFrom_ok value maximumBytes _ 0 [] (Nat.succ_pos _) (by omega) (boundary_zero value)

theorem matchesProperty_ok (tag property : List Char) :
    ∃ matched, matchesProperty tag property = .ok matched := by
  obtain ⟨value, hvalue⟩ := attributeValue_ok tag "property".toList
  obtain ⟨name, hname⟩ := attributeValue_ok tag "name".toList
  unfold matchesProperty
  rw [hvalue]
  cases value with
  | none => exact ⟨_, by rw [hname]; rfl⟩
  | some value => exact ⟨_, rfl⟩

/-- A tag that is found and closed is a slice of the document. -/
theorem slice_tag {document : List Char} {needle : List UInt8} {cursor start stop : ℕ}
    (hstart : findAsciiCaseInsensitive (utf8 document) (byte '<' :: needle) cursor = some start)
    (hstop : findTagEnd (utf8 document) start = some stop) :
    cursor ≤ start ∧ start ≤ stop ∧ ∃ tag, slice document start (stop + 1) = some tag := by
  obtain ⟨hle, hopen⟩ := findAsciiCaseInsensitive_some (by decide) hstart
  obtain ⟨hle', hclose⟩ := findTagEnd_some hstop
  have hbefore := (boundary_of_ascii hopen (by decide)).1
  have hbehind := (boundary_of_ascii hclose (by decide)).2
  obtain ⟨-, tag, -, -, -, -, hslice⟩ := slice_of_boundary hbefore hbehind (by omega)
  exact ⟨hle, hle', tag, hslice⟩

theorem lt_length_of_findTagEnd {bytes : List UInt8} {start stop : ℕ}
    (h : findTagEnd bytes start = some stop) : stop < bytes.length := by
  obtain ⟨hlt, -⟩ := List.getElem?_eq_some_iff.mp (findTagEnd_some h).2
  exact hlt

theorem metaValueFrom_ok (document property : List Char) (maximumBytes fuel cursor : ℕ)
    (hfuel : 0 < fuel) (henough : (utf8 document).length < cursor + fuel) :
    ∃ value, metaValueFrom document property maximumBytes fuel cursor = .ok value := by
  induction fuel generalizing cursor with
  | zero => omega
  | succ fuel ih =>
    unfold metaValueFrom
    simp only
    cases hstart : findAsciiCaseInsensitive (utf8 document) (utf8 "<meta".toList) cursor with
    | none => exact ⟨none, rfl⟩
    | some start =>
      cases hstop : findTagEnd (utf8 document) start with
      | none => exact ⟨none, by simp [hstop]⟩
      | some stop =>
        obtain ⟨hle, hle', tag, hslice⟩ := slice_tag hstart hstop
        have hlt := lt_length_of_findTagEnd hstop
        obtain ⟨matched, hmatched⟩ := matchesProperty_ok tag property
        obtain ⟨content, hcontent⟩ := attributeValue_ok tag "content".toList
        obtain ⟨value, hrest⟩ := ih (stop + 1) (by omega) (by omega)
        simp only [hstop, hslice, hmatched, bind, Except.bind]
        cases matched with
        | false => exact ⟨value, hrest⟩
        | true =>
          simp only [if_true, hcontent]
          cases content with
          | none => exact ⟨value, hrest⟩
          | some content =>
            obtain ⟨decoded, hdecoded⟩ := decodeHtmlEntities_ok content maximumBytes
            simp only [hdecoded]
            exact ⟨_, rfl⟩

theorem metaValue_ok (document property : String) (maximumBytes : ℕ) :
    ∃ value, metaValue document property maximumBytes = .ok value :=
  metaValueFrom_ok _ _ _ _ 0 (Nat.succ_pos _) (by omega)

theorem initialStateFrom_ok (document : List Char) (fuel cursor : ℕ) (hfuel : 0 < fuel)
    (henough : (utf8 document).length < cursor + fuel) :
    ∃ state, initialStateFrom document fuel cursor = .ok state := by
  induction fuel generalizing cursor with
  | zero => omega
  | succ fuel ih =>
    unfold initialStateFrom
    simp only
    cases hstart : findAsciiCaseInsensitive (utf8 document) (utf8 "<script".toList) cursor with
    | none => exact ⟨none, rfl⟩
    | some start =>
      cases hstop : findTagEnd (utf8 document) start with
      | none => exact ⟨none, by simp [hstop]⟩
      | some stop =>
        obtain ⟨hle, hle', tag, hslice⟩ := slice_tag hstart hstop
        have hlt := lt_length_of_findTagEnd hstop
        obtain ⟨id, hid⟩ := attributeValue_ok tag "id".toList
        obtain ⟨type, htype⟩ := attributeValue_ok tag "type".toList
        obtain ⟨state, hrest⟩ := ih (stop + 1) (by omega) (by omega)
        simp only [hstop, hslice, hid, bind, Except.bind]
        by_cases hinitial : id = some "initialState".toList
        · simp only [if_pos hinitial, htype]
          split
          · split
            · exact ⟨none, rfl⟩
            · exact ⟨_, rfl⟩
          · exact ⟨state, hrest⟩
        · simp only [if_neg hinitial]
          exact ⟨state, hrest⟩

theorem initialState_ok (document : String) : ∃ state, initialState document = .ok state :=
  initialStateFrom_ok _ _ 0 (Nat.succ_pos _) (by omega)

end PepeAudio.Catalog.PublicScan
