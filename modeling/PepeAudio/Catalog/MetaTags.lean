import PepeAudio.Catalog.HtmlEntities

/-!
# Well-formed meta tags

The tags a page is made of as structures that carry their own syntax, and that the scanners
read out of the rendered page what was put into it.
-/
namespace PepeAudio.Catalog.PublicScan

def isBlank (c : Char) : Bool :=
  c == '\t' || c == '\n' || c == '\x0c' || c == '\r' || c == ' '

def isSeparator (c : Char) : Bool := isBlank c || c == '/'

def isNameChar (c : Char) : Bool := c.isAlphanum || c == '-' || c == '_' || c == ':'

/-- A double-quoted attribute with what stands before it and around its equals sign. -/
structure MetaAttribute where
  separator : List Char
  name : List Char
  before : List Char
  behind : List Char
  value : List Char
  separator_all : ∀ c ∈ separator, isSeparator c = true
  name_ne_nil : name ≠ []
  name_all : ∀ c ∈ name, isNameChar c = true
  before_all : ∀ c ∈ before, isBlank c = true
  behind_all : ∀ c ∈ behind, isBlank c = true
  value_all : '"' ∉ value

def MetaAttribute.text (a : MetaAttribute) : List Char :=
  a.separator ++ (a.name ++ (a.before ++ '=' :: (a.behind ++ '"' :: (a.value ++ ['"']))))

def tagText (opening : List Char) (attributes : List MetaAttribute) (closing : List Char) :
    List Char :=
  opening ++ (attributes.flatMap MetaAttribute.text ++ (closing ++ ['>']))

/-- A complete meta tag, shorter than the limit. -/
structure MetaTag where
  opening : List Char
  attributes : List MetaAttribute
  closing : List Char
  opening_eq : equalsIgnoreCase (utf8 opening) (utf8 "<meta".toList) = true
  closing_all : ∀ c ∈ closing, isSeparator c = true
  short : (utf8 (tagText opening attributes closing)).length < MAX_META_TAG_BYTES

namespace MetaTag

def text (tag : MetaTag) : List Char := tagText tag.opening tag.attributes tag.closing

/-- The value of the first attribute of a name. -/
def attribute? (tag : MetaTag) (wanted : List Char) : Option (List Char) :=
  (tag.attributes.find? fun a => equalsIgnoreCase (utf8 a.name) (utf8 wanted)).map (·.value)

/-- Whether the tag names a property, by `property` or else by `name`. -/
def names (tag : MetaTag) (property : List Char) : Bool :=
  ((tag.attribute? "property".toList).or (tag.attribute? "name".toList)).any fun value =>
    equalsIgnoreCase (utf8 value) (utf8 property)

end MetaTag

theorem isSeparator_spec {c : Char} (h : isSeparator c = true) :
    c.toNat < 0x80 ∧ (isAsciiWhitespace (byte c) || byte c == byte '/') = true
      ∧ byte c ≠ byte '\'' ∧ byte c ≠ byte '"' ∧ byte c ≠ byte '>' := by
  simp only [isSeparator, isBlank, Bool.or_eq_true, beq_iff_eq] at h
  rcases h with ((((rfl | rfl) | rfl) | rfl) | rfl) | rfl <;> decide

theorem isBlank_spec {c : Char} (h : isBlank c = true) :
    c.toNat < 0x80 ∧ isAsciiWhitespace (byte c) = true ∧ isNameByte (byte c) = false
      ∧ byte c ≠ byte '\'' ∧ byte c ≠ byte '"' ∧ byte c ≠ byte '>' := by
  simp only [isBlank, Bool.or_eq_true, beq_iff_eq] at h
  rcases h with (((rfl | rfl) | rfl) | rfl) | rfl <;> decide

theorem toNat_byte {c : Char} (h : c.toNat < 0x80) : (byte c).toNat = c.toNat := by
  rw [byte, UInt8.toNat_ofNat']
  omega

theorem isNameChar_spec {c : Char} (h : isNameChar c = true) :
    c.toNat < 0x80 ∧ isNameByte (byte c) = true := by
  simp only [isNameChar, Bool.or_eq_true, beq_iff_eq] at h
  rcases h with ((h | rfl) | rfl) | rfl
  · have hascii := isAlphanum_lt h
    refine ⟨hascii, ?_⟩
    rw [isAlphanum_iff] at h
    simp only [isNameByte, toNat_byte hascii, Bool.or_eq_true, Bool.and_eq_true,
      decide_eq_true_eq]
    omega
  · decide
  · decide
  · decide

theorem isNameByte_spec {b : UInt8} (h : isNameByte b = true) :
    (isAsciiWhitespace b || b == byte '/') = false ∧ b ≠ byte '\'' ∧ b ≠ byte '"'
      ∧ b ≠ byte '>' := by
  have hspace : (isAsciiWhitespace b || b == byte '/') = false := by
    by_contra hspace
    simp only [Bool.not_eq_false, isAsciiWhitespace, Bool.or_eq_true, beq_iff_eq] at hspace
    rcases hspace with ((((rfl | rfl) | rfl) | rfl) | rfl) | rfl <;> contradiction
  refine ⟨hspace, ?_, ?_, ?_⟩ <;> (rintro rfl; contradiction)

theorem forall_mem_utf8 {cs : List Char} {P : UInt8 → Prop}
    (h : ∀ c ∈ cs, c.toNat < 0x80 ∧ P (byte c)) : ∀ b ∈ utf8 cs, P b := by
  rw [utf8_of_ascii fun c hc => (h c hc).1]
  intro b hb
  obtain ⟨c, hc, rfl⟩ := List.mem_map.mp hb
  exact (h c hc).2

theorem head?_utf8_cons {c : Char} (h : c.toNat < 0x80) (cs : List Char) :
    (utf8 (c :: cs)).head? = some (byte c) := by
  rw [utf8_cons_of_ascii h]
  rfl

/-- The first byte behind some characters, the next one being ASCII. -/
theorem getElem?_ascii (front behind : List Char) {c : Char} (h : c.toNat < 0x80) :
    (utf8 (front ++ c :: behind))[(utf8 front).length]? = some (byte c) := by
  rw [getElem?_utf8_append, utf8EncodeChar_of_ascii h]
  rfl

theorem length_utf8_snoc (front : List Char) (c : Char) (h : c.toNat < 0x80) :
    (utf8 front).length + 1 = (utf8 (front ++ [c])).length := by
  rw [utf8_append, utf8_cons_of_ascii h]
  simp

/-- The byte of an ASCII character stands for that character only. -/
theorem byte_not_mem_utf8 {d : Char} (hd : d.toNat < 0x80) {cs : List Char} (h : d ∉ cs) :
    byte d ∉ utf8 cs := by
  induction cs with
  | nil => simp
  | cons c cs ih =>
    intro hb
    rw [utf8_cons, List.mem_append] at hb
    rcases hb with hb | hb
    · by_cases hc : c.toNat < 0x80
      · rw [utf8EncodeChar_of_ascii hc, List.mem_singleton] at hb
        exact h (List.mem_cons.mpr (.inl (byte_inj hd hc hb)))
      · have hlarge := not_ascii_of_mem hc _ hb
        rw [toNat_byte hd] at hlarge
        omega
    · exact ih (fun hmem => h (List.mem_cons_of_mem _ hmem)) hb

theorem forall_mem_value {value : List Char} (h : '"' ∉ value) :
    ∀ b ∈ utf8 value, (b != byte '"') = true := by
  intro b hb
  rw [bne_iff_ne]
  rintro rfl
  exact byte_not_mem_utf8 (by decide) h hb

/-- One attribute is read: it is the wanted one, or the scan goes on behind it. -/
theorem attributeFrom_attribute (front rest wanted : List Char) (a : MetaAttribute) (fuel : ℕ) :
    attributeFrom (front ++ (a.text ++ rest)) wanted (fuel + 1) (utf8 front).length
      = if equalsIgnoreCase (utf8 a.name) (utf8 wanted) then .ok (some a.value)
        else attributeFrom (front ++ (a.text ++ rest)) wanted fuel
          (utf8 (front ++ a.text)).length := by
  obtain ⟨separator, name, before, behind, value, hseparator, hne, hname, hbefore, hbehind,
    hvalue⟩ := a
  obtain ⟨first, others, rfl⟩ := List.exists_cons_of_ne_nil hne
  obtain ⟨hfirst, hfirstByte⟩ := isNameChar_spec (hname first List.mem_cons_self)
  obtain ⟨hnotSpace, -, -, hnotClose⟩ := isNameByte_spec hfirstByte
  simp only [MetaAttribute.text]
  -- the text in front of each part of the attribute
  let atName := front ++ separator
  let atBefore := atName ++ (first :: others)
  let atEquals := atBefore ++ before
  let atBehind := atEquals ++ ['=']
  let atQuote := atBehind ++ behind
  let atValue := atQuote ++ ['"']
  let atClose := atValue ++ value
  generalize htag : front ++ (separator ++ ((first :: others) ++ (before ++ '=' ::
    (behind ++ '"' :: (value ++ ['"'])))) ++ rest) = tag
  have hseparators : skipWhile (utf8 tag) (fun b => isAsciiWhitespace b || b == byte '/')
      (utf8 front).length = (utf8 atName).length := by
    rw [← htag, List.append_assoc]
    refine skipWhile_append front (forall_mem_utf8 fun c hc =>
      ⟨(isSeparator_spec (hseparator c hc)).1, (isSeparator_spec (hseparator c hc)).2.1⟩) ?_
    rw [List.cons_append, List.cons_append, head?_utf8_cons hfirst]
    intro b hb
    rwa [← Option.some.inj hb]
  have hfirstAt : (utf8 tag)[(utf8 atName).length]? = some (byte first) := by
    have htext : tag = atName ++ first :: (others ++ (before ++ '=' :: (behind ++ '"' ::
        (value ++ '"' :: rest)))) := by
      simp [← htag, atName]
    rw [htext]
    exact getElem?_ascii atName _ hfirst
  have hnames : skipWhile (utf8 tag) isNameByte (utf8 atName).length
      = (utf8 atBefore).length := by
    have htext : tag = atName ++ ((first :: others) ++ (before ++ '=' :: (behind ++ '"' ::
        (value ++ '"' :: rest)))) := by
      simp [← htag, atName]
    rw [htext]
    refine skipWhile_append atName (forall_mem_utf8 fun c hc => isNameChar_spec (hname c hc)) ?_
    intro b hb
    cases before with
    | nil =>
      rw [List.nil_append, head?_utf8_cons (by decide)] at hb
      rw [← Option.some.inj hb]
      decide
    | cons c before =>
      obtain ⟨hc, -, hnotName, -⟩ := isBlank_spec (hbefore c List.mem_cons_self)
      rw [List.cons_append, head?_utf8_cons hc] at hb
      rwa [← Option.some.inj hb]
  have hnameSlice : slice tag (utf8 atName).length (utf8 atBefore).length
      = some (first :: others) := by
    have htext : tag = atName ++ (first :: others) ++ (before ++ '=' :: (behind ++ '"' ::
        (value ++ '"' :: rest))) := by
      simp [← htag, atName]
    rw [htext]
    exact slice_append atName (first :: others) _
  have hblanks : skipWhile (utf8 tag) isAsciiWhitespace (utf8 atBefore).length
      = (utf8 atEquals).length := by
    have htext : tag = atBefore ++
        (before ++ '=' :: (behind ++ '"' :: (value ++ '"' :: rest))) := by
      simp [← htag, atBefore, atName]
    rw [htext]
    refine skipWhile_append atBefore (forall_mem_utf8 fun c hc =>
      ⟨(isBlank_spec (hbefore c hc)).1, (isBlank_spec (hbefore c hc)).2.1⟩) ?_
    rw [head?_utf8_cons (by decide)]
    intro b hb
    rw [← Option.some.inj hb]
    decide
  have hequals : (utf8 tag)[(utf8 atEquals).length]? = some (byte '=') := by
    have htext : tag = atEquals ++ '=' :: (behind ++ '"' :: (value ++ '"' :: rest)) := by
      simp [← htag, atEquals, atBefore, atName]
    rw [htext]
    exact getElem?_ascii atEquals _ (by decide)
  have hblanks' : skipWhile (utf8 tag) isAsciiWhitespace ((utf8 atEquals).length + 1)
      = (utf8 atQuote).length := by
    have htext : tag = atBehind ++ (behind ++ '"' :: (value ++ '"' :: rest)) := by
      simp [← htag, atBehind, atEquals, atBefore, atName]
    rw [htext, length_utf8_snoc atEquals '=' (by decide)]
    refine skipWhile_append atBehind (forall_mem_utf8 fun c hc =>
      ⟨(isBlank_spec (hbehind c hc)).1, (isBlank_spec (hbehind c hc)).2.1⟩) ?_
    rw [head?_utf8_cons (by decide)]
    intro b hb
    rw [← Option.some.inj hb]
    decide
  have hquote : (utf8 tag)[(utf8 atQuote).length]? = some (byte '"') := by
    have htext : tag = atQuote ++ '"' :: (value ++ '"' :: rest) := by
      simp [← htag, atQuote, atBehind, atEquals, atBefore, atName]
    rw [htext]
    exact getElem?_ascii atQuote _ (by decide)
  have hvalues : skipWhile (utf8 tag) (· != byte '"') ((utf8 atQuote).length + 1)
      = (utf8 atClose).length := by
    have htext : tag = atValue ++ (value ++ '"' :: rest) := by
      simp [← htag, atValue, atQuote, atBehind, atEquals, atBefore, atName]
    rw [htext, length_utf8_snoc atQuote '"' (by decide)]
    refine skipWhile_append atValue (forall_mem_value hvalue) ?_
    rw [head?_utf8_cons (by decide)]
    intro b hb
    rw [← Option.some.inj hb]
    decide
  have hvalueSlice : slice tag ((utf8 atQuote).length + 1) (utf8 atClose).length
      = some value := by
    have htext : tag = atValue ++ value ++ '"' :: rest := by
      simp [← htag, atValue, atQuote, atBehind, atEquals, atBefore, atName]
    rw [htext, length_utf8_snoc atQuote '"' (by decide)]
    exact slice_append atValue value _
  have hend : (utf8 atClose).length + 1 = (utf8 (front ++ (separator ++ ((first :: others) ++
      (before ++ '=' :: (behind ++ '"' :: (value ++ ['"'])))))) ).length := by
    rw [length_utf8_snoc atClose '"' (by decide)]
    simp [atClose, atValue, atQuote, atBehind, atEquals, atBefore, atName]
  have hcursor : (utf8 front).length < (utf8 tag).length := by
    have hlt := (List.getElem?_eq_some_iff.mp hfirstAt).1
    simp only [atName, utf8_append, List.length_append] at hlt
    omega
  have hmoved : (utf8 atBefore).length ≠ (utf8 atName).length := by
    have hpos := first.utf8Size_pos
    simp only [atBefore, utf8_append, List.length_append, length_utf8_cons]
    omega
  rw [attributeFrom]
  simp only [if_pos hcursor, hseparators, hfirstAt, if_neg hnotClose, hnames, if_neg hmoved,
    hnameSlice, hblanks, hequals, ne_eq, not_true_eq_false, if_false, hblanks', hquote, hvalues,
    hvalueSlice, hend]
  simp

/-- Behind the attributes nothing is found. -/
theorem attributeFrom_closing (front wanted : List Char) {closing : List Char}
    (h : ∀ c ∈ closing, isSeparator c = true) (fuel : ℕ) :
    attributeFrom (front ++ (closing ++ ['>'])) wanted (fuel + 1) (utf8 front).length
      = .ok none := by
  have hseparators : skipWhile (utf8 (front ++ (closing ++ ['>'])))
      (fun b => isAsciiWhitespace b || b == byte '/') (utf8 front).length
      = (utf8 (front ++ closing)).length := by
    refine skipWhile_append front (forall_mem_utf8 fun c hc =>
      ⟨(isSeparator_spec (h c hc)).1, (isSeparator_spec (h c hc)).2.1⟩) ?_
    rw [head?_utf8_cons (by decide)]
    intro b hb
    rw [← Option.some.inj hb]
    decide
  have hclose : (utf8 (front ++ (closing ++ ['>'])))[(utf8 (front ++ closing)).length]?
      = some (byte '>') := by
    rw [← List.append_assoc]
    exact getElem?_ascii (front ++ closing) [] (by decide)
  have hcursor : (utf8 front).length < (utf8 (front ++ (closing ++ ['>']))).length := by
    have hlt := (List.getElem?_eq_some_iff.mp hclose).1
    rw [utf8_append front closing, List.length_append] at hlt
    omega
  rw [attributeFrom]
  simp only [if_pos hcursor, hseparators, hclose, if_true]

theorem attributeFrom_attributes (front wanted : List Char) (attributes : List MetaAttribute)
    {closing : List Char} (h : ∀ c ∈ closing, isSeparator c = true) (fuel : ℕ)
    (hfuel : attributes.length < fuel) :
    attributeFrom (front ++ (attributes.flatMap MetaAttribute.text ++ (closing ++ ['>']))) wanted
        fuel (utf8 front).length
      = .ok ((attributes.find? fun a => equalsIgnoreCase (utf8 a.name) (utf8 wanted)).map
          (·.value)) := by
  induction attributes generalizing front fuel with
  | nil =>
    obtain ⟨fuel, rfl⟩ : ∃ fuel', fuel = fuel' + 1 := ⟨fuel - 1, by omega⟩
    exact attributeFrom_closing front wanted h fuel
  | cons a attributes ih =>
    rw [List.length_cons] at hfuel
    obtain ⟨fuel, rfl⟩ : ∃ fuel', fuel = fuel' + 1 := ⟨fuel - 1, by omega⟩
    have hread := attributeFrom_attribute front
      (attributes.flatMap MetaAttribute.text ++ (closing ++ ['>'])) wanted a fuel
    rw [List.flatMap_cons, List.append_assoc, hread]
    cases hname : equalsIgnoreCase (utf8 a.name) (utf8 wanted) with
    | true => simp [hname]
    | false =>
      have hrest := ih (front ++ a.text) fuel (by omega)
      rw [List.append_assoc] at hrest
      rw [List.find?_cons_of_neg (by simp [hname]), if_neg (by simp), hrest]

theorem length_attributes_le (attributes : List MetaAttribute) :
    attributes.length ≤ (utf8 (attributes.flatMap MetaAttribute.text)).length := by
  induction attributes with
  | nil => simp
  | cons a attributes ih =>
    have hequals : 1 ≤ (utf8 a.text).length := by
      simp only [MetaAttribute.text, utf8_append, List.length_append,
        utf8_cons_of_ascii (show '='.toNat < 0x80 by decide), List.length_cons]
      omega
    rw [List.flatMap_cons, utf8_append, List.length_append, List.length_cons]
    omega

namespace MetaTag

theorem length_opening (tag : MetaTag) : (utf8 tag.opening).length = 5 := by
  have hbytes := congrArg List.length (beq_iff_eq.mp tag.opening_eq)
  rw [List.length_map, List.length_map] at hbytes
  exact hbytes

/-- The scan finds the first attribute of a name. -/
theorem attributeValue_text (tag : MetaTag) (wanted : List Char) :
    attributeValue tag.text wanted = .ok (tag.attribute? wanted) := by
  have hle := length_attributes_le tag.attributes
  have hlength : (utf8 tag.text).length = 5 + ((utf8 (tag.attributes.flatMap
      MetaAttribute.text)).length + (utf8 (tag.closing ++ ['>'])).length) := by
    rw [text, tagText, utf8_append, utf8_append, List.length_append, List.length_append,
      length_opening]
  have hread := attributeFrom_attributes tag.opening wanted tag.attributes tag.closing_all
    ((utf8 tag.text).length + 1) (by omega)
  rw [length_opening] at hread
  exact hread

/-- The scan decides whether the tag names a property. -/
theorem matchesProperty_text (tag : MetaTag) (property : List Char) :
    matchesProperty tag.text property = .ok (tag.names property) := by
  unfold matchesProperty names
  rw [attributeValue_text, attributeValue_text]
  cases tag.attribute? "property".toList with
  | none => rfl
  | some value => rfl

end MetaTag

end PepeAudio.Catalog.PublicScan
