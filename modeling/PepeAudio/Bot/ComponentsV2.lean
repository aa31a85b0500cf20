import PepeAudio.Core.Text
import PepeAudio.Lib.Program
import PepeAudio.Lib.Url
import Mathlib.Data.List.Nodup

/-!
# Component messages

A message of components is a forest: rows of buttons or a select, texts, sections
and containers of these. The validator counts and walks the forest before a message
is sent. What it accepts is what `Message.WellFormed` says about the components of
the forest, one by one, and about their custom ids.
-/
namespace PepeAudio.ComponentsV2

def MAX_COMPONENTS : ℕ := 40
def MAX_BUTTONS_PER_ROW : ℕ := 5
def MAX_BUTTON_LABEL_CHARS : ℕ := 80
def MAX_BUTTON_URL_BYTES : ℕ := 512
def MAX_SELECT_OPTIONS : ℕ := 25
def MAX_CUSTOM_ID_CHARS : ℕ := 100
def MAX_PLACEHOLDER_CHARS : ℕ := 150
def MAX_OPTION_CHARS : ℕ := 100

inductive ValidationError where
  | emptyMessage
  | tooManyComponents (actual maximum : ℕ)
  | emptyTextDisplay
  | emptyContainer
  | nestedContainer
  | invalidSectionTextCount (actual : ℕ)
  | emptyMediaUrl
  | emptyActionRow
  | mixedActionRow
  | invalidButtonCount (actual : ℕ)
  | emptyButtonLabel
  | buttonLabelTooLong
  | invalidButtonUrl
  | invalidCustomIdLength (actual : ℕ)
  | duplicateCustomId (customId : String)
  | invalidSelectOptionCount (actual : ℕ)
  | selectPlaceholderTooLong
  | emptySelectOption
  | selectOptionTooLong
  | multipleDefaultSelectOptions
  deriving DecidableEq, Repr

inductive ButtonStyle where
  | primary
  | secondary
  | success
  | danger
  | link
  deriving DecidableEq, Repr

structure ButtonComponent where
  style : ButtonStyle
  customId : Option String
  url : Option String
  label : String
  disabled : Bool
  deriving DecidableEq, Repr

structure SelectOption where
  label : String
  value : String
  description : Option String
  selected : Bool
  deriving DecidableEq, Repr

/-- A select of exactly one value. -/
structure StringSelectComponent where
  customId : String
  options : List SelectOption
  placeholder : Option String
  disabled : Bool
  deriving DecidableEq, Repr

inductive InteractiveComponent where
  | button (button : ButtonComponent)
  | stringSelect (select : StringSelectComponent)
  deriving DecidableEq, Repr

structure ActionRowComponent where
  components : List InteractiveComponent
  deriving DecidableEq, Repr

structure TextDisplayComponent where
  content : String
  deriving DecidableEq, Repr

structure ThumbnailComponent where
  url : String
  description : Option String
  deriving DecidableEq, Repr

/-- The accessory is always a thumbnail. -/
structure SectionComponent where
  text : List TextDisplayComponent
  accessory : ThumbnailComponent
  deriving DecidableEq, Repr

inductive Component where
  | actionRow (row : ActionRowComponent)
  | sectionOf (content : SectionComponent)
  | textDisplay (text : TextDisplayComponent)
  | separator
  | container (components : List Component)

structure Message where
  isEphemeral : Bool
  components : List Component

/-- A check that goes on when its condition holds. -/
def ensure (condition : Bool) (error : ValidationError) : Except ValidationError Unit :=
  if condition then .ok () else .error error

def validateCustomId (customId : String) : Except ValidationError Unit :=
  ensure (1 ≤ customId.length && customId.length ≤ MAX_CUSTOM_ID_CHARS)
    (.invalidCustomIdLength customId.length)

def validLinkUrl (library : UrlLibrary) (value : String) : Bool :=
  if value = "" || MAX_BUTTON_URL_BYTES < value.utf8ByteSize ||
      value.toList.any isControl then false
  else (library.parse value).any fun url =>
    url.scheme = "https" && url.port.isNone && url.username = "" && url.password.isNone &&
      url.fragment.isNone

def ButtonComponent.validate (library : UrlLibrary) (button : ButtonComponent) :
    Except ValidationError Unit := do
  match button.customId, button.url with
  | some customId, none =>
    if button.style = .link then .error .invalidButtonUrl else validateCustomId customId
  | none, some url => ensure (button.style = .link && validLinkUrl library url) .invalidButtonUrl
  | _, _ => .error .invalidButtonUrl
  ensure (!button.label.isEmpty) .emptyButtonLabel
  ensure (button.label.length ≤ MAX_BUTTON_LABEL_CHARS) .buttonLabelTooLong

def SelectOption.validate (option : SelectOption) : Except ValidationError Unit := do
  ensure (!option.label.isEmpty && !option.value.isEmpty) .emptySelectOption
  ensure (option.label.length ≤ MAX_OPTION_CHARS && option.value.length ≤ MAX_OPTION_CHARS
    && option.description.all (·.length ≤ MAX_OPTION_CHARS)) .selectOptionTooLong

def StringSelectComponent.validate (select : StringSelectComponent) :
    Except ValidationError Unit := do
  validateCustomId select.customId
  ensure (!select.options.isEmpty && select.options.length ≤ MAX_SELECT_OPTIONS)
    (.invalidSelectOptionCount select.options.length)
  ensure (select.placeholder.all (·.length ≤ MAX_PLACEHOLDER_CHARS)) .selectPlaceholderTooLong
  forM select.options SelectOption.validate
  ensure ((select.options.filter (·.selected)).length ≤ 1) .multipleDefaultSelectOptions

def InteractiveComponent.isButton : InteractiveComponent → Bool
  | .button _ => true
  | .stringSelect _ => false

def InteractiveComponent.validateButton (library : UrlLibrary) :
    InteractiveComponent → Except ValidationError Unit
  | .button inner => inner.validate library
  | .stringSelect _ => .ok ()

def ActionRowComponent.validate (library : UrlLibrary) (row : ActionRowComponent) :
    Except ValidationError Unit :=
  match row.components with
  | [] => .error .emptyActionRow
  | [.stringSelect select] => select.validate
  | components =>
    if components.length ≤ MAX_BUTTONS_PER_ROW ∧ components.all (·.isButton) then
      forM components (InteractiveComponent.validateButton library)
    else .error .mixedActionRow

def TextDisplayComponent.validate (text : TextDisplayComponent) : Except ValidationError Unit :=
  ensure (!text.content.isEmpty) .emptyTextDisplay

def SectionComponent.validate (content : SectionComponent) : Except ValidationError Unit := do
  ensure (1 ≤ content.text.length && content.text.length ≤ 3)
    (.invalidSectionTextCount content.text.length)
  forM content.text TextDisplayComponent.validate
  ensure (!content.accessory.url.isEmpty) .emptyMediaUrl

namespace Component

variable (library : UrlLibrary)

/-- A child of a container. -/
def validateChild : Component → Except ValidationError Unit
  | .container _ => .error .nestedContainer
  | .actionRow row => row.validate library
  | .sectionOf content => content.validate
  | .textDisplay text => text.validate
  | .separator => .ok ()

def validate : Component → Except ValidationError Unit
  | .container [] => .error .emptyContainer
  | .container components => forM components (validateChild library)
  | component => component.validateChild library

mutual

def countTree : Component → ℕ
  | .actionRow row => 1 + row.components.length
  | .sectionOf content => 1 + content.text.length + 1
  | .container components => 1 + countTrees components
  | .textDisplay _ => 1
  | .separator => 1

/-- The sum of `count_tree`. -/
def countTrees : List Component → ℕ
  | [] => 0
  | component :: components => component.countTree + countTrees components

end

end Component

def InteractiveComponent.customId : InteractiveComponent → Option String
  | .button inner => inner.customId
  | .stringSelect inner => some inner.customId

/-- The custom ids of a row go into the set of those seen. -/
def collectRow (components : List InteractiveComponent) (seen : List String) :
    Except ValidationError (List String) :=
  components.foldlM (fun seen component =>
    match component.customId with
    | none => .ok seen
    | some customId =>
      if customId ∈ seen then .error (.duplicateCustomId customId) else .ok (customId :: seen)) seen

mutual

def Component.collectCustomIds : Component → List String → Except ValidationError (List String)
  | .actionRow row, seen => collectRow row.components seen
  | .container components, seen => collectAll components seen
  | .sectionOf _, seen => .ok seen
  | .textDisplay _, seen => .ok seen
  | .separator, seen => .ok seen

/-- `collect_custom_ids` of one component after the other. -/
def collectAll : List Component → List String → Except ValidationError (List String)
  | [], seen => .ok seen
  | component :: components, seen => component.collectCustomIds seen >>= collectAll components

end

namespace Message

variable (library : UrlLibrary)

def validate (message : Message) : Except ValidationError Unit := do
  ensure (!message.components.isEmpty) .emptyMessage
  let count := Component.countTrees message.components
  ensure (count ≤ MAX_COMPONENTS) (.tooManyComponents count MAX_COMPONENTS)
  forM message.components (Component.validate library)
  discard (collectAll message.components [])

/-- `Message::new` and `Message::ephemeral`. -/
def withFlags (components : List Component) (isEphemeral : Bool) : Except ValidationError Message :=
  let message : Message := ⟨isEphemeral, components⟩
  (message.validate library).map fun _ => message

end Message

def SectionComponent.withThumbnail (text : List TextDisplayComponent) (imageUrl : String)
    (description : Option String) : Except ValidationError SectionComponent :=
  let content : SectionComponent := ⟨text, ⟨imageUrl, description⟩⟩
  content.validate.map fun _ => content

def StringSelectComponent.single (customId : String) (options : List SelectOption)
    (placeholder : Option String) : Except ValidationError StringSelectComponent :=
  let select : StringSelectComponent := ⟨customId, options, placeholder, false⟩
  select.validate.map fun _ => select

namespace ButtonComponent

/-- The buttons with an action; only the style differs. -/
def action (style : ButtonStyle) (customId label : String) : ButtonComponent :=
  ⟨style, some customId, none, label, false⟩

def neutral : String → String → ButtonComponent := action .secondary
def primary : String → String → ButtonComponent := action .primary
def success : String → String → ButtonComponent := action .success
def danger : String → String → ButtonComponent := action .danger

end ButtonComponent

namespace Component

def text (content : String) : Component := .textDisplay ⟨content⟩

def buttons (library : UrlLibrary) (buttons : List ButtonComponent) :
    Except ValidationError Component := do
  ensure (!buttons.isEmpty && buttons.length ≤ MAX_BUTTONS_PER_ROW)
    (.invalidButtonCount buttons.length)
  let row : ActionRowComponent := ⟨buttons.map .button⟩
  (row.validate library).map fun _ => .actionRow row

def select (library : UrlLibrary) (select : StringSelectComponent) :
    Except ValidationError Component :=
  let row : ActionRowComponent := ⟨[.stringSelect select]⟩
  (row.validate library).map fun _ => .actionRow row

end Component

/-- A short text of an https URL with a host and a path and perhaps a query, and nothing else. -/
def LinkUrl (library : UrlLibrary) (value : String) : Prop :=
  (value ≠ "" ∧ value.utf8ByteSize ≤ MAX_BUTTON_URL_BYTES ∧
      ∀ c ∈ value.toList, isControl c = false) ∧
    ∃ url, library.parse value = some url ∧ url.scheme = "https" ∧ url.port = none ∧
      url.username = "" ∧ url.password = none ∧ url.fragment = none

def ButtonComponent.WellFormed (library : UrlLibrary) (button : ButtonComponent) : Prop :=
  (button.label ≠ "" ∧ button.label.length ≤ MAX_BUTTON_LABEL_CHARS) ∧
    ((∃ customId, button.customId = some customId ∧ button.url = none ∧ button.style ≠ .link ∧
        1 ≤ customId.length ∧ customId.length ≤ MAX_CUSTOM_ID_CHARS) ∨
      ∃ url, button.customId = none ∧ button.url = some url ∧ button.style = .link ∧
        LinkUrl library url)

structure SelectOption.WellFormed (option : SelectOption) : Prop where
  label_ne : option.label ≠ ""
  value_ne : option.value ≠ ""
  label_le : option.label.length ≤ MAX_OPTION_CHARS
  value_le : option.value.length ≤ MAX_OPTION_CHARS
  description_le : ∀ description ∈ option.description, description.length ≤ MAX_OPTION_CHARS

structure StringSelectComponent.WellFormed (select : StringSelectComponent) : Prop where
  customId_pos : 1 ≤ select.customId.length
  customId_le : select.customId.length ≤ MAX_CUSTOM_ID_CHARS
  options_ne : select.options ≠ []
  options_le : select.options.length ≤ MAX_SELECT_OPTIONS
  placeholder_le : ∀ placeholder ∈ select.placeholder,
    placeholder.length ≤ MAX_PLACEHOLDER_CHARS
  options : ∀ option ∈ select.options, option.WellFormed
  selected_le : (select.options.filter (·.selected)).length ≤ 1

/-- One select, or some buttons. -/
def ActionRowComponent.WellFormed (library : UrlLibrary) (row : ActionRowComponent) :
    Prop :=
  (∃ select, row.components = [.stringSelect select] ∧ select.WellFormed) ∨
    (row.components ≠ [] ∧ row.components.length ≤ MAX_BUTTONS_PER_ROW ∧
      ∀ component ∈ row.components, ∃ button, component = .button button ∧
        button.WellFormed library)

structure SectionComponent.WellFormed (content : SectionComponent) : Prop where
  text_pos : 1 ≤ content.text.length
  text_le : content.text.length ≤ 3
  text : ∀ text ∈ content.text, text.content ≠ ""
  url_ne : content.accessory.url ≠ ""

namespace Component

def WellFormedChild (library : UrlLibrary) : Component → Prop
  | .container _ => False
  | .actionRow row => row.WellFormed library
  | .sectionOf content => content.WellFormed
  | .textDisplay text => text.content ≠ ""
  | .separator => True

def WellFormed (library : UrlLibrary) : Component → Prop
  | .container components =>
    components ≠ [] ∧ ∀ component ∈ components, component.WellFormedChild library
  | component => component.WellFormedChild library

mutual

/-- The buttons and selects in a tree, from first to last. -/
def interactives : Component → List InteractiveComponent
  | .actionRow row => row.components
  | .container components => interactivesAll components
  | .sectionOf _ => []
  | .textDisplay _ => []
  | .separator => []

def interactivesAll : List Component → List InteractiveComponent
  | [] => []
  | component :: components => component.interactives ++ interactivesAll components

end

/-- The custom ids in a forest, from first to last. -/
def customIds (components : List Component) : List String :=
  (interactivesAll components).filterMap (·.customId)

end Component

structure Message.WellFormed (library : UrlLibrary) (message : Message) : Prop where
  nonempty : message.components ≠ []
  count : Component.countTrees message.components ≤ MAX_COMPONENTS
  components : ∀ component ∈ message.components, component.WellFormed library
  customIds : (Component.customIds message.components).Nodup

@[simp] theorem ensure_eq_ok {condition : Bool} {error : ValidationError} :
    ensure condition error = .ok () ↔ condition = true := by
  cases condition <;> simp [ensure]

@[simp] theorem seq_eq_ok {α : Type} {x : Except ValidationError Unit}
    {y : Except ValidationError α} {a : α} :
    (x >>= fun _ => y) = .ok a ↔ x = .ok () ∧ y = .ok a := by
  cases x <;> simp [bind, Except.bind]

theorem map_eq_ok {α : Type} {x : Except ValidationError Unit} {a b : α} :
    x.map (fun _ => a) = .ok b ↔ x = .ok () ∧ a = b := by
  cases x <;> simp [Except.map]

@[simp] theorem forM_eq_ok {α : Type} {f : α → Except ValidationError Unit} {xs : List α} :
    forM xs f = .ok () ↔ ∀ x ∈ xs, f x = .ok () := by
  induction xs with
  | nil => simp [pure, Except.pure]
  | cons x xs ih => simp [ih]

@[simp] theorem validateCustomId_eq_ok {customId : String} : validateCustomId customId = .ok () ↔
    1 ≤ customId.length ∧ customId.length ≤ MAX_CUSTOM_ID_CHARS := by
  simp [validateCustomId]

theorem validLinkUrl_iff {library : UrlLibrary} {value : String} :
    validLinkUrl library value = true ↔ LinkUrl library value := by
  unfold validLinkUrl
  split_ifs with h
  · refine iff_of_false (by simp) fun hlink => ?_
    obtain ⟨⟨hne, hle, hplain⟩, -⟩ := hlink
    simp only [Bool.or_eq_true, decide_eq_true_eq, List.any_eq_true] at h
    rcases h with (hempty | hlong) | ⟨c, hc, hcontrol⟩
    · exact hne hempty
    · omega
    · simp [hplain c hc] at hcontrol
  · simp only [Bool.or_eq_true, decide_eq_true_eq, not_or, Nat.not_lt, Bool.not_eq_true,
      List.any_eq_false] at h
    simp only [Option.any_eq_true, Bool.and_eq_true, decide_eq_true_eq,
      Option.isNone_iff_eq_none, and_assoc]
    exact ⟨fun hurl => ⟨⟨h.1.1, h.1.2, by simpa using h.2⟩, hurl⟩, fun hlink => hlink.2⟩

theorem ButtonComponent.validate_eq_ok {library : UrlLibrary} {button : ButtonComponent} :
    button.validate library = .ok () ↔ button.WellFormed library := by
  obtain ⟨style, customId, url, label, disabled⟩ := button
  have hlabel (x : Except ValidationError Unit) :
      (do
        x
        ensure (!label.isEmpty) .emptyButtonLabel
        ensure (label.length ≤ MAX_BUTTON_LABEL_CHARS) .buttonLabelTooLong) = .ok () ↔
      (label ≠ "" ∧ label.length ≤ MAX_BUTTON_LABEL_CHARS) ∧ x = .ok () := by
    simp [and_comm]
  cases customId with
  | none =>
    cases url with
    | none => simp [ButtonComponent.validate, ButtonComponent.WellFormed]
    | some url =>
      simp [ButtonComponent.validate, ButtonComponent.WellFormed, hlabel, validLinkUrl_iff]
  | some customId =>
    cases url with
    | none =>
      by_cases hlink : style = .link
      · simp [ButtonComponent.validate, ButtonComponent.WellFormed, hlink]
      · simp [ButtonComponent.validate, ButtonComponent.WellFormed, hlink, hlabel]
    | some url => simp [ButtonComponent.validate, ButtonComponent.WellFormed]

theorem SelectOption.validate_eq_ok {option : SelectOption} :
    option.validate = .ok () ↔ option.WellFormed := by
  have hdescription : option.description.all (·.length ≤ MAX_OPTION_CHARS) = true ↔
      ∀ description ∈ option.description, description.length ≤ MAX_OPTION_CHARS := by
    cases option.description <;> simp
  simp only [SelectOption.validate, seq_eq_ok, ensure_eq_ok, Bool.and_eq_true, hdescription,
    Bool.not_eq_true', decide_eq_true_eq, String.isEmpty_eq_false_iff]
  constructor
  · rintro ⟨⟨hlabel, hvalue⟩, ⟨hlabel', hvalue'⟩, hdescription'⟩
    exact ⟨hlabel, hvalue, hlabel', hvalue', hdescription'⟩
  · intro h
    exact ⟨⟨h.label_ne, h.value_ne⟩, ⟨h.label_le, h.value_le⟩, h.description_le⟩

theorem StringSelectComponent.validate_eq_ok {select : StringSelectComponent} :
    select.validate = .ok () ↔ select.WellFormed := by
  have hplaceholder : select.placeholder.all (·.length ≤ MAX_PLACEHOLDER_CHARS) = true ↔
      ∀ placeholder ∈ select.placeholder, placeholder.length ≤ MAX_PLACEHOLDER_CHARS := by
    cases select.placeholder <;> simp
  have hoptions : select.options.isEmpty = false ↔ select.options ≠ [] := by
    simp
  simp only [StringSelectComponent.validate, seq_eq_ok, ensure_eq_ok, forM_eq_ok,
    validateCustomId_eq_ok, Bool.and_eq_true, hplaceholder, Bool.not_eq_true', decide_eq_true_eq,
    hoptions, SelectOption.validate_eq_ok]
  constructor
  · rintro ⟨⟨hid, hid'⟩, ⟨hne, hle⟩, hplaceholder', hoptions', hselected⟩
    exact ⟨hid, hid', hne, hle, hplaceholder', hoptions', hselected⟩
  · intro h
    exact ⟨⟨h.customId_pos, h.customId_le⟩, ⟨h.options_ne, h.options_le⟩, h.placeholder_le,
      h.options, h.selected_le⟩

theorem ActionRowComponent.validate_eq_ok {library : UrlLibrary}
    {row : ActionRowComponent} :
    row.validate library = .ok () ↔ row.WellFormed library := by
  obtain ⟨components⟩ := row
  have hbuttons (hsome : components ≠ [])
      (hselect : ∀ select, components ≠ [.stringSelect select]) :
      (if components.length ≤ MAX_BUTTONS_PER_ROW ∧ components.all (·.isButton) then
          forM components (InteractiveComponent.validateButton library)
        else .error .mixedActionRow) = .ok () ↔
      ActionRowComponent.WellFormed library ⟨components⟩ := by
    have heach : (components.all (·.isButton) = true ∧ ∀ component ∈ components,
        component.validateButton library = .ok ()) ↔ ∀ component ∈ components,
        ∃ button, component = .button button ∧ button.WellFormed library := by
      rw [List.all_eq_true, ← forall₂_and]
      refine forall₂_congr fun component _ => ?_
      cases component with
      | button inner =>
        simp [InteractiveComponent.isButton, InteractiveComponent.validateButton,
          ButtonComponent.validate_eq_ok]
      | stringSelect inner => simp [InteractiveComponent.isButton]
    simp only [ActionRowComponent.WellFormed, hselect, false_and, exists_false, false_or, ne_eq,
      hsome, not_false_eq_true, true_and, ← heach]
    split_ifs with h
    · simp [h]
    · simp only [false_iff]
      rintro ⟨hlength, hall, -⟩
      exact h ⟨hlength, hall⟩
  match components, hbuttons with
  | [], _ => simp [ActionRowComponent.validate, ActionRowComponent.WellFormed]
  | [.stringSelect select], _ =>
    simp [ActionRowComponent.validate, ActionRowComponent.WellFormed,
      StringSelectComponent.validate_eq_ok]
  | [.button button], hbuttons => exact hbuttons (by simp) (by simp)
  | first :: second :: rest, hbuttons =>
    have h := hbuttons (by simp) (by simp)
    cases first <;> exact h

theorem SectionComponent.validate_eq_ok {content : SectionComponent} :
    content.validate = .ok () ↔ content.WellFormed := by
  have htext : (∀ text ∈ content.text, text.validate = .ok ()) ↔
      ∀ text ∈ content.text, text.content ≠ "" := by
    simp [TextDisplayComponent.validate]
  simp only [SectionComponent.validate, seq_eq_ok, ensure_eq_ok, forM_eq_ok, Bool.and_eq_true,
    decide_eq_true_eq, htext, Bool.not_eq_true', String.isEmpty_eq_false_iff]
  constructor
  · rintro ⟨⟨hpos, hle⟩, htext', hurl⟩
    exact ⟨hpos, hle, htext', hurl⟩
  · intro h
    exact ⟨⟨h.text_pos, h.text_le⟩, h.text, h.url_ne⟩

namespace Component

variable {library : UrlLibrary}

theorem validateChild_eq_ok {component : Component} :
    component.validateChild library = .ok () ↔ component.WellFormedChild library := by
  cases component with
  | actionRow row => exact ActionRowComponent.validate_eq_ok
  | sectionOf content => exact SectionComponent.validate_eq_ok
  | textDisplay text =>
    simp [validateChild, WellFormedChild, TextDisplayComponent.validate]
  | separator => simp [validateChild, WellFormedChild]
  | container components => simp [validateChild, WellFormedChild]

theorem validate_eq_ok {component : Component} :
    component.validate library = .ok () ↔ component.WellFormed library := by
  cases component with
  | container components =>
    cases components with
    | nil => simp [validate, WellFormed]
    | cons first rest =>
      rw [validate, forM_eq_ok, WellFormed]
      · simp [validateChild_eq_ok]
      · simp
  | actionRow row =>
    unfold validate WellFormed
    exact validateChild_eq_ok
  | sectionOf content =>
    unfold validate WellFormed
    exact validateChild_eq_ok
  | textDisplay text =>
    unfold validate WellFormed
    exact validateChild_eq_ok
  | separator =>
    unfold validate WellFormed
    exact validateChild_eq_ok

end Component

/-- Custom ids go one by one into the set of those seen. -/
def insertAll : List String → List String → Except ValidationError (List String)
  | [], seen => .ok seen
  | customId :: customIds, seen =>
    if customId ∈ seen then .error (.duplicateCustomId customId)
    else insertAll customIds (customId :: seen)

theorem insertAll_append (front back seen : List String) :
    insertAll (front ++ back) seen = insertAll front seen >>= insertAll back := by
  induction front generalizing seen with
  | nil => rfl
  | cons customId front ih =>
    simp only [List.cons_append, insertAll]
    split_ifs
    · rfl
    · exact ih _

theorem insertAll_ok_iff {customIds seen : List String} :
    (∃ seen', insertAll customIds seen = .ok seen') ↔
      customIds.Nodup ∧ ∀ customId ∈ customIds, customId ∉ seen := by
  induction customIds generalizing seen with
  | nil => simp [insertAll]
  | cons customId customIds ih =>
    rw [insertAll]
    split_ifs with hseen
    · simp [hseen]
    · rw [ih, List.nodup_cons, List.forall_mem_cons]
      constructor
      · rintro ⟨hnodup, hfresh⟩
        refine ⟨⟨fun hmem => hfresh customId hmem List.mem_cons_self, hnodup⟩, hseen, ?_⟩
        exact fun id hid hmem => hfresh id hid (List.mem_cons_of_mem _ hmem)
      · rintro ⟨⟨hnot, hnodup⟩, -, hfresh⟩
        refine ⟨hnodup, fun id hid hmem => ?_⟩
        rcases List.mem_cons.mp hmem with rfl | hmem
        · exact hnot hid
        · exact hfresh id hid hmem

theorem collectRow_eq (components : List InteractiveComponent) (seen : List String) :
    collectRow components seen = insertAll (components.filterMap (·.customId)) seen := by
  induction components generalizing seen with
  | nil => rfl
  | cons component components ih =>
    cases hid : component.customId with
    | none =>
      rw [List.filterMap_cons_none hid, ← ih]
      simp [collectRow, hid, bind, Except.bind]
    | some customId =>
      rw [List.filterMap_cons_some hid, insertAll]
      split_ifs with hseen
      · simp [collectRow, hid, hseen, bind, Except.bind]
      · rw [← ih]
        simp [collectRow, hid, hseen, bind, Except.bind]

mutual

theorem collectCustomIds_eq : ∀ (component : Component) (seen : List String),
    component.collectCustomIds seen =
      insertAll (component.interactives.filterMap (·.customId)) seen
  | .actionRow row, seen => by
    simp [Component.collectCustomIds, Component.interactives, collectRow_eq]
  | .container components, seen => by
    simp [Component.collectCustomIds, Component.interactives, collectAll_eq components,
      Component.customIds]
  | .sectionOf _, _ => by simp [Component.collectCustomIds, Component.interactives, insertAll]
  | .textDisplay _, _ => by simp [Component.collectCustomIds, Component.interactives, insertAll]
  | .separator, _ => by simp [Component.collectCustomIds, Component.interactives, insertAll]

theorem collectAll_eq : ∀ (components : List Component) (seen : List String),
    collectAll components seen = insertAll (Component.customIds components) seen
  | [], _ => by simp [collectAll, Component.customIds, Component.interactivesAll, insertAll]
  | component :: components, seen => by
    rw [collectAll, Component.customIds, Component.interactivesAll, List.filterMap_append,
      insertAll_append, collectCustomIds_eq component]
    exact congrArg _ (funext (collectAll_eq components))

end

namespace Message

variable {library : UrlLibrary} {message : Message}

/-- The validator accepts exactly the well-formed messages. -/
theorem validate_eq_ok : message.validate library = .ok () ↔
    message.WellFormed library := by
  have hids : discard (collectAll message.components []) = .ok () ↔
      (Component.customIds message.components).Nodup := by
    have hok : (∃ seen, insertAll (Component.customIds message.components) [] = .ok seen) ↔
        (Component.customIds message.components).Nodup := by
      simp [insertAll_ok_iff]
    rw [collectAll_eq, ← hok]
    cases insertAll (Component.customIds message.components) [] <;>
      simp [discard, Functor.mapConst, Except.map]
  simp only [validate, seq_eq_ok, ensure_eq_ok, forM_eq_ok, Component.validate_eq_ok, hids,
    Bool.not_eq_true', List.isEmpty_eq_false_iff, decide_eq_true_eq]
  constructor
  · rintro ⟨hnonempty, hcount, hcomponents, hnodup⟩
    exact ⟨hnonempty, hcount, hcomponents, hnodup⟩
  · intro h
    exact ⟨h.nonempty, h.count, h.components, h.customIds⟩

theorem withFlags_eq_ok {components : List Component} {isEphemeral : Bool} :
    withFlags library components isEphemeral = .ok message ↔
      message = ⟨isEphemeral, components⟩ ∧ message.WellFormed library := by
  rw [withFlags, map_eq_ok, validate_eq_ok]
  constructor
  · rintro ⟨hvalid, rfl⟩
    exact ⟨rfl, hvalid⟩
  · rintro ⟨rfl, hvalid⟩
    exact ⟨hvalid, rfl⟩

/-- A message is made of components exactly when they form one that may be sent: every component of
the forest is as it must be, there are not too many of them and no two share an id. -/
theorem withFlags_succeeds_iff (components : List Component) (isEphemeral : Bool) :
    (∃ message, withFlags library components isEphemeral = .ok message) ↔
      Message.WellFormed library ⟨isEphemeral, components⟩ := by
  constructor
  · rintro ⟨message, hmessage⟩
    obtain ⟨rfl, hformed⟩ := withFlags_eq_ok.mp hmessage
    exact hformed
  · intro hformed
    exact ⟨_, withFlags_eq_ok.mpr ⟨rfl, hformed⟩⟩

end Message

theorem SectionComponent.withThumbnail_ok {text : List TextDisplayComponent} {imageUrl : String}
    {description : Option String}
    (h : SectionComponent.WellFormed ⟨text, ⟨imageUrl, description⟩⟩) :
    withThumbnail text imageUrl description = .ok ⟨text, ⟨imageUrl, description⟩⟩ :=
  map_eq_ok.mpr ⟨SectionComponent.validate_eq_ok.mpr h, rfl⟩

theorem StringSelectComponent.single_ok {customId : String} {options : List SelectOption}
    {placeholder : Option String}
    (h : StringSelectComponent.WellFormed ⟨customId, options, placeholder, false⟩) :
    single customId options placeholder = .ok ⟨customId, options, placeholder, false⟩ :=
  map_eq_ok.mpr ⟨StringSelectComponent.validate_eq_ok.mpr h, rfl⟩

namespace Component

variable {library : UrlLibrary}

theorem buttons_ok {buttons : List ButtonComponent} (hne : buttons ≠ [])
    (hle : buttons.length ≤ MAX_BUTTONS_PER_ROW)
    (h : ∀ button ∈ buttons, button.WellFormed library) :
    Component.buttons library buttons = .ok (.actionRow ⟨buttons.map .button⟩)
      ∧ ActionRowComponent.WellFormed library ⟨buttons.map .button⟩ := by
  have hrow : ActionRowComponent.WellFormed library ⟨buttons.map .button⟩ := by
    refine .inr ⟨by simpa using hne, by simpa using hle, fun component hmem => ?_⟩
    obtain ⟨button, hbutton, rfl⟩ := List.mem_map.mp hmem
    exact ⟨button, rfl, h button hbutton⟩
  refine ⟨?_, hrow⟩
  rw [Component.buttons, seq_eq_ok, map_eq_ok, ActionRowComponent.validate_eq_ok]
  exact ⟨by simp [hne, hle], hrow, rfl⟩

theorem select_ok {select : StringSelectComponent} (h : select.WellFormed) :
    Component.select library select = .ok (.actionRow ⟨[.stringSelect select]⟩) :=
  map_eq_ok.mpr ⟨ActionRowComponent.validate_eq_ok.mpr (.inl ⟨select, rfl, h⟩), rfl⟩

end Component
end PepeAudio.ComponentsV2
