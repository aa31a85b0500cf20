import PepeAudio.Bot.NowPanel
import PepeAudio.Player.Safety

/-!
# The controls of the panel

A panel can be built of every snapshot and every catalog that was loaded, and what it
offers is what its snapshot allows: a control that is used leads back to the player
and to the revision that were shown, and to a command that the player takes then.
-/
namespace PepeAudio.NowPanel

open ComponentsV2

/-! ## What fits -/

theorem append_ne_empty {first second : String} (h : first ≠ "") : first ++ second ≠ "" := by
  intro hempty
  have hchars := congrArg String.toList hempty
  rw [String.toList_append, String.toList_empty, List.append_eq_nil_iff] at hchars
  exact h (String.toList_inj.mp hchars.1)

theorem title_ne_empty (snapshot : PlayerSnapshot) : title snapshot ≠ "" := by
  unfold title
  split
  · decide
  · dsimp only
    split
    · exact append_ne_empty (by decide)
    · refine append_ne_empty ?_
      refine append_ne_empty ?_
      refine append_ne_empty ?_
      exact append_ne_empty (by decide)

theorem progress_ne_empty (snapshot : PlayerSnapshot) : progress snapshot ≠ "" := by
  unfold progress
  split
  · exact append_ne_empty (append_ne_empty (by decide))
  · dsimp only
    split
    · exact append_ne_empty (append_ne_empty (append_ne_empty (append_ne_empty (by decide))))
    · refine append_ne_empty ?_
      refine append_ne_empty ?_
      refine append_ne_empty ?_
      refine append_ne_empty ?_
      refine append_ne_empty ?_
      exact append_ne_empty (by decide)

theorem youtubeThumbnail_ne_empty {library : UrlLibrary} {track : TrackSnapshot} {url : String}
    (h : youtubeThumbnail library track = some url) : url ≠ "" := by
  unfold youtubeThumbnail at h
  simp only [Option.bind_eq_bind, Option.bind_eq_some_iff] at h
  obtain ⟨provenance, -, h⟩ := h
  split_ifs at h
  obtain ⟨parsed, -, h⟩ := Option.bind_eq_some_iff.mp h
  obtain ⟨identifier, -, h⟩ := Option.bind_eq_some_iff.mp h
  split_ifs at h
  obtain rfl := Option.some.inj h
  exact append_ne_empty (append_ne_empty (by decide))

/-- The title, alone or beside a picture, and the progress can be shown. -/
theorem statusComponents_ok (library : UrlLibrary) (snapshot : PlayerSnapshot) :
    ∃ head : Component, statusComponents library snapshot = .ok [head, .text (progress snapshot)] ∧
      head.WellFormedChild library ∧ head.countTree ≤ 3 ∧ head.interactives = [] := by
  cases hthumbnail : snapshot.currentTrack.bind (youtubeThumbnail library) with
  | none =>
    refine ⟨.text (title snapshot), ?_, title_ne_empty snapshot, ?_, ?_⟩
    · simp [statusComponents, hthumbnail]
    · simp [Component.text, Component.countTree]
    · simp [Component.text, Component.interactives]
  | some thumbnail =>
    obtain ⟨track, -, hurl⟩ := Option.bind_eq_some_iff.mp hthumbnail
    have hformed : SectionComponent.WellFormed
        ⟨[⟨title snapshot⟩], ⟨thumbnail, some "再生中の曲のサムネイル"⟩⟩ :=
      ⟨by simp, by simp, by simpa using title_ne_empty snapshot, youtubeThumbnail_ne_empty hurl⟩
    refine ⟨.sectionOf ⟨[⟨title snapshot⟩], ⟨thumbnail, some "再生中の曲のサムネイル"⟩⟩, ?_,
      hformed, ?_, ?_⟩
    · simp [statusComponents, hthumbnail, SectionComponent.withThumbnail_ok hformed]
      rfl
    · simp [Component.countTree]
    · simp [Component.interactives]

/-! ## Custom ids -/

section ids
variable (hash : KeyedHash) (base64 : Base64Codec) (codec : ComponentIdCodec)
  (snapshot : PlayerSnapshot)

theorem actionId_length (action : ComponentAction) :
    1 ≤ (actionId hash base64 codec snapshot action).length ∧
      (actionId hash base64 codec snapshot action).length ≤ MAX_CUSTOM_ID_CHARS := by
  have hle := ComponentIdCodec.encode_length action snapshot.guildId snapshot.revision hash base64
    codec
  have hchars := congrArg List.length (ComponentIdCodec.toList_encode action snapshot.guildId
    snapshot.revision hash base64 codec)
  rw [List.length_append, List.length_cons] at hchars
  unfold actionId MAX_CUSTOM_ID_CHARS
  rw [← String.length_toList]
  omega

theorem actionId_injective : Function.Injective (actionId hash base64 codec snapshot) := by
  intro first second hids
  have hdecoded := congrArg (codec.decode hash base64) hids
  unfold actionId at hdecoded
  rw [ComponentIdCodec.decode_encode, ComponentIdCodec.decode_encode] at hdecoded
  exact congrArg DecodedComponentId.action (Except.ok.inj hdecoded)

end ids

/-! ## Rows -/

section rows
variable {library : UrlLibrary} {snapshot : PlayerSnapshot} {action : ComponentAction → String}

theorem wellFormed_button (style : ButtonStyle) (label : String) {customId : String}
    {disabled : Bool} (hstyle : style ≠ .link)
    (hlabel : label ≠ "" ∧ label.length ≤ MAX_BUTTON_LABEL_CHARS)
    (hid : 1 ≤ customId.length ∧ customId.length ≤ MAX_CUSTOM_ID_CHARS) :
    ButtonComponent.WellFormed library ⟨style, some customId, none, label, disabled⟩ :=
  ⟨hlabel, .inl ⟨customId, rfl, rfl, hstyle, hid⟩⟩

variable (library snapshot) in
theorem playbackButtons_wellFormed (hid : ∀ kind, 1 ≤ (action kind).length ∧
      (action kind).length ≤ MAX_CUSTOM_ID_CHARS) :
    ∀ button ∈ playbackButtons snapshot action, button.WellFormed library := by
  have hplay (disabled : Bool) : ButtonComponent.WellFormed library
      { (if snapshot.state = .playing then ButtonComponent.primary (action .playPause) "⏸"
        else ButtonComponent.success (action .playPause) "▶") with disabled := disabled } := by
    split_ifs
    · exact wellFormed_button .primary "⏸" (by decide) (by decide) (hid _)
    · exact wellFormed_button .success "▶" (by decide) (by decide) (hid _)
  simp only [playbackButtons, List.forall_mem_cons]
  refine ⟨?_, hplay _, ?_, ?_, by simp⟩
  · exact wellFormed_button .secondary "⏮" (by decide) (by decide) (hid _)
  · exact wellFormed_button .secondary "⏭" (by decide) (by decide) (hid _)
  · exact wellFormed_button .danger "⏹" (by decide) (by decide) (hid _)

variable (library snapshot) in
theorem modeButtons_wellFormed (hid : ∀ kind, 1 ≤ (action kind).length ∧
      (action kind).length ≤ MAX_CUSTOM_ID_CHARS) :
    ∀ button ∈ modeButtons snapshot action, button.WellFormed library := by
  have hmode (on : Bool) (kind : ComponentAction) {label : String}
      (hlabel : label ≠ "" ∧ label.length ≤ MAX_BUTTON_LABEL_CHARS) :
      (modeButton on (action kind) label).WellFormed library := by
    cases on with
    | false => exact wellFormed_button .secondary label (by decide) hlabel (hid _)
    | true => exact wellFormed_button .primary label (by decide) hlabel (hid _)
  simp only [modeButtons, List.forall_mem_cons]
  refine ⟨hmode _ _ ?_, hmode _ _ (by decide), hmode _ _ (by decide), by simp⟩
  cases snapshot.repeatMode
  all_goals decide

/-- At most one element has a given key when the keys are different. -/
theorem length_filter_le_one {α β : Type} [DecidableEq β] {xs : List α} {f : α → β}
    (hnodup : (xs.map f).Nodup) (b : β) : (xs.filter fun x => f x == b).length ≤ 1 := by
  have hcount := List.nodup_iff_count_le_one.mp hnodup b
  rwa [List.count, List.countP_map, List.countP_eq_length_filter] at hcount

theorem volumeOptions_wellFormed (current : PlayerSnapshot) :
    ∀ option ∈ volumeOptions current, option.WellFormed := by
  have hvalues : ∀ value ∈ (List.range 21).map (· * 5),
      toString value ≠ "" ∧ (toString value).length ≤ 3 := by decide
  intro option hoption
  obtain ⟨value, hvalue, rfl⟩ := List.mem_map.mp hoption
  obtain ⟨hne, hle⟩ := hvalues value hvalue
  refine ⟨append_ne_empty hne, hne, ?_, ?_, by simp⟩
  · simp only [String.length_append, MAX_OPTION_CHARS]
    have : "%".length = 1 := by decide
    omega
  · simp only [MAX_OPTION_CHARS]
    omega

variable (snapshot) in
theorem volumeSelect_wellFormed (hid : ∀ kind, 1 ≤ (action kind).length ∧
      (action kind).length ≤ MAX_CUSTOM_ID_CHARS) :
    StringSelectComponent.WellFormed
      ⟨action .volume, volumeOptions snapshot, some "音量", false⟩ where
  customId_pos := (hid _).1
  customId_le := (hid _).2
  options_ne := by simp [volumeOptions]
  options_le := by simp [volumeOptions, MAX_SELECT_OPTIONS]
  placeholder_le := by
    rintro _ ⟨⟩
    decide
  options := volumeOptions_wellFormed snapshot
  selected_le := by
    have hnodup : (((List.range 21).map (· * 5)).map id).Nodup := by decide
    have hone := length_filter_le_one hnodup snapshot.volume.percent.toNat
    rw [volumeOptions, List.filter_map, List.length_map]
    exact hone

end rows

/-! ## Presets -/

section presets
variable {options : List HrirOption} {selected : Option String}

/-- The first presets are visible, or the selected one stands in place of the last of them. -/
inductive Visible (options : List HrirOption) (selected : Option String) :
    List HrirOption → Prop
  | first (hselected : ∀ option ∈ options, selected = some option.id →
        ∃ other ∈ options.take MAX_VISIBLE_HRIR_PRESETS, selected = some other.id) :
      Visible options selected (options.take MAX_VISIBLE_HRIR_PRESETS)
  | replaced (option : HrirOption) (hmem : option ∈ options.drop MAX_VISIBLE_HRIR_PRESETS)
      (hselected : selected = some option.id)
      (hne : options.take MAX_VISIBLE_HRIR_PRESETS ≠ [])
      (hother : ∀ other ∈ options.take MAX_VISIBLE_HRIR_PRESETS, other.id ≠ option.id) :
      Visible options selected ((options.take MAX_VISIBLE_HRIR_PRESETS).dropLast ++ [option])

theorem visible_visibleHrirOptions (options : List HrirOption) (selected : Option String) :
    Visible options selected (visibleHrirOptions options selected) := by
  have hsplit := List.take_append_drop MAX_VISIBLE_HRIR_PRESETS options
  have hpositive : 0 < MAX_VISIBLE_HRIR_PRESETS := by decide
  unfold visibleHrirOptions
  dsimp only
  cases selected with
  | none => exact .first (by simp)
  | some wanted =>
    dsimp only
    by_cases hany : (options.take MAX_VISIBLE_HRIR_PRESETS).any (·.id == wanted) = true
    · rw [if_pos hany]
      simp only [List.any_eq_true, beq_iff_eq] at hany
      obtain ⟨other, hother, rfl⟩ := hany
      exact .first fun option _ _ => ⟨other, hother, rfl⟩
    · rw [if_neg hany]
      simp only [List.any_eq_true, beq_iff_eq, not_exists, not_and] at hany
      split
      · rename_i hnone
        refine .first fun option hoption hwanted => ?_
        rw [← hsplit, List.mem_append] at hoption
        rcases hoption with hoption | hoption
        · exact ⟨option, hoption, hwanted⟩
        · have hid := List.find?_eq_none.mp hnone option hoption
          rw [beq_iff_eq] at hid
          exact absurd (Option.some.inj hwanted).symm hid
      · rename_i option hfound
        have hid : option.id = wanted := by simpa using List.find?_some hfound
        have hmem := List.mem_of_find?_eq_some hfound
        have hne : options.take MAX_VISIBLE_HRIR_PRESETS ≠ [] := by
          intro hempty
          rcases List.take_eq_nil_iff.mp hempty with hzero | rfl
          · omega
          · simp at hmem
        rw [if_neg (by rwa [List.isEmpty_iff])]
        subst hid
        exact .replaced option hmem rfl hne hany

variable {visible : List HrirOption}

theorem Visible.subset (h : Visible options selected visible) :
    ∀ option ∈ visible, option ∈ options := by
  cases h with
  | first => exact fun option hoption => List.mem_of_mem_take hoption
  | replaced option hmem =>
    intro other hother
    rcases List.mem_append.mp hother with hother | hother
    · exact List.mem_of_mem_take (List.mem_of_mem_dropLast hother)
    · obtain rfl := List.mem_singleton.mp hother
      exact List.mem_of_mem_drop hmem

theorem Visible.length_le (h : Visible options selected visible) :
    visible.length ≤ MAX_VISIBLE_HRIR_PRESETS := by
  have htake := List.length_take_le MAX_VISIBLE_HRIR_PRESETS options
  cases h with
  | first => exact htake
  | replaced option hmem hselected hne =>
    have hpos := List.length_pos_iff.mpr hne
    rw [List.length_append, List.length_dropLast, List.length_singleton]
    omega

theorem Visible.nodup (h : Visible options selected visible)
    (hnodup : (options.map (·.id)).Nodup) : (visible.map (·.id)).Nodup := by
  have htake : ((options.take MAX_VISIBLE_HRIR_PRESETS).map (·.id)).Nodup :=
    hnodup.sublist ((List.take_sublist _ _).map _)
  cases h with
  | first => exact htake
  | replaced option hmem hselected hne hother =>
    rw [List.map_append, List.map_singleton, List.nodup_append]
    refine ⟨htake.sublist ((List.dropLast_sublist _).map _), List.nodup_singleton _, ?_⟩
    intro id hid id' hid'
    obtain ⟨other, hmem', rfl⟩ := List.mem_map.mp hid
    obtain rfl := List.mem_singleton.mp hid'
    exact hother other (List.mem_of_mem_dropLast hmem')

/-- However many presets there are, the selected one is visible. -/
theorem Visible.exists_selected (h : Visible options selected visible) {option : HrirOption}
    (hoption : option ∈ options) (hselected : selected = some option.id) :
    ∃ other ∈ visible, selected = some other.id := by
  cases h with
  | first hfirst => exact hfirst option hoption hselected
  | replaced last _ hlast => exact ⟨last, by simp, hlast⟩

end presets

section catalog
variable {catalog : List Presets.HrirDescriptor} {snapshot : PlayerSnapshot}
  {action : ComponentAction → String}

theorem nodup_hrirOptions (h : (catalog.map (·.id)).Nodup) :
    ((hrirOptions catalog).map (·.id)).Nodup := by
  have hinjective : Function.Injective HrirPresetId.value := by
    intro first second hvalue
    cases first
    cases second
    cases hvalue
    rfl
  have hmap : (hrirOptions catalog).map (·.id) = (catalog.map (·.id)).map HrirPresetId.value := by
    simp [hrirOptions]
  rw [hmap]
  exact h.map hinjective

variable (snapshot) in
theorem hrirSelect_wellFormed (hid : ∀ kind, 1 ≤ (action kind).length ∧
      (action kind).length ≤ MAX_CUSTOM_ID_CHARS)
    (hnodup : (catalog.map (·.id)).Nodup) (hfits : ∀ descriptor ∈ catalog, descriptor.Fits) :
    StringSelectComponent.WellFormed ⟨action .hrir,
      hrirSelectOptions snapshot (hrirOptions catalog), some "HRIRプリセット", false⟩ where
  customId_pos := (hid _).1
  customId_le := (hid _).2
  options_ne := by simp [hrirSelectOptions]
  options_le := by
    have hle := (visible_visibleHrirOptions (hrirOptions catalog)
      (selectedPreset snapshot)).length_le
    simp only [hrirSelectOptions, List.length_cons, List.length_map]
    exact Nat.succ_le_succ hle
  placeholder_le := by
    rintro _ ⟨⟩
    decide
  options := by
    have hsubset := (visible_visibleHrirOptions (hrirOptions catalog)
      (selectedPreset snapshot)).subset
    have hoff (marked : Bool) : SelectOption.WellFormed
        ⟨"オフ", HRIR_OFF_VALUE, some "HRIR空間処理を無効にします", marked⟩ :=
      SelectOption.validate_eq_ok.mp (by cases marked <;> decide)
    simp only [hrirSelectOptions, List.forall_mem_cons]
    refine ⟨hoff _, ?_⟩
    intro option hoption
    obtain ⟨shown, hshown, rfl⟩ := List.mem_map.mp hoption
    obtain ⟨descriptor, hdescriptor, rfl⟩ := List.mem_map.mp (hsubset shown hshown)
    have hname := hfits descriptor hdescriptor
    refine ⟨hname.name.1, hname.id.1, hname.name.2, hname.id.2, ?_⟩
    intro description hdescription
    obtain ⟨full, -, rfl⟩ := Option.map_eq_some_iff.mp hdescription
    exact Presets.length_abbreviate full (by decide)
  selected_le := by
    cases hspatial : snapshot.spatialAudioEnabled with
    | false => simp [hrirSelectOptions, selectedPreset, hspatial, List.filter_map]
    | true =>
      cases hselected : selectedPreset snapshot with
      | none => simp [hrirSelectOptions, hselected, hspatial, List.filter_map, Function.comp_def]
      | some wanted =>
        have hvisible := (visible_visibleHrirOptions (hrirOptions catalog)
          (selectedPreset snapshot)).nodup (nodup_hrirOptions hnodup)
        have hone := length_filter_le_one hvisible wanted
        simp only [hrirSelectOptions, hselected, hspatial, Bool.not_true, List.filter_cons,
          Bool.false_eq_true, if_false, List.filter_map, List.length_map]
        refine le_trans (le_of_eq ?_) (hselected ▸ hone)
        congr 1
        refine List.filter_congr fun option _ => ?_
        simp [Bool.beq_comm]

end catalog

/-! ## The panel -/

section panel
variable (library : UrlLibrary) (hash : KeyedHash)
  (base64 : Base64Codec) (codec : ComponentIdCodec) (snapshot : PlayerSnapshot)
  {catalog : List Presets.HrirDescriptor}

/-- The buttons and selects of a panel, from first to last. -/
def offered (action : ComponentAction → String) (options : List HrirOption) :
    List InteractiveComponent :=
  (playbackButtons snapshot action ++ modeButtons snapshot action).map .button ++
    .stringSelect ⟨action .volume, volumeOptions snapshot, some "音量", false⟩ ::
      if options.isEmpty then []
      else [.stringSelect ⟨action .hrir, hrirSelectOptions snapshot options,
        some "HRIRプリセット", false⟩]

theorem interactivesAll_append (front back : List Component) :
    Component.interactivesAll (front ++ back) =
      Component.interactivesAll front ++ Component.interactivesAll back := by
  induction front with
  | nil => simp [Component.interactivesAll]
  | cons component front ih => simp [Component.interactivesAll, ih]

theorem countTrees_append (front back : List Component) :
    Component.countTrees (front ++ back) =
      Component.countTrees front + Component.countTrees back := by
  induction front with
  | nil => simp [Component.countTrees]
  | cons component front ih =>
    rw [List.cons_append, Component.countTrees, Component.countTrees, ih]
    omega

/-- Different actions have different ids. -/
theorem nodup_offered {action : ComponentAction → String} (h : Function.Injective action)
    (options : List HrirOption) :
    ((offered snapshot action options).filterMap (·.customId)).Nodup := by
  have hids : (offered snapshot action options).filterMap (·.customId) =
      ([.previous, .playPause, .skip, .stop, .repeat, .shuffle, .spatial, .volume] ++
        if options.isEmpty then [] else [.hrir] : List ComponentAction).map action := by
    have hplay : (if snapshot.state = .playing then
          ButtonComponent.primary (action .playPause) "⏸"
        else ButtonComponent.success (action .playPause) "▶").customId =
        some (action .playPause) := by
      split_ifs
      all_goals rfl
    have hmode (on : Bool) (kind : ComponentAction) (label : String) :
        (modeButton on (action kind) label).customId = some (action kind) := by
      cases on
      all_goals rfl
    simp only [offered, playbackButtons, modeButtons, List.filterMap_append, List.filterMap_map,
      List.filterMap_cons, Function.comp_def, InteractiveComponent.customId, hplay, hmode,
      ButtonComponent.neutral, ButtonComponent.danger, ButtonComponent.action, List.cons_append,
      List.nil_append]
    split_ifs
    all_goals simp
  rw [hids]
  refine List.Nodup.map h ?_
  split_ifs
  all_goals decide

theorem volumeSelector_ok {action : ComponentAction → String}
    (hid : ∀ kind, 1 ≤ (action kind).length ∧ (action kind).length ≤ MAX_CUSTOM_ID_CHARS) :
    volumeSelector library snapshot action = .ok (.actionRow ⟨[.stringSelect
      ⟨action .volume, volumeOptions snapshot, some "音量", false⟩]⟩) := by
  have hselect := volumeSelect_wellFormed snapshot hid
  rw [volumeSelector, StringSelectComponent.single_ok hselect]
  exact Component.select_ok hselect

theorem hrirSelector_ok {action : ComponentAction → String}
    (hid : ∀ kind, 1 ≤ (action kind).length ∧ (action kind).length ≤ MAX_CUSTOM_ID_CHARS)
    (hnodup : (catalog.map (·.id)).Nodup) (hfits : ∀ descriptor ∈ catalog, descriptor.Fits) :
    ∃ row, hrirSelector library snapshot action (hrirOptions catalog) = .ok row ∧
      (∀ component ∈ row.toList, component.WellFormedChild library) ∧
      Component.countTrees row.toList ≤ 2 ∧
      Component.interactivesAll row.toList = if (hrirOptions catalog).isEmpty then []
        else [.stringSelect ⟨action .hrir, hrirSelectOptions snapshot (hrirOptions catalog),
          some "HRIRプリセット", false⟩] := by
  have hselect := hrirSelect_wellFormed snapshot hid hnodup hfits
  by_cases hempty : (hrirOptions catalog).isEmpty = true
  · refine ⟨none, by rw [hrirSelector, if_pos hempty], by simp, ?_, ?_⟩
    · simp [Component.countTrees]
    · simp [Component.interactivesAll, hempty]
  · refine ⟨some (.actionRow ⟨[.stringSelect ⟨action .hrir,
      hrirSelectOptions snapshot (hrirOptions catalog), some "HRIRプリセット", false⟩]⟩), ?_, ?_,
      ?_, ?_⟩
    · rw [hrirSelector, if_neg hempty, StringSelectComponent.single_ok hselect]
      exact congrArg (Except.map some) (Component.select_ok hselect)
    · intro component hcomponent
      obtain rfl := List.mem_singleton.mp hcomponent
      exact .inl ⟨_, rfl, hselect⟩
    · simp [Component.countTrees, Component.countTree]
    · simp [Component.interactivesAll, Component.interactives, hempty]

/-- A panel can be built whatever is shown, from the presets of every catalog that was loaded. -/
theorem buildNowPanel_ok (hnodup : (catalog.map (·.id)).Nodup)
    (hfits : ∀ descriptor ∈ catalog, descriptor.Fits) :
    ∃ panel, buildNowPanel library hash base64 codec snapshot (hrirOptions catalog) =
        .ok panel ∧ panel.WellFormed library ∧
      Component.interactivesAll panel.components =
        offered snapshot (actionId hash base64 codec snapshot) (hrirOptions catalog) := by
  have hid := actionId_length hash base64 codec snapshot
  have hinjective := actionId_injective hash base64 codec snapshot
  generalize haction : actionId hash base64 codec snapshot = action at hid hinjective
  obtain ⟨head, hstatus, hhead, hcount, hnone⟩ := statusComponents_ok library snapshot
  obtain ⟨hplayback, hplaybackRow⟩ := Component.buttons_ok (by simp [playbackButtons])
    (by simp [playbackButtons, MAX_BUTTONS_PER_ROW])
    (playbackButtons_wellFormed library snapshot hid)
  obtain ⟨hmode, hmodeRow⟩ := Component.buttons_ok (by simp [modeButtons])
    (by simp [modeButtons, MAX_BUTTONS_PER_ROW])
    (modeButtons_wellFormed library snapshot hid)
  have hvolume := volumeSelector_ok library snapshot hid
  have hvolumeSelect := volumeSelect_wellFormed snapshot hid
  obtain ⟨row, hhrir, hrow, hrowCount, hrowOffers⟩ :=
    hrirSelector_ok library snapshot hid hnodup hfits
  generalize hnote : (if MAX_VISIBLE_HRIR_PRESETS < (hrirOptions catalog).length then
      [Component.text "Discordでは24件まで表示しています。すべてのHRIRプリセットはWebダッシュボードで選べます。"]
    else []) = note
  have hnoteFormed : (∀ component ∈ note, component.WellFormedChild library) ∧
      Component.countTrees note ≤ 1 ∧ Component.interactivesAll note = [] := by
    subst hnote
    split_ifs
    · refine ⟨?_, ?_, ?_⟩
      · intro component hcomponent
        obtain rfl := List.mem_singleton.mp hcomponent
        simp [Component.text, Component.WellFormedChild]
      · simp [Component.text, Component.countTrees, Component.countTree]
      · simp [Component.text, Component.interactivesAll, Component.interactives]
    · simp [Component.countTrees, Component.interactivesAll]
  obtain ⟨children, hchildren⟩ : ∃ children, children = [head, .text (progress snapshot)] ++
      [.actionRow ⟨(playbackButtons snapshot action).map .button⟩,
        .actionRow ⟨(modeButtons snapshot action).map .button⟩,
        .actionRow ⟨[.stringSelect ⟨action .volume, volumeOptions snapshot, some "音量", false⟩]⟩] ++
      row.toList ++ note := ⟨_, rfl⟩
  have hoffers : Component.interactivesAll children =
      offered snapshot action (hrirOptions catalog) := by
    simp [hchildren, Component.interactivesAll, Component.interactives, interactivesAll_append,
      hnone, Component.text, hnoteFormed.2.2, hrowOffers, offered]
  have hcounted : Component.countTrees children ≤ 39 := by
    simp only [hchildren, countTrees_append, Component.countTrees, Component.countTree,
      Component.text, playbackButtons, modeButtons, List.length_map, List.length_cons,
      List.length_nil]
    have := hnoteFormed.2.1
    omega
  have hchild : ∀ component ∈ children, component.WellFormedChild library := by
    intro component hcomponent
    simp only [hchildren, List.mem_append, List.mem_cons, List.not_mem_nil, or_false] at hcomponent
    rcases hcomponent with (((rfl | rfl) | rfl | rfl | rfl) | hcomponent) | hcomponent
    · exact hhead
    · exact progress_ne_empty snapshot
    · exact hplaybackRow
    · exact hmodeRow
    · exact .inl ⟨_, rfl, hvolumeSelect⟩
    · exact hrow component hcomponent
    · exact hnoteFormed.1 component hcomponent
  have hformed : Message.WellFormed library ⟨false, [.container children]⟩ := by
    refine ⟨by simp, ?_, ?_, ?_⟩
    · simp only [Component.countTrees, Component.countTree, MAX_COMPONENTS]
      omega
    · intro component hcomponent
      obtain rfl := List.mem_singleton.mp hcomponent
      exact ⟨by simp [hchildren], hchild⟩
    · simpa [Component.customIds, Component.interactivesAll, Component.interactives, hoffers]
        using nodup_offered snapshot hinjective (hrirOptions catalog)
  refine ⟨⟨false, [.container children]⟩, ?_, hformed, ?_⟩
  · have hflags := Message.withFlags_eq_ok.mpr ⟨rfl, hformed⟩
    simp only [buildNowPanel, haction, hstatus, playbackControls, hplayback, modeControls, hmode,
      hvolume, hhrir, hnote, bind, Except.bind]
    rw [hchildren] at hflags ⊢
    exact hflags
  · simpa [Component.interactivesAll, Component.interactives] using hoffers

end panel

/-! ## Commands -/

/-- What the panel of a snapshot offers: the action and the value of a control, whether it is marked
and enabled, and the command that it stands for. -/
inductive Offers (snapshot : PlayerSnapshot) (catalog : List Presets.HrirDescriptor) :
    ComponentAction → InteractionInput → Bool → Bool → PlayerCommand → Prop
  | playPause : Offers snapshot catalog .playPause .button false snapshot.currentTrack.isSome
      (if snapshot.state = .playing then .pause else .play)
  | previous : Offers snapshot catalog .previous .button false snapshot.hasPreviousTrack .previous
  | skip : Offers snapshot catalog .skip .button false snapshot.currentTrack.isSome .skip
  | stop : Offers snapshot catalog .stop .button false
      (!(snapshot.currentTrack.isNone && snapshot.queuedTracks == 0)) .stop
  | repeat : Offers snapshot catalog .repeat .button false true
      (.setRepeat (match snapshot.repeatMode with
        | .off => .track
        | .track => .queue
        | .queue => .off))
  | shuffle : Offers snapshot catalog .shuffle .button false true
      (.setShuffle (!snapshot.shuffleEnabled))
  | spatial : Offers snapshot catalog .spatial .button false true
      (.setSpatialAudio (!snapshot.spatialAudioEnabled))
  | volume (volume : Volume) : Offers snapshot catalog .volume
      (.select (toString volume.percent.toNat)) (volume == snapshot.volume) true
      (.setVolume volume)
  | hrirOff : Offers snapshot catalog .hrir (.select HRIR_OFF_VALUE)
      (!snapshot.spatialAudioEnabled) true (.setSpatialAudio false)
  | preset (descriptor : Presets.HrirDescriptor) (hmem : descriptor ∈ catalog) :
      Offers snapshot catalog .hrir (.select descriptor.id.value)
        (selectedPreset snapshot == some descriptor.id.value) true
        (if descriptor.id.value = HRIR_OFF_VALUE then .setSpatialAudio false
        else .setHrir descriptor.id)

section commands
variable {snapshot : PlayerSnapshot} {catalog : List Presets.HrirDescriptor}
  {kind : ComponentAction} {input : InteractionInput} {marked enabled : Bool}
  {command : PlayerCommand}

variable (catalog) in
theorem offers_volumeOptions {option : SelectOption} (h : option ∈ volumeOptions snapshot) :
    ∃ command, Offers snapshot catalog .volume (.select option.value) option.selected true
      command := by
  obtain ⟨value, hvalue, rfl⟩ := List.mem_map.mp h
  have hle : value ≤ 100 := by
    obtain ⟨step, hstep, rfl⟩ := List.mem_map.mp hvalue
    rw [List.mem_range] at hstep
    omega
  have hnat : (UInt8.ofNat value).toNat = value :=
    UInt8.toNat_ofNat_of_lt' (lt_of_le_of_lt hle (by decide))
  have hbounded : UInt8.ofNat value ≤ 100 := by
    rw [UInt8.le_iff_toNat_le, hnat]
    exact hle
  have hoffers : Offers snapshot catalog .volume (.select (toString (UInt8.ofNat value).toNat))
      ((⟨UInt8.ofNat value, hbounded⟩ : Volume) == snapshot.volume) true
      (.setVolume ⟨UInt8.ofNat value, hbounded⟩) :=
    .volume ⟨UInt8.ofNat value, hbounded⟩
  have hmarked : ((⟨UInt8.ofNat value, hbounded⟩ : Volume) == snapshot.volume) =
      (value == snapshot.volume.percent.toNat) := by
    rw [Bool.eq_iff_iff, beq_iff_eq, beq_iff_eq, Volume.mk.injEq, ← UInt8.toNat_inj, hnat]
  rw [hnat, hmarked] at hoffers
  exact ⟨_, hoffers⟩

theorem offers_hrirOptions {option : SelectOption}
    (h : option ∈ hrirSelectOptions snapshot (hrirOptions catalog)) :
    ∃ command, Offers snapshot catalog .hrir (.select option.value) option.selected true
      command := by
  rcases List.mem_cons.mp h with rfl | h
  · exact ⟨_, .hrirOff⟩
  · obtain ⟨shown, hshown, rfl⟩ := List.mem_map.mp h
    have hsubset := (visible_visibleHrirOptions (hrirOptions catalog)
      (selectedPreset snapshot)).subset
    obtain ⟨descriptor, hmem, rfl⟩ := List.mem_map.mp (hsubset shown hshown)
    exact ⟨_, .preset descriptor hmem⟩

theorem controlsOf_button {button : ButtonComponent} {customId : String}
    (h : button.customId = some customId) :
    controlsOf (.button button) = [⟨customId, .button, false, !button.disabled⟩] := by
  simp [controlsOf, h]

theorem offers_playbackButtons {action : ComponentAction → String} {button : ButtonComponent}
    (h : button ∈ playbackButtons snapshot action) :
    ∃ kind command, button.customId = some (action kind) ∧
      Offers snapshot catalog kind .button false (!button.disabled) command := by
  simp only [playbackButtons, List.mem_cons, List.not_mem_nil, or_false] at h
  rcases h with rfl | rfl | rfl | rfl
  · exact ⟨_, _, rfl, by simpa using Offers.previous⟩
  · refine ⟨.playPause, _, ?_, by simpa using Offers.playPause⟩
    split_ifs
    all_goals rfl
  · exact ⟨_, _, rfl, by simpa using Offers.skip⟩
  · exact ⟨_, _, rfl, Offers.stop⟩

theorem offers_modeButtons {action : ComponentAction → String} {button : ButtonComponent}
    (h : button ∈ modeButtons snapshot action) :
    ∃ kind command, button.customId = some (action kind) ∧
      Offers snapshot catalog kind .button false (!button.disabled) command := by
  have hmode (on : Bool) (kind : ComponentAction) (label : String) :
      (modeButton on (action kind) label).customId = some (action kind) ∧
        (modeButton on (action kind) label).disabled = false := by
    cases on
    all_goals exact ⟨rfl, rfl⟩
  simp only [modeButtons, List.mem_cons, List.not_mem_nil, or_false] at h
  rcases h with rfl | rfl | rfl
  · exact ⟨_, _, (hmode _ _ _).1, by simpa [(hmode _ _ _).2] using Offers.repeat⟩
  · exact ⟨_, _, (hmode _ _ _).1, by simpa [(hmode _ _ _).2] using Offers.shuffle⟩
  · exact ⟨_, _, (hmode _ _ _).1, by simpa [(hmode _ _ _).2] using Offers.spatial⟩

/-- Every control of a panel carries the id of an action that the panel offers. -/
theorem offers_of_mem {action : ComponentAction → String} {control : Control}
    (h : control ∈ (offered snapshot action (hrirOptions catalog)).flatMap controlsOf) :
    ∃ kind command, control.customId = action kind ∧
      Offers snapshot catalog kind control.input control.marked control.enabled command := by
  obtain ⟨component, hcomponent, hcontrol⟩ := List.mem_flatMap.mp h
  simp only [offered, List.mem_append, List.mem_map, List.mem_cons] at hcomponent
  rcases hcomponent with ⟨button, hbutton, rfl⟩ | rfl | hcomponent
  · have hoffered : ∃ kind command, button.customId = some (action kind) ∧
        Offers snapshot catalog kind .button false (!button.disabled) command := by
      rcases hbutton with hbutton | hbutton
      · exact offers_playbackButtons hbutton
      · exact offers_modeButtons hbutton
    obtain ⟨kind, command, hcustomId, hoffers⟩ := hoffered
    rw [controlsOf_button hcustomId, List.mem_singleton] at hcontrol
    subst hcontrol
    exact ⟨kind, command, rfl, hoffers⟩
  · obtain ⟨option, hoption, rfl⟩ := List.mem_map.mp hcontrol
    obtain ⟨command, hoffers⟩ := offers_volumeOptions catalog hoption
    exact ⟨_, command, rfl, hoffers⟩
  · split_ifs at hcomponent
    · simp at hcomponent
    · obtain rfl := List.mem_singleton.mp hcomponent
      obtain ⟨option, hoption, rfl⟩ := List.mem_map.mp hcontrol
      obtain ⟨command, hoffers⟩ := offers_hrirOptions hoption
      exact ⟨_, command, rfl, hoffers⟩

theorem parsePercent_toString {percent : UInt8} :
    parsePercent (toString percent.toNat) = some percent := by
  have hread := fromStrRadix_toDigits (show 1 < 10 by decide) (by decide) percent.toNat_lt
  rw [parsePercent, Nat.toString_eq_ofList_toDigits, String.toList_ofList, hread, Option.map_some,
    UInt8.ofNat_toNat]

theorem hrirPresetId_new (presetId : HrirPresetId) :
    HrirPresetId.new presetId.value = .ok presetId := by
  have hvalid := presetId.valid
  simp only [isHrirPresetId, Bool.and_eq_true, Bool.not_eq_true', beq_iff_eq,
    decide_eq_true_eq] at hvalid
  obtain ⟨⟨⟨hne, hle⟩, htrim⟩, hcontrol⟩ := hvalid
  simp [HrirPresetId.new, hne, Nat.not_lt_of_le hle, htrim, hcontrol]

/-- The command is what the control is mapped to. -/
theorem Offers.mapAction (h : Offers snapshot catalog kind input marked enabled command) :
    NowPanel.mapAction kind input snapshot = .ok command := by
  cases h with
  | volume volume =>
    have hnew : Volume.new volume.percent = .ok volume := dif_pos volume.bounded
    simp only [NowPanel.mapAction, parsePercent_toString, okOr, hnew, bind, Except.bind, pure,
      Except.pure, Except.mapError]
  | hrirOff => simp [NowPanel.mapAction]
  | preset descriptor hmem =>
    by_cases hoff : descriptor.id.value = HRIR_OFF_VALUE
    · simp [NowPanel.mapAction, hoff]
    · simp [NowPanel.mapAction, hoff, hrirPresetId_new, bind, Except.bind, pure, Except.pure,
        Except.mapError]
  | _ => rfl

/-- What a choice would set is what is shown. -/
def Shows (snapshot : PlayerSnapshot) : PlayerCommand → Prop
  | .setVolume volume => volume = snapshot.volume
  | .setSpatialAudio enabled => enabled = snapshot.spatialAudioEnabled
  | .setHrir preset =>
    snapshot.spatialAudioEnabled = true ∧ snapshot.hrirPreset = some preset
  | _ => False

/-- A preset with the name of the off value would be marked for itself and stand for off. -/
theorem Offers.marked_iff (h : Offers snapshot catalog kind input marked enabled command)
    (hoff : ∀ descriptor ∈ catalog, descriptor.id.value ≠ HRIR_OFF_VALUE) :
    marked = true ↔ Shows snapshot command := by
  cases h with
  | playPause => split_ifs <;> simp [Shows]
  | volume volume => simp [Shows]
  | hrirOff => cases hspatial : snapshot.spatialAudioEnabled <;> simp [Shows, hspatial]
  | preset descriptor hmem =>
    rw [if_neg (hoff descriptor hmem)]
    have hvalue (presetId : HrirPresetId) :
        presetId.value = descriptor.id.value ↔ presetId = descriptor.id := by
      cases presetId
      cases hid : descriptor.id
      simp
    cases hspatial : snapshot.spatialAudioEnabled with
    | false => simp [Shows, selectedPreset, hspatial]
    | true => simp [Shows, selectedPreset, hspatial, hvalue]
  | _ => simp [Shows]

variable {capacity : ℕ} {model : PlayerModel} {reading : Reading}

/-- An enabled control stands for a command that is available. A disabled one does not, except that
an idle player may be stopped. -/
theorem Offers.available (hcoherent : Coherent capacity model)
    (h : Offers (model.snapshot reading) catalog kind input marked enabled command)
    (later : Reading) :
    (enabled = true → command.validateAgainst (model.snapshot later) = .ok ()) ∧
      (enabled = false → command = .stop ∨
        ∃ error, command.validateAgainst (model.snapshot later) = .error error) := by
  have hactive := hcoherent.active_iff
  cases h with
  | playPause =>
    have hcurrent : (model.snapshot reading).currentTrack.isSome = model.current.isSome := by
      simp [PlayerModel.snapshot]
    rw [hcurrent, ← Bool.not_eq_true, ← hactive]
    by_cases hplaying : model.state = .playing
    · simp [PlayerModel.snapshot, PlayerCommand.validateAgainst, hplaying]
    · by_cases hpaused : model.state = .paused
      · simp [PlayerModel.snapshot, PlayerCommand.validateAgainst, hpaused]
      · simp [PlayerModel.snapshot, PlayerCommand.validateAgainst, hplaying, hpaused]
  | previous =>
    cases hhistory : model.history.isEmpty
    all_goals simp [PlayerModel.snapshot, PlayerCommand.validateAgainst, hhistory]
  | skip =>
    cases hcurrent : model.current
    all_goals simp [PlayerModel.snapshot, PlayerCommand.validateAgainst, hcurrent]
  | stop =>
    refine ⟨fun henabled => ?_, fun _ => .inl rfl⟩
    have hstate : model.state ≠ .disconnected := by
      intro hdisconnected
      obtain ⟨hcurrent, hqueue, -⟩ :=
        hcoherent.cleared (hcoherent.voice_none_iff.mpr hdisconnected)
      simp [PlayerModel.snapshot, hcurrent, hqueue] at henabled
    simp [PlayerModel.snapshot, PlayerCommand.validateAgainst, hstate]
  | preset descriptor hmem => split_ifs <;> simp [PlayerCommand.validateAgainst]
  | _ => simp [PlayerCommand.validateAgainst]

end commands

section results
variable (library : UrlLibrary) (hash : KeyedHash)
  (base64 : Base64Codec) (codec : ComponentIdCodec)

/-- Whatever is shown and whatever catalog was loaded, a panel can be built, the validator accepts
it, and it marks the preset in use, however many presets there are. -/
theorem now_panel_accepted {metadata : Option String} {stems : List String}
    {catalog : List Presets.HrirDescriptor}
    (hcatalog : Presets.loadCatalog metadata stems = .ok catalog) (snapshot : PlayerSnapshot) :
    ∃ panel, buildNowPanel library hash base64 codec snapshot (hrirOptions catalog) =
        .ok panel ∧ panel.WellFormed library ∧
      ∀ descriptor ∈ catalog, selectedPreset snapshot = some descriptor.id.value →
        ∃ control ∈ controls panel, control.input = .select descriptor.id.value ∧
          control.marked = true := by
  obtain ⟨hnodup, hfits⟩ := Presets.loadCatalog_fits hcatalog
  obtain ⟨panel, hpanel, hformed, hoffered⟩ :=
    buildNowPanel_ok library hash base64 codec snapshot hnodup hfits
  refine ⟨panel, hpanel, hformed, fun descriptor hmem hselected => ?_⟩
  have hne : (hrirOptions catalog).isEmpty = false := by
    rw [List.isEmpty_eq_false_iff, hrirOptions, Ne, List.map_eq_nil_iff]
    exact List.ne_nil_of_mem hmem
  obtain ⟨shown, hshown, hid⟩ := (visible_visibleHrirOptions (hrirOptions catalog)
    (selectedPreset snapshot)).exists_selected (List.mem_map_of_mem hmem) hselected
  have hoption : (⟨shown.label, shown.id, shown.description.map discordOptionDescription,
      selectedPreset snapshot == some shown.id⟩ : SelectOption) ∈
      hrirSelectOptions snapshot (hrirOptions catalog) :=
    List.mem_cons_of_mem _ (List.mem_map_of_mem hshown)
  refine ⟨⟨actionId hash base64 codec snapshot .hrir, .select shown.id,
    selectedPreset snapshot == some shown.id, true⟩, ?_, ?_, by simp [hid]⟩
  · rw [controls, hoffered, List.mem_flatMap]
    refine ⟨.stringSelect ⟨actionId hash base64 codec snapshot .hrir,
      hrirSelectOptions snapshot (hrirOptions catalog), some "HRIRプリセット", false⟩, ?_, ?_⟩
    · simp [offered, hne]
    · exact List.mem_map.mpr ⟨_, hoption, rfl⟩
  · rw [hselected] at hid
    rw [Option.some.inj hid]

def wavesPreset : Presets.HrirDescriptor := ⟨⟨"waves", by decide⟩, "Waves NX", none⟩

/-- A catalog of two presets, one of them described. -/
def wavesCatalog : List Presets.HrirDescriptor := [⟨.alpha, "alpha", none⟩, wavesPreset]

theorem loadCatalog_waves :
    Presets.loadCatalog (some "*;x\nwaves;NX") ["waves", "alpha"] = .ok wavesCatalog := by
  decide +kernel

def exampleCodec : ComponentIdCodec := ⟨List.replicate 32 7, by decide⟩

/-- A paused player that is heard with the described preset. -/
def wavesSnapshot : PlayerSnapshot :=
  { (PlayerSetup.after [] pausedTrack).actor.model.snapshot ⟨⟨0⟩, 0⟩ with
    spatialAudioEnabled := true
    hrirPreset := some wavesPreset.id }

theorem now_panel_accepted_waves :
    ∃ panel, buildNowPanel ⟨fun _ => none, fun _ => []⟩ (fun _ _ => Vector.replicate 32 0)
        Base64.urlSafeNoPad exampleCodec wavesSnapshot (hrirOptions wavesCatalog) = .ok panel ∧
      panel.WellFormed ⟨fun _ => none, fun _ => []⟩ ∧
      ∃ control ∈ controls panel, control.input = .select "waves" ∧ control.marked = true := by
  obtain ⟨panel, hpanel, hformed, hmarked⟩ := now_panel_accepted ⟨fun _ => none, fun _ => []⟩
    (fun _ _ => Vector.replicate 32 0) Base64.urlSafeNoPad exampleCodec loadCatalog_waves
    wavesSnapshot
  exact ⟨panel, hpanel, hformed, hmarked wavesPreset (by simp [wavesCatalog]) rfl⟩

variable {P S : Type} [PlaybackPort P] [SnapshotPublisher S]

/-- The controls of the panel of a reached player: the id leads back to the guild and the revision
that were shown and to no others, an enabled control is mapped to a command that the player takes
while it is at that revision, and unless a preset has the name of the off value the marked choices
are what is set. -/
theorem now_panel_controls {setup : PlayerSetup P S}
    {taken : List (Taken (Player P S) (Input × Reply))} {player : Player P S}
    (run : setup.Runs taken player) {metadata : Option String} {stems : List String}
    {catalog : List Presets.HrirDescriptor}
    (hcatalog : Presets.loadCatalog metadata stems = .ok catalog) {reading : Reading}
    {panel : Message}
    (hpanel : buildNowPanel library hash base64 codec
      (player.actor.model.snapshot reading) (hrirOptions catalog) = .ok panel)
    {control : Control} (hcontrol : control ∈ controls panel) :
    ∃ decoded, codec.decode hash base64 control.customId = .ok decoded ∧
      ∀ commandId idempotencyKey actorUserId deadline,
        (∀ other : PlayerSnapshot, other.guildId ≠ player.actor.model.guildId →
          mapInteraction commandId idempotencyKey decoded control.input actorUserId other deadline =
            .error .guildMismatch) ∧
        (∀ other : PlayerSnapshot, other.guildId = player.actor.model.guildId →
          other.revision ≠ player.actor.model.revision →
          mapInteraction commandId idempotencyKey decoded control.input actorUserId other deadline =
            .error .staleRevision) ∧
        ∀ later : Reading, ∃ envelope,
          mapInteraction commandId idempotencyKey decoded control.input actorUserId
            (player.actor.model.snapshot later) deadline = .ok envelope ∧
          (control.enabled = true → ∀ now : UnixTimeMillis, now.get < deadline.get →
            envelope.validateAgainst (player.actor.model.snapshot later) now = .ok ()) ∧
          (control.enabled = false → envelope.command = .stop ∨ ∀ now, ∃ error,
            envelope.validateAgainst (player.actor.model.snapshot later) now = .error error) ∧
          ((∀ descriptor ∈ catalog, descriptor.id.value ≠ HRIR_OFF_VALUE) →
            (control.marked = true ↔
              Shows (player.actor.model.snapshot later) envelope.command)) := by
  obtain ⟨hnodup, hfits⟩ := Presets.loadCatalog_fits hcatalog
  obtain ⟨panel', hpanel', -, hoffered⟩ := buildNowPanel_ok library hash base64 codec
    (player.actor.model.snapshot reading) hnodup hfits
  obtain rfl : panel' = panel := Except.ok.inj (hpanel'.symm.trans hpanel)
  rw [controls, hoffered] at hcontrol
  obtain ⟨kind, command, hcustomId, hoffers⟩ := offers_of_mem hcontrol
  refine ⟨⟨kind, player.actor.model.guildId, player.actor.model.revision⟩, ?_, ?_⟩
  · rw [hcustomId]
    exact ComponentIdCodec.decode_encode _ _ _ hash base64 codec
  · intro commandId idempotencyKey actorUserId deadline
    refine ⟨?_, ?_, ?_⟩
    · intro other hguild
      exact if_pos (Ne.symm hguild)
    · intro other hguild hrevision
      rw [mapInteraction, if_neg (by simpa using hguild.symm), if_pos (Ne.symm hrevision)]
    · intro later
      have hmap : mapAction kind control.input (player.actor.model.snapshot later) =
          .ok command := hoffers.mapAction
      obtain ⟨henabled, hdisabled⟩ := hoffers.available run.sound.coherent later
      refine ⟨⟨commandId, idempotencyKey, player.actor.model.guildId, some actorUserId,
        player.actor.model.revision, deadline, command⟩, ?_, ?_, ?_, ?_⟩
      · rw [mapInteraction, if_neg (by simp [PlayerModel.snapshot]),
          if_neg (by simp [PlayerModel.snapshot])]
        simp only [hmap, bind, Except.bind, pure, Except.pure]
      · intro hon now hnow
        have hcommand := henabled hon
        rw [CommandEnvelope.validateAgainst, if_neg (by simp [PlayerModel.snapshot]),
          if_neg (UInt64.not_le.mpr hnow), if_neg (by simp [PlayerModel.snapshot])]
        exact hcommand
      · intro hoff'
        rcases hdisabled hoff' with hstop | ⟨error, herror⟩
        · exact .inl hstop
        · refine .inr fun now => ?_
          unfold CommandEnvelope.validateAgainst
          split_ifs
          · exact ⟨_, rfl⟩
          · exact ⟨_, rfl⟩
          · exact ⟨_, rfl⟩
          · exact ⟨error, herror⟩
      · exact hoffers.marked_iff

/-- The play button of a paused player. -/
theorem now_panel_controls_paused :
    ∃ panel control decoded envelope,
      buildNowPanel ⟨fun _ => none, fun _ => []⟩
        (fun _ _ => Vector.replicate 32 0) Base64.urlSafeNoPad exampleCodec
        ((PlayerSetup.after [] pausedTrack).actor.model.snapshot ⟨⟨0⟩, 0⟩)
        (hrirOptions wavesCatalog) = .ok panel ∧ control ∈ controls panel ∧
      mapInteraction (.fromU128 1) (.fromU128 2) decoded control.input ⟨.MIN⟩
        ((PlayerSetup.after [] pausedTrack).actor.model.snapshot ⟨⟨7⟩, 7⟩) ⟨9⟩ = .ok envelope ∧
      envelope.validateAgainst ((PlayerSetup.after [] pausedTrack).actor.model.snapshot ⟨⟨7⟩, 7⟩)
        ⟨8⟩ = .ok () := by
  have run := run_record Player.step (PlayerSetup.scripted []).player pausedTrack
  have hfits := Presets.loadCatalog_fits loadCatalog_waves
  obtain ⟨panel, hpanel, -, hoffered⟩ := buildNowPanel_ok ⟨fun _ => none, fun _ => []⟩
    (fun _ _ => Vector.replicate 32 0) Base64.urlSafeNoPad exampleCodec
    ((PlayerSetup.after [] pausedTrack).actor.model.snapshot ⟨⟨0⟩, 0⟩) hfits.1 hfits.2
  have hcontrol : ⟨actionId (fun _ _ => Vector.replicate 32 0) Base64.urlSafeNoPad exampleCodec
      ((PlayerSetup.after [] pausedTrack).actor.model.snapshot ⟨⟨0⟩, 0⟩) .playPause, .button, false,
      true⟩ ∈ controls panel := by
    rw [controls, hoffered]
    decide +kernel
  obtain ⟨decoded, -, hmapped⟩ := now_panel_controls ⟨fun _ => none, fun _ => []⟩
    (fun _ _ => Vector.replicate 32 0) Base64.urlSafeNoPad exampleCodec run loadCatalog_waves hpanel
    hcontrol
  obtain ⟨-, -, hlater⟩ := hmapped (.fromU128 1) (.fromU128 2) ⟨.MIN⟩ ⟨9⟩
  obtain ⟨envelope, henvelope, henabled, -⟩ := hlater ⟨⟨7⟩, 7⟩
  exact ⟨panel, _, decoded, envelope, hpanel, hcontrol, henvelope, henabled rfl ⟨8⟩ (by decide)⟩

end results

end PepeAudio.NowPanel
