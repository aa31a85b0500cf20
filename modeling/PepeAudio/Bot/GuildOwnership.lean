import PepeAudio.Bot.GuildLifecycle

/-!
# Guild ownership and the desired state

A guild is desired while some shard owns it. Each of the three commands that
change ownership sets the flags of the guilds it affects by who owns them now,
and leaves the flags of all others as they are.
-/
namespace PepeAudio

namespace LifecycleState

variable {state : LifecycleState} {guildId : GuildId}

/-- Some shard owns the guild. -/
def Owned (state : LifecycleState) (guildId : GuildId) : Prop :=
  ∃ shardId guilds, state.owned.lookup shardId = some guilds ∧ guildId ∈ guilds

theorem isDesired_iff : state.isDesired guildId = true ↔ state.Owned guildId := by
  simp only [isDesired, List.any_eq_true, decide_eq_true_eq]
  constructor
  · rintro ⟨⟨shardId, guilds⟩, hentry, hmem⟩
    exact ⟨shardId, guilds, AList.mem_lookup_iff.mpr hentry, hmem⟩
  · rintro ⟨shardId, guilds, hlookup, hmem⟩
    exact ⟨⟨shardId, guilds⟩, AList.mem_lookup_iff.mp hlookup, hmem⟩

theorem atStage_iff {stage : AdvertisementStage} :
    state.atStage stage guildId = true ↔ state.advertisements.lookup guildId = some stage := by
  simp [atStage]

theorem mem_pending : guildId ∈ state.pending ↔
    (∃ stage, stage ≠ .advertised ∧ state.advertisements.lookup guildId = some stage) ∨
      guildId ∈ state.pendingAbsence := by
  rw [pending, HashSet.mem_collect, List.mem_append, List.mem_filterMap]
  apply or_congr
  · constructor
    · rintro ⟨⟨entry, stage⟩, hentry, hstage⟩
      by_cases hadvertised : stage = .advertised
      · simp [hadvertised] at hstage
      · simp only [ne_eq, hadvertised, not_false_eq_true, if_true, Option.some.injEq] at hstage
        subst hstage
        exact ⟨stage, hadvertised, AList.mem_lookup_iff.mpr hentry⟩
    · rintro ⟨stage, hstage, hlookup⟩
      exact ⟨⟨guildId, stage⟩, AList.mem_lookup_iff.mp hlookup, by simp [hstage]⟩
  · exact Iff.rfl

@[simp] theorem applyDesired_owned :
    (state.applyDesired guildId).2.owned = state.owned := by
  unfold applyDesired
  split <;> rfl

theorem isDesired_congr {other : LifecycleState} (h : other.owned = state.owned) :
    other.isDesired = state.isDesired := by
  funext guildId
  simp only [isDesired, h]

theorem applyDesired_lookup (other : GuildId) :
    (state.applyDesired guildId).2.advertisements.lookup other =
      if other = guildId then
        if state.isDesired guildId then
          some ((state.advertisements.lookup guildId).getD .needsInvalidation)
        else none
      else state.advertisements.lookup other := by
  unfold applyDesired
  by_cases hother : other = guildId
  · subst hother
    by_cases hdesired : state.isDesired other
    · cases hlookup : state.advertisements.lookup other <;> simp [hdesired, hlookup]
    · simp [hdesired]
  · by_cases hdesired : state.isDesired guildId
    · cases state.advertisements.lookup guildId <;>
        simp [hdesired, hother, AList.lookup_insert_ne hother]
    · simp [hdesired, hother, AList.lookup_erase_ne hother]

theorem applyDesired_pendingAbsence (other : GuildId) :
    other ∈ (state.applyDesired guildId).2.pendingAbsence ↔
      if other = guildId then state.isDesired guildId = false
      else other ∈ state.pendingAbsence := by
  unfold applyDesired
  by_cases hdesired : state.isDesired guildId <;> by_cases hother : other = guildId <;>
    simp [hdesired, hother]

@[simp] theorem applyDesiredState_owned (affected : List GuildId) :
    (state.applyDesiredState affected).2.owned = state.owned := by
  induction affected generalizing state with
  | nil => rfl
  | cons guildId affected ih => simp [applyDesiredState, ih]

theorem applyDesiredState_lookup (affected : List GuildId) (guildId : GuildId) :
    (state.applyDesiredState affected).2.advertisements.lookup guildId =
      if guildId ∈ affected then
        if state.isDesired guildId then
          some ((state.advertisements.lookup guildId).getD .needsInvalidation)
        else none
      else state.advertisements.lookup guildId := by
  induction affected generalizing state with
  | nil => simp [applyDesiredState]
  | cons first affected ih =>
    have hdesired : (state.applyDesired first).2.isDesired = state.isDesired :=
      isDesired_congr applyDesired_owned
    rw [applyDesiredState, ih, applyDesired_lookup, hdesired]
    by_cases hfirst : guildId = first
    · subst hfirst
      by_cases hmem : guildId ∈ affected <;> by_cases hdesired : state.isDesired guildId <;>
        simp [hmem, hdesired]
    · simp [hfirst]

theorem applyDesiredState_pendingAbsence (affected : List GuildId) (guildId : GuildId) :
    guildId ∈ (state.applyDesiredState affected).2.pendingAbsence ↔
      if guildId ∈ affected then state.isDesired guildId = false
      else guildId ∈ state.pendingAbsence := by
  induction affected generalizing state with
  | nil => simp [applyDesiredState]
  | cons first affected ih =>
    have hdesired : (state.applyDesired first).2.isDesired = state.isDesired :=
      isDesired_congr applyDesired_owned
    rw [applyDesiredState, ih, applyDesired_pendingAbsence, hdesired]
    by_cases hfirst : guildId = first
    · subst hfirst
      by_cases hmem : guildId ∈ affected <;> simp [hmem]
    · simp [hfirst]

theorem mem_applyDesiredState_removed (affected : List GuildId) (guildId : GuildId) :
    guildId ∈ (state.applyDesiredState affected).1 ↔
      guildId ∈ affected ∧ state.isDesired guildId = false ∧
        (state.advertisements.lookup guildId).isSome = true := by
  induction affected generalizing state with
  | nil => simp [applyDesiredState]
  | cons first affected ih =>
    have hdesired : (state.applyDesired first).2.isDesired = state.isDesired :=
      isDesired_congr applyDesired_owned
    have hturn : (state.applyDesired first).1 = true ↔
        state.isDesired first = false ∧ (state.advertisements.lookup first).isSome = true := by
      unfold applyDesired
      by_cases hfirst : state.isDesired first <;> simp [hfirst]
    have hrest := @ih (state.applyDesired first).2
    rw [applyDesired_lookup, hdesired] at hrest
    have hsplit : guildId ∈ (state.applyDesiredState (first :: affected)).1 ↔
        (guildId = first ∧ (state.applyDesired first).1 = true) ∨
          guildId ∈ ((state.applyDesired first).2.applyDesiredState affected).1 := by
      rw [applyDesiredState]
      by_cases h : (state.applyDesired first).1 <;> simp [h]
    rw [hsplit, hrest, hturn]
    by_cases hfirst : guildId = first
    · subst hfirst
      by_cases hdesired : state.isDesired guildId <;> simp [hdesired]
    · simp [hfirst]

/-- How a command changes the desired state: for the guilds it affects the flags are set by
ownership, and all others keep theirs. -/
structure Changes (state : LifecycleState) (affected : HashSet GuildId) (removed : List GuildId)
    (after : LifecycleState) : Prop where
  desired : ∀ guildId, guildId ∉ affected → after.isDesired guildId = state.isDesired guildId
  lookup : ∀ guildId, after.advertisements.lookup guildId =
    if guildId ∈ affected then
      if after.isDesired guildId then
        some ((state.advertisements.lookup guildId).getD .needsInvalidation)
      else none
    else state.advertisements.lookup guildId
  absence : ∀ guildId, guildId ∈ after.pendingAbsence ↔
    if guildId ∈ affected then after.isDesired guildId = false
    else guildId ∈ state.pendingAbsence
  removed : ∀ guildId, guildId ∈ removed ↔ guildId ∈ affected ∧
    after.isDesired guildId = false ∧ (state.advertisements.lookup guildId).isSome = true

theorem changes_apply (state : LifecycleState) (owned : OwnedGuilds) (affected : HashSet GuildId)
    (hcover : ∀ guildId, guildId ∉ affected →
      (({ state with owned } : LifecycleState).Owned guildId ↔ state.Owned guildId)) :
    Changes state affected (({ state with owned }).applyDesiredState affected.elems).1
      (({ state with owned }).applyDesiredState affected.elems).2 := by
  have hdesired : (({ state with owned }).applyDesiredState affected.elems).2.isDesired =
      ({ state with owned } : LifecycleState).isDesired :=
    isDesired_congr (applyDesiredState_owned affected.elems)
  constructor
  · intro guildId hunaffected
    rw [hdesired, Bool.eq_iff_iff, isDesired_iff, isDesired_iff]
    exact hcover guildId hunaffected
  · intro guildId
    rw [applyDesiredState_lookup, hdesired]
    rfl
  · intro guildId
    rw [applyDesiredState_pendingAbsence, hdesired]
    rfl
  · intro guildId
    rw [mem_applyDesiredState_removed, hdesired]
    rfl

/-- Only the guilds of one shard have changed. -/
theorem owned_iff_of_shard {other : LifecycleState} (shardId : UInt32)
    (hothers : ∀ s, s ≠ shardId → other.owned.lookup s = state.owned.lookup s)
    (hshard : guildId ∈ (other.owned.lookup shardId).getD ∅ ↔
      guildId ∈ (state.owned.lookup shardId).getD ∅) :
    other.Owned guildId ↔ state.Owned guildId := by
  have hgetD : ∀ (map : OwnedGuilds) (s : UInt32), guildId ∈ (map.lookup s).getD ∅ ↔
      ∃ guilds, map.lookup s = some guilds ∧ guildId ∈ guilds := by
    intro map s
    cases map.lookup s <;> simp
  have hsame : ∀ s, guildId ∈ (other.owned.lookup s).getD ∅ ↔
      guildId ∈ (state.owned.lookup s).getD ∅ := by
    intro s
    by_cases hs : s = shardId
    · rw [hs]
      exact hshard
    · rw [hothers s hs]
  have hgetOther := hgetD other.owned
  have hgetState := hgetD state.owned
  constructor
  · rintro ⟨s, hs⟩
    exact ⟨s, (hgetState s).mp ((hsame s).mp ((hgetOther s).mpr hs))⟩
  · rintro ⟨s, hs⟩
    exact ⟨s, (hgetOther s).mp ((hsame s).mpr ((hgetState s).mpr hs))⟩

theorem reconcileShard_changes (shardId : UInt32) (guilds : HashSet GuildId)
    (state : LifecycleState) :
    Changes state (state.reconcileShard shardId guilds).1.1
      (state.reconcileShard shardId guilds).1.2 (state.reconcileShard shardId guilds).2 := by
  apply changes_apply
  intro guildId hunaffected
  have hneither := mt HashSet.mem_union.mpr hunaffected
  rw [not_or] at hneither
  obtain ⟨hprevious, hguilds⟩ := hneither
  apply owned_iff_of_shard shardId
  · intro s hs
    by_cases hempty : guilds.isEmpty
    · simp [hempty, AList.lookup_erase_ne hs]
    · simp [hempty, AList.lookup_insert_ne hs]
  · by_cases hempty : guilds.isEmpty
    · simp [hempty, hprevious]
    · simp [hempty, hprevious, hguilds]

theorem present_changes (shardId : UInt32) (guildId : GuildId) (state : LifecycleState) :
    Changes state (state.present shardId guildId).1 [] (state.present shardId guildId).2 := by
  have hchanges := changes_apply state
    (state.owned.insert shardId (((state.owned.lookup shardId).getD ∅).insert guildId))
    (HashSet.singleton guildId) (by
      intro other hother
      rw [HashSet.mem_singleton] at hother
      apply owned_iff_of_shard shardId
      · intro s hs
        simp [AList.lookup_insert_ne hs]
      · simp [hother])
  have howned : (state.present shardId guildId).2.Owned guildId := by
    refine ⟨shardId, ((state.owned.lookup shardId).getD ∅).insert guildId, ?_, by simp⟩
    simp [present]
  refine ⟨hchanges.desired, hchanges.lookup, hchanges.absence, ?_⟩
  intro other
  have hnone : ¬ (other = guildId ∧ (state.present shardId guildId).2.isDesired other = false) := by
    rintro ⟨rfl, hgone⟩
    rw [isDesired_iff.mpr howned] at hgone
    contradiction
  constructor
  · intro h
    simp at h
  · rintro ⟨haffected, hgone, -⟩
    exact absurd ⟨HashSet.mem_singleton.mp haffected, hgone⟩ hnone

theorem leaveShard_lookup_ne {owned : OwnedGuilds} {shardId s : UInt32} (hs : s ≠ shardId) :
    (leaveShard shardId guildId owned).lookup s = owned.lookup s := by
  unfold leaveShard
  split
  · by_cases hempty : (HashSet.remove guildId ‹HashSet GuildId›).isEmpty
    · simp [hempty, AList.lookup_erase_ne hs]
    · simp [hempty, AList.lookup_insert_ne hs]
  · rfl

theorem leaveShard_lookup {owned : OwnedGuilds} {shardId : UInt32} (other : GuildId) :
    other ∈ ((leaveShard shardId guildId owned).lookup shardId).getD ∅ ↔
      other ≠ guildId ∧ other ∈ (owned.lookup shardId).getD ∅ := by
  unfold leaveShard
  cases hlookup : owned.lookup shardId with
  | none => simp [hlookup]
  | some guilds =>
    by_cases hempty : (guilds.remove guildId).isEmpty
    · have hnone := HashSet.isEmpty_iff.mp hempty other
      rw [HashSet.mem_remove] at hnone
      simp [hempty, hnone]
    · simp [hempty]

theorem absent_changes (shardId : UInt32) (guildId : GuildId) (state : LifecycleState) :
    Changes state (state.absent shardId guildId).1.1
      (if (state.absent shardId guildId).1.2 then [guildId] else [])
      (state.absent shardId guildId).2 := by
  have hchanges := changes_apply state (leaveShard shardId guildId state.owned)
    (HashSet.singleton guildId) (by
      intro other hother
      rw [HashSet.mem_singleton] at hother
      apply owned_iff_of_shard shardId
      · intro s hs
        exact leaveShard_lookup_ne hs
      · simp [leaveShard_lookup, hother])
  refine ⟨hchanges.desired, hchanges.lookup, hchanges.absence, ?_⟩
  intro other
  have hremoved := hchanges.removed
  have hreport : (state.absent shardId guildId).1.2 = true ↔
      (state.absent shardId guildId).2.isDesired guildId = false ∧
        (state.advertisements.lookup guildId).isSome = true := by
    have hhere := hremoved guildId
    simp only [HashSet.mem_singleton, true_and] at hhere
    exact decide_eq_true_iff.trans hhere
  by_cases hother : other = guildId
  · subst hother
    have haffected : other ∈ (state.absent shardId other).1.1 := HashSet.mem_singleton.mpr rfl
    by_cases h : (state.absent shardId other).1.2
    · simpa [h, haffected] using hreport.mp h
    · have hkept := mt hreport.mpr h
      simp only [h, Bool.false_eq_true, if_false, List.not_mem_nil, haffected, true_and, false_iff]
      exact hkept
  · have hunaffected : other ∉ (state.absent shardId guildId).1.1 :=
      fun h => hother (HashSet.mem_singleton.mp h)
    by_cases h : (state.absent shardId guildId).1.2 <;> simp [h, hother, hunaffected]

end LifecycleState

end PepeAudio
