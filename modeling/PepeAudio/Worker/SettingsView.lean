import PepeAudio.Worker.SettingsFlush

/-!
# The settings that a worker shows

A worker shows the settings of its pending update, or those of its row when none
is pending. While a failure means that nothing was written, the steps it takes on
its own leave what it shows as it is.
-/
namespace PepeAudio

/-- What a new publisher finds in the mailbox of its guild. -/
def SettingsWorkerState.shown (mailbox : SettingsWorkerState) : Option PersistentPlayerSettings :=
  (mailbox.pending.map SettingsUpdate.settings).or
    (PersistentPlayerSettings.fromGuildSettings mailbox.durable)

@[simp] theorem SettingsWorkerState.shown_some (durable : GuildSettings) (update : SettingsUpdate) :
    SettingsWorkerState.shown ⟨durable, some update⟩ = some update.settings := rfl

@[simp] theorem SettingsWorkerState.shown_none (durable : GuildSettings) :
    SettingsWorkerState.shown ⟨durable, none⟩ =
      PersistentPlayerSettings.fromGuildSettings durable := rfl

theorem fromGuildSettings_of_matches {row : GuildSettings} {desired : PersistentPlayerSettings}
    (h : matchesDesired row desired = true) :
    PersistentPlayerSettings.fromGuildSettings row = some desired := by
  simp only [matchesDesired, Bool.and_eq_true, decide_eq_true_eq] at h
  obtain ⟨⟨hvolume, hpreset⟩, hspatial⟩ := h
  simp [PersistentPlayerSettings.fromGuildSettings, hvolume, hpreset, hspatial]

theorem RowHeld.trans {row row' held : GuildSettings} (h : RowHeld row held)
    (h' : RowHeld row' row) : RowHeld row' held := by
  refine ⟨h.guild.trans h'.guild, h.le.trans h'.le, ?_⟩
  intro hsame
  have hle := h.le
  have hle' := h'.le
  rw [hsame] at hle
  have hrevision : row.revision = row'.revision := by
    cases hrow : row.revision
    cases hrow' : row'.revision
    simp only [hrow, hrow', SettingsRevision.toNat] at hle hle'
    exact congrArg SettingsRevision.mk (UInt64.toNat_inj.mp (le_antisymm hle' hle))
  rw [h.same (hsame.trans hrevision.symm), h'.same hrevision]

/-- The update under way is the pending one, or an older one. -/
def Pends (worker : SettingsWorker) (update : SettingsUpdate) : Prop :=
  ∃ pending, worker.mailbox.pending = some pending ∧
    update.actorRevision.toNat ≤ pending.actorRevision.toNat ∧
    (pending.actorRevision = update.actorRevision → pending = update)

/-- The worker knows the stored row, and works on an update that is still pending. -/
def PhaseTended (row : GuildSettings) (worker : SettingsWorker) : SettingsPhase → Prop
  | .turning | .idle | .waiting => worker.current = row
  | .persisting final update call =>
    final = false ∧ Pends worker update ∧ CallKept row worker.current update call
  | .finished _ | .panicked => False

/-- A worker at work for a guild with a row. -/
structure Tended (row : GuildSettings) (worker : SettingsWorker) : Prop where
  durable : worker.mailbox.durable = worker.current
  phase : PhaseTended row worker worker.phase

/-- What a worker shows stays, whether or not the update is persisted meanwhile. -/
structure Shows (worker worker' : SettingsWorker) : Prop where
  shown : worker'.mailbox.shown = worker.mailbox.shown
  pending : ∀ update, worker'.mailbox.pending = some update → worker.mailbox.pending = some update

variable {row : GuildSettings} {worker worker' : SettingsWorker} {update : SettingsUpdate}

theorem Shows.of_mailbox (h : worker'.mailbox = worker.mailbox) : Shows worker worker' := by
  constructor
  · rw [h]
  · rw [h]
    exact fun _ hpending => hpending

theorem Tended.resting (h : Tended row worker) (hresting : worker.phase.isResting = true) :
    worker.current = row := by
  have hphase := h.phase
  cases hcase : worker.phase with
  | turning | idle | waiting =>
    rw [hcase] at hphase
    exact hphase
  | persisting | finished | panicked =>
    rw [hcase] at hresting
    contradiction

/-- A worker without a pending update rests on the stored row. -/
theorem Tended.settled (h : Tended row worker) (hnone : worker.mailbox.pending = none) :
    worker.current = row := by
  have hphase := h.phase
  cases hcase : worker.phase with
  | turning | idle | waiting =>
    rw [hcase] at hphase
    exact hphase
  | persisting final update call =>
    rw [hcase] at hphase
    obtain ⟨-, ⟨pending, hsome, -⟩, -⟩ := hphase
    rw [hnone] at hsome
    contradiction
  | finished | panicked =>
    rw [hcase] at hphase
    exact hphase.elim

theorem Tended.open (h : Tended row worker) : worker.isClosed = false := by
  have hphase := h.phase
  unfold SettingsWorker.isClosed
  cases hcase : worker.phase with
  | turning | idle | waiting | persisting => rfl
  | finished | panicked =>
    rw [hcase] at hphase
    exact hphase.elim

theorem Tended.rest (h : Tended row worker) (hcurrent : worker.current = row) (unseen : Bool)
    {phase : SettingsPhase} (hresting : phase.isResting = true) :
    Tended row { worker with unseen := unseen, phase := phase } := by
  refine ⟨h.durable, ?_⟩
  cases phase with
  | turning | idle | waiting => exact hcurrent
  | persisting | finished | panicked => contradiction

/-- The update is persisted: it leaves the mailbox, unless a newer one is there. -/
theorem Tended.settle (hpends : Pends worker update)
    (hmatches : matchesDesired row update.settings = true) :
    Tended row (worker.settle update row) ∧ Shows worker (worker.settle update row) := by
  obtain ⟨pending, hsome, -, hsame⟩ := hpends
  refine ⟨⟨rfl, rfl⟩, ?_⟩
  unfold SettingsWorker.settle
  rw [hsome, Option.map_some]
  by_cases hrevision : some pending.actorRevision = some update.actorRevision
  · rw [if_pos hrevision]
    obtain rfl := hsame (Option.some.inj hrevision)
    have hrow := fromGuildSettings_of_matches hmatches
    exact ⟨by simp [SettingsWorkerState.shown, hsome, hrow], by simp⟩
  · rw [if_neg hrevision]
    exact ⟨by simp [SettingsWorkerState.shown, hsome], by simp [hsome]⟩

/-- `persist_latest` comes to a step. -/
theorem Tended.advance (h : Tended row worker) (hpends : Pends worker update)
    {persist : PersistStep} (hstep : StepKept row update persist)
    (hcurrent : (∀ updated, persist ≠ .done (.ok updated)) → worker.current = row) :
    Tended row (worker.advance false false update persist) ∧
      Shows worker (worker.advance false false update persist) := by
  unfold SettingsWorker.advance
  split
  · rename_i call
    have hrow := hcurrent (by simp)
    refine ⟨⟨h.durable, rfl, hpends, ?_⟩, .of_mailbox rfl⟩
    cases call with
    | reading attempts reply =>
      cases reply with
      | none => exact hrow
      | some result => exact hstep.elim
    | updating attempts sent reply =>
      cases reply with
      | none => exact ⟨hstep, hrow⟩
      | some result => exact hstep.elim
  · rename_i updated
    obtain ⟨rfl, hmatches⟩ := hstep
    rw [if_neg Bool.false_ne_true]
    exact Tended.settle hpends hmatches
  · rw [Bool.or_self, if_neg Bool.false_ne_true]
    exact ⟨⟨h.durable, hcurrent (by simp)⟩, .of_mailbox rfl⟩

/-- The worker takes the pending update up. -/
theorem Tended.persistPending (h : Tended row worker) (hcurrent : worker.current = row)
    {guildId : GuildId} {persist : PersistStep}
    (hpending : worker.persistPending guildId = some (update, persist)) :
    Tended row (worker.advance false false update persist) ∧
      Shows worker (worker.advance false false update persist) := by
  unfold SettingsWorker.persistPending at hpending
  obtain ⟨pending, hsome, heq⟩ := Option.map_eq_some_iff.mp hpending
  obtain ⟨rfl, rfl⟩ := Prod.mk.inj heq
  refine h.advance ⟨pending, hsome, le_rfl, fun _ => rfl⟩ ?_ fun _ => hcurrent
  rw [hcurrent]
  exact persistLatest_kept row guildId pending

/-- A newer update is queued. -/
theorem Tended.queue (h : Tended row worker)
    (hnewer : ∀ pending, worker.mailbox.pending = some pending →
      pending.actorRevision.toNat < update.actorRevision.toNat) :
    Tended row (worker.queue update) ∧
      (worker.queue update).mailbox = ⟨worker.mailbox.durable, some update⟩ := by
  have hqueue : worker.queue update =
      { worker with
        mailbox := ⟨worker.mailbox.durable, some update⟩
        unseen := true } := by
    unfold SettingsWorker.queue
    rw [if_pos]
    cases hpending : worker.mailbox.pending with
    | none => rfl
    | some pending => simpa using UInt64.lt_iff_toNat_lt.mpr (hnewer pending hpending)
  rw [hqueue]
  refine ⟨⟨h.durable, ?_⟩, rfl⟩
  have hphase := h.phase
  cases hcase : worker.phase with
  | turning | idle | waiting =>
    rw [hcase] at hphase
    exact hphase
  | persisting final taken call =>
    rw [hcase] at hphase
    obtain ⟨hfinal, ⟨pending, hsome, hle, -⟩, hcall⟩ := hphase
    have hlt := hnewer pending hsome
    refine ⟨hfinal, ⟨update, rfl, by omega, ?_⟩, hcall⟩
    intro hsame
    rw [hsame] at hlt
    omega
  | finished | panicked =>
    rw [hcase] at hphase
    exact hphase.elim

end PepeAudio
