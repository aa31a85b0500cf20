import PepeAudio.Worker.SettingsTruthfulness

/-!
# What a settings shutdown guarantees

While no write that was executed is heard of as failed, a worker knows the stored
row, and an update leaves the mailbox only once the row has its settings. A worker
that ends while its mailbox is empty has persisted the last update it was given.
-/
namespace PepeAudio

/-- The row has the settings of an update that was queued, and that is not older. -/
def Covered (queued : SettingsUpdate → Prop) (row : GuildSettings) (update : SettingsUpdate) :
    Prop :=
  ∃ stored, queued stored ∧ update.actorRevision.toNat ≤ stored.actorRevision.toNat ∧
    matchesDesired row stored.settings = true

/-- The worker knows the stored row, or the reply under way tells it. -/
def CallKept (row current : GuildSettings) (update : SettingsUpdate) : PersistCall → Prop
  | .reading _ (some (.ok (some found))) => found = row ∧ current = row
  | .reading _ _ => current = row
  | .updating _ sent none => sent = row ∧ current = row
  | .updating _ _ (some (.ok (some updated))) => updated = row ∧
    matchesDesired row update.settings = true
  | .updating _ _ (some _) => current = row

/-- What a worker keeps of the updates that were queued, and of those it owes: what was accepted
before the shutdown began. -/
def PhaseKept (queued owed : SettingsUpdate → Prop) (row : GuildSettings) (signal : Bool)
    (worker : SettingsWorker) : SettingsPhase → Prop
  | .turning | .idle | .waiting => worker.current = row ∧
    (worker.mailbox.pending = none → ∀ update, queued update → Covered queued row update)
  | .persisting final update call => queued update ∧
    (∃ pending, worker.mailbox.pending = some pending ∧
      update.actorRevision.toNat ≤ pending.actorRevision.toNat) ∧
    (final = true → signal = true ∧ ∀ other, owed other →
      other.actorRevision.toNat ≤ update.actorRevision.toNat) ∧
    CallKept row worker.current update call
  | .finished (.ok ()) => signal = true ∧ ∀ update, owed update → Covered queued row update
  | .finished (.error _) => signal = true
  | .panicked => True

structure UpdatesKept (queued owed : SettingsUpdate → Prop) (row : GuildSettings) (signal : Bool)
    (worker : SettingsWorker) : Prop where
  subset : ∀ update, owed update → queued update
  pending : ∀ pending, worker.mailbox.pending = some pending → queued pending ∧
    ∀ update, queued update → update.actorRevision.toNat ≤ pending.actorRevision.toNat
  phase : PhaseKept queued owed row signal worker worker.phase

/-- What `persist_latest` may come to for an update. -/
def StepKept (row : GuildSettings) (update : SettingsUpdate) : PersistStep → Prop
  | .pending (.reading _ none) => True
  | .pending (.updating _ sent none) => sent = row
  | .pending _ => False
  | .done (.ok updated) => updated = row ∧ matchesDesired row update.settings = true
  | .done (.error _) => True

variable {queued owed : SettingsUpdate → Prop} {row : GuildSettings} {signal : Bool}
  {worker : SettingsWorker}

theorem attempt_kept (row : GuildSettings) (attempts : ℕ) (update : SettingsUpdate) :
    StepKept row update (.attempt attempts row update.settings) := by
  unfold PersistStep.attempt
  split
  · trivial
  · split
    · rename_i hmatches
      exact ⟨rfl, hmatches⟩
    · rfl

theorem persistLatest_kept (row : GuildSettings) (guildId : GuildId) (update : SettingsUpdate) :
    StepKept row update (.persistLatest guildId row update.settings) := by
  unfold PersistStep.persistLatest
  split
  · exact attempt_kept row 0 update
  · trivial

/-- A reply goes on with the stored row, and the worker knows it unless the call is done. -/
theorem resume_kept {current : GuildSettings} {update : SettingsUpdate} {call : PersistCall}
    (h : CallKept row current update call) :
    StepKept row update (.resume update.settings call) ∧
      ((∀ updated, PersistStep.resume update.settings call ≠ .done (.ok updated)) →
        current = row) := by
  cases call with
  | reading attempts reply =>
    cases reply with
    | none => exact ⟨trivial, fun _ => h⟩
    | some result =>
      rcases result with error | found
      · exact ⟨trivial, fun _ => h⟩
      · rcases found with - | found
        · exact ⟨trivial, fun _ => h⟩
        · obtain ⟨rfl, hcurrent⟩ := h
          exact ⟨attempt_kept found attempts update, fun _ => hcurrent⟩
  | updating attempts sent reply =>
    cases reply with
    | none => exact ⟨h.1, fun _ => h.2⟩
    | some result =>
      rcases result with error | updated
      · exact ⟨trivial, fun _ => h⟩
      · rcases updated with - | updated
        · exact ⟨trivial, fun _ => h⟩
        · exact ⟨h, fun hdone => absurd rfl (hdone updated)⟩

/-- The update has been persisted: it leaves the mailbox, unless a newer one is there. -/
theorem UpdatesKept.settle (h : UpdatesKept queued owed row signal worker) {update : SettingsUpdate}
    (hqueued : queued update)
    (hpending : ∃ pending, worker.mailbox.pending = some pending ∧
      update.actorRevision.toNat ≤ pending.actorRevision.toNat)
    (hmatches : matchesDesired row update.settings = true) :
    UpdatesKept queued owed row signal (worker.settle update row) := by
  obtain ⟨pending, hsome, hle⟩ := hpending
  have hlast := (h.pending pending hsome).2
  unfold SettingsWorker.settle
  rw [hsome, Option.map_some]
  by_cases hsame : some pending.actorRevision = some update.actorRevision
  · rw [if_pos hsame]
    refine ⟨h.subset, by simp, rfl, ?_⟩
    intro _ other hother
    have hbound := hlast other hother
    rw [Option.some.inj hsame] at hbound
    exact ⟨update, hqueued, hbound, hmatches⟩
  · rw [if_neg hsame]
    refine ⟨h.subset, ?_, rfl, by simp⟩
    intro other hother
    obtain rfl : pending = other := Option.some.inj hother
    exact h.pending pending hsome

theorem UpdatesKept.advance (h : UpdatesKept queued owed row signal worker) {final : Bool}
    {update : SettingsUpdate} (hqueued : queued update)
    (hpending : ∃ pending, worker.mailbox.pending = some pending ∧
      update.actorRevision.toNat ≤ pending.actorRevision.toNat)
    (hfinal : final = true → signal = true ∧ ∀ other, owed other →
      other.actorRevision.toNat ≤ update.actorRevision.toNat) {persist : PersistStep}
    (hstep : StepKept row update persist)
    (hcurrent : (∀ updated, persist ≠ .done (.ok updated)) → worker.current = row) :
    UpdatesKept queued owed row signal (worker.advance signal final update persist) := by
  unfold SettingsWorker.advance
  split
  · rename_i call
    have hrow := hcurrent (by simp)
    refine ⟨h.subset, h.pending, hqueued, hpending, hfinal, ?_⟩
    cases call with
    | reading attempts reply =>
      cases reply with
      | none => exact hrow
      | some result => exact hstep.elim
    | updating attempts sent reply =>
      cases reply with
      | none => exact ⟨hstep, hrow⟩
      | some result => exact hstep.elim
  · rename_i updated
    obtain ⟨rfl, hmatches⟩ := hstep
    by_cases hflush : final = true
    · rw [if_pos hflush]
      obtain ⟨hsignal, howed⟩ := hfinal hflush
      refine ⟨h.subset, h.pending, hsignal, ?_⟩
      intro other hother
      exact ⟨update, hqueued, howed other hother, hmatches⟩
    · rw [if_neg hflush]
      exact h.settle hqueued hpending hmatches
  · have hrow := hcurrent (by simp)
    split
    · rename_i hended
      refine ⟨h.subset, h.pending, ?_⟩
      rcases (Bool.or_eq_true _ _).mp hended with hflush | hsignal
      · exact (hfinal hflush).1
      · exact hsignal
    · refine ⟨h.subset, h.pending, hrow, ?_⟩
      intro hnone
      obtain ⟨pending, hsome, -⟩ := hpending
      have hempty : worker.mailbox.pending = none := hnone
      rw [hsome] at hempty
      contradiction

/-- The worker takes the pending update up. -/
theorem UpdatesKept.persistPending (h : UpdatesKept queued owed row signal worker)
    (hcurrent : worker.current = row) {final : Bool} (hfinal : final = true → signal = true)
    {guildId : GuildId} {update : SettingsUpdate} {persist : PersistStep}
    (hpending : worker.persistPending guildId = some (update, persist)) :
    UpdatesKept queued owed row signal (worker.advance signal final update persist) := by
  unfold SettingsWorker.persistPending at hpending
  obtain ⟨pending, hsome, heq⟩ := Option.map_eq_some_iff.mp hpending
  obtain ⟨rfl, rfl⟩ := Prod.mk.inj heq
  obtain ⟨hqueued, hlast⟩ := h.pending pending hsome
  refine h.advance hqueued ⟨pending, hsome, le_rfl⟩ ?_ ?_ (fun _ => hcurrent)
  · intro hflush
    exact ⟨hfinal hflush, fun other hother => hlast other (h.subset other hother)⟩
  · rw [hcurrent]
    exact persistLatest_kept row guildId pending

/-- A worker that rests knows the stored row, and has persisted all that was queued once its
mailbox is empty. -/
theorem UpdatesKept.resting (h : UpdatesKept queued owed row signal worker)
    (hresting : worker.phase.isResting = true) : worker.current = row ∧
      (worker.mailbox.pending = none → ∀ update, queued update → Covered queued row update) := by
  have hphase := h.phase
  cases hcase : worker.phase with
  | turning | idle | waiting =>
    rw [hcase] at hphase
    exact hphase
  | persisting | finished | panicked =>
    rw [hcase] at hresting
    contradiction

/-- A worker that rests ends while its mailbox is empty. -/
theorem UpdatesKept.finish (h : UpdatesKept queued owed row signal worker)
    (hresting : worker.phase.isResting = true) (hnone : worker.mailbox.pending = none)
    (hsignal : signal = true) :
    UpdatesKept queued owed row signal { worker with phase := .finished (.ok ()) } := by
  refine ⟨h.subset, h.pending, hsignal, ?_⟩
  intro update howed
  exact (h.resting hresting).2 hnone update (h.subset update howed)

/-- The worker goes on resting. -/
theorem UpdatesKept.rest (h : UpdatesKept queued owed row signal worker)
    (hbefore : worker.phase.isResting = true) (unseen : Bool) {phase : SettingsPhase}
    (hafter : phase.isResting = true) :
    UpdatesKept queued owed row signal { worker with unseen := unseen, phase := phase } := by
  obtain ⟨hcurrent, hcovered⟩ := h.resting hbefore
  refine ⟨h.subset, h.pending, ?_⟩
  cases phase with
  | turning | idle | waiting => exact ⟨hcurrent, hcovered⟩
  | persisting | finished | panicked => contradiction

/-- A newer update is queued. It is owed only before the workers can see the shutdown. -/
theorem UpdatesKept.queue (h : UpdatesKept queued owed row signal worker) {update : SettingsUpdate}
    (hnewer : ∀ other, queued other →
      other.actorRevision.toNat < update.actorRevision.toNat)
    {queued' owed' : SettingsUpdate → Prop}
    (hqueued : ∀ other, queued' other ↔ queued other ∨ other = update)
    (howed : ∀ other, owed' other → queued' other)
    (hsignal : signal = true → ∀ other, owed' other → owed other) :
    UpdatesKept queued' owed' row signal (worker.queue update) := by
  have hmore : ∀ other, queued other → queued' other := fun other hother =>
    (hqueued other).mpr (.inl hother)
  have hqueue : worker.queue update =
      { worker with
        mailbox := { worker.mailbox with pending := some update }
        unseen := true } := by
    unfold SettingsWorker.queue
    rw [if_pos]
    cases hpending : worker.mailbox.pending with
    | none => rfl
    | some pending =>
      have hlt := hnewer pending (h.pending pending hpending).1
      simpa using UInt64.lt_iff_toNat_lt.mpr hlt
  rw [hqueue]
  refine ⟨howed, ?_, ?_⟩
  · intro pending hpending
    obtain rfl : update = pending := Option.some.inj hpending
    refine ⟨(hqueued update).mpr (.inr rfl), ?_⟩
    intro other hother
    rcases (hqueued other).mp hother with hother | rfl
    · exact (hnewer other hother).le
    · exact le_rfl
  · have hphase := h.phase
    cases hcase : worker.phase with
    | turning =>
      rw [hcase] at hphase
      exact ⟨hphase.1, by simp⟩
    | idle =>
      rw [hcase] at hphase
      exact ⟨hphase.1, by simp⟩
    | waiting =>
      rw [hcase] at hphase
      exact ⟨hphase.1, by simp⟩
    | persisting final taken call =>
      rw [hcase] at hphase
      obtain ⟨htaken, -, hfinal, hcall⟩ := hphase
      refine ⟨hmore taken htaken, ⟨update, rfl, (hnewer taken htaken).le⟩, ?_, hcall⟩
      intro hflush
      obtain ⟨hseen, hbound⟩ := hfinal hflush
      exact ⟨hseen, fun other hother => hbound other (hsignal hseen other hother)⟩
    | finished result =>
      rw [hcase] at hphase
      cases result with
      | error error => exact hphase
      | ok value =>
        obtain ⟨hseen, hcovered⟩ := hphase
        refine ⟨hseen, ?_⟩
        intro other hother
        obtain ⟨stored, hstored, hle, hmatches⟩ := hcovered other (hsignal hseen other hother)
        exact ⟨stored, hmore stored hstored, hle, hmatches⟩
    | panicked => trivial

/-- More is queued and owed for other guilds, or the shutdown is signalled. -/
theorem UpdatesKept.congr (h : UpdatesKept queued owed row signal worker)
    {queued' owed' : SettingsUpdate → Prop}
    (hqueued : ∀ update, queued' update ↔ queued update)
    (howed : ∀ update, owed' update ↔ owed update) {signal' : Bool}
    (hsignal : signal = true → signal' = true) : UpdatesKept queued' owed' row signal' worker := by
  have hqueuedEq : queued' = queued := funext fun update => propext (hqueued update)
  have howedEq : owed' = owed := funext fun update => propext (howed update)
  rw [hqueuedEq, howedEq]
  refine ⟨h.subset, h.pending, ?_⟩
  have hphase := h.phase
  cases hcase : worker.phase with
  | turning =>
    rw [hcase] at hphase
    exact hphase
  | idle =>
    rw [hcase] at hphase
    exact hphase
  | waiting =>
    rw [hcase] at hphase
    exact hphase
  | persisting final update call =>
    rw [hcase] at hphase
    exact ⟨hphase.1, hphase.2.1, fun hfinal => ⟨hsignal (hphase.2.2.1 hfinal).1,
      (hphase.2.2.1 hfinal).2⟩, hphase.2.2.2⟩
  | finished result =>
    rw [hcase] at hphase
    cases result with
    | error error => exact hsignal hphase
    | ok value => exact ⟨hsignal hphase.1, hphase.2⟩
  | panicked => trivial

namespace SettingsRuntime

/-- The update that a step queues, for its guild. -/
def queuedBy : SettingsRuntimeEvent × SettingsRuntimeReply → Option (GuildId × SettingsUpdate)
  | (.queue _, .queued guildId update _) => some (guildId, update)
  | _ => none

/-- The update whose publish returns well in a step, before the shutdown was requested. -/
def acceptedBy (t : Taken SettingsRuntime (SettingsRuntimeEvent × SettingsRuntimeReply)) :
    Option (GuildId × SettingsUpdate) :=
  match t.label with
  | (.queue _, .queued guildId update (.ok ())) =>
    if t.before.isClosing then none else some (guildId, update)
  | _ => none

def Queued (taken : List (Taken SettingsRuntime (SettingsRuntimeEvent × SettingsRuntimeReply)))
    (guildId : GuildId) (update : SettingsUpdate) : Prop :=
  ∃ t ∈ taken, queuedBy t.label = some (guildId, update)

def Accepted (taken : List (Taken SettingsRuntime (SettingsRuntimeEvent × SettingsRuntimeReply)))
    (guildId : GuildId) (update : SettingsUpdate) : Prop :=
  ∃ t ∈ taken, acceptedBy t = some (guildId, update)

/-- The players of a guild publish ever newer snapshots. -/
def Increasing
    (taken : List (Taken SettingsRuntime (SettingsRuntimeEvent × SettingsRuntimeReply))) :
    Prop :=
  (taken.filterMap fun t => queuedBy t.label).Pairwise fun a b =>
    a.1 = b.1 → a.2.actorRevision.toNat < b.2.actorRevision.toNat

/-- Nothing fails that the database has done, or will do. -/
def unambiguous (runtime : SettingsRuntime) : SettingsRuntimeEvent → Bool
  | .fail guildId =>
    match (runtime.workers guildId).map SettingsWorker.phase with
    | some (.persisting _ _ (.updating _ _ (some (.ok (some _))))) => false
    | _ => true
  | .land _ => false
  | _ => true

/-- An idle worker sees the shutdown before it looks at an update in its mailbox. -/
def quitsUnseen (runtime : SettingsRuntime) : SettingsRuntimeEvent → Bool
  | .quit guildId => (runtime.workers guildId).any fun worker =>
    worker.phase = .idle && runtime.signal && worker.mailbox.pending.isSome
  | _ => false

/-- What every worker keeps along a run. -/
structure Flushes (taken : List (Taken SettingsRuntime
    (SettingsRuntimeEvent × SettingsRuntimeReply))) (runtime : SettingsRuntime) : Prop where
  rows : ∀ guildId row, runtime.table guildId = some row → row.guildId = guildId
  queued : ∀ guildId update, Queued taken guildId update →
    ∃ worker, runtime.workers guildId = some worker
  workers : ∀ guildId worker, runtime.workers guildId = some worker →
    guildId ∈ runtime.registered ∧ ∃ row, runtime.table guildId = some row ∧
      UpdatesKept (Queued taken guildId) (Accepted taken guildId) row runtime.signal worker

variable {runtime : SettingsRuntime} {guildId : GuildId}
  {taken : List (Taken SettingsRuntime (SettingsRuntimeEvent × SettingsRuntimeReply))}

theorem acceptedBy_eq_some
    {t : Taken SettingsRuntime (SettingsRuntimeEvent × SettingsRuntimeReply)}
    {update : SettingsUpdate} (h : acceptedBy t = some (guildId, update)) :
    queuedBy t.label = some (guildId, update) ∧ t.before.isClosing = false := by
  unfold acceptedBy at h
  split at h
  · rename_i hlabel
    rw [hlabel]
    split at h
    · contradiction
    · rename_i hopen
      exact ⟨h, by simpa using hopen⟩
  · contradiction

theorem queued_of_accepted {update : SettingsUpdate} (h : Accepted taken guildId update) :
    Queued taken guildId update := by
  obtain ⟨t, ht, haccepted⟩ := h
  exact ⟨t, ht, (acceptedBy_eq_some haccepted).1⟩

theorem Flushes.kept (h : Flushes taken runtime) {worker : SettingsWorker}
    (hworker : runtime.workers guildId = some worker) : ∃ row,
      runtime.table guildId = some row ∧
      UpdatesKept (Queued taken guildId) (Accepted taken guildId) row runtime.signal worker :=
  (h.workers guildId worker hworker).2

theorem Flushes.setWorker (h : Flushes taken runtime) {before : SettingsWorker}
    (hbefore : runtime.workers guildId = some before) {row : GuildSettings}
    (hrow : runtime.table guildId = some row) {worker : SettingsWorker}
    (hworker : UpdatesKept (Queued taken guildId) (Accepted taken guildId) row runtime.signal
      worker) : Flushes taken (runtime.setWorker guildId worker) := by
  refine ⟨h.rows, ?_, ?_⟩
  · intro other update hqueued
    exact setWorker_exists worker (h.queued other update hqueued)
  · intro other found hfound
    rcases setWorker_cases hfound with ⟨rfl, rfl⟩ | ⟨-, hothers⟩
    · exact ⟨(h.workers other before hbefore).1, row, hrow, hworker⟩
    · exact h.workers other found hothers

/-- A worker starts with the stored row and nothing to do. -/
theorem Flushes.register (h : Flushes taken runtime) (hnew : runtime.workers guildId = none)
    {seed : GuildSettings} (hseed : runtime.table guildId = some seed)
    (publishers : List SettingsSnapshotPublisher) :
    Flushes taken { runtime.setWorker guildId (.new seed) with
      registered := runtime.registered ++ [guildId], publishers := publishers } := by
  have hnone : ∀ update, ¬ Queued taken guildId update := by
    intro update hqueued
    obtain ⟨worker, hworker⟩ := h.queued guildId update hqueued
    rw [hnew] at hworker
    contradiction
  refine ⟨h.rows, ?_, ?_⟩
  · intro other update hqueued
    exact setWorker_exists _ (h.queued other update hqueued)
  · intro other found hfound
    rcases setWorker_cases hfound with ⟨rfl, rfl⟩ | ⟨-, hothers⟩
    · refine ⟨by simp, seed, hseed, ?_, ?_, rfl, ?_⟩
      · exact fun update => queued_of_accepted
      · intro pending hpending
        contradiction
      · intro _ update hqueued
        exact absurd hqueued (hnone update)
    · obtain ⟨hregistered, hkept⟩ := h.workers other found hothers
      exact ⟨List.mem_append_left _ hregistered, hkept⟩

/-- The row of a guild is written, and its worker holds the reply. -/
theorem Flushes.wrote (h : Flushes taken runtime) {before worker : SettingsWorker}
    (hbefore : runtime.workers guildId = some before) {updated : GuildSettings}
    (hguild : updated.guildId = guildId)
    (hworker : UpdatesKept (Queued taken guildId) (Accepted taken guildId) updated runtime.signal
      worker) :
    Flushes taken { runtime.setWorker guildId worker with
      table := Function.update runtime.table guildId (some updated) } := by
  refine ⟨?_, ?_, ?_⟩
  · intro other found hother
    by_cases hsame : other = guildId
    · subst hsame
      dsimp only at hother
      rw [Function.update_self] at hother
      obtain rfl := Option.some.inj hother
      exact hguild
    · dsimp only at hother
      rw [Function.update_of_ne hsame] at hother
      exact h.rows other found hother
  · intro other update hqueued
    exact setWorker_exists worker (h.queued other update hqueued)
  · intro other worker' hworker'
    dsimp only
    rcases setWorker_cases hworker' with ⟨rfl, rfl⟩ | ⟨hother, hothers⟩
    · exact ⟨(h.workers other before hbefore).1, updated, Function.update_self .., hworker⟩
    · rw [Function.update_of_ne hother]
      exact h.workers other worker' hothers

/-- The database executes the write of a worker, or refuses it. -/
theorem Flushes.updated (h : Flushes taken runtime) {worker : SettingsWorker} {final : Bool}
    {update : SettingsUpdate} {attempts : ℕ} {sent : GuildSettings}
    {reply : Except StorageError (Option GuildSettings)} {table : GuildSettingsTable}
    (hworker : runtime.workers guildId = some worker)
    (hcase : worker.phase = .persisting final update (.updating attempts sent none))
    (houtcome : runtime.table.updateGuildSettings (sent.withDesired update.settings)
      sent.revision = (reply, table)) :
    Flushes taken { runtime.setWorker guildId { worker with
        phase := .persisting final update (.updating attempts sent (some reply)) } with
      table := table } := by
  obtain ⟨row, hrow, hkept⟩ := h.kept hworker
  have hphase := hkept.phase
  rw [hcase] at hphase
  obtain ⟨hqueued, hpending, hfinal, hsent, hcurrent⟩ := hphase
  rcases GuildSettingsTable.updateGuildSettings_cases (sent.withDesired update.settings)
    sent.revision runtime.table with
    ⟨found, updated, hfound, -, hupdated, -, hwrote⟩ | ⟨refused, hrefused, hunchanged⟩
  · obtain ⟨rfl, rfl⟩ := Prod.mk.inj (houtcome.symm.trans hwrote)
    have hcandidate : (sent.withDesired update.settings).guildId = guildId := by
      rw [hsent]
      exact h.rows guildId row hrow
    have hupdatedGuild : updated.guildId = guildId := by
      rw [hupdated]
      exact hcandidate
    have hmatches : matchesDesired updated update.settings = true := by
      rw [matchesDesired_congr update.settings hupdated]
      exact matchesDesired_withDesired _ _
    rw [hcandidate]
    exact h.wrote hworker hupdatedGuild
      ⟨hkept.subset, hkept.pending, hqueued, hpending, hfinal, rfl, hmatches⟩
  · obtain ⟨rfl, rfl⟩ := Prod.mk.inj (houtcome.symm.trans hunchanged)
    refine h.setWorker hworker hrow ⟨hkept.subset, hkept.pending, hqueued, hpending, hfinal, ?_⟩
    rcases reply with error | found
    · exact hcurrent
    · rcases found with - | found
      · exact hcurrent
      · exact absurd rfl (hrefused found)

theorem Flushes.congr (h : Flushes taken runtime) {runtime' : SettingsRuntime}
    (htable : runtime'.table = runtime.table)
    (hregistered : runtime'.registered = runtime.registered)
    (hworkers : runtime'.workers = runtime.workers)
    (hsignal : runtime.signal = true → runtime'.signal = true) : Flushes taken runtime' := by
  constructor
  · rw [htable]
    exact h.rows
  · rw [hworkers]
    exact h.queued
  · rw [htable, hregistered, hworkers]
    intro guildId worker hworker
    obtain ⟨hmem, row, hrow, hkept⟩ := h.workers guildId worker hworker
    exact ⟨hmem, row, hrow, hkept.congr (fun _ => .rfl) (fun _ => .rfl) hsignal⟩

/-- A worker whose request fails knows the stored row. -/
theorem current_of_fail {worker : SettingsWorker} {final : Bool} {update : SettingsUpdate}
    {call : PersistCall} {row : GuildSettings} (hworker : runtime.workers guildId = some worker)
    (hcase : worker.phase = .persisting final update call)
    (hunambiguous : runtime.unambiguous (.fail guildId) = true)
    (hcall : CallKept row worker.current update call) : worker.current = row := by
  dsimp only [unambiguous] at hunambiguous
  rw [hworker, Option.map_some, hcase] at hunambiguous
  unfold CallKept at hcall
  split at hcall
  · exact hcall.2
  · exact hcall
  · exact hcall.2
  · contradiction
  · exact hcall

/-- A move that queues nothing. -/
theorem Flushes.move (h : Flushes taken runtime) {event : SettingsRuntimeEvent}
    {reply : SettingsRuntimeReply} {runtime' : SettingsRuntime}
    (hmove : runtime.Move event reply runtime') (hnothing : queuedBy (event, reply) = none)
    (hunambiguous : runtime.unambiguous event = true)
    (hquits : runtime.quitsUnseen event = false) : Flushes taken runtime' := by
  cases hmove with
  | aside publishers shutdown hquiet hshutdown =>
    refine h.congr rfl rfl rfl ?_
    simpa [SettingsRuntime.signal] using hshutdown
  | registered publishers hnew hseed => exact h.register hnew hseed publishers
  | queued publishers hworker => contradiction
  | @rested _ _ worker unseen phase hworker hbefore hafter =>
    obtain ⟨row, hrow, hkept⟩ := h.kept hworker
    exact h.setWorker hworker hrow (hkept.rest hbefore unseen hafter)
  | @quitted _ worker hworker hidle hsignal =>
    obtain ⟨row, hrow, hkept⟩ := h.kept hworker
    have hempty : worker.mailbox.pending = none := by
      simpa [quitsUnseen, hworker, hidle, hsignal] using hquits
    have hresting : worker.phase.isResting = true := by
      rw [hidle]
      rfl
    exact h.setWorker hworker hrow (hkept.finish hresting hempty hsignal)
  | @drained _ worker hworker hwaiting hsignal hnone =>
    obtain ⟨row, hrow, hkept⟩ := h.kept hworker
    have hresting : worker.phase.isResting = true := by
      rw [hwaiting]
      rfl
    exact h.setWorker hworker hrow (hkept.finish hresting hnone hsignal)
  | @turned _ worker _ _ hworker hturning hpending =>
    obtain ⟨row, hrow, hkept⟩ := h.kept hworker
    have hresting : worker.phase.isResting = true := by
      rw [hturning]
      rfl
    have hread := hkept.rest hresting false hresting
    exact h.setWorker hworker hrow
      (hread.persistPending (hkept.resting hresting).1 (by simp) hpending)
  | @noticed _ worker _ _ hworker hwaiting hsignal hpending =>
    obtain ⟨row, hrow, hkept⟩ := h.kept hworker
    have hresting : worker.phase.isResting = true := by
      rw [hwaiting]
      rfl
    have hcurrent := (hkept.resting hresting).1
    exact h.setWorker hworker hrow (hkept.persistPending hcurrent (fun _ => hsignal) hpending)
  | looked hworker hcase =>
    obtain ⟨row, hrow, hkept⟩ := h.kept hworker
    have hphase := hkept.phase
    rw [hcase] at hphase
    obtain ⟨hqueued, hpending, hfinal, hcurrent⟩ := hphase
    refine h.setWorker hworker hrow ⟨hkept.subset, hkept.pending, hqueued, hpending, hfinal, ?_⟩
    unfold GuildSettingsTable.getGuildSettings
    rw [hrow]
    exact ⟨rfl, hcurrent⟩
  | wrote hworker hcase houtcome => exact h.updated hworker hcase houtcome
  | replied hworker hcase =>
    obtain ⟨row, hrow, hkept⟩ := h.kept hworker
    have hphase := hkept.phase
    rw [hcase] at hphase
    obtain ⟨hqueued, hpending, hfinal, hcall⟩ := hphase
    obtain ⟨hstep, hcurrent⟩ := resume_kept hcall
    exact h.setWorker hworker hrow (hkept.advance hqueued hpending hfinal hstep hcurrent)
  | @failed _ worker _ update _ hworker hcase =>
    obtain ⟨row, hrow, hkept⟩ := h.kept hworker
    have hphase := hkept.phase
    rw [hcase] at hphase
    obtain ⟨hqueued, hpending, hfinal, hcall⟩ := hphase
    have hcurrent := current_of_fail hworker hcase hunambiguous hcall
    have hstep : StepKept row update (.done (.error .repository)) := trivial
    have hadvanced := h.setWorker hworker hrow
      (hkept.advance hqueued hpending hfinal hstep fun _ => hcurrent)
    exact hadvanced.congr rfl rfl rfl id
  | @panicked _ worker hworker =>
    obtain ⟨row, hrow, hkept⟩ := h.kept hworker
    have hpanicked : UpdatesKept (Queued taken _) (Accepted taken _) row runtime.signal
        { worker with phase := .panicked } := ⟨hkept.subset, hkept.pending, trivial⟩
    exact (h.setWorker hworker hrow hpanicked).congr rfl rfl rfl id
  | landed hwrite => contradiction

theorem queued_append {t : Taken SettingsRuntime (SettingsRuntimeEvent × SettingsRuntimeReply)}
    {update : SettingsUpdate} : Queued (taken ++ [t]) guildId update ↔
      Queued taken guildId update ∨ queuedBy t.label = some (guildId, update) := by
  constructor
  · rintro ⟨t', ht', hqueued⟩
    rcases List.mem_append.mp ht' with hbefore | hlast
    · exact .inl ⟨t', hbefore, hqueued⟩
    · obtain rfl := List.mem_singleton.mp hlast
      exact .inr hqueued
  · rintro (⟨t', ht', hqueued⟩ | hqueued)
    · exact ⟨t', List.mem_append_left _ ht', hqueued⟩
    · exact ⟨t, List.mem_append_right _ List.mem_cons_self, hqueued⟩

theorem accepted_append {t : Taken SettingsRuntime (SettingsRuntimeEvent × SettingsRuntimeReply)}
    {update : SettingsUpdate} : Accepted (taken ++ [t]) guildId update ↔
      Accepted taken guildId update ∨ acceptedBy t = some (guildId, update) := by
  constructor
  · rintro ⟨t', ht', haccepted⟩
    rcases List.mem_append.mp ht' with hbefore | hlast
    · exact .inl ⟨t', hbefore, haccepted⟩
    · obtain rfl := List.mem_singleton.mp hlast
      exact .inr haccepted
  · rintro (⟨t', ht', haccepted⟩ | haccepted)
    · exact ⟨t', List.mem_append_left _ ht', haccepted⟩
    · exact ⟨t, List.mem_append_right _ List.mem_cons_self, haccepted⟩

/-- A step that queues nothing adds nothing to what is owed. -/
theorem Flushes.append (h : Flushes taken runtime)
    {t : Taken SettingsRuntime (SettingsRuntimeEvent × SettingsRuntimeReply)}
    (hnothing : queuedBy t.label = none) : Flushes (taken ++ [t]) runtime := by
  have hqueued : ∀ guildId update,
      Queued (taken ++ [t]) guildId update ↔ Queued taken guildId update := by
    intro guildId update
    rw [queued_append, hnothing]
    simp
  have haccepted : ∀ guildId update,
      Accepted (taken ++ [t]) guildId update ↔ Accepted taken guildId update := by
    intro guildId update
    rw [accepted_append]
    refine or_iff_left ?_
    intro hlast
    rw [(acceptedBy_eq_some hlast).1] at hnothing
    contradiction
  refine ⟨h.rows, fun guildId update hany => h.queued guildId update ((hqueued _ _).mp hany), ?_⟩
  intro guildId worker hworker
  obtain ⟨hregistered, row, hrow, hkept⟩ := h.workers guildId worker hworker
  exact ⟨hregistered, row, hrow, hkept.congr (hqueued guildId) (haccepted guildId) id⟩

/-- A move that queues an update is that of its publisher. -/
theorem Move.of_queuedBy {event : SettingsRuntimeEvent} {reply : SettingsRuntimeReply}
    {runtime' : SettingsRuntime} (hmove : runtime.Move event reply runtime')
    {update : SettingsUpdate} (hqueued : queuedBy (event, reply) = some (guildId, update)) :
    ∃ index result publishers worker, event = .queue index ∧
      reply = .queued guildId update result ∧ runtime.workers guildId = some worker ∧
      runtime' = { runtime.setWorker guildId (worker.queue update) with
        publishers := publishers } := by
  unfold queuedBy at hqueued
  split at hqueued
  · rename_i index other queued result hlabel
    obtain ⟨rfl, rfl⟩ := Prod.mk.inj hlabel
    obtain ⟨rfl, rfl⟩ := Prod.mk.inj (Option.some.inj hqueued)
    cases hmove with
    | aside publishers shutdown hquiet hshutdown => contradiction
    | @queued _ _ _ _ worker publishers hworker =>
      exact ⟨index, result, publishers, worker, rfl, rfl, hworker, rfl⟩
  · contradiction

/-- A publisher queues an update. -/
theorem Flushes.queue (h : Flushes taken runtime) {worker : SettingsWorker}
    (hworker : runtime.workers guildId = some worker) {update : SettingsUpdate}
    (hnewer : ∀ other, Queued taken guildId other →
      other.actorRevision.toNat < update.actorRevision.toNat) (index : ℕ)
    (result : Except SettingsPublishError Unit) (publishers : List SettingsSnapshotPublisher)
    (runtime' : SettingsRuntime) :
    Flushes (taken ++ [⟨runtime, (.queue index, .queued guildId update result), runtime'⟩])
      { runtime.setWorker guildId (worker.queue update) with publishers := publishers } := by
  obtain ⟨hregistered, row, hrow, hkept⟩ := h.workers guildId worker hworker
  refine ⟨h.rows, ?_, ?_⟩
  · intro other update' hqueued
    apply setWorker_exists
    rcases queued_append.mp hqueued with hbefore | hlast
    · exact h.queued other update' hbefore
    · obtain ⟨rfl, -⟩ := Prod.mk.inj (Option.some.inj hlast)
      exact ⟨worker, hworker⟩
  · intro other found hfound
    rcases setWorker_cases hfound with ⟨rfl, rfl⟩ | ⟨hother, hbefore⟩
    · refine ⟨hregistered, row, hrow, hkept.queue hnewer ?_ (fun _ => queued_of_accepted) ?_⟩
      · intro other
        rw [queued_append]
        refine or_congr_right ?_
        simp [queuedBy, eq_comm]
      · intro hsignal other haccepted
        rcases accepted_append.mp haccepted with hbefore | hlast
        · exact hbefore
        · have hopen : runtime.isClosing = false := (acceptedBy_eq_some hlast).2
          simp_all [SettingsRuntime.signal, isClosing]
    · obtain ⟨hmem, row', hrow', hkept'⟩ := h.workers other found hbefore
      refine ⟨hmem, row', hrow', hkept'.congr ?_ ?_ id⟩
      · intro update'
        rw [queued_append]
        refine or_iff_left ?_
        intro hlast
        exact hother (Prod.mk.inj (Option.some.inj hlast)).1.symm
      · intro update'
        rw [accepted_append]
        refine or_iff_left ?_
        intro hlast
        have hqueued := (acceptedBy_eq_some hlast).1
        exact hother (Prod.mk.inj (Option.some.inj hqueued)).1.symm

variable {table : GuildSettingsTable}

theorem queued_iff_mem {update : SettingsUpdate} : Queued taken guildId update ↔
    (guildId, update) ∈ taken.filterMap fun t => queuedBy t.label :=
  List.mem_filterMap.symm

/-- An update is queued but once. -/
theorem Increasing.unique (h : Increasing taken) {update update' : SettingsUpdate}
    (hqueued : Queued taken guildId update) (hqueued' : Queued taken guildId update')
    (hsame : update.actorRevision = update'.actorRevision) : update = update' := by
  have hsymm : Std.Symm fun a b : GuildId × SettingsUpdate =>
      a.1 = b.1 → a.2.actorRevision = b.2.actorRevision → a = b :=
    ⟨fun _ _ h hguild heq => (h hguild.symm heq.symm).symm⟩
  have hunique : (taken.filterMap fun t => queuedBy t.label).Pairwise fun a b =>
      a.1 = b.1 → a.2.actorRevision = b.2.actorRevision → a = b := by
    refine List.Pairwise.imp ?_ h
    intro a b hlt hguild heq
    have hnewer := hlt hguild
    rw [heq] at hnewer
    omega
  have hpair := hunique.forall_of_forall (fun _ _ _ _ => rfl) (queued_iff_mem.mp hqueued)
    (queued_iff_mem.mp hqueued') rfl hsame
  exact (Prod.mk.inj hpair).2

theorem Runs.flushes (run : Runs table taken runtime) (hincreasing : Increasing taken)
    (hunambiguous : ∀ t ∈ taken, t.before.unambiguous t.label.1 = true)
    (hquits : ∀ t ∈ taken, t.before.quitsUnseen t.label.1 = false) : Flushes taken runtime := by
  obtain ⟨hrows, run⟩ := run
  induction run with
  | nil => exact ⟨hrows, by simp [Queued], by simp [start]⟩
  | @snoc taken s s' l run hnext ih =>
    unfold Increasing at hincreasing
    rw [List.filterMap_append, List.pairwise_append] at hincreasing
    obtain ⟨hbefore, -, hlater⟩ := hincreasing
    have hkept := ih hbefore (fun t ht => hunambiguous t (List.mem_append_left _ ht))
      fun t ht => hquits t (List.mem_append_left _ ht)
    obtain ⟨hlabel, hafter⟩ := hnext.eq
    have hlast : ⟨s, l, s'⟩ ∈ taken ++ [⟨s, l, s'⟩] := List.mem_append_right _ List.mem_cons_self
    rcases l with ⟨event, reply⟩
    obtain ⟨-, hreply⟩ := Prod.mk.inj hlabel
    have hmove : s.Move event reply s' := by
      rw [hreply, hafter]
      exact step_moves s event
    cases hqueue : queuedBy (event, reply) with
    | none =>
      have hstep := hkept.move hmove hqueue (hunambiguous _ hlast) (hquits _ hlast)
      exact hstep.append hqueue
    | some queued =>
      rcases queued with ⟨guildId, update⟩
      obtain ⟨index, result, publishers, worker, rfl, rfl, hworker, rfl⟩ := hmove.of_queuedBy hqueue
      refine hkept.queue hworker ?_ index result publishers _
      intro other hother
      exact hlater (guildId, other) (queued_iff_mem.mp hother) (guildId, update)
        (List.mem_filterMap.mpr ⟨_, List.mem_cons_self, hqueue⟩) rfl

/-- What a shutdown promises: if it ends well, every update that was accepted before it was
requested is in its guild's row, or a newer one is. -/
def Flushed (taken : List (Taken SettingsRuntime (SettingsRuntimeEvent × SettingsRuntimeReply)))
    (runtime : SettingsRuntime) : Prop :=
  (runtime.step .join).1 = .shutdown (.ok ()) → ∀ guildId update, Accepted taken guildId update →
    ∃ stored, Queued taken guildId stored ∧
      (stored = update ∨ update.actorRevision.toNat < stored.actorRevision.toNat) ∧
      (runtime.table guildId).any (fun row => matchesDesired row stored.settings) = true

/-- When every task has ended well, so has every worker. -/
theorem finished_of_join (hjoined : (runtime.step .join).1 = .shutdown (.ok ()))
    (hregistered : guildId ∈ runtime.registered) {worker : SettingsWorker}
    (hworker : runtime.workers guildId = some worker) : worker.phase = .finished (.ok ()) := by
  dsimp only [SettingsRuntime.step] at hjoined
  split at hjoined
  · rename_i hended
    have hclosed : worker.isClosed = true := by
      have hall : ∀ guildId ∈ runtime.registered,
          (runtime.workers guildId).any SettingsWorker.isClosed = true := by simp_all
      simpa [hworker] using hall guildId hregistered
    have hresult := SettingsRuntimeReply.shutdown.inj hjoined
    unfold joinResult at hresult
    split at hresult
    · contradiction
    · rename_i hnone
      have herror := List.findSome?_eq_none_iff.mp hnone guildId hregistered
      unfold taskError at herror
      rw [hworker, Option.map_some] at herror
      unfold SettingsWorker.isClosed at hclosed
      cases hcase : worker.phase with
      | finished result =>
        rw [hcase] at herror
        cases result with
        | ok value => rfl
        | error error => cases error <;> simp at herror
      | panicked =>
        rw [hcase] at herror
        simp at herror
      | turning => simp [hcase] at hclosed
      | idle => simp [hcase] at hclosed
      | persisting final update call => simp [hcase] at hclosed
      | waiting => simp [hcase] at hclosed
  · contradiction

/-- If nothing fails that the database has done and no idle worker sees the shutdown before it
looks at an update in its mailbox, the shutdown keeps its promise. -/
theorem settings_flushed (run : Runs table taken runtime) (hincreasing : Increasing taken)
    (hunambiguous : ∀ t ∈ taken, t.before.unambiguous t.label.1 = true)
    (hquits : ∀ t ∈ taken, t.before.quitsUnseen t.label.1 = false) : Flushed taken runtime := by
  intro hjoined guildId update haccepted
  have hflushes := Runs.flushes run hincreasing hunambiguous hquits
  obtain ⟨worker, hworker⟩ := hflushes.queued guildId update (queued_of_accepted haccepted)
  obtain ⟨hregistered, row, hrow, hkept⟩ := hflushes.workers guildId worker hworker
  have hphase := hkept.phase
  rw [finished_of_join hjoined hregistered hworker] at hphase
  obtain ⟨stored, hstored, hle, hmatches⟩ := hphase.2 update haccepted
  refine ⟨stored, hstored, ?_, by simpa [hrow] using hmatches⟩
  rcases hle.lt_or_eq with hlt | heq
  · exact .inr hlt
  · left
    exact hincreasing.unique hstored (queued_of_accepted haccepted)
      (StateRevision.toNat_injective heq.symm)

/-- A change is written in the final flush, after a failed attempt. -/
def flushedChange : List SettingsRuntimeEvent :=
  [.publisher ⟨.MIN⟩ ⟨Volume.DEFAULT, .alpha, false⟩,
    .publish 0 (settingsSnapshot ⟨1⟩ false), .publish 0 (settingsSnapshot ⟨2⟩ true), .queue 0,
    .turn ⟨.MIN⟩, .fail ⟨.MIN⟩, .close, .signal, .notice ⟨.MIN⟩,
    .execute ⟨.MIN⟩, .reply ⟨.MIN⟩]

theorem settings_flushed_flushedChange :
    ((record step (start seedTable) flushedChange).2.step .join).1 = .shutdown (.ok ()) ∧
    Flushed (record step (start seedTable) flushedChange).1
      (record step (start seedTable) flushedChange).2 :=
  ⟨by decide +kernel, settings_flushed
    ⟨seedTable_rows, run_record step (start seedTable) flushedChange⟩
    (by unfold Increasing; decide +kernel) (by decide +kernel) (by decide +kernel)⟩

/-- A change is accepted while its worker is idle, and the worker sees the shutdown first. -/
def lostChange : List SettingsRuntimeEvent :=
  [.publisher ⟨.MIN⟩ ⟨Volume.DEFAULT, .alpha, false⟩,
    .publish 0 (settingsSnapshot ⟨1⟩ false), .turn ⟨.MIN⟩,
    .publish 0 (settingsSnapshot ⟨2⟩ true), .queue 0, .close, .signal, .quit ⟨.MIN⟩]

theorem settings_unflushed_lostChange :
    Increasing (record step (start seedTable) lostChange).1 ∧
    (∀ t ∈ (record step (start seedTable) lostChange).1,
      t.before.unambiguous t.label.1 = true) ∧
    ¬ Flushed (record step (start seedTable) lostChange).1
      (record step (start seedTable) lostChange).2 := by
  refine ⟨by unfold Increasing; decide +kernel, by decide +kernel, ?_⟩
  intro hflushed
  have haccepted : (⟨1, by decide⟩, ⟨⟨2⟩, ⟨Volume.DEFAULT, ⟨"alpha", by decide⟩, true⟩⟩) ∈
      (record step (start seedTable) lostChange).1.filterMap acceptedBy := by decide +kernel
  obtain ⟨stored, hstored, -, hmatches⟩ :=
    hflushed (by decide +kernel) _ _ (List.mem_filterMap.mp haccepted)
  have hall : ∀ queued ∈ (record step (start seedTable) lostChange).1.filterMap
      (fun t => queuedBy t.label), ((record step (start seedTable) lostChange).2.table queued.1).any
        (fun row => matchesDesired row queued.2.settings) = false := by decide +kernel
  have hnone := hall _ (queued_iff_mem.mp hstored)
  rw [hmatches] at hnone
  contradiction

end SettingsRuntime

end PepeAudio
