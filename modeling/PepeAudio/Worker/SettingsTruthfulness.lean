import PepeAudio.Worker.SettingsMoves

/-!
# Which updates are persisted

A worker holds rows it has read or written. Each of them is the stored row, or an
older one, and revisions tell which. A write that the worker has given up is under
a revision that the stored row has reached, so that it can land at most while the
row is the one it was made for.
-/
namespace PepeAudio

/-- The stored row, or an older one; its revision tells which. -/
structure RowHeld (row held : GuildSettings) : Prop where
  guild : held.guildId = row.guildId
  le : held.revision.toNat ≤ row.revision.toNat
  same : held.revision = row.revision → held = row

theorem RowHeld.refl (row : GuildSettings) : RowHeld row row := ⟨rfl, le_rfl, fun _ => rfl⟩

/-- A row that is written later is another one. -/
theorem RowHeld.later {row row' held : GuildSettings} (h : RowHeld row held)
    (hguild : row'.guildId = row.guildId)
    (hlater : row.revision.toNat < row'.revision.toNat) : RowHeld row' held := by
  have hle := h.le
  refine ⟨h.guild.trans hguild.symm, by omega, ?_⟩
  intro hsame
  rw [hsame] at hle
  omega

theorem matchesDesired_withDesired (current : GuildSettings) (desired : PersistentPlayerSettings) :
    matchesDesired (current.withDesired desired) desired = true := by
  simp [matchesDesired, GuildSettings.withDesired]

/-- What matches depends on the settings of the row alone. -/
theorem matchesDesired_congr {row row' : GuildSettings} (desired : PersistentPlayerSettings)
    (h : row' = { row with revision := row'.revision }) :
    matchesDesired row' desired = matchesDesired row desired := by
  rw [h]
  rfl

/-- The request under way is for a row of the guild, and its reply tells about the stored row. -/
def CallTracked (late : List SettingsWrite) (row : GuildSettings) (update : SettingsUpdate) :
    PersistCall → Prop
  | .reading _ (some (.ok (some found))) => RowHeld row found
  | .reading _ _ => True
  | .updating _ current none => RowHeld row current
  | .updating _ _ (some (.ok (some updated))) => updated = row ∧
    matchesDesired row update.settings = true ∧ ∀ write ∈ late,
      write.candidate.guildId = row.guildId → write.expected.toNat < row.revision.toNat
  | .updating _ _ (some _) => True

/-- What a worker holds, while its guild's row is the stored one and so many writes may land. -/
structure Tracked (late : List SettingsWrite) (row : GuildSettings) (worker : SettingsWorker) :
    Prop where
  current : RowHeld row worker.current
  call : ∀ final update call, worker.phase = .persisting final update call →
    CallTracked late row update call

/-- What `persist_latest` may come to. -/
def StepTracked (row : GuildSettings) : PersistStep → Prop
  | .pending (.reading _ none) => True
  | .pending (.updating _ current none) => RowHeld row current
  | .pending _ => False
  | .done (.ok updated) => RowHeld row updated
  | .done (.error _) => True

variable {late : List SettingsWrite} {row : GuildSettings} {worker : SettingsWorker}

theorem attempt_tracked {current : GuildSettings} (h : RowHeld row current) (attempts : ℕ)
    (desired : PersistentPlayerSettings) :
    StepTracked row (.attempt attempts current desired) := by
  unfold PersistStep.attempt
  split
  · trivial
  · split
    · exact h
    · exact h

theorem persistLatest_tracked {seed : GuildSettings} (h : RowHeld row seed) (guildId : GuildId)
    (desired : PersistentPlayerSettings) :
    StepTracked row (.persistLatest guildId seed desired) := by
  unfold PersistStep.persistLatest
  split
  · exact attempt_tracked h 0 desired
  · trivial

theorem resume_tracked {update : SettingsUpdate} {call : PersistCall}
    (h : CallTracked late row update call) : StepTracked row (.resume update.settings call) := by
  unfold PersistStep.resume
  split
  · exact attempt_tracked h _ _
  · trivial
  · rw [h.1]
    exact .refl row
  · trivial
  · trivial
  · rename_i hreading hother hupdated hnone herror
    cases call with
    | reading attempts reply =>
      cases reply with
      | none => trivial
      | some result => exact absurd rfl (hother attempts result)
    | updating attempts current reply =>
      cases reply with
      | none => exact h
      | some result =>
        rcases result with error | found
        · exact absurd rfl (herror attempts current error)
        · rcases found with - | found
          · exact absurd rfl (hnone attempts current)
          · exact absurd rfl (hupdated attempts current found)

theorem SettingsWorker.advance_error (worker : SettingsWorker) (signal final : Bool)
    (update : SettingsUpdate) (error : SettingsWorkerError) :
    worker.advance signal final update (.done (.error error)) =
      { worker with phase :=
          if final || signal then .finished (.error .finalWriteFailed) else .waiting } := by
  unfold SettingsWorker.advance
  dsimp only
  split <;> rfl

theorem Tracked.advance (h : Tracked late row worker) {persist : PersistStep}
    (hstep : StepTracked row persist) (signal final : Bool) (update : SettingsUpdate) :
    Tracked late row (worker.advance signal final update persist) := by
  unfold SettingsWorker.advance
  split
  · rename_i call
    refine ⟨h.current, ?_⟩
    intro final' update' call' hphase
    obtain ⟨rfl, rfl, rfl⟩ := SettingsPhase.persisting.inj hphase
    cases call with
    | reading attempts reply =>
      cases reply with
      | none => trivial
      | some result => exact hstep.elim
    | updating attempts current reply =>
      cases reply with
      | none => exact hstep
      | some result => exact hstep.elim
  · split
    · exact ⟨h.current, fun _ _ _ hphase => by contradiction⟩
    · exact ⟨hstep, fun _ _ _ hphase => by contradiction⟩
  · split <;> exact ⟨h.current, fun _ _ _ hphase => by contradiction⟩

/-- A worker that makes no request. -/
theorem Tracked.quiet (h : Tracked late row worker) {worker' : SettingsWorker}
    (hcurrent : worker'.current = worker.current)
    (hphase : ∀ final update call, worker'.phase ≠ .persisting final update call) :
    Tracked late row worker' := by
  refine ⟨?_, fun final update call hpersisting => absurd hpersisting (hphase final update call)⟩
  rw [hcurrent]
  exact h.current

theorem Tracked.queue (h : Tracked late row worker) (update : SettingsUpdate) :
    Tracked late row (worker.queue update) := by
  unfold SettingsWorker.queue
  split
  · exact ⟨h.current, h.call⟩
  · exact h

/-- Fewer writes may land, or more of other guilds. -/
theorem Tracked.of_late (h : Tracked late row worker) {late' : List SettingsWrite}
    (hlate : ∀ write ∈ late', write.candidate.guildId = row.guildId → write ∈ late) :
    Tracked late' row worker := by
  refine ⟨h.current, ?_⟩
  intro final update call hphase
  have hcall := h.call final update call hphase
  unfold CallTracked at hcall ⊢
  split at hcall
  · exact hcall
  · trivial
  · exact hcall
  · exact ⟨hcall.1, hcall.2.1, fun write hwrite hguild =>
      hcall.2.2 write (hlate write hwrite hguild) hguild⟩
  · trivial

/-- The row of the guild is written by a request that was given up. -/
theorem Tracked.landed (h : Tracked late row worker) {row' : GuildSettings}
    {write : SettingsWrite} (hwrite : write ∈ late) (hexpected : write.expected = row.revision)
    (hguild : write.candidate.guildId = row.guildId) (hrow : row'.guildId = row.guildId)
    (hlater : row.revision.toNat < row'.revision.toNat) : Tracked late row' worker := by
  refine ⟨h.current.later hrow hlater, ?_⟩
  intro final update call hphase
  have hcall := h.call final update call hphase
  unfold CallTracked at hcall ⊢
  split at hcall
  · exact hcall.later hrow hlater
  · trivial
  · exact hcall.later hrow hlater
  · have hlt := hcall.2.2 write hwrite hguild
    rw [hexpected] at hlt
    omega
  · trivial

namespace SettingsRuntime

/-- Every row is that of its guild, every write that may land is under a revision that its row
has reached, and every worker holds rows of its guild. -/
structure Sound (runtime : SettingsRuntime) : Prop where
  rows : ∀ guildId row, runtime.table guildId = some row → row.guildId = guildId
  late : ∀ write ∈ runtime.late, ∃ row, runtime.table write.candidate.guildId = some row ∧
    write.expected.toNat ≤ row.revision.toNat
  workers : ∀ guildId worker, runtime.workers guildId = some worker →
    ∃ row, runtime.table guildId = some row ∧ Tracked runtime.late row worker

variable {runtime : SettingsRuntime} {guildId : GuildId}

theorem setWorker_self (runtime : SettingsRuntime) (guildId : GuildId) (worker : SettingsWorker) :
    (runtime.setWorker guildId worker).workers guildId = some worker :=
  Function.update_self ..

theorem setWorker_of_ne (runtime : SettingsRuntime) (guildId : GuildId) (worker : SettingsWorker)
    {other : GuildId} (h : other ≠ guildId) :
    (runtime.setWorker guildId worker).workers other = runtime.workers other :=
  Function.update_of_ne h ..

theorem setWorker_cases {worker found : SettingsWorker} {other : GuildId}
    (h : (runtime.setWorker guildId worker).workers other = some found) :
    (other = guildId ∧ found = worker) ∨
      (other ≠ guildId ∧ runtime.workers other = some found) := by
  by_cases hother : other = guildId
  · subst hother
    rw [setWorker_self] at h
    exact .inl ⟨rfl, (Option.some.inj h).symm⟩
  · rw [setWorker_of_ne _ _ _ hother] at h
    exact .inr ⟨hother, h⟩

/-- No worker goes. -/
theorem setWorker_exists {other : GuildId} (worker : SettingsWorker)
    (h : ∃ found, runtime.workers other = some found) :
    ∃ found, (runtime.setWorker guildId worker).workers other = some found := by
  by_cases hother : other = guildId
  · subst hother
    exact ⟨worker, setWorker_self _ _ _⟩
  · rw [setWorker_of_ne _ _ _ hother]
    exact h

theorem Sound.setWorker (h : runtime.Sound) {row : GuildSettings}
    (hrow : runtime.table guildId = some row) {worker : SettingsWorker}
    (hworker : Tracked runtime.late row worker) : (runtime.setWorker guildId worker).Sound := by
  refine ⟨h.rows, h.late, ?_⟩
  intro other found hfound
  rcases setWorker_cases hfound with ⟨rfl, rfl⟩ | ⟨-, hbefore⟩
  · exact ⟨row, hrow, hworker⟩
  · exact h.workers other found hbefore

theorem Sound.advance (h : runtime.Sound) {row : GuildSettings}
    (hrow : runtime.table guildId = some row) {worker : SettingsWorker}
    (hworker : Tracked runtime.late row worker) {persist : PersistStep}
    (hstep : StepTracked row persist) (final : Bool) (update : SettingsUpdate) :
    (runtime.advance guildId final update worker persist).2.Sound :=
  h.setWorker hrow (hworker.advance hstep runtime.signal final update)

theorem Sound.persistPending (h : runtime.Sound) {row : GuildSettings}
    (hrow : runtime.table guildId = some row) {worker : SettingsWorker}
    (hworker : Tracked runtime.late row worker) {update : SettingsUpdate} {persist : PersistStep}
    (hpending : worker.persistPending guildId = some (update, persist)) (final : Bool) :
    (runtime.advance guildId final update worker persist).2.Sound := by
  unfold SettingsWorker.persistPending at hpending
  obtain ⟨pending, -, heq⟩ := Option.map_eq_some_iff.mp hpending
  obtain ⟨rfl, rfl⟩ := Prod.mk.inj heq
  exact h.advance hrow hworker (persistLatest_tracked hworker.current _ _) final pending

/-- What a written row leaves of the other guilds. -/
theorem Sound.wrote (h : runtime.Sound) {row updated : GuildSettings}
    (hrow : runtime.table guildId = some row) (hguild : updated.guildId = row.guildId)
    (hlater : row.revision.toNat < updated.revision.toNat) {late : List SettingsWrite}
    (hlate : late ⊆ runtime.late) {workers : GuildId → Option SettingsWorker}
    (hothers : ∀ other, other ≠ guildId → workers other = runtime.workers other)
    (hself : ∀ worker, workers guildId = some worker → Tracked late updated worker) :
    Sound { runtime with
      table := Function.update runtime.table guildId (some updated), late := late,
      workers := workers } := by
  have hupdated : updated.guildId = guildId := hguild.trans (h.rows guildId row hrow)
  constructor
  · intro other found hfound
    by_cases hother : other = guildId
    · subst hother
      dsimp only at hfound
      rw [Function.update_self] at hfound
      obtain rfl := Option.some.inj hfound
      exact hupdated
    · dsimp only at hfound
      rw [Function.update_of_ne hother] at hfound
      exact h.rows other found hfound
  · intro write hwrite
    obtain ⟨found, hfound, hle⟩ := h.late write (hlate hwrite)
    dsimp only
    by_cases hother : write.candidate.guildId = guildId
    · rw [hother] at hfound ⊢
      obtain rfl := Option.some.inj (hfound.symm.trans hrow)
      rw [Function.update_self]
      exact ⟨updated, rfl, by omega⟩
    · rw [Function.update_of_ne hother]
      exact ⟨found, hfound, hle⟩
  · intro other worker hworker
    dsimp only at hworker ⊢
    by_cases hother : other = guildId
    · subst hother
      rw [Function.update_self]
      exact ⟨updated, rfl, hself worker hworker⟩
    · rw [hothers other hother] at hworker
      rw [Function.update_of_ne hother]
      obtain ⟨found, hfound, htracked⟩ := h.workers other worker hworker
      exact ⟨found, hfound, htracked.of_late fun write hwrite _ => hlate hwrite⟩

/-- The database reads the row that a worker asks for. -/
theorem Sound.looked (h : runtime.Sound) {worker : SettingsWorker} {final : Bool}
    {update : SettingsUpdate} {attempts : ℕ} (hworker : runtime.workers guildId = some worker) :
    (runtime.setWorker guildId { worker with
      phase := .persisting final update
        (.reading attempts (some (runtime.table.getGuildSettings guildId))) }).Sound := by
  obtain ⟨row, hrow, htracked⟩ := h.workers guildId worker hworker
  refine h.setWorker hrow ⟨htracked.current, ?_⟩
  intro final' update' call hcall
  obtain ⟨rfl, rfl, rfl⟩ := SettingsPhase.persisting.inj hcall
  unfold GuildSettingsTable.getGuildSettings
  rw [hrow]
  exact .refl row

/-- The database executes the write of a worker, or refuses it. -/
theorem Sound.updated (h : runtime.Sound) {worker : SettingsWorker} {final : Bool}
    {update : SettingsUpdate} {attempts : ℕ} {current : GuildSettings}
    {reply : Except StorageError (Option GuildSettings)} {table : GuildSettingsTable}
    (hworker : runtime.workers guildId = some worker)
    (hphase : worker.phase = .persisting final update (.updating attempts current none))
    (houtcome : runtime.table.updateGuildSettings (current.withDesired update.settings)
      current.revision = (reply, table)) :
    Sound { runtime.setWorker guildId { worker with
        phase := .persisting final update (.updating attempts current (some reply)) } with
      table := table } := by
  obtain ⟨row, hrow, htracked⟩ := h.workers guildId worker hworker
  have hheld : RowHeld row current := htracked.call final update _ hphase
  have hguild := h.rows guildId row hrow
  rcases GuildSettingsTable.updateGuildSettings_cases (current.withDesired update.settings)
    current.revision runtime.table with
    ⟨found, updated, hfound, hsame, hupdated, hnext, hwrote⟩ | ⟨refused, hrefused, hkept⟩
  · obtain ⟨rfl, rfl⟩ := Prod.mk.inj (houtcome.symm.trans hwrote)
    have hcandidate : (current.withDesired update.settings).guildId = guildId :=
      hheld.guild.trans hguild
    rw [hcandidate] at hfound ⊢
    obtain rfl := Option.some.inj (hfound.symm.trans hrow)
    have hupdatedGuild : updated.guildId = found.guildId := by
      rw [hupdated]
      exact hheld.guild
    have hlater : found.revision.toNat < updated.revision.toNat := by
      rw [hnext, hsame]
      omega
    refine h.wrote hrow hupdatedGuild hlater (List.Subset.refl _) ?_ ?_
    · intro other hother
      exact setWorker_of_ne _ _ _ hother
    · intro worker' hworker'
      obtain rfl := Option.some.inj ((setWorker_self _ _ _).symm.trans hworker')
      refine ⟨htracked.current.later hupdatedGuild hlater, ?_⟩
      intro final' update' call hcall
      obtain ⟨rfl, rfl, rfl⟩ := SettingsPhase.persisting.inj hcall
      refine ⟨rfl, ?_, ?_⟩
      · rw [matchesDesired_congr update.settings hupdated]
        exact matchesDesired_withDesired _ _
      · intro write hwrite hwriteGuild
        obtain ⟨other, hother, hle⟩ := h.late write hwrite
        rw [hwriteGuild, hupdatedGuild, hguild] at hother
        obtain rfl := Option.some.inj (hother.symm.trans hrow)
        omega
  · obtain ⟨rfl, rfl⟩ := Prod.mk.inj (houtcome.symm.trans hkept)
    refine h.setWorker hrow ⟨htracked.current, ?_⟩
    intro final' update' call hcall
    obtain ⟨rfl, rfl, rfl⟩ := SettingsPhase.persisting.inj hcall
    rcases reply with error | found
    · trivial
    · rcases found with - | found
      · trivial
      · exact absurd rfl (hrefused found)

/-- A request that was given up is executed at last. -/
theorem Sound.landed (h : runtime.Sound) {index : ℕ} {write : SettingsWrite}
    (hwrite : runtime.late[index]? = some write) :
    Sound { runtime with
      table := (runtime.table.updateGuildSettings write.candidate write.expected).2
      late := runtime.late.eraseIdx index } := by
  have hmem := List.mem_of_getElem? hwrite
  have hsubset : runtime.late.eraseIdx index ⊆ runtime.late := fun _ => List.mem_of_mem_eraseIdx
  rcases GuildSettingsTable.updateGuildSettings_cases write.candidate write.expected
    runtime.table with
    ⟨row, updated, hrow, hsame, hupdated, hnext, hwrote⟩ | ⟨reply, -, hkept⟩
  · rw [hwrote]
    have hguild := h.rows _ row hrow
    have hupdatedGuild : updated.guildId = row.guildId := by
      rw [hupdated]
      exact hguild.symm
    have hlater : row.revision.toNat < updated.revision.toNat := by
      rw [hnext, hsame]
      omega
    refine h.wrote hrow hupdatedGuild hlater hsubset (fun _ _ => rfl) ?_
    intro worker hworker
    obtain ⟨found, hfound, htracked⟩ := h.workers _ worker hworker
    obtain rfl := Option.some.inj (hfound.symm.trans hrow)
    have hlanded := htracked.landed hmem hsame.symm hguild.symm hupdatedGuild hlater
    exact hlanded.of_late fun other hother _ => hsubset hother
  · rw [hkept]
    refine ⟨h.rows, fun other hother => h.late other (hsubset hother), ?_⟩
    intro guildId worker hworker
    obtain ⟨row, hrow, htracked⟩ := h.workers guildId worker hworker
    exact ⟨row, hrow, htracked.of_late fun other hother _ => hsubset hother⟩

/-- What a worker gives up is for the row of its guild. -/
theorem abandoned_tracked {late : List SettingsWrite} {row : GuildSettings}
    {worker : SettingsWorker} (h : Tracked late row worker) {write : SettingsWrite}
    (hwrite : write ∈ abandoned worker.phase) :
    write.candidate.guildId = row.guildId ∧ write.expected.toNat ≤ row.revision.toNat := by
  unfold SettingsRuntime.abandoned at hwrite
  split at hwrite
  · rename_i final update attempts current hphase
    have hheld : RowHeld row current := h.call final update _ hphase
    obtain rfl := List.mem_singleton.mp hwrite
    exact ⟨hheld.guild, hheld.le⟩
  · contradiction

/-- A worker gives up its request; it holds no reply of it any more. -/
theorem Sound.giveUp (h : runtime.Sound) {worker worker' : SettingsWorker}
    (hworker : runtime.workers guildId = some worker)
    (hcurrent : worker'.current = worker.current)
    (hphase : ∀ final update call, worker'.phase ≠ .persisting final update call) :
    Sound { runtime.setWorker guildId worker' with
      late := runtime.late ++ abandoned worker.phase } := by
  obtain ⟨found, hrow, htracked⟩ := h.workers guildId worker hworker
  have hguild := h.rows guildId found hrow
  refine ⟨h.rows, ?_, ?_⟩
  · intro write hwrite
    rcases List.mem_append.mp hwrite with hbefore | hnew
    · exact h.late write hbefore
    · obtain ⟨hwriteGuild, hle⟩ := abandoned_tracked htracked hnew
      rw [hwriteGuild, hguild]
      exact ⟨found, hrow, hle⟩
  · intro other worker'' hworker''
    rcases setWorker_cases hworker'' with ⟨rfl, rfl⟩ | ⟨hother, hbefore⟩
    · refine ⟨found, hrow, ?_⟩
      exact ⟨hcurrent ▸ htracked.current, fun final update call hpersisting =>
        absurd hpersisting (hphase final update call)⟩
    · obtain ⟨other', hother', htracked'⟩ := h.workers other worker'' hbefore
      refine ⟨other', hother', htracked'.of_late ?_⟩
      intro write hwrite hwriteGuild
      rcases List.mem_append.mp hwrite with hbefore | hnew
      · exact hbefore
      · have hnewGuild := (abandoned_tracked htracked hnew).1
        rw [hwriteGuild, h.rows other other' hother', hguild] at hnewGuild
        contradiction

/-- A worker goes on without a request. -/
theorem Sound.quiet (h : runtime.Sound) {worker worker' : SettingsWorker}
    (hworker : runtime.workers guildId = some worker)
    (hcurrent : worker'.current = worker.current)
    (hphase : ∀ final update call, worker'.phase ≠ .persisting final update call) :
    (runtime.setWorker guildId worker').Sound := by
  obtain ⟨row, hrow, htracked⟩ := h.workers guildId worker hworker
  exact h.setWorker hrow (htracked.quiet hcurrent hphase)

theorem Sound.move (h : runtime.Sound) {event : SettingsRuntimeEvent}
    {reply : SettingsRuntimeReply} {runtime' : SettingsRuntime}
    (hmove : runtime.Move event reply runtime') : runtime'.Sound := by
  cases hmove with
  | aside publishers shutdown hquiet hshutdown => exact ⟨h.rows, h.late, h.workers⟩
  | @registered _ _ seed publishers hnew hseed =>
    have htracked : Tracked runtime.late seed (.new seed) :=
      ⟨.refl seed, fun _ _ _ hphase => by contradiction⟩
    have hset := h.setWorker hseed htracked
    exact ⟨hset.rows, hset.late, hset.workers⟩
  | @queued _ _ update _ _ publishers hworker =>
    obtain ⟨row, hrow, htracked⟩ := h.workers _ _ hworker
    have hset := h.setWorker hrow (htracked.queue update)
    exact ⟨hset.rows, hset.late, hset.workers⟩
  | rested unseen hworker hbefore hafter =>
    refine h.quiet hworker rfl ?_
    rintro final update call rfl
    contradiction
  | quitted hworker hidle hsignal => exact h.quiet hworker rfl (by simp)
  | drained hworker hwaiting hsignal hnone => exact h.quiet hworker rfl (by simp)
  | @turned _ worker _ _ hworker hturning hpending =>
    obtain ⟨row, hrow, htracked⟩ := h.workers _ _ hworker
    have hread : Tracked runtime.late row { worker with unseen := false } :=
      ⟨htracked.current, htracked.call⟩
    exact h.persistPending hrow hread hpending false
  | noticed hworker hwaiting hsignal hpending =>
    obtain ⟨row, hrow, htracked⟩ := h.workers _ _ hworker
    exact h.persistPending hrow htracked hpending true
  | looked hworker hphase => exact h.looked hworker
  | wrote hworker hphase houtcome => exact h.updated hworker hphase houtcome
  | replied hworker hphase =>
    obtain ⟨row, hrow, htracked⟩ := h.workers _ _ hworker
    exact h.advance hrow htracked (resume_tracked (htracked.call _ _ _ hphase)) _ _
  | failed hworker hphase =>
    refine h.giveUp hworker ?_ ?_
    · rw [SettingsWorker.advance_error]
    · rw [SettingsWorker.advance_error]
      dsimp only
      split <;> simp
  | panicked hworker => exact h.giveUp hworker rfl (by simp)
  | landed hwrite => exact h.landed hwrite

theorem Sound.step (h : runtime.Sound) (event : SettingsRuntimeEvent) :
    (runtime.step event).2.Sound :=
  h.move (step_moves runtime event)

/-- The row by which `persist_latest` ends when it writes nothing: the row it has matches. -/
def acceptedRow (runtime : SettingsRuntime) : SettingsRuntimeEvent →
    Option (GuildId × GuildSettings)
  | .turn guildId =>
    match runtime.workers guildId with
    | none => none
    | some worker =>
      if worker.phase ≠ .turning then none
      else match worker.persistPending guildId with
        | some (_, .done (.ok row)) => some (guildId, row)
        | _ => none
  | .notice guildId =>
    match runtime.workers guildId with
    | none => none
    | some worker =>
      if worker.phase = .waiting ∧ runtime.signal then
        match worker.persistPending guildId with
        | some (_, .done (.ok row)) => some (guildId, row)
        | _ => none
      else none
  | .reply guildId =>
    match runtime.workers guildId with
    | none => none
    | some worker =>
      match worker.phase with
      | .persisting _ update (.reading attempts reply) =>
        match PersistStep.resume update.settings (.reading attempts reply) with
        | .done (.ok row) => some (guildId, row)
        | _ => none
      | _ => none
  | _ => none

/-- An update is accepted by a row that is not the stored one any more. -/
def stale (runtime : SettingsRuntime) (event : SettingsRuntimeEvent) : Bool :=
  match runtime.acceptedRow event with
  | none => false
  | some (guildId, row) =>
    (runtime.table guildId).map GuildSettings.revision ≠ some row.revision

theorem attempt_done {attempts : ℕ} {current row : GuildSettings}
    {desired : PersistentPlayerSettings}
    (h : PersistStep.attempt attempts current desired = .done (.ok row)) :
    row = current ∧ matchesDesired row desired = true := by
  unfold PersistStep.attempt at h
  split at h
  · simp at h
  · split at h
    · rename_i hmatches
      obtain rfl : current = row := by simpa using h
      exact ⟨rfl, hmatches⟩
    · contradiction

theorem persistPending_done {worker : SettingsWorker} {update : SettingsUpdate}
    {updated : GuildSettings}
    (h : worker.persistPending guildId = some (update, .done (.ok updated))) :
    updated = worker.current ∧ matchesDesired updated update.settings = true := by
  unfold SettingsWorker.persistPending at h
  obtain ⟨pending, -, heq⟩ := Option.map_eq_some_iff.mp h
  obtain ⟨rfl, hlatest⟩ := Prod.mk.inj heq
  unfold PersistStep.persistLatest at hlatest
  split at hlatest
  · exact attempt_done hlatest
  · contradiction

theorem advance_persisted {final : Bool} {update persisted : SettingsUpdate}
    {worker : SettingsWorker} {persist : PersistStep} {other : GuildId}
    (h : (runtime.advance guildId final update worker persist).1 = .persisted other persisted) :
    other = guildId ∧ persisted = update ∧ ∃ updated, persist = .done (.ok updated) := by
  unfold SettingsRuntime.advance at h
  dsimp only at h
  split at h
  · rename_i updated
    obtain ⟨rfl, rfl⟩ := SettingsRuntimeReply.persisted.inj h
    exact ⟨rfl, rfl, updated, rfl⟩
  · contradiction

/-- A call that is done has ended on a matching row that was read, or has written one. -/
theorem resume_done {update : SettingsUpdate} {call : PersistCall} {updated : GuildSettings}
    (h : PersistStep.resume update.settings call = .done (.ok updated)) :
    (∃ attempts, call = .reading attempts (some (.ok (some updated))) ∧
      matchesDesired updated update.settings = true) ∨
    ∃ attempts current, call = .updating attempts current (some (.ok (some updated))) := by
  unfold PersistStep.resume at h
  split at h
  · rename_i attempts found
    obtain ⟨rfl, hmatches⟩ := attempt_done h
    exact .inl ⟨attempts, rfl, hmatches⟩
  · simp at h
  · rename_i attempts current found
    obtain rfl : found = updated := by simpa using h
    exact .inr ⟨attempts, current, rfl⟩
  · contradiction
  · simp at h
  · contradiction

/-- An update is treated as persisted because a row that the worker has matches, or because the
database has just written it. -/
theorem Move.persisted {event : SettingsRuntimeEvent} {reply : SettingsRuntimeReply}
    {runtime' : SettingsRuntime} (hmove : runtime.Move event reply runtime')
    {update : SettingsUpdate} (hreply : reply = .persisted guildId update) :
    ∃ worker updated, runtime.workers guildId = some worker ∧
      ((runtime.acceptedRow event = some (guildId, updated) ∧
        matchesDesired updated update.settings = true ∧ (updated = worker.current ∨
          ∃ final attempts, worker.phase =
            .persisting final update (.reading attempts (some (.ok (some updated)))))) ∨
      ∃ final attempts current, worker.phase =
        .persisting final update (.updating attempts current (some (.ok (some updated))))) := by
  cases hmove with
  | aside publishers shutdown hquiet hshutdown =>
    rw [hreply] at hquiet
    contradiction
  | @turned _ worker _ _ hworker hturning hpending =>
    obtain ⟨rfl, rfl, updated, rfl⟩ := advance_persisted hreply
    obtain ⟨hcurrent, hmatches⟩ := persistPending_done hpending
    refine ⟨worker, updated, hworker, .inl ⟨?_, hmatches, .inl hcurrent⟩⟩
    simp only [acceptedRow, hworker, hturning, hpending, ne_eq, not_true_eq_false, if_false]
  | @noticed _ worker _ _ hworker hwaiting hsignal hpending =>
    obtain ⟨rfl, rfl, updated, rfl⟩ := advance_persisted hreply
    obtain ⟨hcurrent, hmatches⟩ := persistPending_done hpending
    refine ⟨worker, updated, hworker, .inl ⟨?_, hmatches, .inl hcurrent⟩⟩
    simp only [acceptedRow, hworker, hpending, if_pos (And.intro hwaiting hsignal)]
  | @replied _ worker final _ call hworker hphase =>
    obtain ⟨rfl, rfl, updated, hdone⟩ := advance_persisted hreply
    refine ⟨worker, updated, hworker, ?_⟩
    rcases resume_done hdone with ⟨attempts, rfl, hmatches⟩ | ⟨attempts, current, rfl⟩
    · refine .inl ⟨?_, hmatches, .inr ⟨final, attempts, hphase⟩⟩
      simp only [acceptedRow, hworker, hphase, hdone]
    · exact .inr ⟨final, attempts, current, hphase⟩
  | registered | queued | rested | quitted | drained | looked | wrote | failed | panicked |
    landed => contradiction

/-- An update that a reply tells to be persisted is in the stored row. -/
def truthful (runtime : SettingsRuntime) : SettingsRuntimeReply → Bool
  | .persisted guildId update =>
    (runtime.table guildId).any fun row => matchesDesired row update.settings
  | _ => true

/-- When an update is treated as persisted, the stored row has its settings, unless a row was
taken for the stored one that is not. -/
theorem Sound.truthful (h : runtime.Sound) {event : SettingsRuntimeEvent}
    (hstale : runtime.stale event = false) : runtime.truthful (runtime.step event).1 = true := by
  unfold SettingsRuntime.truthful
  split
  · rename_i guildId update hpersisted
    obtain ⟨worker, updated, hworker, hcases⟩ :=
      (step_moves runtime event).persisted hpersisted
    obtain ⟨row, hrow, htracked⟩ := h.workers guildId worker hworker
    rw [hrow, Option.any_some]
    rcases hcases with ⟨haccepted, hmatches, hheld⟩ | ⟨final, attempts, current, hphase⟩
    · have hrowHeld : RowHeld row updated := by
        rcases hheld with rfl | ⟨final, attempts, hphase⟩
        · exact htracked.current
        · exact htracked.call final update _ hphase
      have hsame : row.revision = updated.revision := by
        simpa [stale, haccepted, hrow] using hstale
      rw [← hrowHeld.same hsame.symm]
      exact hmatches
    · have hcall : CallTracked runtime.late row update _ := htracked.call final update _ hphase
      exact hcall.2.1
  · rfl

variable {table : GuildSettingsTable}
  {taken : List (Taken SettingsRuntime (SettingsRuntimeEvent × SettingsRuntimeReply))}

theorem Runs.sound (run : Runs table taken runtime) : runtime.Sound := by
  obtain ⟨hrows, run⟩ := run
  refine run.invariant (I := Sound) ⟨hrows, by simp [start], by simp [start]⟩ ?_
  intro s l s' hsound hnext
  rw [hnext.eq.2]
  exact hsound.step l.1

/-- If no update of a run is accepted by a row that is not the stored one any more, then whenever
a worker treats an update as persisted the stored row has its settings. -/
theorem persisted_truthful (run : Runs table taken runtime)
    (hstale : ∀ t ∈ taken, t.before.stale t.label.1 = false) :
    ∀ t ∈ taken, t.before.truthful t.label.2 = true := by
  intro t ht
  obtain ⟨⟨earlier, runBefore⟩, hnext⟩ := run.2.taken_next ht
  have hsound := Runs.sound ⟨run.1, runBefore⟩
  rw [(Prod.ext_iff.mp hnext.eq.1).2]
  exact hsound.truthful (hstale t ht)

/-- A row, the settings it has, and other ones. -/
def seedRow : GuildSettings where
  guildId := ⟨.MIN⟩
  volume := Volume.DEFAULT
  idleDisconnect := 300
  controlPolicy := .sameVoiceChannel
  djRoleId := none
  defaultHrirPresetId := some .alpha
  spatialAudioEnabled := false
  revision := .INITIAL

def seedTable : GuildSettingsTable := fun guildId =>
  if guildId = seedRow.guildId then some seedRow else none

theorem seedTable_rows (guildId : GuildId) (row : GuildSettings)
    (h : seedTable guildId = some row) : row.guildId = guildId := by
  unfold seedTable at h
  split at h
  · rename_i hguild
    obtain rfl := Option.some.inj h
    exact hguild.symm
  · contradiction

/-- A snapshot of the player with the settings of the row, but for spatial audio. -/
def settingsSnapshot (revision : StateRevision) (spatialAudioEnabled : Bool) : PlayerSnapshot where
  guildId := ⟨.MIN⟩
  voiceChannelId := none
  revision := revision
  state := .disconnected
  currentTrack := none
  queuedTracks := 0
  upcomingTracks := []
  hasPreviousTrack := false
  volume := Volume.DEFAULT
  repeatMode := .off
  shuffleEnabled := false
  hrirPreset := some .alpha
  spatialAudioEnabled := spatialAudioEnabled
  observedAt := ⟨0⟩

/-- A setting is changed, and the write is heard of. -/
def plainChange : List SettingsRuntimeEvent :=
  [.publisher ⟨.MIN⟩ ⟨Volume.DEFAULT, .alpha, false⟩,
    .publish 0 (settingsSnapshot ⟨1⟩ false), .publish 0 (settingsSnapshot ⟨2⟩ true), .queue 0,
    .turn ⟨.MIN⟩, .execute ⟨.MIN⟩, .reply ⟨.MIN⟩]

theorem persisted_truthful_plainChange :
    ((record step (start seedTable) plainChange).1.getLast?.map fun t => t.label.2) =
      some (.persisted ⟨1, by decide⟩
        ⟨⟨2⟩, ⟨Volume.DEFAULT, ⟨"alpha", by decide⟩, true⟩⟩) ∧
    ∀ t ∈ (record step (start seedTable) plainChange).1, t.before.truthful t.label.2 = true :=
  ⟨by decide +kernel, persisted_truthful
    ⟨seedTable_rows, run_record step (start seedTable) plainChange⟩ (by decide +kernel)⟩

/-- A setting is changed, but the reply is lost, and it is changed back. -/
def changedBack : List SettingsRuntimeEvent :=
  [.publisher ⟨.MIN⟩ ⟨Volume.DEFAULT, .alpha, false⟩,
    .publish 0 (settingsSnapshot ⟨1⟩ false), .publish 0 (settingsSnapshot ⟨2⟩ true), .queue 0,
    .turn ⟨.MIN⟩, .execute ⟨.MIN⟩, .fail ⟨.MIN⟩,
    .publish 0 (settingsSnapshot ⟨3⟩ false), .queue 0, .retry ⟨.MIN⟩,
    .turn ⟨.MIN⟩]

theorem persisted_untruthful_changedBack :
    ¬ ∀ t ∈ (record step (start seedTable) changedBack).1,
      t.before.truthful t.label.2 = true := by
  decide +kernel

end SettingsRuntime

end PepeAudio
