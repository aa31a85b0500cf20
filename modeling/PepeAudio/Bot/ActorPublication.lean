import PepeAudio.Bot.RegistryMoves
import PepeAudio.Worker.SnapshotDurability

/-!
# Publication in a running process

While nobody shuts the runtime down, a snapshot that is handed to the publisher
is accepted, the mailbox never falls behind what has been accepted, and all that
the workers write of their own accord is at most as new as the mailbox.
-/
namespace PepeAudio

namespace SnapshotWorker

variable {worker : SnapshotWorker}

theorem take_not_panicked (snapshot : PlayerSnapshot) :
    (worker.take snapshot).phase ≠ .panicked := by
  unfold take
  split <;> simp

theorem observe_not_panicked (h : worker.phase ≠ .panicked) :
    worker.observe.phase ≠ .panicked := by
  unfold observe
  split
  · exact take_not_panicked _
  · exact h

theorem executed_not_panicked (h : worker.phase ≠ .panicked)
    (reply : Except StorageError SnapshotWrite) : (worker.executed reply).phase ≠ .panicked := by
  unfold executed
  split
  · simp
  · simp
  · exact h

theorem replied_not_panicked (h : worker.phase ≠ .panicked) :
    worker.replied.phase ≠ .panicked := by
  unfold replied
  split
  · unfold confirm
    dsimp only
    split
    · exact take_not_panicked _
    · simp
  · simp
  · simp
  · simp
  · exact h

theorem failed_not_panicked (h : worker.phase ≠ .panicked) (timedOut : Bool) :
    (worker.failed timedOut).phase ≠ .panicked := by
  unfold failed
  split
  · simp
  · simp
  · exact h

end SnapshotWorker

namespace SnapshotRuntime

variable {encodedLength : PlayerSnapshot → ℕ} {ttl : ℕ} {runtime : SnapshotRuntime}
  {guildId : GuildId} {event : SnapshotRuntimeEvent}

/-- The mailbox of a guild as a number, `⊥` before anything was accepted. -/
def mailboxMark (guildId : GuildId) (runtime : SnapshotRuntime) : WithBot ℕ :=
  match runtime.latestRevision guildId with
  | some revision => revision.toNat
  | none => ⊥

/-- What is not newer than the mailbox of its guild. -/
def Known (guildId : GuildId) (mark : WithBot ℕ) (snapshot : PlayerSnapshot) : Prop :=
  snapshot.guildId = guildId → (snapshot.revision.toNat : WithBot ℕ) ≤ mark

theorem Known.mono {mark mark' : WithBot ℕ} (hle : mark ≤ mark') (snapshot : PlayerSnapshot)
    (h : Known guildId mark snapshot) : Known guildId mark' snapshot :=
  fun hguild => (h hguild).trans hle

/-- No shutdown has begun, and the worker of the guild has not panicked. -/
structure Running (encodedLength : PlayerSnapshot → ℕ) (guildId : GuildId)
    (runtime : SnapshotRuntime) : Prop where
  sound : runtime.Sound encodedLength (Known guildId (runtime.mailboxMark guildId))
  opened : runtime.shutdown = .open
  outside : runtime.publishing = []
  working : ∀ worker, runtime.workers guildId = some worker → worker.phase ≠ .panicked

theorem mailboxMark_of_mailbox {worker : SnapshotWorker} {snapshot : PlayerSnapshot}
    (hworker : runtime.workers guildId = some worker) (hmailbox : worker.mailbox = some snapshot) :
    runtime.mailboxMark guildId = snapshot.revision.toNat := by
  simp [mailboxMark, latestRevision, hworker, hmailbox]

theorem mailboxMark_eq_bot {worker : SnapshotWorker}
    (hworker : runtime.workers guildId = some worker) (hmailbox : worker.mailbox = none) :
    runtime.mailboxMark guildId = ⊥ := by
  simp [mailboxMark, latestRevision, hworker, hmailbox]

/-- A runtime whose mailboxes hold only what is known has a mailbox of at most the mark. -/
theorem Sound.mailboxMark_le {mark : WithBot ℕ}
    (h : runtime.Sound encodedLength (Known guildId mark)) :
    runtime.mailboxMark guildId ≤ mark := by
  cases hworker : runtime.workers guildId with
  | none => simp [mailboxMark, latestRevision, hworker]
  | some worker =>
    cases hmailbox : worker.mailbox with
    | none => simp [mailboxMark_eq_bot hworker hmailbox]
    | some snapshot =>
      rw [mailboxMark_of_mailbox hworker hmailbox]
      obtain ⟨hknown, hguild⟩ := (h.workers guildId worker hworker).mailbox snapshot hmailbox
      exact hknown hguild

theorem Advances.mailboxMark_le {runtime' : SnapshotRuntime} (h : runtime.Advances runtime') :
    runtime.mailboxMark guildId ≤ runtime'.mailboxMark guildId := by
  cases hworker : runtime.workers guildId with
  | none => simp [mailboxMark, latestRevision, hworker]
  | some worker =>
    obtain ⟨later, hlater, hadvances⟩ := h guildId worker hworker
    cases hmailbox : worker.mailbox with
    | none => simp [mailboxMark_eq_bot hworker hmailbox]
    | some snapshot =>
      obtain ⟨latest, hlatest, hle⟩ := hadvances.mailbox snapshot hmailbox
      rw [mailboxMark_of_mailbox hworker hmailbox, mailboxMark_of_mailbox hlater hlatest]
      exact WithBot.coe_le_coe.mpr hle

/-- A worker of a runtime that is not shut down has not ended in any other way. -/
theorem Running.isClosed (h : runtime.Running encodedLength guildId) {worker : SnapshotWorker}
    (hworker : runtime.workers guildId = some worker) : worker.isClosed = false := by
  have hphase := (h.sound.workers guildId worker hworker).phase
  have hworking := h.working worker hworker
  unfold SnapshotWorker.isClosed
  cases hcase : worker.phase with
  | finished result =>
    rw [hcase] at hphase
    simp [signal, h.opened] at hphase
  | panicked => exact absurd hcase hworking
  | _ => rfl

theorem withWorker_working {f : SnapshotWorker → SnapshotWorker}
    {abandoned : SnapshotWorker → Option PlayerSnapshot} {other : GuildId}
    (hf : ∀ worker : SnapshotWorker, worker.phase ≠ .panicked → (f worker).phase ≠ .panicked)
    (h : ∀ worker, runtime.workers guildId = some worker → worker.phase ≠ .panicked) :
    ∀ worker, (runtime.withWorker other f abandoned).workers guildId = some worker →
      worker.phase ≠ .panicked := by
  intro worker hworker
  cases hother : runtime.workers other with
  | none =>
    simp only [withWorker, hother] at hworker
    exact h worker hworker
  | some found =>
    rw [withWorker_eq hother] at hworker
    rcases setWorker_cases hworker with ⟨rfl, rfl⟩ | ⟨-, hbefore⟩
    · exact hf found (h found hother)
    · exact h worker hbefore

theorem Running.step_working (h : runtime.Running encodedLength guildId)
    (hevent : event.isPersistence = true) :
    ∀ worker, (runtime.step encodedLength ttl event).2.workers guildId = some worker →
      worker.phase ≠ .panicked := by
  cases event with
  | observe =>
    refine withWorker_working (fun worker hworker => ?_) h.working
    split
    · exact worker.observe_not_panicked hworker
    · exact hworker
  | execute =>
    dsimp only [step]
    split
    · exact h.working
    · exact withWorker_working (fun worker hworker => worker.executed_not_panicked hworker _)
        h.working
  | reply =>
    exact withWorker_working (fun worker hworker => worker.replied_not_panicked hworker) h.working
  | fail _ timedOut =>
    exact withWorker_working (fun worker hworker => worker.failed_not_panicked hworker timedOut)
      h.working
  | peek =>
    refine withWorker_working (fun worker hworker => ?_) h.working
    split
    · exact hworker
    · exact hworker
  | retry =>
    refine withWorker_working (fun worker hworker => ?_) h.working
    split
    · exact SnapshotWorker.take_not_panicked _
    · exact hworker
  | land =>
    dsimp only [step]
    split
    · exact h.working
    · exact h.working
  | invalidate => exact h.working
  | elapse => exact h.working
  | _ => contradiction

theorem withWorker_shutdown (runtime : SnapshotRuntime) (other : GuildId)
    (f : SnapshotWorker → SnapshotWorker) (abandoned : SnapshotWorker → Option PlayerSnapshot) :
    (runtime.withWorker other f abandoned).shutdown = runtime.shutdown ∧
      (runtime.withWorker other f abandoned).publishing = runtime.publishing := by
  unfold withWorker
  split
  · exact ⟨rfl, rfl⟩
  · exact ⟨rfl, rfl⟩

/-- Worker and store leave the shutdown and the publishers alone. -/
theorem step_shutdown (hevent : event.isPersistence = true) :
    (runtime.step encodedLength ttl event).2.shutdown = runtime.shutdown ∧
      (runtime.step encodedLength ttl event).2.publishing = runtime.publishing := by
  cases event with
  | observe | reply | fail | peek | retry => exact withWorker_shutdown runtime _ _ _
  | execute guildId =>
    dsimp only [step]
    split
    · exact ⟨rfl, rfl⟩
    · exact withWorker_shutdown _ guildId _ _
  | land =>
    dsimp only [step]
    split
    · exact ⟨rfl, rfl⟩
    · exact ⟨rfl, rfl⟩
  | invalidate | elapse => exact ⟨rfl, rfl⟩
  | _ => contradiction

/-- The watermark rises at most to what is known. -/
theorem Move.watermark_le {reply : SnapshotRuntimeReply} {runtime' : SnapshotRuntime}
    {mark : WithBot ℕ} (hmove : runtime.Move encodedLength ttl event reply runtime')
    (h : runtime.Sound encodedLength (Known guildId mark)) :
    runtime.store.watermark guildId ≤ runtime'.store.watermark guildId ∧
      runtime'.store.watermark guildId ≤ max (runtime.store.watermark guildId) mark := by
  have hput : ∀ (snapshot : PlayerSnapshot)
      (outcome : Except StorageError SnapshotWrite × SnapshotStore),
      runtime.store.putSnapshotIfNewer encodedLength snapshot ttl = outcome →
      Known guildId mark snapshot →
      runtime.store.watermark guildId ≤ outcome.2.watermark guildId ∧
        outcome.2.watermark guildId ≤ max (runtime.store.watermark guildId) mark := by
    rintro snapshot outcome rfl hknown
    rcases SnapshotStore.putSnapshotIfNewer_effect h.store snapshot ttl with
      ⟨-, hnewer, hmark⟩ | ⟨-, hkept, -⟩
    · rw [hmark]
      split_ifs with hguild
      · exact ⟨hguild ▸ hnewer.le, (hknown hguild).trans (le_max_right _ _)⟩
      · exact ⟨le_rfl, le_max_left _ _⟩
    · rw [hkept]
      exact ⟨le_rfl, le_max_left _ _⟩
  cases hmove with
  | executed hworker hrequested houtcome =>
    exact hput _ _ houtcome ((h.workers _ _ hworker).requested_known hrequested).1
  | landed hlate houtcome => exact hput _ _ houtcome (h.late _ (List.mem_of_getElem? hlate))
  | invalidated | elapsed =>
    have hsame : ∀ store : SnapshotStore, store.revisions = runtime.store.revisions →
        store.watermark guildId = runtime.store.watermark guildId :=
      fun store hrevisions => SnapshotStore.watermark_congr _ (by rw [hrevisions])
    rw [hsame _ rfl]
    exact ⟨le_rfl, le_max_left _ _⟩
  | stays | registered | entered | left | sent | turned | closed | gateHeld | signalled =>
    exact ⟨le_rfl, le_max_left _ _⟩

/-- What a step does to the two marks of a guild when no actor publishes. -/
structure Persisted (guildId : GuildId) (runtime runtime' : SnapshotRuntime) : Prop where
  mailbox : runtime'.mailboxMark guildId = runtime.mailboxMark guildId
  rises : runtime.store.watermark guildId ≤ runtime'.store.watermark guildId
  bounded : runtime'.store.watermark guildId ≤
    max (runtime.store.watermark guildId) (runtime.mailboxMark guildId)
  present : (runtime.workers guildId).isSome → (runtime'.workers guildId).isSome

variable (ttl) in
/-- What was known keeps a runtime's mailbox from rising. -/
theorem Running.step_persisted (h : runtime.Running encodedLength guildId)
    (hpublishes : ∀ guildId snapshot, event ≠ .publish guildId snapshot)
    (hshutdown : (runtime.step encodedLength ttl event).2.shutdown = .open)
    (hpublishing : (runtime.step encodedLength ttl event).2.publishing = [])
    (hworking : ∀ worker, (runtime.step encodedLength ttl event).2.workers guildId = some worker →
      worker.phase ≠ .panicked) :
    (runtime.step encodedLength ttl event).2.Running encodedLength guildId ∧
      runtime.Persisted guildId (runtime.step encodedLength ttl event).2 := by
  have hmove := step_moves encodedLength ttl runtime event
  have hsound := h.sound.move hmove fun guildId snapshot heq => absurd heq (hpublishes _ _)
  have hadvances := h.sound.move_advances hmove
  have hrose : runtime.mailboxMark guildId ≤
      (runtime.step encodedLength ttl event).2.mailboxMark guildId := hadvances.mailboxMark_le
  have hmark := le_antisymm hsound.mailboxMark_le hrose
  obtain ⟨hrises, hbounded⟩ := hmove.watermark_le h.sound
  refine ⟨⟨by rwa [hmark], hshutdown, hpublishing, hworking⟩, hmark, hrises, hbounded, ?_⟩
  intro hpresent
  obtain ⟨worker, hworker⟩ := Option.isSome_iff_exists.mp hpresent
  obtain ⟨later, hlater, -⟩ := hadvances guildId worker hworker
  simp [hlater]

/-- The workers, the store and its other users take a step. -/
theorem Running.persisted (h : runtime.Running encodedLength guildId) (ttl : ℕ)
    (hevent : event.isPersistence = true) :
    (runtime.step encodedLength ttl event).2.Running encodedLength guildId ∧
      runtime.Persisted guildId (runtime.step encodedLength ttl event).2 := by
  obtain ⟨hshutdown, hpublishing⟩ : (runtime.step encodedLength ttl event).2.shutdown =
      runtime.shutdown ∧ (runtime.step encodedLength ttl event).2.publishing =
      runtime.publishing := step_shutdown hevent
  refine h.step_persisted ttl ?_ (hshutdown.trans h.opened) (hpublishing.trans h.outside)
    (h.step_working hevent)
  rintro other snapshot rfl
  contradiction

theorem step_register (encodedLength : PlayerSnapshot → ℕ) (ttl : ℕ) (guildId : GuildId)
    (hopened : runtime.shutdown = .open) :
    (runtime.step encodedLength ttl (.register guildId)).2 =
      match runtime.workers guildId with
      | some _ => runtime
      | none => { runtime.setWorker guildId .new with
          registered := runtime.registered ++ [guildId] } := by
  dsimp only [step]
  cases hworker : runtime.workers guildId with
  | none => simp [isClosing, hopened]
  | some worker => simp

/-- The factory asks for a publisher: the guild has a worker from then on. -/
theorem Running.registered (h : runtime.Running encodedLength guildId) (ttl : ℕ) :
    (runtime.step encodedLength ttl (.register guildId)).2.Running encodedLength guildId ∧
      runtime.Persisted guildId (runtime.step encodedLength ttl (.register guildId)).2 ∧
      ((runtime.step encodedLength ttl (.register guildId)).2.workers guildId).isSome := by
  have hpublishes : ∀ other snapshot,
      SnapshotRuntimeEvent.register guildId ≠ .publish other snapshot := by
    simp
  have hkept := h.step_persisted ttl hpublishes
  rw [step_register encodedLength ttl guildId h.opened] at hkept ⊢
  cases hworker : runtime.workers guildId with
  | some worker =>
    rw [hworker] at hkept
    obtain ⟨hrunning, hpersisted⟩ := hkept h.opened h.outside h.working
    exact ⟨hrunning, hpersisted, by simp [hworker]⟩
  | none =>
    rw [hworker] at hkept
    have hnew : (runtime.setWorker guildId .new).workers guildId = some .new := setWorker_self _ _ _
    obtain ⟨hrunning, hpersisted⟩ := hkept h.opened h.outside fun worker hworker => by
      obtain rfl := Option.some.inj (hnew.symm.trans hworker)
      simp [SnapshotWorker.new]
    exact ⟨hrunning, hpersisted, by simp [hnew]⟩

theorem mailboxMark_send {worker : SnapshotWorker}
    (hworker : runtime.workers guildId = some worker) (snapshot : PlayerSnapshot) :
    (runtime.setWorker guildId (worker.send snapshot)).mailboxMark guildId =
      max (runtime.mailboxMark guildId) snapshot.revision.toNat := by
  have hmark : ∀ (sent : SnapshotWorker) (latest : PlayerSnapshot), sent.mailbox = some latest →
      (runtime.setWorker guildId sent).mailboxMark guildId = latest.revision.toNat :=
    fun sent _ hlatest => mailboxMark_of_mailbox (setWorker_self runtime guildId sent) hlatest
  unfold SnapshotWorker.send
  cases hmailbox : worker.mailbox with
  | none =>
    rw [mailboxMark_eq_bot hworker hmailbox]
    simp only [Option.all_none, if_true]
    rw [hmark _ snapshot rfl]
    exact (max_eq_right bot_le).symm
  | some queued =>
    rw [mailboxMark_of_mailbox hworker hmailbox]
    by_cases hnewer : queued.revision.get < snapshot.revision.get
    · have hlt : queued.revision.toNat < snapshot.revision.toNat := UInt64.lt_iff_toNat_lt.mp hnewer
      simp only [Option.all_some, hnewer, decide_true, if_true]
      rw [hmark _ snapshot rfl]
      exact (max_eq_right (WithBot.coe_le_coe.mpr hlt.le)).symm
    · have hle : snapshot.revision.toNat ≤ queued.revision.toNat :=
        UInt64.le_iff_toNat_le.mp (UInt64.not_lt.mp hnewer)
      simp only [Option.all_some, hnewer, decide_false, Bool.false_eq_true, if_false]
      rw [hmark _ queued hmailbox]
      exact (max_eq_left (WithBot.coe_le_coe.mpr hle)).symm

end SnapshotRuntime

namespace GuildPlayers

variable {environment : GuildEnvironment} {runtime : SnapshotRuntime}

theorem publishSnapshot_eq (h : runtime.Running environment.encodedLength environment.guildId)
    {snapshot : PlayerSnapshot} (hguild : snapshot.guildId = environment.guildId)
    {worker : SnapshotWorker} (hworker : runtime.workers environment.guildId = some worker) :
    publishSnapshot environment snapshot runtime =
      runtime.setWorker environment.guildId (worker.send snapshot) := by
  have hopen := h.isClosed hworker
  have houtside := h.outside
  simp [publishSnapshot, SnapshotRuntime.step, hguild, hworker, h.opened,
    SnapshotRuntime.isClosing, hopen, houtside, SnapshotRuntime.setWorker]

/-- An actor hands over a snapshot: the mailbox is at it, or was past it. -/
theorem Running.published (h : runtime.Running environment.encodedLength environment.guildId)
    {snapshot : PlayerSnapshot} (hguild : snapshot.guildId = environment.guildId)
    (hworker : (runtime.workers environment.guildId).isSome) :
    (publishSnapshot environment snapshot runtime).Running environment.encodedLength
        environment.guildId ∧
      (publishSnapshot environment snapshot runtime).mailboxMark environment.guildId =
        max (runtime.mailboxMark environment.guildId) snapshot.revision.toNat ∧
      (publishSnapshot environment snapshot runtime).store = runtime.store ∧
      ((publishSnapshot environment snapshot runtime).workers environment.guildId).isSome := by
  obtain ⟨worker, hworker⟩ := Option.isSome_iff_exists.mp hworker
  rw [publishSnapshot_eq h hguild hworker]
  have hself := SnapshotRuntime.setWorker_self runtime environment.guildId (worker.send snapshot)
  have hmark := SnapshotRuntime.mailboxMark_send hworker snapshot
  refine ⟨⟨?_, h.opened, h.outside, ?_⟩, hmark, rfl, by simp [hself]⟩
  · rw [hmark]
    have hrises : runtime.mailboxMark environment.guildId ≤
        max (runtime.mailboxMark environment.guildId) snapshot.revision.toNat := le_max_left _ _
    have hsound := h.sound.mono (SnapshotRuntime.Known.mono hrises)
    refine hsound.setWorker (h.sound.registered _ _ hworker) ?_
    have hsignal : runtime.signal = false := by simp [SnapshotRuntime.signal, h.opened]
    rw [hsignal]
    refine SnapshotWorker.Sound.send ?_ ⟨fun _ => le_max_right _ _, hguild⟩
    rw [← hsignal]
    exact hsound.workers _ _ hworker
  · intro found hfound
    obtain rfl := Option.some.inj (hself.symm.trans hfound)
    have hworking := h.working worker hworker
    unfold SnapshotWorker.send
    split_ifs
    · exact hworking
    · exact hworking

end GuildPlayers

end PepeAudio
