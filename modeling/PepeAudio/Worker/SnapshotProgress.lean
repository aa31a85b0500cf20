import PepeAudio.Storage.SnapshotWatermark
import PepeAudio.Worker.SnapshotRuntime

/-!
# What a snapshot worker holds

A worker has confirmed a revision only when the store's watermark has reached
it, and holds only what was published. Its mailbox and its confirmed revision
get newer, and a worker that has ended takes no further step.
-/
namespace PepeAudio

namespace SnapshotWorker

/-- What is in the mailbox was published, and what is confirmed is below the watermark. -/
structure Holds (known : PlayerSnapshot → Prop) (mark : WithBot ℕ) (worker : SnapshotWorker) :
    Prop where
  mailbox : ∀ snapshot, worker.mailbox = some snapshot → known snapshot
  confirmed : ∀ revision, worker.confirmedRevision = some revision → revision.toNat ≤ mark

/-- A worker that holds this, and what it waits for, while the store's watermark of its guild is
at `mark`. -/
structure Sound (known : PlayerSnapshot → Prop) (mark : WithBot ℕ) (signal : Bool)
    (worker : SnapshotWorker) : Prop extends Holds known mark worker where
  phase : match worker.phase with
    | .waiting | .panicked => True
    | .writing snapshot reply => known snapshot ∧
      isConfirmed snapshot.revision worker.confirmedRevision = false ∧
      ∀ outcome, reply = some (.ok outcome) → snapshot.revision.toNat ≤ mark
    | .retrying snapshot => known snapshot
    | .flushing snapshot reply => signal = true ∧ worker.mailbox = some snapshot ∧
      isConfirmed snapshot.revision worker.confirmedRevision = false ∧
      ∀ outcome, reply = some (.ok outcome) → snapshot.revision.toNat ≤ mark
    | .finished result => signal = true ∧ (result = .ok () →
      ∀ snapshot, worker.mailbox = some snapshot → snapshot.revision.toNat ≤ mark)

variable {known known' : PlayerSnapshot → Prop} {mark mark' : WithBot ℕ} {signal signal' : Bool}
  {worker : SnapshotWorker}

theorem Sound.mono (h : worker.Sound known mark signal) (hknown : ∀ s, known s → known' s)
    (hmark : mark ≤ mark') (hsignal : signal = true → signal' = true) :
    worker.Sound known' mark' signal' := by
  refine ⟨⟨fun s hs => hknown s (h.mailbox s hs), fun r hr => (h.confirmed r hr).trans hmark⟩, ?_⟩
  have hphase := h.phase
  cases hcase : worker.phase with
  | waiting => trivial
  | panicked => trivial
  | writing snapshot reply =>
    rw [hcase] at hphase
    exact ⟨hknown _ hphase.1, hphase.2.1, fun outcome ho => (hphase.2.2 outcome ho).trans hmark⟩
  | retrying snapshot =>
    rw [hcase] at hphase
    exact hknown _ hphase
  | flushing snapshot reply =>
    rw [hcase] at hphase
    exact ⟨hsignal hphase.1, hphase.2.1, hphase.2.2.1,
      fun outcome ho => (hphase.2.2.2 outcome ho).trans hmark⟩
  | finished result =>
    rw [hcase] at hphase
    exact ⟨hsignal hphase.1, fun hr s hs => (hphase.2 hr s hs).trans hmark⟩

theorem le_of_isConfirmed {revision : StateRevision} {confirmed : Option StateRevision}
    (hconfirmed : ∀ r, confirmed = some r → r.toNat ≤ mark)
    (h : isConfirmed revision confirmed = true) : revision.toNat ≤ mark := by
  cases confirmed with
  | none => contradiction
  | some value =>
    have hle : revision.toNat ≤ value.toNat :=
      UInt64.le_iff_toNat_le.mp (by simpa [isConfirmed] using h)
    exact (WithBot.coe_le_coe.mpr hle).trans (hconfirmed value rfl)

theorem latestNewer_eq_some {snapshot : PlayerSnapshot}
    (h : worker.latestNewer = some snapshot) : worker.mailbox = some snapshot ∧
      isConfirmed snapshot.revision worker.confirmedRevision = false := by
  unfold latestNewer at h
  obtain ⟨hmailbox, hnewer⟩ := Option.filter_eq_some_iff.mp h
  exact ⟨hmailbox, by simpa using hnewer⟩

theorem latestNewer_eq_none {snapshot : PlayerSnapshot} (h : worker.latestNewer = none)
    (hmailbox : worker.mailbox = some snapshot) :
    isConfirmed snapshot.revision worker.confirmedRevision = true := by
  unfold latestNewer at h
  rw [hmailbox] at h
  simpa using h

theorem Holds.setUnseen (h : worker.Holds known mark) (unseen : Bool) :
    { worker with unseen := unseen }.Holds known mark :=
  ⟨h.mailbox, h.confirmed⟩

theorem Holds.waiting (h : worker.Holds known mark) :
    { worker with phase := .waiting }.Sound known mark signal :=
  ⟨⟨h.mailbox, h.confirmed⟩, trivial⟩

theorem Holds.panicked (h : worker.Holds known mark) :
    { worker with phase := .panicked }.Sound known mark signal :=
  ⟨⟨h.mailbox, h.confirmed⟩, trivial⟩

theorem Holds.retrying (h : worker.Holds known mark) {snapshot : PlayerSnapshot}
    (hknown : known snapshot) :
    { worker with phase := .retrying snapshot }.Sound known mark signal :=
  ⟨⟨h.mailbox, h.confirmed⟩, hknown⟩

theorem Holds.take (h : worker.Holds known mark) {snapshot : PlayerSnapshot}
    (hknown : known snapshot) : (worker.take snapshot).Sound known mark signal := by
  unfold SnapshotWorker.take
  by_cases hconfirmed : isConfirmed snapshot.revision worker.confirmedRevision = true
  · rw [if_pos hconfirmed]
    exact h.waiting
  · rw [if_neg hconfirmed]
    exact ⟨⟨h.mailbox, h.confirmed⟩, hknown, by simpa using hconfirmed, by simp⟩

theorem Sound.setUnseen (h : worker.Sound known mark signal) (unseen : Bool) :
    { worker with unseen := unseen }.Sound known mark signal :=
  ⟨h.toHolds.setUnseen unseen, h.phase⟩

theorem Sound.observe (h : worker.Sound known mark signal) :
    worker.observe.Sound known mark signal := by
  unfold SnapshotWorker.observe
  split
  · rename_i snapshot hmailbox
    exact (h.toHolds.setUnseen false).take (h.mailbox snapshot hmailbox)
  · exact h.setUnseen false

theorem Holds.flushOnShutdown (h : worker.Holds known mark) :
    (worker.flushOnShutdown true).Sound known mark true := by
  unfold SnapshotWorker.flushOnShutdown
  simp only [Bool.not_true, Bool.false_eq_true, if_false]
  split
  · rename_i hlatest
    refine ⟨⟨h.mailbox, h.confirmed⟩, rfl, fun _ snapshot hmailbox => ?_⟩
    exact le_of_isConfirmed h.confirmed (latestNewer_eq_none hlatest hmailbox)
  · rename_i snapshot hlatest
    obtain ⟨hmailbox, hnewer⟩ := latestNewer_eq_some hlatest
    exact ⟨⟨h.mailbox, h.confirmed⟩, rfl, hmailbox, hnewer, by simp⟩

theorem Holds.confirm (h : worker.Holds known mark) {snapshot : PlayerSnapshot}
    (hmark : snapshot.revision.toNat ≤ mark) :
    (worker.confirm snapshot).Sound known mark signal := by
  have hconfirmed : { worker with
      confirmedRevision := some snapshot.revision, unseen := false }.Holds known mark := by
    refine ⟨h.mailbox, fun revision hrevision => ?_⟩
    obtain rfl : snapshot.revision = revision := Option.some.inj hrevision
    exact hmark
  unfold SnapshotWorker.confirm
  dsimp only
  split
  · rename_i latest hlatest
    exact hconfirmed.take (h.mailbox latest (latestNewer_eq_some hlatest).1)
  · exact hconfirmed.waiting

theorem Holds.retry (h : worker.Holds known mark) {snapshot : PlayerSnapshot}
    (hknown : known snapshot) : (worker.retry snapshot).Sound known mark signal := by
  unfold SnapshotWorker.retry
  refine (h.setUnseen false).take ?_
  cases hmailbox : worker.mailbox with
  | none => exact hknown
  | some latest => exact h.mailbox latest hmailbox

theorem Sound.executed (h : worker.Sound known mark signal)
    {reply : Except StorageError SnapshotWrite}
    (hreply : ∀ snapshot, worker.requested = some snapshot → ∀ outcome, reply = .ok outcome →
      snapshot.revision.toNat ≤ mark) : (worker.executed reply).Sound known mark signal := by
  have hphase := h.phase
  unfold SnapshotWorker.executed
  split
  · rename_i snapshot hcase
    rw [hcase] at hphase
    have hrequested : worker.requested = some snapshot := by
      unfold requested
      rw [hcase]
    refine ⟨⟨h.mailbox, h.confirmed⟩, hphase.1, hphase.2.1, fun outcome ho => ?_⟩
    exact hreply snapshot hrequested outcome (Option.some.inj ho)
  · rename_i snapshot hcase
    rw [hcase] at hphase
    have hrequested : worker.requested = some snapshot := by
      unfold requested
      rw [hcase]
    refine ⟨⟨h.mailbox, h.confirmed⟩, hphase.1, hphase.2.1, hphase.2.2.1, fun outcome ho => ?_⟩
    exact hreply snapshot hrequested outcome (Option.some.inj ho)
  · exact h

theorem Sound.replied (h : worker.Sound known mark signal) :
    worker.replied.Sound known mark signal := by
  have hphase := h.phase
  unfold SnapshotWorker.replied
  split
  · rename_i snapshot outcome hcase
    rw [hcase] at hphase
    exact h.toHolds.confirm (hphase.2.2 outcome rfl)
  · rename_i snapshot error hcase
    rw [hcase] at hphase
    exact h.toHolds.retrying hphase.1
  · rename_i snapshot outcome hcase
    rw [hcase] at hphase
    refine ⟨⟨h.mailbox, h.confirmed⟩, hphase.1, fun _ latest hlatest => ?_⟩
    obtain rfl : snapshot = latest := Option.some.inj (hphase.2.1.symm.trans hlatest)
    exact hphase.2.2.2 outcome rfl
  · rename_i snapshot error hcase
    rw [hcase] at hphase
    refine ⟨⟨h.mailbox, h.confirmed⟩, hphase.1, ?_⟩
    intro hok
    contradiction
  · exact h

theorem Sound.failed (h : worker.Sound known mark signal) (timedOut : Bool) :
    (worker.failed timedOut).Sound known mark signal := by
  have hphase := h.phase
  unfold SnapshotWorker.failed
  split
  · rename_i snapshot reply hcase
    rw [hcase] at hphase
    exact h.toHolds.retrying hphase.1
  · rename_i snapshot reply hcase
    rw [hcase] at hphase
    refine ⟨⟨h.mailbox, h.confirmed⟩, hphase.1, ?_⟩
    intro hok
    contradiction
  · exact h

theorem Sound.notice (h : worker.Sound known mark true) :
    (worker.notice true).Sound known mark true := by
  unfold SnapshotWorker.notice
  split
  · exact h.toHolds.flushOnShutdown
  · exact h.toHolds.flushOnShutdown
  · exact h.toHolds.flushOnShutdown
  · exact h
  · exact h
  · exact h

/-- A publisher sends before the signal, to a worker that is neither flushing nor done. -/
theorem Sound.send (h : worker.Sound known mark false) {snapshot : PlayerSnapshot}
    (hknown : known snapshot) : (worker.send snapshot).Sound known mark false := by
  have hphase := h.phase
  unfold SnapshotWorker.send
  split
  · refine ⟨⟨?_, h.confirmed⟩, ?_⟩
    · intro latest hlatest
      obtain rfl : snapshot = latest := Option.some.inj hlatest
      exact hknown
    · cases hcase : worker.phase with
      | waiting => trivial
      | panicked => trivial
      | writing queued reply =>
        rw [hcase] at hphase
        exact hphase
      | retrying queued =>
        rw [hcase] at hphase
        exact hphase
      | flushing queued reply =>
        rw [hcase] at hphase
        exact absurd hphase.1 (by simp)
      | finished result =>
        rw [hcase] at hphase
        exact absurd hphase.1 (by simp)
  · exact h

theorem Sound.requested_known (h : worker.Sound known mark signal) {snapshot : PlayerSnapshot}
    (hrequested : worker.requested = some snapshot) : known snapshot := by
  have hphase := h.phase
  unfold requested at hrequested
  split at hrequested
  · rename_i queued hcase
    obtain rfl : queued = snapshot := Option.some.inj hrequested
    rw [hcase] at hphase
    exact hphase.1
  · rename_i queued hcase
    obtain rfl : queued = snapshot := Option.some.inj hrequested
    rw [hcase] at hphase
    exact h.mailbox _ hphase.2.1
  · contradiction

theorem Sound.settled (h : worker.Sound known mark signal) {snapshot : PlayerSnapshot}
    (hsettled : worker.settled = some snapshot) : known snapshot ∧
      isConfirmed snapshot.revision worker.confirmedRevision = false := by
  have hphase := h.phase
  unfold SnapshotWorker.settled at hsettled
  split at hsettled
  · rename_i queued outcome hcase
    obtain rfl : queued = snapshot := Option.some.inj hsettled
    rw [hcase] at hphase
    exact ⟨hphase.1, hphase.2.1⟩
  · rename_i queued outcome hcase
    obtain rfl : queued = snapshot := Option.some.inj hsettled
    rw [hcase] at hphase
    exact ⟨h.mailbox _ hphase.2.1, hphase.2.2.1⟩
  · contradiction

theorem requested_of_givenUp {snapshot : PlayerSnapshot} (h : worker.givenUp = some snapshot) :
    worker.requested = some snapshot := by
  unfold givenUp at h
  split at h
  · rename_i queued hcase
    unfold requested
    rw [hcase]
    exact h
  · contradiction

/-- The mailbox and the confirmed revision only get newer, and what is closed stays closed. -/
structure Advances (worker worker' : SnapshotWorker) : Prop where
  mailbox : ∀ snapshot, worker.mailbox = some snapshot → ∃ latest, worker'.mailbox = some latest ∧
    snapshot.revision.toNat ≤ latest.revision.toNat
  confirmed : ∀ revision, worker.confirmedRevision = some revision → ∃ latest,
    worker'.confirmedRevision = some latest ∧ revision.toNat ≤ latest.toNat
  closed : worker.isClosed = true → worker'.isClosed = true

theorem Advances.refl (worker : SnapshotWorker) : worker.Advances worker :=
  ⟨fun snapshot h => ⟨snapshot, h, le_rfl⟩, fun revision h => ⟨revision, h, le_rfl⟩, id⟩

theorem Advances.trans {a b c : SnapshotWorker} (h : a.Advances b) (h' : b.Advances c) :
    a.Advances c := by
  constructor
  · intro snapshot hsnapshot
    obtain ⟨later, hlater, hle⟩ := h.mailbox snapshot hsnapshot
    obtain ⟨latest, hlatest, hle'⟩ := h'.mailbox later hlater
    exact ⟨latest, hlatest, hle.trans hle'⟩
  · intro revision hrevision
    obtain ⟨later, hlater, hle⟩ := h.confirmed revision hrevision
    obtain ⟨latest, hlatest, hle'⟩ := h'.confirmed later hlater
    exact ⟨latest, hlatest, hle.trans hle'⟩
  · intro hclosed
    exact h'.closed (h.closed hclosed)

/-- A step that leaves mailbox and confirmed revision, and is none of a closed worker. -/
theorem Advances.of_eq {worker worker' : SnapshotWorker}
    (hmailbox : worker'.mailbox = worker.mailbox)
    (hconfirmed : worker'.confirmedRevision = worker.confirmedRevision)
    (hclosed : worker.isClosed = true → worker'.isClosed = true) : worker.Advances worker' := by
  refine ⟨?_, ?_, hclosed⟩
  · rw [hmailbox]
    exact (Advances.refl worker).mailbox
  · rw [hconfirmed]
    exact (Advances.refl worker).confirmed

theorem take_mailbox (worker : SnapshotWorker) (snapshot : PlayerSnapshot) :
    (worker.take snapshot).mailbox = worker.mailbox := by
  unfold take
  split <;> rfl

theorem take_confirmedRevision (worker : SnapshotWorker) (snapshot : PlayerSnapshot) :
    (worker.take snapshot).confirmedRevision = worker.confirmedRevision := by
  unfold take
  split <;> rfl

theorem observe_advances (hopen : worker.isClosed = false) : worker.Advances worker.observe := by
  have hnot : worker.isClosed = true → worker.observe.isClosed = true := by simp [hopen]
  unfold observe at hnot ⊢
  split at hnot
  · exact .of_eq (take_mailbox _ _) (take_confirmedRevision _ _) hnot
  · exact .of_eq rfl rfl hnot

theorem executed_advances (reply : Except StorageError SnapshotWrite) :
    worker.Advances (worker.executed reply) := by
  unfold executed
  split
  · exact .of_eq rfl rfl (by simp_all [isClosed])
  · exact .of_eq rfl rfl (by simp_all [isClosed])
  · exact .refl worker

theorem confirm_mailbox (worker : SnapshotWorker) (snapshot : PlayerSnapshot) :
    (worker.confirm snapshot).mailbox = worker.mailbox := by
  unfold confirm
  dsimp only
  split
  · exact take_mailbox _ _
  · rfl

theorem confirm_confirmedRevision (worker : SnapshotWorker) (snapshot : PlayerSnapshot) :
    (worker.confirm snapshot).confirmedRevision = some snapshot.revision := by
  unfold confirm
  dsimp only
  split
  · exact take_confirmedRevision _ _
  · rfl

theorem lt_of_isConfirmed {revision confirmed : StateRevision}
    (h : isConfirmed revision (some confirmed) = false) : confirmed.toNat < revision.toNat := by
  have hnot : ¬ revision.get ≤ confirmed.get := by simpa [isConfirmed] using h
  exact UInt64.lt_iff_toNat_lt.mp (UInt64.not_le.mp hnot)

theorem Sound.replied_advances (h : worker.Sound known mark signal) :
    worker.Advances worker.replied := by
  have hphase := h.phase
  unfold SnapshotWorker.replied
  split
  · rename_i snapshot outcome hcase
    rw [hcase] at hphase
    refine ⟨?_, ?_, by simp [isClosed, hcase]⟩
    · rw [confirm_mailbox]
      exact (Advances.refl worker).mailbox
    · intro revision hrevision
      have hnewer := hphase.2.1
      rw [hrevision] at hnewer
      have hlt := lt_of_isConfirmed hnewer
      exact ⟨snapshot.revision, confirm_confirmedRevision worker snapshot, by omega⟩
  · exact .of_eq rfl rfl (by simp_all [isClosed])
  · exact .of_eq rfl rfl (by simp [isClosed])
  · exact .of_eq rfl rfl (by simp [isClosed])
  · exact .refl worker

theorem failed_advances (timedOut : Bool) : worker.Advances (worker.failed timedOut) := by
  unfold failed
  split
  · exact .of_eq rfl rfl (by simp_all [isClosed])
  · exact .of_eq rfl rfl (by simp [isClosed])
  · exact .refl worker

theorem flushOnShutdown_advances (signal : Bool) (hopen : worker.isClosed = false) :
    worker.Advances (worker.flushOnShutdown signal) := by
  have hnot : worker.isClosed = true → (worker.flushOnShutdown signal).isClosed = true := by
    simp [hopen]
  unfold flushOnShutdown at hnot ⊢
  split
  · exact .of_eq rfl rfl (by simp [isClosed])
  · split
    · exact .of_eq rfl rfl (by simp [isClosed])
    · exact .of_eq rfl rfl (by simp [hopen])

theorem notice_advances (signal : Bool) : worker.Advances (worker.notice signal) := by
  unfold notice
  split
  · exact flushOnShutdown_advances signal (by simp_all [isClosed])
  · exact flushOnShutdown_advances signal (by simp_all [isClosed])
  · exact flushOnShutdown_advances signal (by simp_all [isClosed])
  · exact .refl worker
  · exact .refl worker
  · exact .refl worker

theorem retry_advances (snapshot : PlayerSnapshot) (hopen : worker.isClosed = false) :
    worker.Advances (worker.retry snapshot) := by
  refine .of_eq (take_mailbox _ _) (take_confirmedRevision _ _) ?_
  intro hclosed
  rw [hopen] at hclosed
  contradiction

theorem send_advances (snapshot : PlayerSnapshot) : worker.Advances (worker.send snapshot) := by
  unfold send
  split
  · rename_i hnewer
    refine ⟨?_, (Advances.refl worker).confirmed, (Advances.refl worker).closed⟩
    intro queued hqueued
    rw [hqueued] at hnewer
    have hlt : queued.revision.toNat < snapshot.revision.toNat :=
      UInt64.lt_iff_toNat_lt.mp (by simpa using hnewer)
    exact ⟨snapshot, rfl, by omega⟩
  · exact .refl worker

/-- After a send the mailbox is not behind the snapshot that was sent. -/
theorem send_mailbox (worker : SnapshotWorker) (snapshot : PlayerSnapshot) :
    ∃ latest, (worker.send snapshot).mailbox = some latest ∧
      snapshot.revision.toNat ≤ latest.revision.toNat := by
  unfold send
  split
  · exact ⟨snapshot, rfl, le_rfl⟩
  · rename_i hnot
    cases hmailbox : worker.mailbox with
    | none => simp [hmailbox] at hnot
    | some queued =>
      rw [hmailbox] at hnot
      have hle : snapshot.revision.get ≤ queued.revision.get := by
        simpa using hnot
      exact ⟨queued, rfl, UInt64.le_iff_toNat_le.mp hle⟩

/-- Whoever hears of a success has confirmed it, or is done. -/
theorem replied_settled {snapshot : PlayerSnapshot} (h : worker.settled = some snapshot) :
    worker.replied.confirmedRevision = some snapshot.revision ∨
      worker.replied.isClosed = true := by
  unfold settled at h
  unfold replied
  split at h
  · rename_i queued outcome hcase
    obtain rfl : queued = snapshot := Option.some.inj h
    left
    rw [hcase]
    exact confirm_confirmedRevision worker queued
  · rename_i queued outcome hcase
    right
    rw [hcase]
    rfl
  · contradiction

theorem isClosed_of_settled {snapshot : PlayerSnapshot} (h : worker.settled = some snapshot) :
    worker.isClosed = false := by
  unfold settled at h
  unfold isClosed
  split at h
  · rename_i hcase
    rw [hcase]
  · rename_i hcase
    rw [hcase]
  · contradiction

end SnapshotWorker

end PepeAudio
