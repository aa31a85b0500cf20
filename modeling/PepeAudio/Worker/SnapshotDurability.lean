import PepeAudio.Worker.SnapshotMoves

/-!
# What a shutdown guarantees

The store of a runtime takes a run of the snapshot store. Once the signal is out
no mailbox changes any more, so that workers that end well leave the watermarks
at their mailboxes, and the watermark was reached by a snapshot that was stored.
-/
namespace PepeAudio

namespace SnapshotRuntime

/-- The snapshot that a player publishes in a step. -/
def offeredBy : SnapshotRuntimeEvent × SnapshotRuntimeReply → Option PlayerSnapshot
  | (.publish _ snapshot, _) => some snapshot
  | _ => none

/-- The snapshot whose publish returns well in a step. -/
def acceptedBy : SnapshotRuntimeEvent × SnapshotRuntimeReply → Option PlayerSnapshot
  | (.send _, .published snapshot (.ok ())) => some snapshot
  | _ => none

/-- The snapshot that a step writes to the store. -/
def wroteBy : SnapshotRuntimeEvent × SnapshotRuntimeReply → Option PlayerSnapshot
  | (.execute _, .wrote snapshot (.ok .stored)) => some snapshot
  | (.land _, .wrote snapshot (.ok .stored)) => some snapshot
  | _ => none

/-- All workers hold what was published, and nobody publishes once the gate is held. -/
structure Sound (encodedLength : PlayerSnapshot → ℕ) (known : PlayerSnapshot → Prop)
    (runtime : SnapshotRuntime) : Prop where
  store : runtime.store.Sound encodedLength
  gate : runtime.shutdown = .gateHeld ∨ runtime.shutdown = .signalled → runtime.publishing = []
  publishing : ∀ snapshot ∈ runtime.publishing, known snapshot
  late : ∀ snapshot ∈ runtime.late, known snapshot
  registered : ∀ guildId worker, runtime.workers guildId = some worker →
    guildId ∈ runtime.registered
  workers : ∀ guildId worker, runtime.workers guildId = some worker →
    worker.Sound (fun snapshot => known snapshot ∧ snapshot.guildId = guildId)
      (runtime.store.watermark guildId) runtime.signal

variable {encodedLength : PlayerSnapshot → ℕ} {ttl : ℕ} {known known' : PlayerSnapshot → Prop}
  {runtime : SnapshotRuntime} {guildId : GuildId}

theorem setWorker_self (runtime : SnapshotRuntime) (guildId : GuildId) (worker : SnapshotWorker) :
    (runtime.setWorker guildId worker).workers guildId = some worker :=
  Function.update_self ..

theorem setWorker_of_ne (runtime : SnapshotRuntime) (guildId : GuildId) (worker : SnapshotWorker)
    {other : GuildId} (h : other ≠ guildId) :
    (runtime.setWorker guildId worker).workers other = runtime.workers other :=
  Function.update_of_ne h ..

theorem setWorker_cases {worker found : SnapshotWorker} {other : GuildId}
    (h : (runtime.setWorker guildId worker).workers other = some found) :
    (other = guildId ∧ found = worker) ∨
      (other ≠ guildId ∧ runtime.workers other = some found) := by
  by_cases hother : other = guildId
  · subst hother
    rw [setWorker_self] at h
    exact .inl ⟨rfl, (Option.some.inj h).symm⟩
  · rw [setWorker_of_ne _ _ _ hother] at h
    exact .inr ⟨hother, h⟩

/-- The watermarks may rise, and more may be published. -/
theorem Sound.mono (h : runtime.Sound encodedLength known) (hknown : ∀ s, known s → known' s) :
    runtime.Sound encodedLength known' := by
  refine ⟨h.store, h.gate, fun s hs => hknown s (h.publishing s hs),
    fun s hs => hknown s (h.late s hs), h.registered, ?_⟩
  intro guildId worker hworker
  exact (h.workers guildId worker hworker).mono (fun s hs => ⟨hknown s hs.1, hs.2⟩) le_rfl id

theorem Sound.withStore (h : runtime.Sound encodedLength known) {store : SnapshotStore}
    (hstore : store.Sound encodedLength)
    (hmark : ∀ guildId, runtime.store.watermark guildId ≤ store.watermark guildId) :
    { runtime with store := store }.Sound encodedLength known := by
  refine ⟨hstore, h.gate, h.publishing, h.late, h.registered, ?_⟩
  intro guildId worker hworker
  exact (h.workers guildId worker hworker).mono (fun _ hs => hs) (hmark guildId) id

/-- A put raises the watermark of its guild to the snapshot, unless it fails. -/
theorem putSnapshotIfNewer_watermark {store : SnapshotStore} (hstore : store.Sound encodedLength)
    (snapshot : PlayerSnapshot) (ttl : ℕ) :
    let outcome := store.putSnapshotIfNewer encodedLength snapshot ttl
    outcome.2.Sound encodedLength ∧
      (∀ guildId, store.watermark guildId ≤ outcome.2.watermark guildId) ∧
      ∀ reply, outcome.1 = .ok reply →
        snapshot.revision.toNat ≤ outcome.2.watermark snapshot.guildId := by
  have hsound := SnapshotStore.serve_sound hstore (.put snapshot ttl)
  refine ⟨hsound, ?_⟩
  rcases SnapshotStore.putSnapshotIfNewer_effect hstore snapshot ttl with
    ⟨-, hnewer, hmark⟩ | ⟨-, hkept, hold⟩
  · constructor
    · intro guildId
      rw [hmark]
      split
      · rename_i hguild
        subst hguild
        exact hnewer.le
      · exact le_rfl
    · intro reply _
      rw [hmark, if_pos rfl]
  · rw [hkept]
    exact ⟨fun _ => le_rfl, hold⟩

theorem sound_start {store : SnapshotStore} (hstore : store.Sound encodedLength)
    {initial : SnapshotRuntime} (hinitial : start store ttl = .ok initial) :
    initial.Sound encodedLength known := by
  unfold start at hinitial
  split at hinitial
  · contradiction
  · obtain rfl := Except.ok.inj hinitial
    exact ⟨hstore, by simp, by simp, by simp, by simp, by simp⟩

theorem start_store {store : SnapshotStore} {initial : SnapshotRuntime}
    (hinitial : start store ttl = .ok initial) : initial.store = store := by
  unfold start at hinitial
  split at hinitial
  · contradiction
  · obtain rfl := Except.ok.inj hinitial
    rfl

theorem Sound.setWorker (h : runtime.Sound encodedLength known)
    (hregistered : guildId ∈ runtime.registered) {worker : SnapshotWorker}
    (hworker : worker.Sound (fun snapshot => known snapshot ∧ snapshot.guildId = guildId)
      (runtime.store.watermark guildId) runtime.signal) :
    (runtime.setWorker guildId worker).Sound encodedLength known := by
  refine ⟨h.store, h.gate, h.publishing, h.late, ?_, ?_⟩
  · intro other found hfound
    rcases setWorker_cases hfound with ⟨rfl, rfl⟩ | ⟨-, hbefore⟩
    · exact hregistered
    · exact h.registered other found hbefore
  · intro other found hfound
    rcases setWorker_cases hfound with ⟨rfl, rfl⟩ | ⟨-, hbefore⟩
    · exact hworker
    · exact h.workers other found hbefore

/-- A worker takes a turn of its own. -/
theorem Sound.turn (h : runtime.Sound encodedLength known) {worker worker' : SnapshotWorker}
    {abandoned : Option PlayerSnapshot} (hworker : runtime.workers guildId = some worker)
    (hturn : worker.Turn runtime.signal worker' abandoned) :
    Sound encodedLength known { runtime.setWorker guildId worker' with
      late := runtime.late ++ abandoned.toList } := by
  have hsound := h.workers guildId worker hworker
  have hset := h.setWorker (h.registered guildId worker hworker) (hturn.sound hsound)
  refine ⟨hset.store, hset.gate, hset.publishing, ?_, hset.registered, hset.workers⟩
  intro snapshot hsnapshot
  rcases List.mem_append.mp hsnapshot with hlate | hnew
  · exact h.late snapshot hlate
  · exact (hsound.requested_known (hturn.requested (Option.mem_toList.mp hnew))).1

/-- The store executes the request of a worker. -/
theorem Sound.executed (h : runtime.Sound encodedLength known) {worker : SnapshotWorker}
    {snapshot : PlayerSnapshot} {outcome : Except StorageError SnapshotWrite × SnapshotStore}
    (hworker : runtime.workers guildId = some worker)
    (hrequested : worker.requested = some snapshot)
    (houtcome : runtime.store.putSnapshotIfNewer encodedLength snapshot ttl = outcome) :
    ({ runtime with store := outcome.2 }.setWorker guildId
      (worker.executed outcome.1)).Sound encodedLength known := by
  subst houtcome
  have hguild := ((h.workers guildId worker hworker).requested_known hrequested).2
  obtain ⟨hstore, hmark, hreply⟩ := putSnapshotIfNewer_watermark h.store snapshot ttl
  have hraised := h.withStore hstore hmark
  refine hraised.setWorker (h.registered guildId worker hworker) ?_
  refine (hraised.workers guildId worker hworker).executed ?_
  intro asked hasked outcome houtcome
  rw [hrequested] at hasked
  obtain rfl := Option.some.inj hasked
  rw [← hguild]
  exact hreply outcome houtcome

/-- Nobody publishes once the workers can see the shutdown. -/
theorem Sound.signal_eq_false (h : runtime.Sound encodedLength known) {snapshot : PlayerSnapshot}
    (hmem : snapshot ∈ runtime.publishing) : runtime.signal = false := by
  have hopen : runtime.shutdown ≠ .signalled := by
    intro hsignalled
    rw [h.gate (.inr hsignalled)] at hmem
    contradiction
  simp [signal, hopen]

/-- A publisher leaves the gate. -/
theorem Sound.left (h : runtime.Sound encodedLength known) {index : ℕ} {snapshot : PlayerSnapshot}
    (hqueued : runtime.publishing[index]? = some snapshot) :
    { runtime with publishing := runtime.publishing.eraseIdx index }.Sound
      encodedLength known := by
  refine ⟨h.store, ?_, ?_, h.late, h.registered, h.workers⟩
  · intro hgate
    have hmem := List.mem_of_getElem? hqueued
    rw [h.gate hgate] at hmem
    contradiction
  · intro other hother
    exact h.publishing other (List.mem_of_mem_eraseIdx hother)

theorem Sound.shutdown (h : runtime.Sound encodedLength known) {phase : ShutdownPhase}
    (hgate : phase = .gateHeld ∨ phase = .signalled → runtime.publishing = [])
    (hsignal : runtime.shutdown ≠ .signalled) :
    { runtime with shutdown := phase }.Sound encodedLength known := by
  refine ⟨h.store, hgate, h.publishing, h.late, h.registered, ?_⟩
  intro guildId worker hworker
  refine (h.workers guildId worker hworker).mono (fun _ hs => hs) le_rfl ?_
  intro hsignalled
  simp [signal, hsignal] at hsignalled

/-- Every move keeps what holds, when what it publishes is known. -/
theorem Sound.move (h : runtime.Sound encodedLength known) {event : SnapshotRuntimeEvent}
    {reply : SnapshotRuntimeReply} {runtime' : SnapshotRuntime}
    (hmove : runtime.Move encodedLength ttl event reply runtime')
    (hpublished : ∀ guildId snapshot, event = .publish guildId snapshot → known snapshot) :
    runtime'.Sound encodedLength known := by
  cases hmove with
  | stays hcall => exact h
  | @registered guildId hnew =>
    have hmore : Sound encodedLength known
        { runtime with registered := runtime.registered ++ [guildId] } := by
      refine ⟨h.store, h.gate, h.publishing, h.late, ?_, h.workers⟩
      intro other worker hworker
      exact List.mem_append_left _ (h.registered other worker hworker)
    exact hmore.setWorker (by simp)
      ⟨⟨by simp [SnapshotWorker.new], by simp [SnapshotWorker.new]⟩, trivial⟩
  | @entered guildId snapshot hopen =>
    refine ⟨h.store, by simp [hopen], ?_, h.late, h.registered, h.workers⟩
    intro other hother
    rcases List.mem_append.mp hother with hother | hother
    · exact h.publishing other hother
    · obtain rfl := List.mem_singleton.mp hother
      exact hpublished guildId other rfl
  | left hqueued => exact h.left hqueued
  | sent result hqueued hworker =>
    have hmem := List.mem_of_getElem? hqueued
    have hsignal := h.signal_eq_false hmem
    have hsound := h.workers _ _ hworker
    rw [hsignal] at hsound
    have hsent := hsound.send ⟨h.publishing _ hmem, rfl⟩
    rw [← hsignal] at hsent
    exact (h.left hqueued).setWorker (h.registered _ _ hworker) hsent
  | turned hcall hworker hturn => exact h.turn hworker hturn
  | executed hworker hrequested houtcome => exact h.executed hworker hrequested houtcome
  | @landed _ snapshot outcome hlate houtcome =>
    subst houtcome
    obtain ⟨hstore, hmark, -⟩ := putSnapshotIfNewer_watermark h.store snapshot ttl
    have hlanded := h.withStore hstore hmark
    refine ⟨hlanded.store, h.gate, h.publishing, ?_, h.registered, hlanded.workers⟩
    intro other hother
    exact h.late other (List.mem_of_mem_eraseIdx hother)
  | @invalidated guildId =>
    exact h.withStore (SnapshotStore.serve_sound h.store (.invalidate guildId)) fun _ => le_rfl
  | @elapsed milliseconds =>
    exact h.withStore (SnapshotStore.serve_sound h.store (.elapse milliseconds)) fun _ => le_rfl
  | closed hopen => exact h.shutdown (by simp) (by simp [hopen])
  | gateHeld hclosing hempty => exact h.shutdown (fun _ => hempty) (by simp [hclosing])
  | signalled hheld => exact h.shutdown (fun _ => h.gate (.inl hheld)) (by simp [hheld])

/-- A move makes the call to the store that its reply tells, or none. -/
theorem Move.store {event : SnapshotRuntimeEvent} {reply : SnapshotRuntimeReply}
    {runtime' : SnapshotRuntime} (hmove : runtime.Move encodedLength ttl event reply runtime') :
    (storeCall ttl (event, reply) = none ∧ runtime'.store = runtime.store) ∨
      ∃ call, storeCall ttl (event, reply) = some call ∧
        Follows (SnapshotStore.serve encodedLength) runtime.store call runtime'.store := by
  cases hmove with
  | stays hcall => exact .inl ⟨hcall, rfl⟩
  | turned hcall hworker hturn => exact .inl ⟨hcall, rfl⟩
  | executed hworker hrequested houtcome =>
    subst houtcome
    exact .inr ⟨_, rfl, rfl⟩
  | landed hlate houtcome =>
    subst houtcome
    exact .inr ⟨_, rfl, rfl⟩
  | invalidated => exact .inr ⟨_, rfl, rfl⟩
  | elapsed => exact .inr ⟨_, rfl, rfl⟩
  | registered | entered | left | sent | closed | gateHeld | signalled => exact .inl ⟨rfl, rfl⟩

variable {store : SnapshotStore} {initial : SnapshotRuntime}
  {earlier : List (Taken SnapshotStore (SnapshotCall × SnapshotReply))}
  {taken : List (Taken SnapshotRuntime (SnapshotRuntimeEvent × SnapshotRuntimeReply))}

/-- The store of a runtime takes a run of the snapshot store. -/
theorem serves_calls (hearlier : SnapshotStore.Serves encodedLength earlier initial.store)
    (run : Run (Follows (step encodedLength ttl)) initial taken runtime) :
    ∃ calls, SnapshotStore.Serves encodedLength (earlier ++ calls) runtime.store ∧
      calls.map Taken.label = taken.filterMap fun t => storeCall ttl t.label := by
  refine run.history (I := fun taken runtime => ∃ calls,
    SnapshotStore.Serves encodedLength (earlier ++ calls) runtime.store ∧
      calls.map Taken.label = taken.filterMap fun t => storeCall ttl t.label) ?_ ?_
  · exact ⟨[], by simpa using hearlier, rfl⟩
  · rintro taken s l s' - ⟨calls, hserves, hlabels⟩ hnext
    rw [List.filterMap_append, ← hlabels]
    rcases (move_of_follows hnext).store with ⟨hnone, hkept⟩ | ⟨call, hsome, hserved⟩
    · rw [hkept]
      exact ⟨calls, hserves, by simp [hnone]⟩
    · refine ⟨calls ++ [⟨s.store, call, s'.store⟩], ?_, by simp [hsome]⟩
      rw [← List.append_assoc]
      exact .snoc hserves hserved

/-- Every worker is still there, and has taken nothing back. -/
def Advances (runtime runtime' : SnapshotRuntime) : Prop :=
  ∀ guildId worker, runtime.workers guildId = some worker →
    ∃ later, runtime'.workers guildId = some later ∧ worker.Advances later

theorem Advances.of_eq {runtime' : SnapshotRuntime} (h : runtime'.workers = runtime.workers) :
    runtime.Advances runtime' := by
  intro guildId worker hworker
  exact ⟨worker, by rw [h, hworker], .refl worker⟩

theorem Advances.trans {a b c : SnapshotRuntime} (h : a.Advances b) (h' : b.Advances c) :
    a.Advances c := by
  intro guildId worker hworker
  obtain ⟨later, hlater, hadvances⟩ := h guildId worker hworker
  obtain ⟨latest, hlatest, hadvances'⟩ := h' guildId later hlater
  exact ⟨latest, hlatest, hadvances.trans hadvances'⟩

theorem advances_setWorker {worker worker' : SnapshotWorker}
    (hworker : runtime.workers guildId = some worker) (h : worker.Advances worker') :
    runtime.Advances (runtime.setWorker guildId worker') := by
  intro other found hfound
  by_cases hother : other = guildId
  · subst hother
    obtain rfl := Option.some.inj (hfound.symm.trans hworker)
    exact ⟨worker', setWorker_self _ _ _, h⟩
  · exact ⟨found, (setWorker_of_ne _ _ _ hother).trans hfound, .refl found⟩

theorem Sound.move_advances (h : runtime.Sound encodedLength known) {event : SnapshotRuntimeEvent}
    {reply : SnapshotRuntimeReply} {runtime' : SnapshotRuntime}
    (hmove : runtime.Move encodedLength ttl event reply runtime') : runtime.Advances runtime' := by
  cases hmove with
  | @registered guildId hnew =>
    intro other worker hworker
    have hother : other ≠ guildId := by
      rintro rfl
      rw [hnew] at hworker
      contradiction
    exact ⟨worker, (setWorker_of_ne _ _ _ hother).trans hworker, .refl worker⟩
  | sent result hqueued hworker =>
    exact advances_setWorker hworker (SnapshotWorker.send_advances _)
  | turned hcall hworker hturn =>
    exact advances_setWorker hworker (hturn.advances (h.workers _ _ hworker))
  | executed hworker hrequested houtcome =>
    exact advances_setWorker hworker (SnapshotWorker.executed_advances _)
  | stays | entered | left | landed | invalidated | elapsed | closed | gateHeld | signalled =>
    exact .of_eq rfl

/-- A publish that returns well has left its snapshot, or a newer one, in the mailbox. -/
theorem step_send {index : ℕ} {snapshot : PlayerSnapshot}
    (h : (runtime.step encodedLength ttl (.send index)).1 = .published snapshot (.ok ())) :
    snapshot ∈ runtime.publishing ∧ ∃ worker latest,
      (runtime.step encodedLength ttl (.send index)).2.workers snapshot.guildId = some worker ∧
      worker.mailbox = some latest ∧ snapshot.revision.toNat ≤ latest.revision.toNat := by
  dsimp only [SnapshotRuntime.step] at h ⊢
  split at h
  · contradiction
  · rename_i sent hqueued
    split at h
    · contradiction
    · rename_i worker hworker
      obtain ⟨rfl, -⟩ := SnapshotRuntimeReply.published.inj h
      obtain ⟨latest, hlatest, hle⟩ := SnapshotWorker.send_mailbox worker sent
      exact ⟨List.mem_of_getElem? hqueued, worker.send sent, latest, by simp [setWorker], hlatest,
        hle⟩

/-- What a worker hears of is newer than what it had confirmed, and is what it has confirmed
then, unless it is done. -/
theorem Sound.step_reply (h : runtime.Sound encodedLength known) {snapshot : PlayerSnapshot}
    (hconfirmed : (runtime.step encodedLength ttl (.reply guildId)).1 = .confirmed snapshot) :
    snapshot.guildId = guildId ∧ ∃ worker later, runtime.workers guildId = some worker ∧
      (runtime.step encodedLength ttl (.reply guildId)).2.workers guildId = some later ∧
      worker.isClosed = false ∧
      SnapshotWorker.isConfirmed snapshot.revision worker.confirmedRevision = false ∧
      (later.confirmedRevision = some snapshot.revision ∨ later.isClosed = true) := by
  dsimp only [SnapshotRuntime.step] at hconfirmed ⊢
  split at hconfirmed
  · contradiction
  · rename_i settled hsettled
    obtain rfl := SnapshotRuntimeReply.confirmed.inj hconfirmed
    obtain ⟨worker, hworker, hsettled⟩ := Option.bind_eq_some_iff.mp hsettled
    have hsound := (h.workers guildId worker hworker).settled hsettled
    refine ⟨hsound.1.2, worker, worker.replied, hworker, ?_,
      SnapshotWorker.isClosed_of_settled hsettled, hsound.2,
      SnapshotWorker.replied_settled hsettled⟩
    rw [withWorker_eq hworker]
    exact setWorker_self _ _ _

/-- When a shutdown ends well, the store has reached every mailbox. -/
theorem Sound.step_join (h : runtime.Sound encodedLength known)
    (hjoined : (runtime.step encodedLength ttl .join).1 = .shutdown (.ok ()))
    {worker : SnapshotWorker} (hworker : runtime.workers guildId = some worker)
    {snapshot : PlayerSnapshot} (hmailbox : worker.mailbox = some snapshot) :
    snapshot.revision.toNat ≤ runtime.store.watermark guildId := by
  have hregistered := h.registered guildId worker hworker
  have hphase := (h.workers guildId worker hworker).phase
  have hmem : some worker.phase ∈ runtime.registered.map runtime.taskResult :=
    List.mem_map.mpr ⟨guildId, hregistered, by simp [taskResult, hworker]⟩
  dsimp only [SnapshotRuntime.step] at hjoined
  split at hjoined
  · rename_i hended
    have hall : ∀ guildId ∈ runtime.registered,
        (runtime.workers guildId).any SnapshotWorker.isClosed = true := by
      simp_all
    have hclosed : worker.isClosed = true := by
      simpa [hworker] using hall guildId hregistered
    have hjoin : runtime.joinResult = .ok () := SnapshotRuntimeReply.shutdown.inj hjoined
    unfold joinResult at hjoin
    dsimp only at hjoin
    split at hjoin
    · contradiction
    · rename_i hpanicked
      split at hjoin
      · contradiction
      · rename_i htimedOut
        split at hjoin
        · contradiction
        · rename_i hfailed
          cases hcase : worker.phase with
          | finished result =>
            rw [hcase] at hphase hmem
            cases result with
            | ok value => exact hphase.2 rfl snapshot hmailbox
            | error error =>
              cases error with
              | finalWriteFailed => exact absurd hmem hfailed
              | finalWriteTimedOut => exact absurd hmem htimedOut
          | panicked =>
            rw [hcase] at hmem
            exact absurd hmem hpanicked
          | waiting => simp [SnapshotWorker.isClosed, hcase] at hclosed
          | writing queued reply => simp [SnapshotWorker.isClosed, hcase] at hclosed
          | retrying queued => simp [SnapshotWorker.isClosed, hcase] at hclosed
          | flushing queued reply => simp [SnapshotWorker.isClosed, hcase] at hclosed
  · contradiction

/-- A snapshot that a player has published in the run. -/
def Offered (taken : List (Taken SnapshotRuntime (SnapshotRuntimeEvent × SnapshotRuntimeReply)))
    (snapshot : PlayerSnapshot) : Prop :=
  ∃ t ∈ taken, offeredBy t.label = some snapshot

/-- A snapshot whose publish has returned well in the run. -/
def Accepted (taken : List (Taken SnapshotRuntime (SnapshotRuntimeEvent × SnapshotRuntimeReply)))
    (snapshot : PlayerSnapshot) : Prop :=
  ∃ t ∈ taken, acceptedBy t.label = some snapshot

/-- A snapshot that the store has taken, before the run or in it. -/
def Stored (earlier : List (Taken SnapshotStore (SnapshotCall × SnapshotReply)))
    (taken : List (Taken SnapshotRuntime (SnapshotRuntimeEvent × SnapshotRuntimeReply)))
    (snapshot : PlayerSnapshot) : Prop :=
  (∃ t ∈ earlier, ∃ ttl, t.label = (.put snapshot ttl, .written (.ok .stored))) ∨
    ∃ t ∈ taken, wroteBy t.label = some snapshot

/-- A revision of a player is that of one snapshot; players see to it. -/
def RevisionsIdentify (earlier : List (Taken SnapshotStore (SnapshotCall × SnapshotReply)))
    (taken : List (Taken SnapshotRuntime (SnapshotRuntimeEvent × SnapshotRuntimeReply))) : Prop :=
  ∀ snapshot snapshot', Offered taken snapshot → Offered taken snapshot' ∨
    (∃ t ∈ earlier, ∃ ttl, t.label = (.put snapshot' ttl, .written (.ok .stored))) →
    snapshot.guildId = snapshot'.guildId → snapshot.revision = snapshot'.revision →
    snapshot = snapshot'

theorem run_sound (hstore : store.Sound encodedLength) (hinitial : start store ttl = .ok initial)
    (run : Run (Follows (step encodedLength ttl)) initial taken runtime) :
    runtime.Sound encodedLength (Offered taken) := by
  refine run.history (I := fun taken runtime => runtime.Sound encodedLength (Offered taken))
    (sound_start hstore hinitial) ?_
  intro taken s l s' _ hsound hnext
  refine (hsound.mono ?_).move (move_of_follows hnext) ?_
  · rintro snapshot ⟨t, ht, hoffered⟩
    exact ⟨t, List.mem_append_left _ ht, hoffered⟩
  · intro guildId snapshot hpublish
    refine ⟨_, List.mem_append_right _ List.mem_cons_self, ?_⟩
    rw [show l = (.publish guildId snapshot, l.2) from Prod.ext hpublish rfl]
    rfl

theorem reached_advances (hstore : store.Sound encodedLength)
    (hinitial : start store ttl = .ok initial) (s : SnapshotRuntime)
    (l : SnapshotRuntimeEvent × SnapshotRuntimeReply) (s' : SnapshotRuntime)
    (hreached : ∃ taken, Run (Follows (step encodedLength ttl)) initial taken s)
    (hnext : Follows (step encodedLength ttl) s l s') : s.Advances s' := by
  obtain ⟨taken, run⟩ := hreached
  exact (run_sound hstore hinitial run).move_advances (move_of_follows hnext)

theorem acceptedBy_eq_some {l : SnapshotRuntimeEvent × SnapshotRuntimeReply}
    {snapshot : PlayerSnapshot} (h : acceptedBy l = some snapshot) :
    ∃ index, l = (.send index, .published snapshot (.ok ())) := by
  unfold acceptedBy at h
  split at h
  · rename_i index published
    obtain rfl := Option.some.inj h
    exact ⟨index, rfl⟩
  · contradiction

theorem accepted_offered (hstore : store.Sound encodedLength)
    (hinitial : start store ttl = .ok initial)
    (run : Run (Follows (step encodedLength ttl)) initial taken runtime)
    {snapshot : PlayerSnapshot} (haccepted : Accepted taken snapshot) :
    Offered taken snapshot := by
  obtain ⟨t, ht, haccepted⟩ := haccepted
  obtain ⟨index, hlabel⟩ := acceptedBy_eq_some haccepted
  obtain ⟨before, after, rfl⟩ := List.append_of_mem ht
  obtain ⟨runBefore, hnext⟩ := run.split
  obtain ⟨hreply, -⟩ := hnext.eq
  rw [hlabel] at hreply
  obtain ⟨hqueued, -⟩ := step_send (Prod.mk.inj hreply).2.symm
  obtain ⟨p, hp, hpublish⟩ :=
    (run_sound hstore hinitial runBefore).publishing snapshot hqueued
  exact ⟨p, List.mem_append_left _ hp, hpublish⟩

/-- What was accepted, or something newer, is in the mailbox of its guild. -/
theorem accepted_mailbox (hstore : store.Sound encodedLength)
    (hinitial : start store ttl = .ok initial)
    (run : Run (Follows (step encodedLength ttl)) initial taken runtime)
    {snapshot : PlayerSnapshot} (haccepted : Accepted taken snapshot) :
    ∃ worker latest, runtime.workers snapshot.guildId = some worker ∧
      worker.mailbox = some latest ∧ snapshot.revision.toNat ≤ latest.revision.toNat := by
  obtain ⟨t, ht, haccepted⟩ := haccepted
  obtain ⟨index, hlabel⟩ := acceptedBy_eq_some haccepted
  obtain ⟨hreply, hafter⟩ := (run.taken_next ht).2.eq
  rw [hlabel] at hreply hafter
  have hsent := step_send (Prod.mk.inj hreply).2.symm
  rw [← hafter] at hsent
  obtain ⟨-, worker, queued, hworker, hqueued, hle⟩ := hsent
  have hrelated := run.related (R := Advances) (fun _ => .of_eq rfl)
    (fun _ _ _ h h' => h.trans h') (reached_advances hstore hinitial)
  obtain ⟨later, hlater, hadvances⟩ := (hrelated.2 t ht).2 _ worker hworker
  obtain ⟨latest, hlatest, hle'⟩ := hadvances.mailbox queued hqueued
  exact ⟨later, latest, hlater, hlatest, hle.trans hle'⟩

/-- What the workers of a guild hear of as written gets newer and newer. -/
theorem confirmed_increasing (hstore : store.Sound encodedLength)
    (hinitial : start store ttl = .ok initial)
    (run : Run (Follows (step encodedLength ttl)) initial taken runtime) :
    taken.Pairwise fun t t' => ∀ guildId snapshot snapshot',
      t.label = (.reply guildId, .confirmed snapshot) →
      t'.label = (.reply guildId, .confirmed snapshot') →
      snapshot.revision.toNat < snapshot'.revision.toNat := by
  refine List.pairwise_iff_forall_sublist.mpr ?_
  intro t t' hsub guildId snapshot snapshot' hlabel hlabel'
  have hadvances := List.pairwise_iff_forall_sublist.mp
    (run.pairwise (R := Advances) (fun _ => .of_eq rfl) (fun _ _ _ h h' => h.trans h')
      (reached_advances hstore hinitial)) hsub
  obtain ⟨⟨before, runBefore⟩, hnext⟩ := run.taken_next (hsub.subset (show t ∈ [t, t'] by simp))
  obtain ⟨⟨before', runBefore'⟩, hnext'⟩ :=
    run.taken_next (hsub.subset (show t' ∈ [t, t'] by simp))
  obtain ⟨hreply, hafter⟩ := hnext.eq
  obtain ⟨hreply', -⟩ := hnext'.eq
  rw [hlabel] at hreply hafter
  rw [hlabel'] at hreply'
  obtain ⟨-, worker, later, -, hlater, -, -, hheard⟩ :=
    (run_sound hstore hinitial runBefore).step_reply (Prod.mk.inj hreply).2.symm
  obtain ⟨-, worker', -, hworker', -, hopen, hnewer, -⟩ :=
    (run_sound hstore hinitial runBefore').step_reply (Prod.mk.inj hreply').2.symm
  rw [← hafter] at hlater
  obtain ⟨found, hfound, hkept⟩ := hadvances guildId later hlater
  obtain rfl := Option.some.inj (hfound.symm.trans hworker')
  rcases hheard with hconfirmed | hclosed
  · obtain ⟨latest, hlatest, hle⟩ := hkept.confirmed _ hconfirmed
    rw [hlatest] at hnewer
    have hlt := SnapshotWorker.lt_of_isConfirmed hnewer
    omega
  · rw [hkept.closed hclosed] at hopen
    contradiction

theorem storeCall_of_wroteBy {l : SnapshotRuntimeEvent × SnapshotRuntimeReply}
    {snapshot : PlayerSnapshot} (h : wroteBy l = some snapshot) :
    storeCall ttl l = some (.put snapshot ttl, .written (.ok .stored)) := by
  unfold wroteBy at h
  split at h
  · obtain rfl := Option.some.inj h
    rfl
  · obtain rfl := Option.some.inj h
    rfl
  · contradiction

theorem wroteBy_of_storeCall {l : SnapshotRuntimeEvent × SnapshotRuntimeReply}
    {snapshot : PlayerSnapshot} {lifetime : ℕ}
    (h : storeCall ttl l = some (.put snapshot lifetime, .written (.ok .stored))) :
    wroteBy l = some snapshot := by
  unfold storeCall at h
  split at h
  · obtain ⟨hput, hwritten⟩ := Prod.mk.inj (Option.some.inj h)
    obtain ⟨rfl, -⟩ := SnapshotCall.put.inj hput
    obtain rfl := SnapshotReply.written.inj hwritten
    rfl
  · obtain ⟨hput, hwritten⟩ := Prod.mk.inj (Option.some.inj h)
    obtain ⟨rfl, -⟩ := SnapshotCall.put.inj hput
    obtain rfl := SnapshotReply.written.inj hwritten
    rfl
  · simp at h
  · simp at h
  · contradiction

/-- Only what is known is written. -/
theorem Sound.move_wrote (h : runtime.Sound encodedLength known) {event : SnapshotRuntimeEvent}
    {reply : SnapshotRuntimeReply} {runtime' : SnapshotRuntime}
    (hmove : runtime.Move encodedLength ttl event reply runtime') {snapshot : PlayerSnapshot}
    (hwrote : wroteBy (event, reply) = some snapshot) : known snapshot := by
  have hstored : storeCall ttl (event, reply) = some (.put snapshot ttl, .written (.ok .stored)) :=
    storeCall_of_wroteBy hwrote
  cases hmove with
  | stays hcall =>
    rw [hcall] at hstored
    contradiction
  | turned hcall hworker hturn =>
    rw [hcall] at hstored
    contradiction
  | executed hworker hrequested houtcome =>
    obtain ⟨rfl, -⟩ := SnapshotCall.put.inj (Prod.mk.inj (Option.some.inj hstored)).1
    exact ((h.workers _ _ hworker).requested_known hrequested).1
  | landed hlate houtcome =>
    obtain ⟨rfl, -⟩ := SnapshotCall.put.inj (Prod.mk.inj (Option.some.inj hstored)).1
    exact h.late _ (List.mem_of_getElem? hlate)
  | registered | entered | left | sent | invalidated | elapsed | closed | gateHeld | signalled =>
    contradiction

/-- The watermark of a guild was reached by a snapshot that the store has taken. -/
theorem watermark_stored (hearlier : SnapshotStore.Serves encodedLength earlier store)
    (hinitial : start store ttl = .ok initial)
    (run : Run (Follows (step encodedLength ttl)) initial taken runtime) {revision : ℕ}
    (hmark : runtime.store.watermark guildId = revision) :
    ∃ snapshot, Stored earlier taken snapshot ∧
      (Offered taken snapshot ∨
        ∃ t ∈ earlier, ∃ ttl, t.label = (.put snapshot ttl, .written (.ok .stored))) ∧
      snapshot.guildId = guildId ∧ snapshot.revision.toNat = revision := by
  have hstore := hearlier.sound
  rw [← start_store hinitial] at hearlier
  obtain ⟨calls, hserves, hlabels⟩ := serves_calls hearlier run
  obtain ⟨t, ht, snapshot, lifetime, hlabel, hguild, hrevision⟩ := hserves.watermark_stored hmark
  rcases List.mem_append.mp ht with ht | ht
  · have hbefore : ∃ t ∈ earlier, ∃ ttl,
        t.label = (.put snapshot ttl, .written (.ok .stored)) := ⟨t, ht, lifetime, hlabel⟩
    exact ⟨snapshot, .inl hbefore, .inr hbefore, hguild, hrevision⟩
  · have hcall : t.label ∈ taken.filterMap fun t => storeCall ttl t.label :=
      hlabels ▸ List.mem_map_of_mem ht
    obtain ⟨t', ht', hstored⟩ := List.mem_filterMap.mp hcall
    rw [hlabel] at hstored
    have hwrote := wroteBy_of_storeCall hstored
    obtain ⟨before, after, rfl⟩ := List.append_of_mem ht'
    obtain ⟨runBefore, hnext⟩ := run.split
    obtain ⟨p, hp, hpublish⟩ :=
      (run_sound hstore hinitial runBefore).move_wrote (move_of_follows hnext) hwrote
    exact ⟨snapshot, .inr ⟨t', ht', hwrote⟩, .inl ⟨p, List.mem_append_left _ hp, hpublish⟩, hguild,
      hrevision⟩

/-- What is written to the store of a guild gets newer and newer. -/
theorem stored_increasing (hearlier : SnapshotStore.Serves encodedLength earlier initial.store)
    (run : Run (Follows (step encodedLength ttl)) initial taken runtime) :
    taken.Pairwise fun t t' => ∀ snapshot snapshot', wroteBy t.label = some snapshot →
      wroteBy t'.label = some snapshot' → snapshot.guildId = snapshot'.guildId →
      snapshot.revision.toNat < snapshot'.revision.toNat := by
  obtain ⟨calls, hserves, hlabels⟩ := serves_calls hearlier run
  have hcalls := (List.pairwise_append.mp hserves.stored_increasing).2.1
  have hmapped : (calls.map Taken.label).Pairwise fun l l' => ∀ snapshot ttl snapshot' ttl',
      l = (.put snapshot ttl, .written (.ok .stored)) →
      l' = (.put snapshot' ttl', .written (.ok .stored)) →
      snapshot.guildId = snapshot'.guildId →
      snapshot.revision.toNat < snapshot'.revision.toNat := List.pairwise_map.mpr hcalls
  rw [hlabels, List.pairwise_filterMap] at hmapped
  refine hmapped.imp ?_
  intro t t' hincreasing snapshot snapshot' hwrote hwrote' hguild
  exact hincreasing _ (storeCall_of_wroteBy hwrote) _ (storeCall_of_wroteBy hwrote') snapshot ttl
    snapshot' ttl rfl rfl hguild

/-- Players whose snapshots get newer and newer publish no revision twice. -/
theorem RevisionsIdentify.of_increasing (published : GuildId → List PlayerSnapshot)
    (hincreasing : ∀ guildId, (published guildId).Pairwise fun s s' =>
      s.revision.toNat < s'.revision.toNat)
    (hoffered : ∀ snapshot, Offered taken snapshot → snapshot ∈ published snapshot.guildId)
    (hstored : ∀ snapshot, (∃ t ∈ earlier, ∃ ttl,
      t.label = (.put snapshot ttl, .written (.ok .stored))) →
      snapshot ∈ published snapshot.guildId) : RevisionsIdentify earlier taken := by
  intro snapshot snapshot' hfirst hsecond hguild hrevision
  have hmem := hoffered snapshot hfirst
  have hmem' := hsecond.elim (hoffered snapshot') (hstored snapshot')
  rw [← hguild] at hmem'
  have hsymm : Std.Symm fun s s' : PlayerSnapshot => s.revision = s'.revision → s = s' :=
    ⟨fun _ _ h heq => (h heq.symm).symm⟩
  have hunique : (published snapshot.guildId).Pairwise fun s s' =>
      s.revision = s'.revision → s = s' := by
    refine (hincreasing snapshot.guildId).imp ?_
    intro s s' hlt heq
    rw [heq] at hlt
    omega
  exact hunique.forall_of_forall (fun _ _ _ => rfl) hmem hmem' hrevision

/-- In every run what is written to the store of a guild strictly increases, and so does what its
worker hears of as written; and if a shutdown ends well, every snapshot whose publish returned
well is stored, or a newer one of the same player is. -/
theorem snapshots_durable (hearlier : SnapshotStore.Serves encodedLength earlier store)
    (run : Runs encodedLength ttl store taken runtime)
    (hidentify : RevisionsIdentify earlier taken) :
    (taken.Pairwise fun t t' => ∀ snapshot snapshot', wroteBy t.label = some snapshot →
      wroteBy t'.label = some snapshot' → snapshot.guildId = snapshot'.guildId →
      snapshot.revision.toNat < snapshot'.revision.toNat) ∧
    (taken.Pairwise fun t t' => ∀ guildId snapshot snapshot',
      t.label = (.reply guildId, .confirmed snapshot) →
      t'.label = (.reply guildId, .confirmed snapshot') →
      snapshot.revision.toNat < snapshot'.revision.toNat) ∧
    ((runtime.step encodedLength ttl .join).1 = .shutdown (.ok ()) →
      ∀ snapshot, Accepted taken snapshot → ∃ stored, Stored earlier taken stored ∧
        stored.guildId = snapshot.guildId ∧
        (stored = snapshot ∨ snapshot.revision.toNat < stored.revision.toNat)) := by
  obtain ⟨initial, hinitial, run⟩ := run
  have hstore := hearlier.sound
  have hsame := start_store hinitial
  refine ⟨stored_increasing (hsame ▸ hearlier) run, confirmed_increasing hstore hinitial run, ?_⟩
  intro hjoined snapshot haccepted
  obtain ⟨worker, latest, hworker, hlatest, hle⟩ := accepted_mailbox hstore hinitial run haccepted
  have hreached := (run_sound hstore hinitial run).step_join hjoined hworker hlatest
  obtain ⟨revision, hmark⟩ := WithBot.ne_bot_iff_exists.mp
    (ne_bot_of_le_ne_bot WithBot.coe_ne_bot hreached)
  rw [← hmark] at hreached
  obtain ⟨stored, hstored, hfrom, hguild, hrevision⟩ :=
    watermark_stored hearlier hinitial run hmark.symm
  refine ⟨stored, hstored, hguild, ?_⟩
  have hbound : snapshot.revision.toNat ≤ stored.revision.toNat := by
    have hlast : latest.revision.toNat ≤ revision := WithBot.coe_le_coe.mp hreached
    omega
  rcases hbound.lt_or_eq with hlt | heq
  · exact .inr hlt
  · left
    have hoffered := accepted_offered hstore hinitial run haccepted
    have hrevision : snapshot.revision = stored.revision := StateRevision.toNat_injective heq
    exact (hidentify snapshot stored hoffered hfrom hguild.symm hrevision).symm

/-- A write whose reply is lost, its retry, and a snapshot that only the shutdown writes. -/
def lastWrites : List SnapshotRuntimeEvent :=
  [.register ⟨.MIN⟩, .publish ⟨.MIN⟩ (SnapshotStore.silentSnapshot ⟨4⟩), .send 0,
    .observe ⟨.MIN⟩, .execute ⟨.MIN⟩, .fail ⟨.MIN⟩ true,
    .publish ⟨.MIN⟩ (SnapshotStore.silentSnapshot ⟨5⟩), .send 0, .close, .holdGate, .signal,
    .notice ⟨.MIN⟩, .execute ⟨.MIN⟩, .reply ⟨.MIN⟩]

/-- A runtime that has just started over an empty store. -/
def unused : SnapshotRuntime := ⟨SnapshotStore.empty, [], [], fun _ => none, [], .open⟩

theorem snapshots_durable_lastWrites :
    (record (step (fun _ => 1) 1000) unused lastWrites).1.filterMap (fun t => wroteBy t.label) =
      [SnapshotStore.silentSnapshot ⟨4⟩, SnapshotStore.silentSnapshot ⟨5⟩] ∧
    ∃ stored, Stored [] (record (step (fun _ => 1) 1000) unused lastWrites).1 stored ∧
      stored.guildId = ⟨1, by decide⟩ ∧
      (stored = SnapshotStore.silentSnapshot ⟨4⟩ ∨ 4 < stored.revision.toNat) := by
  refine ⟨by decide +kernel, ?_⟩
  have hoffered : (record (step (fun _ => 1) 1000) unused lastWrites).1.filterMap
      (fun t => offeredBy t.label) =
        [SnapshotStore.silentSnapshot ⟨4⟩, SnapshotStore.silentSnapshot ⟨5⟩] := by
    decide +kernel
  refine (snapshots_durable .nil
    ⟨unused, rfl, run_record (step (fun _ => 1) 1000) unused lastWrites⟩ ?_).2.2
    (by decide +kernel) (SnapshotStore.silentSnapshot ⟨4⟩) ?_
  · refine .of_increasing (fun _ => [SnapshotStore.silentSnapshot ⟨4⟩,
      SnapshotStore.silentSnapshot ⟨5⟩]) (fun _ => by decide) ?_ (by simp)
    intro snapshot hsnapshot
    rw [← hoffered]
    exact List.mem_filterMap.mpr hsnapshot
  · exact List.mem_filterMap.mp (by decide +kernel)

end SnapshotRuntime

end PepeAudio
