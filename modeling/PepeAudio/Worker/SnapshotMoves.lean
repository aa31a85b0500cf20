import PepeAudio.Worker.SnapshotProgress

/-!
# The moves of the snapshot runtime

A worker takes turns of its own, in which it may give up a request. A step of the
runtime is such a turn, a call to the store, a publish or a stage of the shutdown.
Facts about a step are proved by cases on its move.
-/
namespace PepeAudio

namespace SnapshotWorker

/-- What a worker does by itself in a step, and the request it gives up. -/
inductive Turn (signal : Bool) (worker : SnapshotWorker) :
    SnapshotWorker → Option PlayerSnapshot → Prop
  | rested : Turn signal worker worker none
  | observed (hwaiting : worker.phase = .waiting) : Turn signal worker worker.observe none
  | replied : Turn signal worker worker.replied none
  | failed (timedOut : Bool) : Turn signal worker (worker.failed timedOut) worker.requested
  | peeked : Turn signal worker { worker with unseen := false } none
  | retried {snapshot : PlayerSnapshot} (hretrying : worker.phase = .retrying snapshot) :
      Turn signal worker (worker.retry snapshot) none
  | noticed (hsignal : signal = true) :
      Turn signal worker (worker.notice signal) worker.givenUp
  | panicked : Turn signal worker { worker with phase := .panicked } worker.requested

variable {known : PlayerSnapshot → Prop} {mark : WithBot ℕ} {signal : Bool}
  {worker worker' : SnapshotWorker} {abandoned : Option PlayerSnapshot}

theorem Turn.sound (hturn : Turn signal worker worker' abandoned)
    (h : worker.Sound known mark signal) : worker'.Sound known mark signal := by
  cases hturn with
  | rested => exact h
  | observed hwaiting => exact h.observe
  | replied => exact h.replied
  | failed timedOut => exact h.failed timedOut
  | peeked => exact h.setUnseen false
  | retried hretrying =>
    have hphase := h.phase
    rw [hretrying] at hphase
    exact h.toHolds.retry hphase
  | noticed hsignal =>
    subst hsignal
    exact h.notice
  | panicked => exact h.toHolds.panicked

/-- A worker gives up only what it has asked for. -/
theorem Turn.requested (hturn : Turn signal worker worker' abandoned) {snapshot : PlayerSnapshot}
    (habandoned : abandoned = some snapshot) : worker.requested = some snapshot := by
  cases hturn with
  | failed timedOut => exact habandoned
  | noticed hsignal => exact requested_of_givenUp habandoned
  | panicked => exact habandoned
  | rested | observed | replied | peeked | retried => contradiction

theorem requested_of_isClosed (h : worker.isClosed = true) : worker.requested = none := by
  unfold isClosed at h
  unfold SnapshotWorker.requested
  split at h
  · rename_i hfinished
    rw [hfinished]
  · rename_i hpanicked
    rw [hpanicked]
  · contradiction

theorem Turn.advances (hturn : Turn signal worker worker' abandoned)
    (h : worker.Sound known mark signal) : worker.Advances worker' := by
  cases hturn with
  | rested => exact .refl worker
  | observed hwaiting => exact observe_advances (by simp [isClosed, hwaiting])
  | replied => exact h.replied_advances
  | failed timedOut => exact failed_advances timedOut
  | peeked => exact .of_eq rfl rfl id
  | retried hretrying => exact retry_advances _ (by simp [isClosed, hretrying])
  | noticed hsignal => exact notice_advances signal
  | panicked => exact .of_eq rfl rfl fun _ => rfl

end SnapshotWorker

namespace SnapshotRuntime

/-- The call that a step makes to the store, with its reply. -/
def storeCall (ttl : ℕ) : SnapshotRuntimeEvent × SnapshotRuntimeReply →
    Option (SnapshotCall × SnapshotReply)
  | (.execute _, .wrote snapshot result) => some (.put snapshot ttl, .written result)
  | (.land _, .wrote snapshot result) => some (.put snapshot ttl, .written result)
  | (.invalidate guildId, _) => some (.invalidate guildId, .invalidated (.ok ()))
  | (.elapse milliseconds, _) => some (.elapse milliseconds, .elapsed)
  | _ => none

inductive Move (encodedLength : PlayerSnapshot → ℕ) (ttl : ℕ) (runtime : SnapshotRuntime) :
    SnapshotRuntimeEvent → SnapshotRuntimeReply → SnapshotRuntime → Prop
  | stays {event : SnapshotRuntimeEvent} {reply : SnapshotRuntimeReply}
      (hcall : storeCall ttl (event, reply) = none) :
      Move encodedLength ttl runtime event reply runtime
  | registered {guildId : GuildId} (hnew : runtime.workers guildId = none) :
      Move encodedLength ttl runtime (.register guildId) .none
        { runtime.setWorker guildId .new with registered := runtime.registered ++ [guildId] }
  | entered {guildId : GuildId} {snapshot : PlayerSnapshot} (hopen : runtime.shutdown = .open) :
      Move encodedLength ttl runtime (.publish guildId snapshot) .none
        { runtime with publishing := runtime.publishing ++ [snapshot] }
  /-- A publisher has lost its worker. -/
  | left {index : ℕ} {snapshot : PlayerSnapshot}
      (hqueued : runtime.publishing[index]? = some snapshot) :
      Move encodedLength ttl runtime (.send index) .none
        { runtime with publishing := runtime.publishing.eraseIdx index }
  | sent {index : ℕ} {snapshot : PlayerSnapshot} {worker : SnapshotWorker}
      (result : Except SnapshotPublishError Unit)
      (hqueued : runtime.publishing[index]? = some snapshot)
      (hworker : runtime.workers snapshot.guildId = some worker) :
      Move encodedLength ttl runtime (.send index) (.published snapshot result)
        ({ runtime with publishing := runtime.publishing.eraseIdx index }.setWorker
          snapshot.guildId (worker.send snapshot))
  | turned {event : SnapshotRuntimeEvent} {reply : SnapshotRuntimeReply} {guildId : GuildId}
      {worker worker' : SnapshotWorker} {abandoned : Option PlayerSnapshot}
      (hcall : storeCall ttl (event, reply) = none)
      (hworker : runtime.workers guildId = some worker)
      (hturn : worker.Turn runtime.signal worker' abandoned) :
      Move encodedLength ttl runtime event reply
        { runtime.setWorker guildId worker' with late := runtime.late ++ abandoned.toList }
  | executed {guildId : GuildId} {worker : SnapshotWorker} {snapshot : PlayerSnapshot}
      {outcome : Except StorageError SnapshotWrite × SnapshotStore}
      (hworker : runtime.workers guildId = some worker)
      (hrequested : worker.requested = some snapshot)
      (houtcome : runtime.store.putSnapshotIfNewer encodedLength snapshot ttl = outcome) :
      Move encodedLength ttl runtime (.execute guildId) (.wrote snapshot outcome.1)
        ({ runtime with store := outcome.2 }.setWorker guildId (worker.executed outcome.1))
  | landed {index : ℕ} {snapshot : PlayerSnapshot}
      {outcome : Except StorageError SnapshotWrite × SnapshotStore}
      (hlate : runtime.late[index]? = some snapshot)
      (houtcome : runtime.store.putSnapshotIfNewer encodedLength snapshot ttl = outcome) :
      Move encodedLength ttl runtime (.land index) (.wrote snapshot outcome.1)
        { runtime with store := outcome.2, late := runtime.late.eraseIdx index }
  | invalidated {guildId : GuildId} : Move encodedLength ttl runtime (.invalidate guildId) .none
      { runtime with store := (runtime.store.invalidateSnapshot guildId).2 }
  | elapsed {milliseconds : ℕ} : Move encodedLength ttl runtime (.elapse milliseconds) .none
      { runtime with store := { runtime.store with now := runtime.store.now + milliseconds } }
  | closed (hopen : runtime.shutdown = .open) : Move encodedLength ttl runtime .close .none
      { runtime with shutdown := .closing }
  | gateHeld (hclosing : runtime.shutdown = .closing) (hempty : runtime.publishing = []) :
      Move encodedLength ttl runtime .holdGate .none { runtime with shutdown := .gateHeld }
  | signalled (hheld : runtime.shutdown = .gateHeld) :
      Move encodedLength ttl runtime .signal .none { runtime with shutdown := .signalled }

variable {encodedLength : PlayerSnapshot → ℕ} {ttl : ℕ} {runtime : SnapshotRuntime}
  {guildId : GuildId}

theorem withWorker_eq {f : SnapshotWorker → SnapshotWorker}
    {abandoned : SnapshotWorker → Option PlayerSnapshot} {worker : SnapshotWorker}
    (hworker : runtime.workers guildId = some worker) :
    runtime.withWorker guildId f abandoned =
      { runtime.setWorker guildId (f worker) with
        late := runtime.late ++ (abandoned worker).toList } := by
  unfold withWorker
  rw [hworker]

theorem withWorker_moves {event : SnapshotRuntimeEvent} {reply : SnapshotRuntimeReply}
    {f : SnapshotWorker → SnapshotWorker} {abandoned : SnapshotWorker → Option PlayerSnapshot}
    (hcall : storeCall ttl (event, reply) = none)
    (hturn : ∀ worker : SnapshotWorker,
      worker.Turn runtime.signal (f worker) (abandoned worker)) :
    runtime.Move encodedLength ttl event reply (runtime.withWorker guildId f abandoned) := by
  cases hworker : runtime.workers guildId with
  | none =>
    have hsame : runtime.withWorker guildId f abandoned = runtime := by
      unfold withWorker
      rw [hworker]
    rw [hsame]
    exact .stays hcall
  | some worker =>
    rw [withWorker_eq hworker]
    exact .turned hcall hworker (hturn worker)

/-- Every step is one of the moves. -/
theorem step_moves (encodedLength : PlayerSnapshot → ℕ) (ttl : ℕ) (runtime : SnapshotRuntime)
    (event : SnapshotRuntimeEvent) :
    runtime.Move encodedLength ttl event (runtime.step encodedLength ttl event).1
      (runtime.step encodedLength ttl event).2 := by
  cases event with
  | register guildId =>
    dsimp only [step]
    split
    · exact .stays rfl
    · rename_i hnew
      exact .registered (by simp_all)
  | publish guildId snapshot =>
    dsimp only [step]
    split
    · exact .stays rfl
    · split
      · exact .stays rfl
      · split
        · exact .stays rfl
        · split
          · exact .stays rfl
          · rename_i hopen
            exact .entered (by simp_all [isClosing])
  | send index =>
    dsimp only [step]
    split
    · exact .stays rfl
    · rename_i hqueued
      split
      · exact .left hqueued
      · rename_i hworker
        exact .sent _ hqueued hworker
  | observe guildId =>
    refine withWorker_moves rfl ?_
    intro worker
    split
    · rename_i hwaiting
      exact .observed hwaiting.1
    · exact .rested
  | execute guildId =>
    dsimp only [step]
    split
    · exact .stays rfl
    · rename_i snapshot hrequested
      obtain ⟨worker, hworker, hrequested⟩ := Option.bind_eq_some_iff.mp hrequested
      simp only [withWorker, hworker, Option.toList_none, List.append_nil]
      exact .executed hworker hrequested rfl
  | reply guildId =>
    refine withWorker_moves ?_ fun _ => .replied
    dsimp only [step]
    split <;> rfl
  | fail guildId timedOut => exact withWorker_moves rfl fun _ => .failed timedOut
  | peek guildId =>
    refine withWorker_moves rfl ?_
    intro worker
    split
    · exact .peeked
    · exact .rested
  | retry guildId =>
    refine withWorker_moves rfl ?_
    intro worker
    split
    · rename_i hretrying
      exact .retried hretrying
    · exact .rested
  | notice guildId =>
    dsimp only [step]
    split
    · rename_i hsignal
      exact withWorker_moves rfl fun _ => .noticed hsignal
    · exact .stays rfl
  | panic guildId =>
    refine withWorker_moves rfl ?_
    intro worker
    split
    · rename_i hclosed
      rw [SnapshotWorker.requested_of_isClosed hclosed]
      exact .rested
    · exact .panicked
  | land index =>
    dsimp only [step]
    split
    · exact .stays rfl
    · rename_i hlate
      exact .landed hlate rfl
  | invalidate guildId => exact .invalidated
  | elapse milliseconds => exact .elapsed
  | close =>
    dsimp only [step]
    split
    · rename_i hopen
      exact .closed hopen
    · exact .stays rfl
  | holdGate =>
    dsimp only [step]
    split
    · rename_i hready
      exact .gateHeld hready.1 hready.2
    · exact .stays rfl
  | signal =>
    dsimp only [step]
    split
    · rename_i hheld
      exact .signalled hheld
    · exact .stays rfl
  | join =>
    dsimp only [step]
    split
    · exact .stays rfl
    · exact .stays rfl

theorem move_of_follows {s s' : SnapshotRuntime}
    {l : SnapshotRuntimeEvent × SnapshotRuntimeReply}
    (h : Follows (step encodedLength ttl) s l s') : s.Move encodedLength ttl l.1 l.2 s' := by
  have hstep : s.step encodedLength ttl l.1 = (l.2, s') := h
  have hmove := step_moves encodedLength ttl s l.1
  rw [hstep] at hmove
  exact hmove

end SnapshotRuntime

end PepeAudio
