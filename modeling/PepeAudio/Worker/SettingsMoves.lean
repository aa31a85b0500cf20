import PepeAudio.Worker.SettingsRuntime

/-!
# The moves of the settings runtime

What a step can do to the workers, the rows and the writes that were given up, and
what it has looked at to do so. Facts about a step are proved by cases on its move.
-/
namespace PepeAudio

/-- A worker that makes no request and has not ended. -/
def SettingsPhase.isResting : SettingsPhase → Bool
  | .turning | .idle | .waiting => true
  | _ => false

/-- A reply that tells of no update. -/
def SettingsRuntimeReply.isQuiet : SettingsRuntimeReply → Bool
  | .queued _ _ _ | .persisted _ _ => false
  | _ => true

namespace SettingsRuntime

inductive Move (runtime : SettingsRuntime) :
    SettingsRuntimeEvent → SettingsRuntimeReply → SettingsRuntime → Prop
  /-- No worker moves. -/
  | aside {event : SettingsRuntimeEvent} {reply : SettingsRuntimeReply}
      (publishers : List SettingsSnapshotPublisher) (shutdown : SettingsShutdown)
      (hquiet : reply.isQuiet = true)
      (hshutdown : runtime.signal = true → shutdown = .signalled) :
      Move runtime event reply { runtime with publishers := publishers, shutdown := shutdown }
  | registered {guildId : GuildId} {initial : PersistentPlayerSettings} {seed : GuildSettings}
      (publishers : List SettingsSnapshotPublisher) (hnew : runtime.workers guildId = none)
      (hseed : runtime.table guildId = some seed) :
      Move runtime (.publisher guildId initial) .none
        { runtime.setWorker guildId (.new seed) with
          registered := runtime.registered ++ [guildId]
          publishers := publishers }
  | queued {index : ℕ} {guildId : GuildId} {update : SettingsUpdate}
      {result : Except SettingsPublishError Unit} {worker : SettingsWorker}
      (publishers : List SettingsSnapshotPublisher)
      (hworker : runtime.workers guildId = some worker) :
      Move runtime (.queue index) (.queued guildId update result)
        { runtime.setWorker guildId (worker.queue update) with publishers := publishers }
  | rested {event : SettingsRuntimeEvent} {guildId : GuildId} {worker : SettingsWorker}
      (unseen : Bool) {phase : SettingsPhase}
      (hworker : runtime.workers guildId = some worker)
      (hbefore : worker.phase.isResting = true) (hafter : phase.isResting = true) :
      Move runtime event .none
        (runtime.setWorker guildId { worker with unseen := unseen, phase := phase })
  | quitted {guildId : GuildId} {worker : SettingsWorker}
      (hworker : runtime.workers guildId = some worker) (hidle : worker.phase = .idle)
      (hsignal : runtime.signal = true) :
      Move runtime (.quit guildId) .none
        (runtime.setWorker guildId { worker with phase := .finished (.ok ()) })
  /-- A worker sees the shutdown while its mailbox is empty. -/
  | drained {guildId : GuildId} {worker : SettingsWorker}
      (hworker : runtime.workers guildId = some worker) (hwaiting : worker.phase = .waiting)
      (hsignal : runtime.signal = true) (hnone : worker.mailbox.pending = none) :
      Move runtime (.notice guildId) .none
        (runtime.setWorker guildId { worker with phase := .finished (.ok ()) })
  /-- The pending update is taken up in the loop. -/
  | turned {guildId : GuildId} {worker : SettingsWorker} {update : SettingsUpdate}
      {persist : PersistStep} (hworker : runtime.workers guildId = some worker)
      (hturning : worker.phase = .turning)
      (hpending : worker.persistPending guildId = some (update, persist)) :
      Move runtime (.turn guildId)
        (runtime.advance guildId false update { worker with unseen := false } persist).1
        (runtime.advance guildId false update { worker with unseen := false } persist).2
  /-- The pending update is taken up in the final flush. -/
  | noticed {guildId : GuildId} {worker : SettingsWorker} {update : SettingsUpdate}
      {persist : PersistStep} (hworker : runtime.workers guildId = some worker)
      (hwaiting : worker.phase = .waiting) (hsignal : runtime.signal = true)
      (hpending : worker.persistPending guildId = some (update, persist)) :
      Move runtime (.notice guildId)
        (runtime.advance guildId true update worker persist).1
        (runtime.advance guildId true update worker persist).2
  | looked {guildId : GuildId} {worker : SettingsWorker} {final : Bool} {update : SettingsUpdate}
      {attempts : ℕ} (hworker : runtime.workers guildId = some worker)
      (hphase : worker.phase = .persisting final update (.reading attempts none)) :
      Move runtime (.execute guildId) .none
        (runtime.setWorker guildId { worker with
          phase := .persisting final update
            (.reading attempts (some (runtime.table.getGuildSettings guildId))) })
  | wrote {guildId : GuildId} {worker : SettingsWorker} {final : Bool} {update : SettingsUpdate}
      {attempts : ℕ} {current : GuildSettings} {reply : Except StorageError (Option GuildSettings)}
      {table : GuildSettingsTable} (hworker : runtime.workers guildId = some worker)
      (hphase : worker.phase = .persisting final update (.updating attempts current none))
      (houtcome : runtime.table.updateGuildSettings (current.withDesired update.settings)
        current.revision = (reply, table)) :
      Move runtime (.execute guildId) .none
        { runtime.setWorker guildId { worker with
            phase := .persisting final update (.updating attempts current (some reply)) } with
          table := table }
  | replied {guildId : GuildId} {worker : SettingsWorker} {final : Bool}
      {update : SettingsUpdate} {call : PersistCall}
      (hworker : runtime.workers guildId = some worker)
      (hphase : worker.phase = .persisting final update call) :
      Move runtime (.reply guildId)
        (runtime.advance guildId final update worker (.resume update.settings call)).1
        (runtime.advance guildId final update worker (.resume update.settings call)).2
  /-- The worker gives its request up and waits, or ends. -/
  | failed {guildId : GuildId} {worker : SettingsWorker} {final : Bool}
      {update : SettingsUpdate} {call : PersistCall}
      (hworker : runtime.workers guildId = some worker)
      (hphase : worker.phase = .persisting final update call) :
      Move runtime (.fail guildId) .none
        { runtime.setWorker guildId
            (worker.advance runtime.signal final update (.done (.error .repository))) with
          late := runtime.late ++ abandoned worker.phase }
  | panicked {guildId : GuildId} {worker : SettingsWorker}
      (hworker : runtime.workers guildId = some worker) :
      Move runtime (.panic guildId) .none
        { runtime.setWorker guildId { worker with phase := .panicked } with
          late := runtime.late ++ abandoned worker.phase }
  | landed {index : ℕ} {write : SettingsWrite} (hwrite : runtime.late[index]? = some write) :
      Move runtime (.land index) .none { runtime with
        table := (runtime.table.updateGuildSettings write.candidate write.expected).2
        late := runtime.late.eraseIdx index }

variable {runtime : SettingsRuntime}

theorem Move.stays {event : SettingsRuntimeEvent} {reply : SettingsRuntimeReply}
    (hquiet : reply.isQuiet = true) : runtime.Move event reply runtime :=
  .aside runtime.publishers runtime.shutdown hquiet fun h => by simpa [signal] using h

theorem persistPending_eq_none {guildId : GuildId} {worker : SettingsWorker}
    (h : worker.persistPending guildId = none) : worker.mailbox.pending = none :=
  Option.map_eq_none_iff.mp h

/-- Every step is one of the moves. -/
theorem step_moves (runtime : SettingsRuntime) (event : SettingsRuntimeEvent) :
    runtime.Move event (runtime.step event).1 (runtime.step event).2 := by
  have hsignal : runtime.signal = true → runtime.shutdown = .signalled := by simp [signal]
  cases event with
  | publisher guildId initial =>
    dsimp only [step]
    split
    · exact .stays rfl
    · split
      · exact .aside _ _ rfl hsignal
      · rename_i hnew
        split
        · exact .stays rfl
        · rename_i seed hseed
          exact .registered _ hnew hseed
  | publish index snapshot =>
    dsimp only [step]
    split
    · exact .stays rfl
    · split
      · exact .stays rfl
      · refine .aside _ _ ?_ hsignal
        split <;> rfl
  | queue index =>
    dsimp only [step]
    split
    · exact .stays rfl
    · split
      · rename_i hworker
        exact .queued _ hworker
      · exact .stays rfl
  | turn guildId =>
    dsimp only [step]
    split
    · exact .stays rfl
    · rename_i worker hworker
      split
      · exact .stays rfl
      · rename_i hturning
        have hphase : worker.phase = .turning := not_not.mp hturning
        split
        · exact .rested false hworker (by rw [hphase]; rfl) rfl
        · rename_i hpending
          exact .turned hworker hphase hpending
  | changed guildId =>
    dsimp only [step]
    split
    · exact .stays rfl
    · rename_i worker hworker
      split
      · rename_i hidle
        exact .rested worker.unseen hworker (by rw [hidle.1]; rfl) rfl
      · exact .stays rfl
  | quit guildId =>
    dsimp only [step]
    split
    · exact .stays rfl
    · rename_i hworker
      split
      · rename_i hidle
        exact .quitted hworker hidle.1 hidle.2
      · exact .stays rfl
  | execute guildId =>
    dsimp only [step]
    split
    · exact .stays rfl
    · rename_i hworker
      split
      · rename_i hphase
        exact .looked hworker hphase
      · rename_i hphase
        exact .wrote hworker hphase rfl
      · exact .stays rfl
  | reply guildId =>
    dsimp only [step]
    split
    · exact .stays rfl
    · rename_i hworker
      split
      · rename_i hphase
        exact .replied hworker hphase
      · exact .stays rfl
  | fail guildId =>
    dsimp only [step]
    split
    · exact .stays rfl
    · rename_i hworker
      split
      · rename_i hphase
        exact .failed hworker hphase
      · exact .stays rfl
  | retry guildId =>
    dsimp only [step]
    split
    · exact .stays rfl
    · rename_i worker hworker
      split
      · rename_i hwaiting
        exact .rested worker.unseen hworker (by rw [hwaiting]; rfl) rfl
      · exact .stays rfl
  | notice guildId =>
    dsimp only [step]
    split
    · exact .stays rfl
    · rename_i hworker
      split
      · rename_i hwaiting
        split
        · rename_i hnone
          exact .drained hworker hwaiting.1 hwaiting.2 (persistPending_eq_none hnone)
        · rename_i hpending
          exact .noticed hworker hwaiting.1 hwaiting.2 hpending
      · exact .stays rfl
  | panic guildId =>
    dsimp only [step]
    split
    · exact .stays rfl
    · rename_i hworker
      split
      · exact .stays rfl
      · exact .panicked hworker
  | land index =>
    dsimp only [step]
    split
    · exact .stays rfl
    · rename_i hwrite
      exact .landed hwrite
  | close =>
    dsimp only [step]
    split
    · rename_i hopen
      exact .aside runtime.publishers _ rfl fun h => by simp [signal, hopen] at h
    · exact .stays rfl
  | signal =>
    dsimp only [step]
    split
    · exact .aside runtime.publishers _ rfl fun _ => rfl
    · exact .stays rfl
  | join =>
    dsimp only [step]
    split
    · exact .stays rfl
    · exact .stays rfl

end SettingsRuntime

end PepeAudio
