import PepeAudio.Player.Change
import PepeAudio.Player.Rules

/-!
# Following a handler

The steps handlers are made of, from the start of a request to its outcome.
Each handler is followed along its text once; everything proved about a player
afterwards is proved about outcomes and changes.
-/
namespace PepeAudio

open Actor

variable {P S : Type}

/-- A handler that started in `a₀` has reached `a` and committed nothing yet. -/
structure Underway (a₀ a : Actor P S) (calls : List CallRecord) : Prop extends
    Frame a₀ a calls where
  idleTimer : a.idleTimer = a₀.idleTimer
  published : a.published = a₀.published

namespace Underway

variable {a₀ a : Actor P S} {cause : Cause} {calls : List CallRecord}

theorem refl (a : Actor P S) : Underway a a [] :=
  ⟨⟨⟨rfl, Fresh.idle rfl, by simp⟩, rfl⟩, rfl, rfl⟩

/-- The model, the clock and the events are the handler's own business. -/
theorem touch (h : Underway a₀ a calls) (model : PlayerModel) (clock : Stream' Reading)
    (events : List PlayerEvent) :
    Underway a₀ { a with model := model, clock := clock, events := events } calls :=
  ⟨h.toFrame.congr rfl rfl rfl rfl, h.idleTimer, h.published⟩

theorem called (h : Underway a₀ a calls) (playback : P) (record : CallRecord)
    (hrecord : record.call.generation = none) :
    Underway a₀ (called a playback record) (calls ++ [record]) := by
  have hidle : Fresh a.playbackGeneration.toNat a.playbackGeneration.toNat [record] :=
    Fresh.idle (by simp [generations, hrecord])
  refine ⟨⟨⟨h.config, h.fresh.append hidle, ?_⟩, h.recent⟩, h.idleTimer, h.published⟩
  simp [PepeAudio.called, h.calls]

/-- A call that starts playback, with the generation drawn for it. -/
theorem started (h : Underway a₀ a calls) {generation : PlaybackGeneration}
    (hnext : a.playbackGeneration.next = some generation) (playback : P) (record : CallRecord)
    (hrecord : record.call.generation = some generation) :
    Underway a₀ (PepeAudio.called { a with playbackGeneration := generation } playback record)
      (calls ++ [record]) := by
  refine ⟨⟨⟨h.config, h.fresh.append (Fresh.single hnext hrecord), ?_⟩, h.recent⟩, h.idleTimer,
    h.published⟩
  simp [PepeAudio.called, h.calls]

theorem rejected (h : Underway a₀ a calls) (hmodel : a.model = a₀.model)
    (hcalls : Tentative a₀.model calls) (error : PlayerError) :
    Outcome a₀ cause (.error (.error error)) a :=
  .rejected error ⟨hmodel, h.idleTimer, h.published⟩ h.toFrame hcalls

theorem unchanged (h : Underway a₀ a []) (hmodel : a.model = a₀.model) (reading : Reading) :
    Outcome a₀ cause (.ok (a.model.snapshot reading)) a :=
  .unchanged reading ⟨hmodel, h.idleTimer, h.published⟩ h.toFrame

end Underway

section Steps

variable {a₀ a : Actor P S} {cause : Cause}

@[simp] theorem continues_getModel {rest : PlayerModel → ActorM P S PlayerSnapshot} :
    Continues a₀ a cause (getModel >>= rest) ↔ Continues a₀ a cause (rest a.model) := Iff.rfl

@[simp] theorem continues_get {rest : Actor P S → ActorM P S PlayerSnapshot} :
    Continues a₀ a cause (get >>= rest) ↔ Continues a₀ a cause (rest a) := Iff.rfl

@[simp] theorem continues_modifyModel (f : PlayerModel → PlayerModel)
    {rest : Unit → ActorM P S PlayerSnapshot} :
    Continues a₀ a cause (modifyModel f >>= rest) ↔
      Continues a₀ { a with model := f a.model } cause (rest ()) := Iff.rfl

@[simp] theorem continues_readClock {rest : Reading → ActorM P S PlayerSnapshot} :
    Continues a₀ a cause (readClock >>= rest) ↔
      Continues a₀ { a with clock := a.clock.tail } cause (rest a.clock.head) := Iff.rfl

@[simp] theorem continues_rememberTrack (track : QueueTrack)
    {rest : Unit → ActorM P S PlayerSnapshot} :
    Continues a₀ a cause (rememberTrack track >>= rest) ↔
      Continues a₀ { a with model := { a.model with
        history := pushHistory a.config.maxQueuedTracks a.model.history track } } cause (rest ()) :=
  Iff.rfl

/-- A request fails before it has called the adapter. -/
theorem conforms_raise (a : Actor P S) (error : PlayerError) : Conforms a cause (raise error) :=
  (Underway.refl a).rejected rfl (Or.inl (by simp)) error

theorem conforms_currentSnapshot (a : Actor P S) : Conforms a cause currentSnapshot :=
  ((Underway.refl a).touch a.model a.clock.tail a.events).unchanged rfl a.clock.head

theorem conforms_nextRevision {rest : StateRevision → ActorM P S PlayerSnapshot}
    (h : ∀ next, a.model.revision.checkedNext = some next → Conforms a cause (rest next)) :
    Conforms a cause (nextRevision >>= rest) := by
  unfold Conforms Continues
  rw [ends_bind]
  exact ends_nextRevision h fun _ => conforms_raise a _

theorem conforms_checkRevision {expected : StateRevision} {rest : Unit → ActorM P S PlayerSnapshot}
    (h : expected = a.model.revision → Conforms a cause (rest ())) :
    Conforms a cause (checkRevision expected >>= rest) := by
  unfold Conforms Continues
  rw [ends_bind]
  unfold checkRevision
  rw [ends_bind, ends_getModel]
  dsimp only
  rw [ends_ite]
  split
  · rename_i heq
    exact h heq
  · exact conforms_raise a _

/-- Nothing of the settings was touched by a call that failed. -/
theorem tentative_failed (model : PlayerModel) (call : PlaybackCall) :
    Tentative model [⟨call, false⟩] := Or.inl (by simp)

variable [PlaybackPort P]

/-- The one adapter call of a request that starts no playback. -/
theorem conforms_sideEffect (effect : SideEffect) (operation : PlaybackCall)
    (hoperation : operation.generation = none) {rest : Unit → ActorM P S PlayerSnapshot}
    (h : ∀ playback, Underway a (called a playback ⟨operation, true⟩) [⟨operation, true⟩] →
      Continues a (called a playback ⟨operation, true⟩) cause (rest ())) :
    Conforms a cause (sideEffect effect operation >>= rest) := by
  unfold Conforms Continues
  rw [ends_bind]
  refine ends_sideEffect effect operation (fun playback => ?_) fun playback message => ?_
  · exact h playback ((Underway.refl a).called playback _ hoperation)
  · have hunder := (Underway.refl a).called playback ⟨operation, false⟩ hoperation
    exact hunder.rejected rfl (tentative_failed _ _) _

/-- The one adapter call of a request that starts playback under a new generation. -/
theorem conforms_started (effect : SideEffect) (operation : PlaybackGeneration → PlaybackCall)
    (hoperation : ∀ generation, (operation generation).generation = some generation)
    {rest : PlaybackGeneration → Unit → ActorM P S PlayerSnapshot}
    (h : ∀ generation playback,
      Underway a (called { a with playbackGeneration := generation } playback
        ⟨operation generation, true⟩) [⟨operation generation, true⟩] →
      Continues a (called { a with playbackGeneration := generation } playback
        ⟨operation generation, true⟩) cause (rest generation ())) :
    Conforms a cause (nextPlaybackGeneration >>= fun generation =>
      sideEffect effect (operation generation) >>= rest generation) := by
  unfold Conforms Continues
  rw [ends_bind]
  refine ends_nextPlaybackGeneration (fun generation hnext => ?_) fun _ => conforms_raise a _
  rw [ends_bind]
  refine ends_sideEffect effect _ (fun playback => ?_) fun playback message => ?_
  · exact h generation playback ((Underway.refl a).started hnext playback _ (hoperation generation))
  · have hunder := (Underway.refl a).started hnext playback ⟨operation generation, false⟩
      (hoperation generation)
    exact hunder.rejected rfl (tentative_failed _ _) _

end Steps

section Commit

variable [SnapshotPublisher S]

/-- The end of every handler that changes the model: the change made so far is committed. -/
theorem finishChange_ends {timer : IdleTimer} {a₀ a : Actor P S} {next : StateRevision}
    {ok : PlayerSnapshot → Actor P S → Prop} {err : Failure → Actor P S → Prop}
    (hnext : a₀.model.revision.checkedNext = some next) (htimer : a.idleTimer = timer)
    (hpublished : a.published = a₀.published)
    (hok : ∀ snapshot a', Committed timer a₀ a' a.model (.ok snapshot) →
      a'.config = a.config → a'.recentIdempotency = a.recentIdempotency → a'.calls = a.calls →
      a'.playbackGeneration = a.playbackGeneration → ok snapshot a')
    (herr : ∀ failure a', Committed timer a₀ a' a.model (.error failure) →
      a'.config = a.config → a'.recentIdempotency = a.recentIdempotency → a'.calls = a.calls →
      a'.playbackGeneration = a.playbackGeneration → err failure a') :
    Ends (finishChange a₀.model.isIdleConnected next) a ok err := by
  unfold finishChange
  rw [ends_bind, ends_modifyModel, ends_bind]
  subst htimer
  refine ends_reconcileIdle (fun events hdone => ?_) fun error events hfailed => ?_
  · rw [ends_bind, ends_currentSnapshot, ends_bind]
    refine ends_publish _ fun publisher events => ?_
    rw [ends_pure]
    refine hok _ _ ⟨⟨next, hnext, rfl⟩, rfl, Or.inl ⟨hdone, a.clock.head, rfl, ?_⟩⟩ rfl rfl rfl rfl
    simp only [hpublished]
  · exact herr _ _ ⟨⟨next, hnext, rfl⟩, rfl, Or.inr ⟨⟨error, hfailed, rfl⟩, hpublished⟩⟩
      rfl rfl rfl rfl

theorem Underway.finished {a₀ a : Actor P S} {cause : Cause} {calls : List CallRecord}
    {next : StateRevision} (h : Underway a₀ a calls)
    (hnext : a₀.model.revision.checkedNext = some next)
    (hchange : Change a₀.config.maxQueuedTracks a₀.model cause calls a.model) :
    Continues a₀ a cause (finishChange a₀.model.isIdleConnected next) := by
  have hframe : ∀ a' : Actor P S, a'.config = a.config →
      a'.recentIdempotency = a.recentIdempotency → a'.calls = a.calls →
      a'.playbackGeneration = a.playbackGeneration → Frame a₀ a' calls := by
    intro a' hconfig hrecent hcalls hgeneration
    exact h.toFrame.congr hconfig hgeneration hcalls hrecent
  refine finishChange_ends hnext h.idleTimer h.published ?_ ?_
  · intro snapshot a' hcommit hconfig hrecent hcalls hgeneration
    exact .committed hchange (hframe a' hconfig hrecent hcalls hgeneration) hcommit
  · intro failure a' hcommit hconfig hrecent hcalls hgeneration
    exact .committed hchange (hframe a' hconfig hrecent hcalls hgeneration) hcommit

end Commit

end PepeAudio
