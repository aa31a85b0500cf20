import PepeAudio.Player.Actor

/-!
# Rules for the primitives of the actor

How a program of one primitive ends, for each of them. An adapter call may
succeed or fail and leave any adapter behind.
-/
namespace PepeAudio

open Actor

variable {P S : Type}

section Primitives

variable {α : Type} {a : Actor P S} {err : Failure → Actor P S → Prop}

@[simp] theorem ends_getModel {ok : PlayerModel → Actor P S → Prop} :
    Ends getModel a ok err ↔ ok a.model a := Iff.rfl

@[simp] theorem ends_modifyModel (f : PlayerModel → PlayerModel)
    {ok : Unit → Actor P S → Prop} :
    Ends (modifyModel f) a ok err ↔ ok () { a with model := f a.model } := Iff.rfl

@[simp] theorem ends_readClock {ok : Reading → Actor P S → Prop} :
    Ends readClock a ok err ↔ ok a.clock.head { a with clock := a.clock.tail } := Iff.rfl

@[simp] theorem ends_send (event : PlayerEvent) {ok : Unit → Actor P S → Prop} :
    Ends (send event) a ok err ↔ ok () { a with events := a.events ++ [event] } := Iff.rfl

@[simp] theorem ends_raise (error : PlayerError) {ok : α → Actor P S → Prop} :
    Ends (raise error : ActorM P S α) a ok err ↔ err (.error error) a := Iff.rfl

@[simp] theorem ends_panic (message : String) {ok : α → Actor P S → Prop} :
    Ends (panic message : ActorM P S α) a ok err ↔ err (.panic message) a := Iff.rfl

@[simp] theorem ends_currentSnapshot {ok : PlayerSnapshot → Actor P S → Prop} :
    Ends currentSnapshot a ok err ↔
      ok (a.model.snapshot a.clock.head) { a with clock := a.clock.tail } := Iff.rfl

theorem ends_attempt {program : ActorM P S α} {ok : Except PlayerError α → Actor P S → Prop}
    (h : Ends program a (fun value a' => ok (.ok value) a') fun failure a' =>
      match failure with
      | .error error => ok (.error error) a'
      | .panic message => err (.panic message) a') : Ends (attempt program) a ok err := by
  unfold Ends attempt at *
  cases hp : program a with
  | ok value a' => rw [hp] at h; exact h
  | error failure a' =>
    rw [hp] at h
    cases failure with
    | error error => exact h
    | panic message => exact h

/-- A request that names the current revision goes on. -/
theorem ends_checkRevision_current {ok : α → Actor P S → Prop} {rest : Unit → ActorM P S α} :
    Ends (checkRevision a.model.revision >>= rest) a ok err ↔ Ends (rest ()) a ok err := by
  unfold checkRevision
  rw [ends_bind, ends_bind, ends_getModel]
  dsimp only
  rw [if_pos rfl, ends_pure]

theorem ends_nextRevision {ok : StateRevision → Actor P S → Prop}
    (hok : ∀ next, a.model.revision.checkedNext = some next → ok next a)
    (herr : a.model.revision.checkedNext = none →
      err (.error (.revisionExhausted a.model.revision)) a) :
    Ends nextRevision a ok err := by
  unfold nextRevision
  rw [ends_bind, ends_getModel]
  dsimp only
  cases h : a.model.revision.checkedNext with
  | some next => exact hok next h
  | none => exact herr h

theorem ends_nextPlaybackGeneration {ok : PlaybackGeneration → Actor P S → Prop}
    (hok : ∀ generation, a.playbackGeneration.next = some generation →
      ok generation { a with playbackGeneration := generation })
    (herr : a.playbackGeneration.next = none →
      err (.error (.taskFailed "playback generation is exhausted")) a) :
    Ends nextPlaybackGeneration a ok err := by
  unfold nextPlaybackGeneration
  rw [ends_bind, ends_get]
  cases h : a.playbackGeneration.next with
  | some generation => exact hok generation h
  | none => exact herr h

variable [PlaybackPort P]

/-- The actor after a call that left the adapter in `playback`. -/
def called (a : Actor P S) (playback : P) (record : CallRecord) : Actor P S :=
  { a with playback := playback, calls := a.calls ++ [record] }

theorem ends_call (operation : PlaybackCall) {ok : Except String Unit → Actor P S → Prop}
    (hok : ∀ playback, ok (.ok ()) (called a playback ⟨operation, true⟩))
    (herr : ∀ playback message, ok (.error message) (called a playback ⟨operation, false⟩)) :
    Ends (call operation) a ok err := by
  unfold call
  rw [ends_bind, ends_get, ends_bind, ends_set, ends_pure]
  cases h : (PlaybackPort.call operation a.playback).1 with
  | ok _ => exact hok _
  | error message => exact herr _ message

/-- A call of the adapter goes the way the adapter answers it. -/
theorem ends_sideEffect_called (effect : SideEffect) (operation : PlaybackCall)
    {ok : Unit → Actor P S → Prop}
    (hok : ∀ playback, (PlaybackPort.call operation a.playback).1 = .ok () →
      ok () (called a playback ⟨operation, true⟩))
    (herr : ∀ playback message, (PlaybackPort.call operation a.playback).1 = .error message →
      err (.error (.sideEffect effect message)) (called a playback ⟨operation, false⟩)) :
    Ends (sideEffect effect operation) a ok err := by
  unfold sideEffect call
  rw [ends_bind, ends_bind, ends_get, ends_bind, ends_set, ends_pure]
  cases h : (PlaybackPort.call operation a.playback).1 with
  | ok _ => exact hok _ h
  | error message => exact herr _ message h

theorem ends_sideEffect (effect : SideEffect) (operation : PlaybackCall)
    {ok : Unit → Actor P S → Prop}
    (hok : ∀ playback, ok () (called a playback ⟨operation, true⟩))
    (herr : ∀ playback message,
      err (.error (.sideEffect effect message)) (called a playback ⟨operation, false⟩)) :
    Ends (sideEffect effect operation) a ok err :=
  ends_sideEffect_called effect operation (fun playback _ => hok playback)
    fun playback message _ => herr playback message

theorem ends_background (effect : SideEffect) (operation : PlaybackCall)
    {ok : Bool → Actor P S → Prop}
    (hok : ∀ playback, ok true (called a playback ⟨operation, true⟩))
    (herr : ∀ playback message, ok false
      { called a playback ⟨operation, false⟩ with
        events := a.events ++ [.backgroundSideEffectFailed effect message] }) :
    Ends (background effect operation) a ok err := by
  unfold background
  rw [ends_bind]
  exact ends_call operation (fun playback => hok playback) fun playback message =>
    herr playback message

end Primitives

section Commit

variable {a : Actor P S} {ok : Unit → Actor P S → Prop} {err : Failure → Actor P S → Prop}

theorem ends_armIdleTimer
    (hok : ∀ generation events, a.idleTimer.arm.1 = .ok generation →
      ok () { a with idleTimer := a.idleTimer.arm.2, events := events })
    (herr : ∀ error events, a.idleTimer.arm.1 = .error error →
      err (.error error) { a with idleTimer := a.idleTimer.arm.2, events := events }) :
    Ends armIdleTimer a ok err := by
  unfold armIdleTimer
  rw [ends_bind, ends_get, ends_bind, ends_set]
  cases h : a.idleTimer.arm.1 with
  | ok generation => exact hok generation _ h
  | error error => exact herr error _ h

theorem ends_cancelIdleTimer
    (hok : ∀ generation events, a.idleTimer.cancel.1 = .ok generation →
      ok () { a with idleTimer := a.idleTimer.cancel.2, events := events })
    (herr : ∀ error events, a.idleTimer.cancel.1 = .error error →
      err (.error error) { a with idleTimer := a.idleTimer.cancel.2, events := events }) :
    Ends cancelIdleTimer a ok err := by
  unfold cancelIdleTimer
  rw [ends_bind, ends_get, ends_bind, ends_set]
  cases h : a.idleTimer.cancel.1 with
  | ok generation => exact hok generation _ h
  | error error => exact herr error _ h

/-- Reconciling changes only the timer and the events, as `IdleTimer.reconciled` says. -/
theorem ends_reconcileIdle {wasIdle : Bool}
    (hok : ∀ events, (a.idleTimer.reconciled wasIdle a.model.isIdleConnected).1 = .ok () →
      ok () { a with
        idleTimer := (a.idleTimer.reconciled wasIdle a.model.isIdleConnected).2
        events := events })
    (herr : ∀ error events,
      (a.idleTimer.reconciled wasIdle a.model.isIdleConnected).1 = .error error →
      err (.error error) { a with
        idleTimer := (a.idleTimer.reconciled wasIdle a.model.isIdleConnected).2
        events := events }) :
    Ends (reconcileIdle wasIdle) a ok err := by
  unfold reconcileIdle
  unfold IdleTimer.reconciled at hok herr
  rw [ends_bind, ends_get]
  dsimp only
  rw [ends_ite]
  by_cases harm : (!wasIdle && a.model.isIdleConnected) = true
  · simp only [if_pos harm] at hok herr ⊢
    refine ends_armIdleTimer (fun generation events h => ?_) fun error events h => ?_
    · exact hok events (by rw [h]; rfl)
    · exact herr error events (by rw [h]; rfl)
  · simp only [if_neg harm] at hok herr ⊢
    rw [ends_ite]
    by_cases hcancel : (wasIdle && !a.model.isIdleConnected && a.idleTimer.active) = true
    · simp only [if_pos hcancel] at hok herr ⊢
      refine ends_cancelIdleTimer (fun generation events h => ?_) fun error events h => ?_
      · exact hok events (by rw [h]; rfl)
      · exact herr error events (by rw [h]; rfl)
    · simp only [if_neg hcancel] at hok herr ⊢
      exact hok a.events trivial

variable [SnapshotPublisher S]

/-- Publishing fails silently. -/
theorem ends_publish (snapshot : PlayerSnapshot)
    (h : ∀ publisher events, ok () { a with
      publisher := publisher
      events := events
      published := a.published ++ [snapshot] }) : Ends (publish snapshot) a ok err := by
  unfold publish
  rw [ends_bind, ends_send, ends_bind, ends_get, ends_bind, ends_set]
  cases hs : (SnapshotPublisher.publish snapshot a.publisher).1 with
  | ok _ => exact h _ _
  | error message => exact h _ _

/-- Committing changes the revision, or breaks off with the error of the idle timer. -/
theorem ends_finishChange {wasIdle isIdle : Bool} {next : StateRevision}
    {ok : PlayerSnapshot → Actor P S → Prop} (hidle : a.model.isIdleConnected = isIdle)
    (hok : ∀ snapshot b, (a.idleTimer.reconciled wasIdle isIdle).1 = .ok () →
      b.model = { a.model with revision := next } → b.config = a.config →
      b.playbackGeneration = a.playbackGeneration → ok snapshot b)
    (herr : ∀ error b, (a.idleTimer.reconciled wasIdle isIdle).1 = .error error →
      err (.error error) b) :
    Ends (finishChange wasIdle next) a ok err := by
  subst hidle
  unfold finishChange
  rw [ends_bind, ends_modifyModel, ends_bind]
  refine ends_reconcileIdle (fun events hdone => ?_) fun error events hfailed => ?_
  · rw [ends_bind, ends_currentSnapshot, ends_bind]
    refine ends_publish _ fun publisher events => ?_
    exact hok _ _ hdone rfl rfl rfl
  · exact herr error _ hfailed

/-- Where nothing is idle before or after, no timer gets in the way. -/
theorem ends_finishChange_busy {next : StateRevision} {ok : PlayerSnapshot → Actor P S → Prop}
    (hidle : a.model.isIdleConnected = false)
    (hok : ∀ snapshot b, b.model = { a.model with revision := next } → b.config = a.config →
      b.playbackGeneration = a.playbackGeneration → ok snapshot b) :
    Ends (finishChange false next) a ok err := by
  refine ends_finishChange hidle (fun snapshot b _ => hok snapshot b) fun error b hfailed => ?_
  simp [IdleTimer.reconciled] at hfailed

end Commit

end PepeAudio
