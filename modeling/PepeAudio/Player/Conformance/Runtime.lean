import PepeAudio.Player.Conformance.Commands
import PepeAudio.Player.Conformance.Events
import PepeAudio.Player.Runtime

/-!
# Outcomes of a turn of the task

`Turned` says for every input what one turn may do to a coherent actor. It is
the only thing the properties of whole runs use of the task.
-/
namespace PepeAudio

open Actor

variable {P S : Type}

/-- Everything a shutdown may do. -/
inductive ShutDown (a : Actor P S) : ShutdownReport → Actor P S → Prop
  | refused {a' : Actor P S} {calls : List CallRecord} (message : String) (hkept : Kept a a')
      (hframe : Frame a a' calls) (hcalls : ∀ record ∈ calls, record.call.isVoice = true) :
      ShutDown a ⟨some message, a.model.revision⟩ a'
  | closed {a' : Actor P S} {calls : List CallRecord} (hmodel : a'.model = a.model)
      (hpublished : a'.published = a.published) (htimer : a'.idleTimer.active = false)
      (hreason : a.model.voiceChannelId = none ∨ a.model.revision.checkedNext = none)
      (hframe : Frame a a' calls) (hcalls : ∀ record ∈ calls, record.call.isVoice = true) :
      ShutDown a ⟨none, a.model.revision⟩ a'
  | left {a' : Actor P S} {calls : List CallRecord} (next : StateRevision) (reading : Reading)
      (hnext : a.model.revision.checkedNext = some next)
      (hmodel : a'.model = { clearDisconnected a.model with revision := next })
      (hpublished : a'.published = a.published ++ [a'.model.snapshot reading])
      (htimer : a'.idleTimer.active = false)
      (hframe : Frame a a' calls) (hcalls : ∀ record ∈ calls, record.call.isVoice = true) :
      ShutDown a ⟨none, next⟩ a'

/-- Leaving voice never touches a stopped timer. -/
theorem reconciled_stopped {timer : IdleTimer} (h : timer.active = false) (wasIdle : Bool) :
    timer.reconciled wasIdle false = (.ok (), timer) := by
  cases wasIdle <;> simp [IdleTimer.reconciled, h]

theorem cancel_active (timer : IdleTimer) : timer.cancel.2.active = false := by
  cases h : timer.generation.next with
  | some generation => rw [IdleTimer.cancel_eq h]
  | none => simp [IdleTimer.cancel, IdleTimer.invalidate, h]

section Task

variable [PlaybackPort P] [SnapshotPublisher S]

omit [SnapshotPublisher S] in
/-- The attempts to leave voice touch nothing but the adapter. -/
theorem ends_disconnectAttempts (attempts : ℕ) {a₀ a : Actor P S} {calls : List CallRecord}
    {lastError : Option String} {err : Failure → Actor P S → Prop} (hunder : Underway a₀ a calls)
    (hcalls : ∀ record ∈ calls, record.call.isVoice = true) :
    Ends (disconnectAttempts attempts lastError) a
      (fun _ a' => a'.model = a.model ∧ ∃ calls', Underway a₀ a' calls' ∧
        ∀ record ∈ calls', record.call.isVoice = true) err := by
  induction attempts generalizing a calls lastError with
  | zero =>
    cases lastError with
    | none => exact ⟨rfl, calls, hunder, hcalls⟩
    | some message => exact ⟨rfl, calls, hunder.touch _ _ _, hcalls⟩
  | succ attempts ih =>
    have hvoice : ∀ succeeded, ∀ record ∈ calls ++ [⟨.disconnect, succeeded⟩],
        record.call.isVoice = true := by
      intro succeeded record hrecord
      rcases List.mem_append.mp hrecord with h | h
      · exact hcalls record h
      · rw [List.mem_singleton.mp h]
        rfl
    unfold disconnectAttempts
    rw [ends_bind]
    refine ends_call _ (fun playback => ?_) fun playback message => ?_
    · exact ⟨rfl, _, hunder.called playback _ rfl, hvoice true⟩
    · exact ih (hunder.called playback _ rfl) (hvoice false)

omit [SnapshotPublisher S] in
theorem ends_disconnectForShutdown {a : Actor P S} {err : Failure → Actor P S → Prop} :
    Ends disconnectForShutdown a
      (fun _ a' => a'.model = a.model ∧ ∃ calls, Underway a a' calls ∧
        ∀ record ∈ calls, record.call.isVoice = true) err := by
  unfold disconnectForShutdown
  rw [ends_bind, ends_getModel]
  split
  · exact ⟨rfl, [], Underway.refl a, by simp⟩
  · exact ends_disconnectAttempts _ (Underway.refl a) (by simp)

omit [PlaybackPort P] in
/-- Committing that the player has left voice cannot fail once the timer is stopped. -/
theorem ends_finishLeaving (a₀ : Actor P S) {a : Actor P S} {calls : List CallRecord}
    {next : StateRevision} {ok : Except PlayerError PlayerSnapshot → Actor P S → Prop}
    {err : Failure → Actor P S → Prop}
    (hnext : a₀.model.revision.checkedNext = some next) (hmodel : a.model = a₀.model)
    (hpublished : a.published = a₀.published) (htimer : a.idleTimer.active = false)
    (hframe : Frame a₀ a calls)
    (h : ∀ snapshot reading a', a'.model = { clearDisconnected a₀.model with revision := next } →
      a'.published = a₀.published ++ [a'.model.snapshot reading] →
      a'.idleTimer = a.idleTimer → Frame a₀ a' calls → ok (.ok snapshot) a') :
    Ends (attempt (finishChange a₀.model.isIdleConnected next))
      { a with model := clearDisconnected a.model } ok err := by
  have hstopped : a.idleTimer.reconciled a₀.model.isIdleConnected
      (clearDisconnected a.model).isIdleConnected = (.ok (), a.idleTimer) :=
    reconciled_stopped htimer _
  refine ends_attempt (finishChange_ends hnext rfl hpublished ?_ ?_)
  · intro snapshot a' hcommit hconfig hrecent hcalls hgeneration
    obtain ⟨next', hnext', hmodel'⟩ := hcommit.revision
    have htimer' := hcommit.idleTimer
    rw [hstopped] at htimer'
    rw [Option.some.inj (hnext'.symm.trans hnext), hmodel] at hmodel'
    have hframe' : Frame a₀ a' calls :=
      hframe.congr hconfig hgeneration hcalls hrecent
    rcases hcommit.result with ⟨-, reading, -, hpublished'⟩ | ⟨⟨error, -, hresult⟩, -⟩
    · exact h snapshot reading a' hmodel' hpublished' htimer' hframe'
    · contradiction
  · intro failure a' hcommit
    rcases hcommit.result with ⟨-, reading, hresult, -⟩ | ⟨⟨error, hfailed, -⟩, -⟩
    · contradiction
    · rw [hstopped] at hfailed
      contradiction

omit [PlaybackPort P] in
theorem ends_clearForShutdown {a₀ a : Actor P S} {calls : List CallRecord}
    {ok : Unit → Actor P S → Prop} {err : Failure → Actor P S → Prop} (hframe : Frame a₀ a calls)
    (hcalls : ∀ record ∈ calls, record.call.isVoice = true) (hmodel : a.model = a₀.model)
    (hpublished : a.published = a₀.published) (htimer : a.idleTimer.active = false)
    (hphase : Phase a₀.model)
    (h : ∀ a', (∀ events, ShutDown a₀ ⟨none, a'.model.revision⟩ { a' with events := events }) →
      ok () a') : Ends clearForShutdown a ok err := by
  have hclosed : a₀.model.voiceChannelId = none ∨ a₀.model.revision.checkedNext = none →
      ok () a := by
    intro hreason
    refine h a fun events => ?_
    have hrevision : a.model.revision = a₀.model.revision := by rw [hmodel]
    rw [hrevision]
    exact .closed hmodel hpublished htimer hreason
      (hframe.congr rfl rfl rfl rfl) hcalls
  unfold clearForShutdown
  rw [ends_bind, ends_getModel]
  dsimp only
  rw [hmodel, ends_ite]
  split
  · rw [ends_bind]
    refine ends_attempt (ends_nextRevision (fun next hnext => ?_) fun hnone => ?_)
    · dsimp only
      rw [ends_bind, ends_modifyModel, ends_bind]
      rw [hmodel] at hnext
      refine ends_finishLeaving a₀ hnext hmodel hpublished htimer hframe ?_
      intro snapshot reading a' hmodel' hpublished' htimer' hframe'
      refine h a' fun events => ?_
      have hrevision : a'.model.revision = next := by rw [hmodel']
      rw [hrevision]
      exact .left next reading hnext hmodel' hpublished' (htimer' ▸ htimer)
        (hframe'.congr rfl rfl rfl rfl) hcalls
    · exact hclosed (Or.inr (hmodel ▸ hnone))
  · rename_i hclean
    refine hclosed (Or.inl ?_)
    cases hphase with
    | disconnected hvoice => exact hvoice
    | idle hvoice => simp [hvoice] at hclean
    | active hvoice => simp [hvoice] at hclean

/-- A shutdown of a coherent player ends in one of the three ways, and never panics. -/
theorem ends_gracefulShutdown {a : Actor P S} {err : Failure → Actor P S → Prop}
    (hphase : Phase a.model) : Ends gracefulShutdown a (ShutDown a) err := by
  unfold gracefulShutdown
  rw [ends_bind]
  refine ends_disconnectForShutdown.imp ?_ fun _ _ h => h
  rintro error a' ⟨hmodel, calls, hunder, hcalls⟩
  cases error with
  | some message =>
    show ShutDown a ⟨some message, a'.model.revision⟩ a'
    rw [hmodel]
    exact .refused message ⟨hmodel, hunder.idleTimer, hunder.published⟩ hunder.toFrame hcalls
  | none =>
    dsimp only
    rw [ends_bind, ends_get]
    have hclear : ∀ timer events, timer.active = false →
        Ends (do
          clearForShutdown
          let report := ⟨none, (← getModel).revision⟩
          send (.shutdown report)
          return report) { a' with idleTimer := timer, events := events } (ShutDown a) err := by
      intro timer events htimer
      rw [ends_bind]
      have hframe : Frame a { a' with idleTimer := timer, events := events } calls :=
        (hunder.congr rfl rfl rfl rfl)
      refine ends_clearForShutdown hframe hcalls hmodel hunder.published htimer hphase ?_
      intro a'' hdone
      exact hdone _
    by_cases hactive : a'.idleTimer.active = true
    · rw [if_pos hactive, ends_bind]
      refine ends_attempt (ends_cancelIdleTimer ?_ ?_)
      · intro generation events _
        exact hclear _ events (cancel_active _)
      · intro error events _
        exact hclear _ events (cancel_active _)
    · rw [if_neg hactive]
      exact hclear a'.idleTimer a'.events (Bool.eq_false_iff.mpr hactive)

/-- A player that has left voice and stopped its timer has nothing to shut down. -/
theorem ends_gracefulShutdown_left {a : Actor P S} {err : Failure → Actor P S → Prop}
    (hphase : Phase a.model) (hvoice : a.model.voiceChannelId = none)
    (htimer : a.idleTimer.active = false) :
    Ends gracefulShutdown a (fun _ a' => ∃ events, a' = { a with events := events }) err := by
  cases hphase with
  | idle hsome => simp [hvoice] at hsome
  | active hsome => simp [hvoice] at hsome
  | disconnected _ hstate hcurrent hqueue hhistory =>
    unfold gracefulShutdown disconnectForShutdown clearForShutdown
    simp only [ends_bind, ends_getModel, ends_get, hvoice, hstate, hcurrent, hqueue,
      Option.isNone_none, if_true, ends_pure, htimer, Bool.false_eq_true, if_false]
    exact ⟨_, rfl⟩

/-- Everything an idle expiration may do, and whether it ends the task. -/
inductive Expired (a : Actor P S) (generation : IdleGeneration) : Bool → Actor P S → Prop
  | stale (events : List PlayerEvent)
      (hstale : generation ≠ a.idleTimer.generation ∨ a.model.isIdleConnected = false) :
      Expired a generation false { a with events := events }
  | exhausted (hcurrent : generation = a.idleTimer.generation)
      (hidle : a.model.isIdleConnected = true) (hnext : a.model.revision.checkedNext = none) :
      Expired a generation false { a with idleTimer := a.idleTimer.markFired generation }
  | rearmed {a' : Actor P S} (hcurrent : generation = a.idleTimer.generation)
      (hidle : a.model.isIdleConnected = true) (hmodel : a'.model = a.model)
      (hpublished : a'.published = a.published)
      (htimer : a'.idleTimer = (a.idleTimer.markFired generation).arm.2)
      (hframe : Frame a a' [⟨.disconnect, false⟩]) : Expired a generation false a'
  | left {a' : Actor P S} (next : StateRevision) (reading : Reading)
      (hcurrent : generation = a.idleTimer.generation) (hidle : a.model.isIdleConnected = true)
      (hnext : a.model.revision.checkedNext = some next)
      (hmodel : a'.model = { clearDisconnected a.model with revision := next })
      (hpublished : a'.published = a.published ++ [a'.model.snapshot reading])
      (htimer : a'.idleTimer = a.idleTimer.markFired generation)
      (hframe : Frame a a' [⟨.disconnect, true⟩]) : Expired a generation true a'

theorem ends_handleIdleExpiration {a : Actor P S} {generation : IdleGeneration}
    {err : Failure → Actor P S → Prop} :
    Ends (handleIdleExpiration generation) a (Expired a generation) err := by
  unfold handleIdleExpiration
  rw [ends_bind, ends_get]
  dsimp only
  rw [ends_ite]
  split
  · rename_i hstale
    refine .stale _ ?_
    simpa using hstale
  · rename_i hcurrent
    obtain ⟨hgeneration, hidle⟩ : generation = a.idleTimer.generation ∧
        a.model.isIdleConnected = true := by simpa using hcurrent
    have hfired : (a.idleTimer.markFired generation).active = false := by
      simp [IdleTimer.markFired, hgeneration]
    have hframe : ∀ playback succeeded,
        Frame a (called { a with idleTimer := a.idleTimer.markFired generation } playback
          ⟨.disconnect, succeeded⟩) [⟨.disconnect, succeeded⟩] := by
      intro playback succeeded
      have hunder := (Underway.refl a).called playback ⟨.disconnect, succeeded⟩ rfl
      exact (hunder.congr rfl rfl rfl rfl)
    rw [ends_bind, ends_set, ends_bind]
    refine ends_attempt (ends_nextRevision (fun next hnext => ?_) fun hnone => ?_)
    · dsimp only
      rw [ends_bind]
      refine ends_background _ _ (fun playback => ?_) fun playback message => ?_
      · rw [if_pos rfl, ends_bind, ends_getModel, ends_bind, ends_modifyModel, ends_bind]
        refine ends_finishLeaving a hnext rfl rfl hfired (hframe playback true) ?_
        intro snapshot reading a' hmodel hpublished htimer hframe
        exact .left next reading hgeneration hidle hnext hmodel hpublished htimer
          (hframe.congr rfl rfl rfl rfl)
      · rw [if_neg Bool.false_ne_true, ends_bind]
        have hframe := hframe playback false
        refine ends_attempt (ends_armIdleTimer ?_ ?_)
        · intro armed events _
          exact .rearmed hgeneration hidle rfl rfl rfl
            (hframe.congr rfl rfl rfl rfl)
        · intro error events _
          exact .rearmed hgeneration hidle rfl rfl rfl
            (hframe.congr rfl rfl rfl rfl)
    · exact .exhausted hgeneration hidle hnone

end Task

/-- What a request wants of the model, unless it is a command or ends the task. -/
def PlayerRequest.cause : PlayerRequest → Option Cause
  | .connect channelId _ => some (.connect channelId)
  | .enqueue track _ => some (.enqueue [track])
  | .enqueueBatch tracks _ => some (.enqueue tracks)
  | .playbackEnded identity reason => some (.playbackEnded identity reason)
  | .reconcileVoiceChannel channelId => some (.observed channelId)
  | .apply _ | .snapshot | .shutdown => none

/-- Everything one turn may do to the actor `a` of a running task. -/
inductive Turned (a : Actor P S) : Input → Reply → Player P S → Prop
  | answered {request : PlayerRequest} {cause : Cause} {a' : Actor P S}
      {result : Except PlayerError PlayerSnapshot} (hcause : request.cause = some cause)
      (houtcome : Outcome a cause (result.mapError Failure.error) a') :
      Turned a (.request request) (.mutation result) ⟨a', .running⟩
  | replayed {envelope : CommandEnvelope}
      (hknown : envelope.idempotencyKey ∈ a.recentIdempotency) :
      Turned a (.request (.apply envelope)) (.mutation (.ok (a.model.snapshot a.clock.head)))
        ⟨{ a with clock := a.clock.tail }, .running⟩
  | accepted {envelope : CommandEnvelope} {snapshot : PlayerSnapshot} {a' : Actor P S}
      (haccepted : Accepted a envelope (.ok snapshot) a') :
      Turned a (.request (.apply envelope)) (.mutation (.ok snapshot))
        ⟨{ a' with recentIdempotency :=
            rememberIdempotency a'.recentIdempotency envelope.idempotencyKey }, .running⟩
  | invalid {envelope : CommandEnvelope} (error : CommandValidationError)
      (hunknown : envelope.idempotencyKey ∉ a.recentIdempotency) :
      Turned a (.request (.apply envelope)) (.mutation (.error (.invalidCommand error)))
        ⟨{ a with clock := a.clock.tail.tail }, .running⟩
  | failed {envelope : CommandEnvelope} {error : PlayerError} {a' : Actor P S}
      (haccepted : Accepted a envelope (.error (.error error)) a') :
      Turned a (.request (.apply envelope)) (.mutation (.error error)) ⟨a', .running⟩
  | observed :
      Turned a (.request .snapshot) (.snapshot (a.model.snapshot a.clock.head))
        ⟨{ a with clock := a.clock.tail }, .running⟩
  | stayed {generation : IdleGeneration} {a' : Actor P S}
      (hexpired : Expired a generation false a') :
      Turned a (.idleExpired generation) .none ⟨a', .running⟩
  | expired {generation : IdleGeneration} {a' : Actor P S} (events : List PlayerEvent)
      (hexpired : Expired a generation true a') :
      Turned a (.idleExpired generation) .none ⟨{ a' with events := events }, .returned⟩
  | shutDown {report : ShutdownReport} {a' : Actor P S} (hshut : ShutDown a report a') :
      Turned a (.request .shutdown) (.shutdown report)
        ⟨a', if report.disconnectError.isNone then .returned else .running⟩
  | requestsClosed {report : ShutdownReport} {a' : Actor P S} (hshut : ShutDown a report a') :
      Turned a .requestsClosed .none ⟨a', .returned⟩

section Turns

variable [PlaybackPort P] [SnapshotPublisher S]

omit [PlaybackPort P] [SnapshotPublisher S] in
theorem ends_reply {a : Actor P S} {cause : Cause} {handler : ActorM P S PlayerSnapshot}
    {ok : Reply → Actor P S → Prop} {err : Failure → Actor P S → Prop}
    (hconforms : Conforms a cause handler)
    (h : ∀ result a', Outcome a cause (result.mapError Failure.error) a' →
      ok (.mutation result) a') : Ends (reply handler) a ok err := by
  unfold reply
  rw [ends_bind]
  refine ends_attempt (hconforms.imp ?_ ?_)
  · intro snapshot a' houtcome
    exact h (.ok snapshot) a' houtcome
  · intro failure a' houtcome
    cases failure with
    | error error => exact h (.error error) a' houtcome
    | panic message => exact absurd houtcome Outcome.not_panic

theorem ends_turn (input : Input) {a : Actor P S} {err : Failure → Actor P S → Prop}
    (hcoherent : Coherent a.config.maxQueuedTracks a.model) :
    Ends (turn input) a (fun answer a' =>
      Turned a input answer.1 ⟨a', if answer.2 then .returned else .running⟩) err := by
  cases input with
  | request request =>
    cases request with
    | connect channelId expectedRevision =>
      refine (ends_bind _ _).mpr (ends_reply (conforms_connect channelId expectedRevision) ?_)
      exact fun result a' houtcome => .answered rfl houtcome
    | enqueue track expectedRevision =>
      refine (ends_bind _ _).mpr (ends_reply (conforms_enqueue track expectedRevision) ?_)
      exact fun result a' houtcome => .answered rfl houtcome
    | enqueueBatch tracks expectedRevision =>
      refine (ends_bind _ _).mpr (ends_reply (conforms_enqueueBatch tracks expectedRevision) ?_)
      exact fun result a' houtcome => .answered rfl houtcome
    | apply envelope =>
      refine (ends_bind _ _).mpr ((ends_bind _ _).mpr (ends_attempt ?_))
      refine ends_applyCommand envelope hcoherent ?_ ?_ ?_ ?_
      · exact fun hknown => .replayed hknown
      · exact fun snapshot a' haccepted => .accepted haccepted
      · exact fun error hunknown => .invalid error hunknown
      · intro failure a' haccepted
        cases failure with
        | error error => exact .failed haccepted
        | panic message => exact absurd haccepted.outcome Outcome.not_panic
    | playbackEnded identity reason =>
      refine (ends_bind _ _).mpr (ends_reply (conforms_playbackEnded identity reason) ?_)
      exact fun result a' houtcome => .answered rfl houtcome
    | reconcileVoiceChannel channelId =>
      refine (ends_bind _ _).mpr (ends_reply (conforms_reconcileVoiceChannel channelId) ?_)
      exact fun result a' houtcome => .answered rfl houtcome
    | snapshot => exact .observed
    | shutdown =>
      refine (ends_bind _ _).mpr ((ends_gracefulShutdown hcoherent.phase).imp ?_ fun _ _ h => h)
      exact fun report a' hshut => .shutDown hshut
  | idleExpired generation =>
    refine (ends_bind _ _).mpr (ends_handleIdleExpiration.imp ?_ fun _ _ h => h)
    intro ends a' hexpired
    cases ends with
    | false => exact .stayed hexpired
    | true =>
      cases hexpired with
      | left next reading hcurrent hidle hnext hmodel hpublished htimer hframe =>
        have hfired : a'.idleTimer.active = false := by
          rw [htimer]
          simp [IdleTimer.markFired, hcurrent]
        have hphase : Phase a'.model := by
          rw [hmodel]
          exact .disconnected rfl rfl rfl rfl rfl
        have hvoice : a'.model.voiceChannelId = none := by
          rw [hmodel]
          rfl
        rw [if_pos rfl, ends_bind]
        refine (ends_gracefulShutdown_left hphase hvoice hfired).imp ?_ fun _ _ h => h
        rintro report a'' ⟨events, rfl⟩
        exact .expired events
          (.left next reading hcurrent hidle hnext hmodel hpublished htimer hframe)
  | requestsClosed =>
    refine (ends_bind _ _).mpr ((ends_gracefulShutdown hcoherent.phase).imp ?_ fun _ _ h => h)
    exact fun report a' hshut => .requestsClosed hshut

/-- The step of a running task is a turn. -/
theorem Player.step_turned {player : Player P S} (hrunning : player.status = .running)
    (hcoherent : Coherent player.actor.config.maxQueuedTracks player.actor.model)
    (input : Input) : Turned player.actor input (player.step input).1 (player.step input).2 := by
  have hturn : Ends (turn input) player.actor (fun answer a' =>
      Turned player.actor input answer.1 ⟨a', if answer.2 then .returned else .running⟩)
      (fun _ _ => False) := ends_turn input hcoherent
  unfold Player.step
  rw [hrunning]
  dsimp only
  cases hresult : turn input player.actor with
  | ok answer a' => exact hturn.of_ok hresult
  | error failure a' => exact (hturn.of_error hresult).elim

/-- What holds however the handler of a request ends, holds of the actor after the step. -/
theorem Player.step_handled {player : Player P S} {request : PlayerRequest}
    {handler : ActorM P S PlayerSnapshot} {Q : Actor P S → Prop}
    (hrunning : player.status = .running)
    (hrequest : handleRequest request = do return (← reply handler, false))
    (h : Ends handler player.actor (fun _ => Q) (fun _ => Q)) :
    Q (player.step (.request request)).2.actor := by
  have hturn : Ends (turn (.request request)) player.actor (fun _ => Q) (fun _ => Q) := by
    show Ends (handleRequest request) player.actor (fun _ => Q) (fun _ => Q)
    rw [hrequest, ends_bind]
    unfold reply
    rw [ends_bind]
    refine ends_attempt (h.imp (fun _ _ h => h) fun failure a' h => ?_)
    cases failure with
    | error error => exact h
    | panic message => exact h
  unfold Player.step
  rw [hrunning]
  dsimp only
  cases hresult : turn (.request request) player.actor with
  | ok answer a' => exact hturn.of_ok hresult
  | error failure a' => exact hturn.of_error hresult

end Turns

end PepeAudio
