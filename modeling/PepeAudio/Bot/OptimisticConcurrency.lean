import PepeAudio.Bot.DashboardCommandExecutor
import PepeAudio.Player.Revisions

/-!
# Optimistic concurrency of the dashboard

A batch is committed only at the revision the execution read last. That revision
follows the expected one unless somebody else commits while the execution has
been let through by its check and has yet to read the revision again.
-/
namespace PepeAudio

open Actor

variable {P S : Type} [PlaybackPort P] [SnapshotPublisher S]

omit [PlaybackPort P] [SnapshotPublisher S] in
theorem reply_conflict {a : Actor P S} {expected : StateRevision}
    {rest : Unit → ActorM P S PlayerSnapshot} (h : expected ≠ a.model.revision) :
    reply (checkRevision expected >>= rest) a =
      .ok (.mutation (.error (.revisionConflict expected.get a.model.revision.get))) a := by
  have hcheck : checkRevision expected a =
      .error (.error (.revisionConflict expected.get a.model.revision.get)) a := by
    show (if expected = a.model.revision then pure () else
      raise (.revisionConflict expected.get a.model.revision.get) : ActorM P S Unit) a = _
    rw [if_neg h]
    rfl
  have hbind : (checkRevision expected >>= rest) a =
      .error (.error (.revisionConflict expected.get a.model.revision.get)) a := by
    show EStateM.bind (checkRevision expected) rest a = _
    rw [EStateM.bind, hcheck]
  show EStateM.bind (attempt (checkRevision expected >>= rest)) _ a = _
  rw [EStateM.bind, attempt, hbind]
  rfl

/-- A request with another revision than the player's is refused and changes nothing. -/
theorem step_conflict {player : Player P S} (request : PlayerRequest) {expected : StateRevision}
    {rest : Unit → ActorM P S PlayerSnapshot}
    (hrequest : handleRequest request =
      (do return (← reply (checkRevision expected >>= rest), false) : ActorM P S (Reply × Bool)))
    (hconflict : expected ≠ player.actor.model.revision) :
    (player.step (.request request)).2 = player ∧
      ∃ error, mutationResult (player.step (.request request)).1 = .error error := by
  unfold Player.step
  cases hstatus : player.status with
  | running =>
    have hturn : turn (.request request) player.actor = .ok
        (.mutation (.error (.revisionConflict expected.get player.actor.model.revision.get)), false)
        player.actor := by
      show handleRequest request player.actor = _
      rw [hrequest]
      show EStateM.bind (reply (checkRevision expected >>= rest)) _ player.actor = _
      rw [EStateM.bind, reply_conflict hconflict]
      rfl
    dsimp only
    rw [hturn]
    refine ⟨?_, _, rfl⟩
    rw [← hstatus]
    rfl
  | returned | panicked => exact ⟨rfl, _, rfl⟩

theorem step_snapshot (player : Player P S) :
    (player.step (.request .snapshot)).2.actor.model = player.actor.model ∧
      ∀ snapshot, snapshotResult (player.step (.request .snapshot)).1 = .ok snapshot →
        snapshot.revision = player.actor.model.revision := by
  unfold Player.step
  cases player.status with
  | running =>
    refine ⟨rfl, ?_⟩
    intro snapshot hsnapshot
    rw [← Except.ok.inj hsnapshot]
    rfl
  | returned | panicked => exact ⟨rfl, fun snapshot hsnapshot => nomatch hsnapshot⟩

def Execution.isConnected : Execution → Bool
  | connected _ => true
  | _ => false

namespace Dashboard

def revision (dashboard : Dashboard P S) : ℕ := dashboard.player.actor.model.revision.toNat

/-- The player handles the connect that the execution asked for. -/
def isOwnConnect (t : Taken (Dashboard P S) ExecutorEvent) : Bool :=
  match t.before.execution, t.label with
  | .connecting _ _ _, .handled _ => true
  | _, _ => false

/-- A mutation is committed that is not the execution's own connect. -/
def OtherCommit (t : Taken (Dashboard P S) ExecutorEvent) : Prop :=
  t.before.revision ≠ t.after.revision ∧ isOwnConnect t = false

instance (t : Taken (Dashboard P S) ExecutorEvent) : Decidable (OtherCommit t) :=
  inferInstanceAs (Decidable (_ ∧ _))

/-- Nobody else has committed since the expected revision. -/
def NoCommitSince (envelope : CommandEnvelope)
    (taken : List (Taken (Dashboard P S) ExecutorEvent)) : Prop :=
  ∀ t ∈ taken, OtherCommit t → t.before.revision < envelope.expectedRevision.toNat

/-- Nobody else has committed while the execution waited for the revision to enqueue with. -/
def Undisturbed (taken : List (Taken (Dashboard P S) ExecutorEvent)) : Prop :=
  ∀ t ∈ taken, OtherCommit t → t.before.execution.isConnected = false

instance (envelope : CommandEnvelope) (taken : List (Taken (Dashboard P S) ExecutorEvent)) :
    Decidable (NoCommitSince envelope taken) :=
  inferInstanceAs (Decidable (∀ t ∈ taken, OtherCommit t → _))

instance (taken : List (Taken (Dashboard P S) ExecutorEvent)) : Decidable (Undisturbed taken) :=
  inferInstanceAs (Decidable (∀ t ∈ taken, OtherCommit t → _))

/-- The player handles the batch of the execution and commits it. -/
def Appends (t : Taken (Dashboard P S) ExecutorEvent) : Prop :=
  (∃ batch revision now, t.before.execution = .enqueueing batch revision ∧
    t.label = .handled now) ∧ t.before.revision ≠ t.after.revision

/-- The commits since the expected revision are those made before the second reading. -/
def Matched (envelope : CommandEnvelope) (taken : List (Taken (Dashboard P S) ExecutorEvent)) :
    Prop :=
  ∀ t ∈ taken, OtherCommit t →
    (t.before.revision < envelope.expectedRevision.toNat ↔
      t.before.execution.isConnected = false)

/-- What a run up to some revision says about the stage of its execution. -/
def StageTraced (envelope : CommandEnvelope) (taken : List (Taken (Dashboard P S) ExecutorEvent))
    (revision : ℕ) : Execution → Prop
  | .connecting _ _ expected =>
    expected = envelope.expectedRevision ∧ expected.toNat ≤ revision ∧
      (revision = expected.toNat → Matched envelope taken)
  | .connected _ => envelope.expectedRevision.toNat ≤ revision ∧ Matched envelope taken
  | .enqueueing _ expected =>
    expected.toNat ≤ revision ∧ (revision = expected.toNat → Matched envelope taken)
  | .discarding _ _ | .finished _ => True
  | _ => ∀ t ∈ taken, t.before.execution.isConnected = false

variable {envelope : CommandEnvelope} {taken : List (Taken (Dashboard P S) ExecutorEvent)}
  {dashboard : Dashboard P S} {u : Taken (Dashboard P S) ExecutorEvent}

omit [PlaybackPort P] [SnapshotPublisher S] in
theorem Matched.snoc (h : Matched envelope taken)
    (hlast : OtherCommit u → (u.before.revision < envelope.expectedRevision.toNat ↔
      u.before.execution.isConnected = false)) : Matched envelope (taken ++ [u]) := by
  intro t ht hcommit
  rcases List.mem_append.mp ht with ht | ht
  · exact h t ht hcommit
  · obtain rfl := List.mem_singleton.mp ht
    exact hlast hcommit

omit [PlaybackPort P] [SnapshotPublisher S] in
theorem unconnected_snoc (h : ∀ t ∈ taken, t.before.execution.isConnected = false)
    (hlast : u.before.execution.isConnected = false) :
    ∀ t ∈ taken ++ [u], t.before.execution.isConnected = false := by
  intro t ht
  rcases List.mem_append.mp ht with ht | ht
  · exact h t ht
  · obtain rfl := List.mem_singleton.mp ht
    exact hlast

omit [PlaybackPort P] [SnapshotPublisher S] in
/-- An execution that does not move while the player goes on. -/
theorem StageTraced.wait (h : StageTraced envelope taken u.before.revision u.before.execution)
    (hle : u.before.revision ≤ u.after.revision) :
    StageTraced envelope (taken ++ [u]) u.after.revision u.before.execution := by
  have hquiet : u.after.revision = u.before.revision → Matched envelope taken →
      Matched envelope (taken ++ [u]) := by
    intro hsame hmatched
    apply hmatched.snoc
    intro hcommit
    exact absurd hsame.symm hcommit.1
  cases hexecution : u.before.execution with
  | connecting batch channel expected =>
    rw [hexecution] at h
    obtain ⟨heq, hlower, hmatched⟩ := h
    refine ⟨heq, by omega, ?_⟩
    intro hreached
    exact hquiet (by omega) (hmatched (by omega))
  | connected batch =>
    rw [hexecution] at h
    obtain ⟨hlower, hmatched⟩ := h
    refine ⟨by omega, hmatched.snoc ?_⟩
    intro hcommit
    -- A commit of this moment is late, and the execution is at the stage that tells so.
    rw [hexecution]
    constructor
    · intro hearly
      omega
    · intro hnot
      contradiction
  | enqueueing batch expected =>
    rw [hexecution] at h
    obtain ⟨hlower, hmatched⟩ := h
    refine ⟨by omega, ?_⟩
    intro hreached
    exact hquiet (by omega) (hmatched (by omega))
  | discarding | finished => trivial
  | received | opened | validated | resolved | authorized =>
    rw [hexecution] at h
    apply unconnected_snoc h
    rw [hexecution]
    rfl

omit [PlaybackPort P] [SnapshotPublisher S] in
/-- An answer of the surroundings, while the player does nothing. -/
theorem StageTraced.advance {revision : ℕ} {execution : Execution} (event : ExecutorEvent)
    (h : StageTraced envelope taken revision execution) :
    StageTraced envelope taken revision (execution.advance envelope event) := by
  fun_cases Execution.advance envelope execution event <;> first | exact h | exact trivial

/-- The revisions of a run never go back. -/
def Bounded (taken : List (Taken (Dashboard P S) ExecutorEvent)) (dashboard : Dashboard P S) :
    Prop :=
  ∀ t ∈ taken, t.before.revision ≤ t.after.revision ∧ t.after.revision ≤ dashboard.revision

omit [PlaybackPort P] [SnapshotPublisher S] in
/-- At the expected revision nobody has committed since. -/
theorem matched_of_revision (hbounded : Bounded taken dashboard)
    (hrevision : dashboard.revision = envelope.expectedRevision.toNat)
    (hunconnected : ∀ t ∈ taken, t.before.execution.isConnected = false) :
    Matched envelope taken := by
  intro t ht hcommit
  obtain ⟨hle, hreached⟩ := hbounded t ht
  have hmoved := hcommit.1
  have hearly : t.before.revision < envelope.expectedRevision.toNat := by omega
  exact iff_of_true hearly (hunconnected t ht)

/-- The player handles a request of the execution. -/
theorem StageTraced.handled (media : MediaResolver) (now : UnixTimeMillis) {player : Player P S}
    {execution : Execution} {request : PlayerRequest} (hbounded : Bounded taken ⟨player, execution⟩)
    (hrequest : execution.request = some request)
    (hbefore : u.before = ⟨player, execution⟩) (hlabel : u.label = .handled now)
    (hafter : u.after.player = (player.step (.request request)).2)
    (hle : u.before.revision ≤ u.after.revision)
    (h : StageTraced envelope taken player.actor.model.revision.toNat execution) :
    StageTraced envelope (taken ++ [u]) u.after.revision
      (execution.answered media envelope now (player.step (.request request)).1) := by
  have hsnapshot := step_snapshot player
  have hstart : u.before.revision = player.actor.model.revision.toNat := by
    rw [hbefore]
    rfl
  -- Reading a snapshot commits nothing.
  have hread : request = .snapshot → u.after.revision = player.actor.model.revision.toNat := by
    rintro rfl
    rw [revision, hafter, hsnapshot.1]
  have hquiet : request = .snapshot → Matched envelope taken → Matched envelope (taken ++ [u]) := by
    intro hsame hmatched
    apply hmatched.snoc
    intro hcommit
    exact absurd (hstart.trans (hread hsame).symm) hcommit.1
  cases execution with
  | received | validated | resolved | discarding | finished => contradiction
  | opened =>
    have hunconnected : ∀ t ∈ taken ++ [u], t.before.execution.isConnected = false := by
      apply unconnected_snoc h
      rw [hbefore]
      rfl
    dsimp only [Execution.answered]
    split
    · trivial
    · split
      · trivial
      · split
        · trivial
        · exact hunconnected
  | authorized batch channel =>
    obtain rfl := (Option.some.inj hrequest).symm
    have hsame := hread rfl
    dsimp only [Execution.answered]
    split
    · trivial
    · rename_i snapshot hresult
      have hrevision := hsnapshot.2 snapshot hresult
      split
      · trivial
      · rename_i hexpected
        rw [not_not] at hexpected
        have hreached : player.actor.model.revision.toNat = envelope.expectedRevision.toNat := by
          rw [← hrevision, hexpected]
        have hmatched := hquiet rfl (matched_of_revision hbounded hreached h)
        split
        · refine ⟨hexpected, ?_, fun _ => hmatched⟩
          rw [hsame, hrevision]
        · split
          · exact ⟨by omega, hmatched⟩
          · trivial
  | connecting batch channel expected =>
    obtain rfl := (Option.some.inj hrequest).symm
    dsimp only [Execution.answered]
    split
    · trivial
    · rename_i snapshot hresult
      have hexpected : expected = player.actor.model.revision := by
        by_contra hconflict
        obtain ⟨-, error, herror⟩ := step_conflict (.connect channel expected) rfl
          hconflict
        rw [hresult] at herror
        contradiction
      obtain ⟨heq, hlower, hmatched⟩ := h
      have hreached := hmatched (congrArg StateRevision.toNat hexpected.symm)
      have hown : isOwnConnect u = true := by
        rw [isOwnConnect, hbefore, hlabel]
      refine ⟨?_, hreached.snoc ?_⟩
      · rw [← heq]
        omega
      · intro hcommit
        have hother := hcommit.2
        rw [hown] at hother
        contradiction
  | connected batch =>
    obtain rfl := (Option.some.inj hrequest).symm
    have hsame := hread rfl
    dsimp only [Execution.answered]
    split
    · trivial
    · rename_i snapshot hresult
      have hrevision := hsnapshot.2 snapshot hresult
      refine ⟨?_, fun _ => hquiet rfl h.2⟩
      rw [hsame, hrevision]
  | enqueueing batch expected =>
    dsimp only [Execution.answered]
    split <;> trivial

variable {media : MediaResolver} {setup : PlayerSetup P S}

theorem step_handled (media : MediaResolver) (envelope : CommandEnvelope) (now : UnixTimeMillis)
    {request : PlayerRequest} (hrequest : dashboard.execution.request = some request) :
    step media envelope dashboard (.handled now) =
      ⟨(dashboard.player.step (.request request)).2,
        dashboard.execution.answered media envelope now
          (dashboard.player.step (.request request)).1⟩ := by
  simp only [step, hrequest]

theorem step_unrequested (media : MediaResolver) (envelope : CommandEnvelope) (now : UnixTimeMillis)
    (hrequest : dashboard.execution.request = none) :
    step media envelope dashboard (.handled now) = dashboard := by
  simp only [step, hrequest]

/-- Every event either gives the player an input or leaves it alone. -/
theorem step_player (media : MediaResolver) (envelope : CommandEnvelope)
    (dashboard : Dashboard P S) (event : ExecutorEvent) :
    (∃ input, (step media envelope dashboard event).player = (dashboard.player.step input).2) ∨
      (step media envelope dashboard event).player = dashboard.player := by
  cases event with
  | other input => exact Or.inl ⟨input, rfl⟩
  | handled now =>
    cases hrequest : dashboard.execution.request with
    | none => exact Or.inr (by rw [step_unrequested media envelope now hrequest])
    | some request =>
      exact Or.inl ⟨.request request, by rw [step_handled media envelope now hrequest]⟩
  | opened | resolved | authorized | discarded => exact Or.inr rfl

theorem sound_step {config : PlayerConfig} (h : dashboard.player.Sound config)
    (media : MediaResolver) (envelope : CommandEnvelope) (event : ExecutorEvent) :
    (step media envelope dashboard event).player.Sound config ∧
      dashboard.revision ≤ (step media envelope dashboard event).revision := by
  rcases step_player media envelope dashboard event with ⟨input, hplayer⟩ | hplayer
  · have hfollows : Follows Player.step dashboard.player (input, (dashboard.player.step input).1)
        (dashboard.player.step input).2 := rfl
    rw [revision, revision, hplayer]
    exact ⟨h.next hfollows, revision_le_of_step h hfollows⟩
  · rw [revision, revision, hplayer]
    exact ⟨h, le_rfl⟩

/-- What holds after every run. -/
structure Traced (envelope : CommandEnvelope) (config : PlayerConfig)
    (taken : List (Taken (Dashboard P S) ExecutorEvent)) (dashboard : Dashboard P S) : Prop where
  sound : dashboard.player.Sound config
  bounded : Bounded taken dashboard
  stage : StageTraced envelope taken dashboard.revision dashboard.execution

theorem Traced.step {config : PlayerConfig} (h : Traced envelope config taken dashboard)
    (media : MediaResolver) (event : ExecutorEvent) :
    Traced envelope config
      (taken ++ [⟨dashboard, event, Dashboard.step media envelope dashboard event⟩])
      (Dashboard.step media envelope dashboard event) := by
  obtain ⟨hsound, hle⟩ := sound_step h.sound media envelope event
  refine ⟨hsound, ?_, ?_⟩
  · intro t ht
    rcases List.mem_append.mp ht with ht | ht
    · obtain ⟨hordered, hreached⟩ := h.bounded t ht
      exact ⟨hordered, le_trans hreached hle⟩
    · obtain rfl := List.mem_singleton.mp ht
      exact ⟨hle, le_rfl⟩
  · have hstage := h.stage
    have hwait := hstage.wait
      (u := ⟨dashboard, event, Dashboard.step media envelope dashboard event⟩) hle
    cases event with
    | other input => exact hwait
    | opened | resolved | authorized | discarded => exact hwait.advance _
    | handled now =>
      cases hrequest : dashboard.execution.request with
      | none =>
        rw [step_unrequested media envelope now hrequest] at hwait ⊢
        exact hwait
      | some request =>
        rw [step_handled media envelope now hrequest] at hle ⊢
        exact StageTraced.handled media now h.bounded hrequest rfl rfl rfl hle h.stage

theorem Runs.traced (run : Runs media envelope setup taken dashboard) :
    Traced envelope setup.config taken dashboard := by
  refine run.history (I := fun taken dashboard => Traced envelope setup.config taken dashboard)
    ?_ ?_
  · have hsound := PlayerSetup.Runs.sound (Run.nil : setup.Runs [] setup.player)
    exact ⟨hsound, by simp [Bounded], by simp [StageTraced, start]⟩
  · intro taken dashboard event after _ htraced hstep
    have hnext := htraced.step media event
    rw [hstep] at hnext
    exact hnext

/-- A batch is appended at the expected revision, apart from the execution's own connect, exactly
if nobody else has committed between the execution's check and its second reading. -/
theorem append_fresh_iff (run : Runs media envelope setup taken dashboard) (now : UnixTimeMillis)
    (happend : Appends ⟨dashboard, .handled now, step media envelope dashboard (.handled now)⟩) :
    NoCommitSince envelope taken ↔ Undisturbed taken := by
  obtain ⟨⟨batch, expected, now', hexecution, -⟩, hcommit⟩ := happend
  have htraced := Runs.traced run
  have hstage := htraced.stage
  rw [hexecution] at hstage
  -- The player has accepted the batch, so its revision is the one that was read.
  have hexpected : expected = dashboard.player.actor.model.revision := by
    by_contra hconflict
    obtain ⟨hsame, -⟩ := step_conflict (.enqueueBatch batch.tracks expected) rfl
      hconflict
    have hrequest : dashboard.execution.request = some (.enqueueBatch batch.tracks expected) :=
      congrArg Execution.request hexecution
    apply hcommit
    dsimp only
    rw [step_handled media envelope now hrequest, revision, revision, hsame]
  have hmatched := hstage.2 (congrArg StateRevision.toNat hexpected.symm)
  constructor
  · intro hfresh t ht hother
    exact (hmatched t ht hother).mp (hfresh t ht hother)
  · intro hundisturbed t ht hother
    exact (hmatched t ht hother).mpr (hundisturbed t ht hother)

/-- A dashboard envelope for a scripted player. -/
def dashboardEnvelope (expectedRevision : UInt64) : CommandEnvelope :=
  { CommandEnvelope.scripted 1 expectedRevision (.enqueueMedia "track") with
    actorUserId := some ⟨.seven⟩ }

def voiceChannel : ChannelId := ⟨⟨5, by decide⟩⟩

/-- An execution up to the comparison of the revisions, of which each takes one track. -/
def upToCheck : List ExecutorEvent :=
  [.opened true, .handled ⟨0⟩, .resolved (.ok ⟨[.scripted 1]⟩),
    .authorized .allowed (some voiceChannel), .handled ⟨0⟩]

def scriptedRun (expectedRevision : UInt64) (events : List ExecutorEvent) :
    List (Taken (Dashboard ScriptedPlayback Unit) ExecutorEvent) ×
      Dashboard ScriptedPlayback Unit :=
  replay (step ⟨10, 10⟩ (dashboardEnvelope expectedRevision)) (start (.scripted [])) events

/-- The player has been connected and left again; the execution connects it itself. -/
def ownConnect : List ExecutorEvent :=
  [.other (.request (.connect voiceChannel ⟨0⟩)),
    .other (.request (.reconcileVoiceChannel none))] ++
    upToCheck ++ [.handled ⟨0⟩, .handled ⟨0⟩]

theorem append_fresh_iff_ownConnect :
    (scriptedRun 2 ownConnect).2.revision = 3 ∧
      NoCommitSince (dashboardEnvelope 2) (scriptedRun 2 ownConnect).1 :=
  ⟨by decide +kernel, (append_fresh_iff
    (run_replay (step ⟨10, 10⟩ (dashboardEnvelope 2)) (start (.scripted [])) ownConnect)
    ⟨0⟩ ⟨⟨⟨[.scripted 1]⟩, ⟨3⟩, ⟨0⟩, by decide +kernel, rfl⟩, by decide +kernel⟩).mpr
      (by decide +kernel)⟩

/-- Somebody else enqueues a track between the two readings. -/
def overtaken : List ExecutorEvent :=
  [.other (.request (.connect voiceChannel ⟨0⟩))] ++ upToCheck ++
    [.other (.request (.enqueue (.scripted 2) ⟨1⟩)), .handled ⟨0⟩]

theorem append_overtaken :
    Appends ⟨(scriptedRun 1 overtaken).2, .handled ⟨0⟩,
      step ⟨10, 10⟩ (dashboardEnvelope 1) (scriptedRun 1 overtaken).2 (.handled ⟨0⟩)⟩ ∧
      ¬ NoCommitSince (dashboardEnvelope 1) (scriptedRun 1 overtaken).1 :=
  ⟨⟨⟨⟨[.scripted 1]⟩, ⟨2⟩, ⟨0⟩, by decide +kernel, rfl⟩, by decide +kernel⟩, by decide +kernel⟩

end Dashboard

end PepeAudio
