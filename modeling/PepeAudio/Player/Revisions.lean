import PepeAudio.Lib.Versioned
import PepeAudio.Player.Safety

/-!
# Revisions and failed requests

A turn keeps the model or changes it together with its revision, and every
snapshot it lets out shows the model it leaves behind. A request that returns an
error has changed nothing at all, unless the generations of the idle timer have
run out.
-/
namespace PepeAudio

open Actor

variable {P S : Type}

/-- A snapshot without the observation time and the position of the current track. -/
def PlayerSnapshot.timeless (snapshot : PlayerSnapshot) : PlayerSnapshot :=
  { snapshot with
    observedAt := ⟨0⟩
    currentTrack := snapshot.currentTrack.map fun track => { track with positionMs := 0 } }

/-- What all snapshots of one model have in common. -/
def PlayerModel.timeless (model : PlayerModel) : PlayerSnapshot :=
  (model.snapshot ⟨⟨0⟩, 0⟩).timeless

theorem PlayerModel.timeless_snapshot (model : PlayerModel) (reading : Reading) :
    (model.snapshot reading).timeless = model.timeless := by
  unfold PlayerModel.timeless PlayerSnapshot.timeless PlayerModel.snapshot
  cases model.current <;> rfl

/-- A snapshot as an observation of the model. -/
def PlayerSnapshot.observation (snapshot : PlayerSnapshot) : ℕ × PlayerSnapshot :=
  (snapshot.revision.toNat, snapshot.timeless)

/-- The snapshots a caller gets with a reply. -/
def Reply.snapshots : Reply → List PlayerSnapshot
  | .mutation (.ok answer) => [answer]
  | .snapshot answer => [answer]
  | _ => []

/-- How the model and the published snapshots move together. -/
inductive Advance (a a' : Actor P S) : Prop
  | kept (hmodel : a'.model = a.model) (hpublished : a'.published = a.published)
  | silent (hrevision : a'.model.revision.toNat = a.model.revision.toNat + 1)
      (hpublished : a'.published = a.published)
  | announced (hrevision : a'.model.revision.toNat = a.model.revision.toNat + 1)
      (reading : Reading) (hpublished : a'.published = a.published ++ [a'.model.snapshot reading])

theorem Outcome.advance {a a' : Actor P S} {cause : Cause}
    {result : Except Failure PlayerSnapshot} (h : Outcome a cause result a') :
    Advance a a' ∧ ∀ snapshot, result = .ok snapshot →
      ∃ reading, snapshot = a'.model.snapshot reading := by
  cases h with
  | unchanged reading hkept hframe =>
    refine ⟨.kept hkept.model hkept.published, ?_⟩
    intro snapshot hresult
    exact ⟨reading, (Except.ok.inj hresult).symm⟩
  | rejected error hkept hframe =>
    exact ⟨.kept hkept.model hkept.published, fun snapshot hresult => nomatch hresult⟩
  | committed hchange hframe hcommit =>
    obtain ⟨next, hnext, hmodel⟩ := hcommit.revision
    have hrevision : a'.model.revision.toNat = a.model.revision.toNat + 1 := by
      rw [hmodel]
      exact StateRevision.checkedNext_toNat hnext
    rcases hcommit.result with ⟨-, reading, hresult, hpublished⟩ | ⟨⟨error, -, hresult⟩, hpublished⟩
    · refine ⟨.announced hrevision reading hpublished, ?_⟩
      intro snapshot heq
      exact ⟨reading, (Except.ok.inj (hresult.symm.trans heq)).symm⟩
    · refine ⟨.silent hrevision hpublished, ?_⟩
      intro snapshot heq
      rw [hresult] at heq
      contradiction

theorem ShutDown.advance {a a' : Actor P S} {report : ShutdownReport} (h : ShutDown a report a') :
    Advance a a' := by
  cases h with
  | refused message hkept => exact .kept hkept.model hkept.published
  | closed hmodel hpublished => exact .kept hmodel hpublished
  | left next reading hnext hmodel hpublished =>
    refine .announced ?_ reading hpublished
    rw [hmodel]
    exact StateRevision.checkedNext_toNat hnext

theorem Expired.advance {a a' : Actor P S} {generation : IdleGeneration} {ends : Bool}
    (h : Expired a generation ends a') : Advance a a' := by
  cases h with
  | stale | exhausted => exact .kept rfl rfl
  | rearmed _ _ hmodel hpublished => exact .kept hmodel hpublished
  | left next reading _ _ hnext hmodel hpublished =>
    refine .announced ?_ reading hpublished
    rw [hmodel]
    exact StateRevision.checkedNext_toNat hnext

theorem Turned.advance {a : Actor P S} {input : Input} {reply : Reply} {player : Player P S}
    (h : Turned a input reply player) :
    Advance a player.actor ∧ ∀ snapshot ∈ reply.snapshots,
      ∃ reading, snapshot = player.actor.model.snapshot reading := by
  cases h with
  | @answered request cause a' result hcause houtcome =>
    refine ⟨houtcome.advance.1, ?_⟩
    intro snapshot hmem
    cases result with
    | error error => simp [Reply.snapshots] at hmem
    | ok answer =>
      obtain rfl := List.mem_singleton.mp hmem
      exact houtcome.advance.2 snapshot rfl
  | replayed | observed =>
    refine ⟨.kept rfl rfl, ?_⟩
    intro snapshot hmem
    exact ⟨a.clock.head, List.mem_singleton.mp hmem⟩
  | @accepted envelope answer a' haccepted =>
    obtain ⟨hadvance, hresult⟩ := haccepted.outcome.advance
    refine ⟨?_, ?_⟩
    · cases hadvance with
      | kept hmodel hpublished => exact .kept hmodel hpublished
      | silent hrevision hpublished => exact .silent hrevision hpublished
      | announced hrevision reading hpublished => exact .announced hrevision reading hpublished
    · intro snapshot hmem
      obtain rfl := List.mem_singleton.mp hmem
      exact hresult snapshot rfl
  | invalid => exact ⟨.kept rfl rfl, by simp [Reply.snapshots]⟩
  | failed haccepted => exact ⟨haccepted.outcome.advance.1, by simp [Reply.snapshots]⟩
  | stayed hexpired => exact ⟨hexpired.advance, by simp [Reply.snapshots]⟩
  | expired events hexpired =>
    refine ⟨?_, by simp [Reply.snapshots]⟩
    cases hexpired.advance with
    | kept hmodel hpublished => exact .kept hmodel hpublished
    | silent hrevision hpublished => exact .silent hrevision hpublished
    | announced hrevision reading hpublished => exact .announced hrevision reading hpublished
  | shutDown hshut => exact ⟨hshut.advance, by simp [Reply.snapshots]⟩
  | requestsClosed hshut => exact ⟨hshut.advance, by simp [Reply.snapshots]⟩

/-- Every snapshot of a run: those published and those returned. -/
def allSnapshots (taken : List (Taken (Player P S) (Input × Reply))) (player : Player P S) :
    List PlayerSnapshot :=
  player.actor.published ++ taken.flatMap fun t => t.label.2.snapshots

/-- What the snapshots of a run say about the model it has reached. -/
structure Witnessed (taken : List (Taken (Player P S) (Input × Reply))) (player : Player P S) :
    Prop where
  consistent : Consistent player.actor.model.revision.toNat player.actor.model.timeless
    ((allSnapshots taken player).map PlayerSnapshot.observation)
  increasing : player.actor.published.Pairwise fun s s' => s.revision.toNat < s'.revision.toNat

theorem observation_snapshot (model : PlayerModel) (reading : Reading) :
    (model.snapshot reading).observation = (model.revision.toNat, model.timeless) := by
  rw [PlayerSnapshot.observation, PlayerModel.timeless_snapshot]
  rfl

/-- A turn extends the snapshots of a run by snapshots of the model it leaves behind. -/
theorem Witnessed.next {taken : List (Taken (Player P S) (Input × Reply))}
    {player player' : Player P S} {input : Input} {reply : Reply} (h : Witnessed taken player)
    (hturned : Turned player.actor input reply player') :
    Witnessed (taken ++ [⟨player, (input, reply), player'⟩]) player' := by
  obtain ⟨hadvance, hreply⟩ := hturned.advance
  have hnew : ∀ s ∈ (allSnapshots (taken ++ [⟨player, (input, reply), player'⟩]) player').map
      PlayerSnapshot.observation, s ∈ (allSnapshots taken player).map PlayerSnapshot.observation ∨
        s = (player'.actor.model.revision.toNat, player'.actor.model.timeless) := by
    intro s hs
    obtain ⟨snapshot, hsnapshot, rfl⟩ := List.mem_map.mp hs
    rw [allSnapshots, List.flatMap_append, List.flatMap_singleton, ← List.append_assoc,
      List.mem_append, List.mem_append] at hsnapshot
    have hold : ∀ snapshot ∈ player.actor.published,
        snapshot.observation ∈ (allSnapshots taken player).map PlayerSnapshot.observation :=
      fun snapshot hmem => List.mem_map_of_mem (List.mem_append_left _ hmem)
    rcases hsnapshot with (hpublished | htaken) | hreplied
    · cases hadvance with
      | kept _ hsame | silent _ hsame =>
        rw [hsame] at hpublished
        exact Or.inl (hold snapshot hpublished)
      | announced _ reading hmore =>
        rw [hmore, List.mem_append, List.mem_singleton] at hpublished
        rcases hpublished with hpublished | rfl
        · exact Or.inl (hold snapshot hpublished)
        · exact Or.inr (observation_snapshot _ _)
    · exact Or.inl (List.mem_map_of_mem (List.mem_append_right _ htaken))
    · obtain ⟨reading, rfl⟩ := hreply snapshot hreplied
      exact Or.inr (observation_snapshot _ _)
  have hle : ∀ snapshot ∈ player.actor.published,
      snapshot.revision.toNat ≤ player.actor.model.revision.toNat := by
    intro snapshot hmem
    have hmem' : snapshot ∈ allSnapshots taken player := List.mem_append_left _ hmem
    exact h.consistent.le _ (List.mem_map_of_mem hmem')
  cases hadvance with
  | kept hmodel hpublished =>
    rw [hmodel] at hnew
    refine ⟨?_, hpublished ▸ h.increasing⟩
    rw [hmodel]
    exact h.consistent.observe hnew
  | silent hrevision hpublished =>
    exact ⟨(h.consistent.bump (by omega)).observe hnew, hpublished ▸ h.increasing⟩
  | announced hrevision reading hpublished =>
    refine ⟨(h.consistent.bump (by omega)).observe hnew, ?_⟩
    rw [hpublished, List.pairwise_append]
    refine ⟨h.increasing, List.pairwise_singleton _ _, ?_⟩
    intro snapshot hmem snapshot' hmem'
    obtain rfl := List.mem_singleton.mp hmem'
    have hbefore := hle snapshot hmem
    show snapshot.revision.toNat < player'.actor.model.revision.toNat
    omega

section Runs

variable [PlaybackPort P] [SnapshotPublisher S] {setup : PlayerSetup P S}
  {taken : List (Taken (Player P S) (Input × Reply))} {player : Player P S}

theorem PlayerSetup.Runs.witnessed (run : setup.Runs taken player) : Witnessed taken player := by
  refine run.history (I := fun taken player => Witnessed taken player) ?_ ?_
  · obtain ⟨publisher, events, hplayer⟩ := setup.player_eq
    have hall : allSnapshots [] setup.player =
        [(PlayerModel.new setup.guildId setup.initialRevision).snapshot setup.clock.head] := by
      rw [hplayer]
      rfl
    refine ⟨?_, ?_⟩
    · rw [hall, hplayer]
      refine (Consistent.nil _ _).observe fun s hs => Or.inr ?_
      rw [List.map_singleton, List.mem_singleton] at hs
      rw [hs, observation_snapshot]
      rfl
    · rw [hplayer]
      exact List.pairwise_singleton _ _
  · intro taken s l s' hrun h hstep
    rcases (PlayerSetup.Runs.sound hrun).step_cases hstep with hturned | ⟨rfl, hnone⟩
    · exact h.next hturned
    · have hsame : allSnapshots (taken ++ [⟨s', l, s'⟩]) s' = allSnapshots taken s' := by
        simp [allSnapshots, hnone, Reply.snapshots]
      exact ⟨hsame ▸ h.consistent, h.increasing⟩

/-- The revision never goes back. -/
theorem revision_le_of_step {config : PlayerConfig} {before after : Player P S}
    {label : Input × Reply} (hsound : before.Sound config)
    (hstep : Follows Player.step before label after) :
    before.actor.model.revision.toNat ≤ after.actor.model.revision.toNat := by
  rcases hsound.step_cases hstep with hturned | ⟨rfl, -⟩
  · cases hturned.advance.1 with
    | kept hmodel => rw [hmodel]
    | silent hrevision => omega
    | announced hrevision => omega
  · exact le_rfl

/-- Along every run the revision never decreases, two snapshots with one revision differ in
nothing but the time, and the published revisions strictly increase. -/
theorem revision_identifies_state (run : setup.Runs taken player) :
    (∀ t ∈ taken, t.before.actor.model.revision.toNat ≤ t.after.actor.model.revision.toNat ∧
      t.after.actor.model.revision.toNat ≤ player.actor.model.revision.toNat) ∧
    (∀ s ∈ allSnapshots taken player, ∀ s' ∈ allSnapshots taken player,
      s.revision = s'.revision → s.timeless = s'.timeless) ∧
    player.actor.published.Pairwise fun s s' => s.revision.toNat < s'.revision.toNat := by
  have hwitnessed := run.witnessed
  refine ⟨?_, ?_, hwitnessed.increasing⟩
  · intro t ht
    obtain ⟨⟨earlier, hearlier⟩, hstep⟩ := run.taken_next ht
    refine ⟨revision_le_of_step (PlayerSetup.Runs.sound hearlier) hstep, ?_⟩
    have hrelated := run.related
      (R := fun s s' => s.actor.model.revision.toNat ≤ s'.actor.model.revision.toNat)
      (fun _ => le_rfl) (fun _ _ _ h h' => le_trans h h') (fun s l s' hreached hstep => ?_)
    · exact (hrelated.2 t ht).2
    · obtain ⟨earlier, hearlier⟩ := hreached
      exact revision_le_of_step (PlayerSetup.Runs.sound hearlier) hstep
  · intro s hs s' hs' heq
    have hagree := hwitnessed.consistent.agree _ (List.mem_map_of_mem hs) _
      (List.mem_map_of_mem hs')
    exact hagree (congrArg StateRevision.toNat heq)

theorem revision_identifies_state_pausedTrack :
    (PlayerSetup.after [] pausedTrack).actor.published.length = 4 ∧
      (PlayerSetup.after [] pausedTrack).actor.published.Pairwise fun s s' =>
        s.revision.toNat < s'.revision.toNat :=
  ⟨by decide +kernel, (revision_identifies_state
    (run_record Player.step (PlayerSetup.scripted []).player pausedTrack)).2.2⟩

omit [PlaybackPort P] [SnapshotPublisher S] in
/-- With a generation left for the timer, no error comes after a change. -/
theorem Outcome.kept_of_error {a a' : Actor P S} {cause : Cause} {error : PlayerError}
    (h : Outcome a cause (.error (.error error)) a')
    (hidle : a.idleTimer.generation.next.isSome = true) :
    Kept a a' ∧ a'.recentIdempotency = a.recentIdempotency := by
  generalize hresult : Except.error (Failure.error error) = result at h
  cases h with
  | unchanged => contradiction
  | rejected error' hkept hframe => exact ⟨hkept, hframe.recent⟩
  | committed hchange hframe hcommit =>
    rcases hcommit.result with ⟨-, reading, hok, -⟩ | ⟨⟨error', hfailed, -⟩, -⟩
    · rw [hok] at hresult
      contradiction
    · rw [IdleTimer.reconciled_ok hidle] at hfailed
      contradiction

omit [PlaybackPort P] [SnapshotPublisher S] in
theorem Turned.kept_of_error {a : Actor P S} {input : Input} {error : PlayerError}
    {player : Player P S} (h : Turned a input (.mutation (.error error)) player)
    (hidle : a.idleTimer.generation.next.isSome = true) :
    Kept a player.actor ∧ player.actor.recentIdempotency = a.recentIdempotency := by
  cases h with
  | answered hcause houtcome => exact houtcome.kept_of_error hidle
  | invalid => exact ⟨⟨rfl, rfl, rfl⟩, rfl⟩
  | failed haccepted => exact haccepted.outcome.kept_of_error hidle

/-- A request that returns an error leaves the model, the remembered keys, the timer and the
published snapshots as they were, whichever adapter calls failed in it. -/
theorem failed_request_atomic (run : setup.Runs taken player)
    (hidle : player.actor.idleTimer.generation.next.isSome = true) {request : PlayerRequest}
    {error : PlayerError}
    (hfailed : (player.step (.request request)).1 = .mutation (.error error)) :
    (player.step (.request request)).2.actor.model = player.actor.model ∧
      (player.step (.request request)).2.actor.recentIdempotency =
        player.actor.recentIdempotency ∧
      (player.step (.request request)).2.actor.idleTimer = player.actor.idleTimer ∧
      (player.step (.request request)).2.actor.published = player.actor.published := by
  have hstep : Follows Player.step player (.request request, .mutation (.error error))
      (player.step (.request request)).2 := Prod.ext hfailed rfl
  rcases run.sound.step_cases hstep with hturned | ⟨-, hnone⟩
  · obtain ⟨hkept, hrecent⟩ := hturned.kept_of_error hidle
    exact ⟨hkept.model, hrecent, hkept.idleTimer, hkept.published⟩
  · contradiction

/-- A track is playing, and the adapter refuses to pause it. -/
theorem failed_request_atomic_pause :
    ((PlayerSetup.after [true, true, true, true, false] (pausedTrack.take 2)).step
        (.request (.apply (.scripted 1 2 .pause)))).2.actor.model =
      (PlayerSetup.after [true, true, true, true, false] (pausedTrack.take 2)).actor.model :=
  have hrefused : ((PlayerSetup.after [true, true, true, true, false] (pausedTrack.take 2)).step
      (.request (.apply (.scripted 1 2 .pause)))).1 =
        .mutation (.error (.sideEffect .pause "refused")) := by decide +kernel
  (failed_request_atomic
    (run_record Player.step (PlayerSetup.scripted [true, true, true, true, false]).player
      (pausedTrack.take 2)) (by decide +kernel) hrefused).1

end Runs

end PepeAudio
