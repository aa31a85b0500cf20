import PepeAudio.Bot.OptimisticConcurrency
import PepeAudio.Player.Revisions

/-!
# A client of a player

A client stands at one of its awaits: it waits for its surroundings, or for the player to
handle one of its requests, and whatever else the player handles comes in between. What a
client has seen of the player stays true as long as the player has the revision of that
snapshot.
-/
namespace PepeAudio

/-- What a client asks for at a stage, and where it goes from there. -/
structure Client (σ ε : Type) where
  request : σ → Option PlayerRequest
  answered : Reply → σ → σ
  advance : σ → ε → σ

inductive ClientEvent (ε : Type) where
  /-- The player takes an input that is not the client's. -/
  | other (input : Input)
  /-- The player handles the request that the client waits for. -/
  | handled
  /-- An answer of the surroundings. -/
  | outside (event : ε)
  deriving DecidableEq

def ClientEvent.isHandled {ε : Type} : ClientEvent ε → Bool
  | .handled => true
  | _ => false

structure Attended (P S σ : Type) where
  player : Player P S
  stage : σ

namespace Client

variable {P S σ ε : Type} [PlaybackPort P] [SnapshotPublisher S] (client : Client σ ε)

def step (attended : Attended P S σ) : ClientEvent ε → Attended P S σ
  | .other input => { attended with player := (attended.player.step input).2 }
  | .handled =>
    match client.request attended.stage with
    | none => attended
    | some request =>
      let turn := attended.player.step (.request request)
      ⟨turn.2, client.answered turn.1 attended.stage⟩
  | .outside event => { attended with stage := client.advance attended.stage event }

/-- The runs of a new player with a client that starts at a stage. -/
def Runs (first : σ) (setup : PlayerSetup P S)
    (taken : List (Taken (Attended P S σ) (ClientEvent ε))) (attended : Attended P S σ) : Prop :=
  Run (fun before event after => client.step before event = after) ⟨setup.player, first⟩ taken
    attended

variable {client} {attended : Attended P S σ}

theorem step_handled {request : PlayerRequest} (h : client.request attended.stage = some request) :
    client.step attended .handled = ⟨(attended.player.step (.request request)).2,
      client.answered (attended.player.step (.request request)).1 attended.stage⟩ := by
  simp only [step, h]

theorem step_unrequested (h : client.request attended.stage = none) :
    client.step attended .handled = attended := by
  simp only [step, h]

/-- A stage that asks for nothing and that nothing leads out of. -/
def Halted (client : Client σ ε) (stage : σ) : Prop :=
  client.request stage = none ∧ ∀ event, client.advance stage event = stage

theorem Halted.step {stage : σ} (h : client.Halted stage) (hstage : attended.stage = stage)
    (event : ClientEvent ε) : (client.step attended event).stage = stage := by
  cases event with
  | other input => exact hstage
  | handled => rw [step_unrequested (by rw [hstage, h.1]), hstage]
  | outside event => exact (congrArg (client.advance · event) hstage).trans (h.2 event)

/-- Every event gives the player an input or leaves it alone. -/
theorem step_player (client : Client σ ε) (attended : Attended P S σ) (event : ClientEvent ε) :
    (∃ label, Follows Player.step attended.player label (client.step attended event).player) ∨
      (client.step attended event).player = attended.player := by
  cases event with
  | other input => exact .inl ⟨(input, (attended.player.step input).1), rfl⟩
  | handled =>
    cases hrequest : client.request attended.stage with
    | none => exact .inr (by rw [step_unrequested hrequest])
    | some request =>
      rw [step_handled hrequest]
      exact .inl ⟨(.request request, (attended.player.step (.request request)).1), rfl⟩
  | outside event => exact .inr rfl

end Client

section Snapshots
variable {P S : Type} {player player' : Player P S} {snapshot : PlayerSnapshot}

/-- The snapshot is one of the player's, now or before, and shows what the player still is when it
has the revision of the player. -/
structure Seen (player : Player P S) (snapshot : PlayerSnapshot) : Prop where
  earlier : snapshot.revision.toNat ≤ player.actor.model.revision.toNat
  current : snapshot.revision = player.actor.model.revision →
    snapshot.timeless = player.actor.model.timeless

variable [PlaybackPort P] [SnapshotPublisher S]

/-- A turn keeps the revision with everything that a snapshot shows, or counts it up. -/
theorem Seen.next {config : PlayerConfig} {label : Input × Reply} (hsound : player.Sound config)
    (hstep : Follows Player.step player label player') (h : Seen player snapshot) :
    Seen player' snapshot := by
  have hearlier := h.earlier
  rcases hsound.step_cases hstep with hturned | ⟨rfl, -⟩
  · have hcounted (hrevision : player'.actor.model.revision.toNat =
        player.actor.model.revision.toNat + 1) : Seen player' snapshot := by
      refine ⟨by omega, fun hsame => ?_⟩
      have := congrArg StateRevision.toNat hsame
      omega
    cases hturned.advance.1 with
    | kept hmodel =>
      refine ⟨?_, ?_⟩
      · rw [hmodel]
        exact hearlier
      · rw [hmodel]
        exact h.current
    | silent hrevision => exact hcounted hrevision
    | announced hrevision => exact hcounted hrevision
  · exact h

/-- Reading a snapshot changes nothing and gives one of the player as it is. -/
theorem step_reads (player : Player P S) :
    (player.step (.request .snapshot)).2.actor.model = player.actor.model ∧
      ∀ snapshot, snapshotResult (player.step (.request .snapshot)).1 = .ok snapshot →
        Seen (player.step (.request .snapshot)).2 snapshot := by
  unfold Player.step
  cases player.status with
  | running =>
    refine ⟨rfl, fun snapshot hsnapshot => ?_⟩
    obtain rfl := Except.ok.inj hsnapshot
    exact ⟨le_rfl, fun _ => PlayerModel.timeless_snapshot _ _⟩
  | returned | panicked => exact ⟨rfl, fun snapshot hsnapshot => nomatch hsnapshot⟩

/-- A command changes a player at the revision that it names only. -/
theorem Player.Sound.revision_of_change {config : PlayerConfig} (hsound : player.Sound config)
    {envelope : CommandEnvelope}
    (hchanged : (player.step (.request (.apply envelope))).2.actor.model ≠ player.actor.model) :
    envelope.expectedRevision = player.actor.model.revision := by
  have hfollows : Follows Player.step player
      (.request (.apply envelope), (player.step (.request (.apply envelope))).1)
      (player.step (.request (.apply envelope))).2 := rfl
  generalize (player.step (.request (.apply envelope))).1 = reply at hfollows
  generalize (player.step (.request (.apply envelope))).2 = player' at hfollows hchanged
  rcases hsound.step_cases hfollows with hturned | ⟨rfl, -⟩
  · cases hturned with
    | answered hcause => simp [PlayerRequest.cause] at hcause
    | replayed | invalid => exact absurd rfl hchanged
    | accepted haccepted | failed haccepted => exact haccepted.revision
  · exact absurd rfl hchanged

omit [PlaybackPort P] [SnapshotPublisher S] in
theorem Outcome.change_of_changed {a a' : Actor P S} {cause : Cause}
    {result : Except Failure PlayerSnapshot} (h : Outcome a cause result a')
    (hchanged : a'.model ≠ a.model) :
    ∃ calls model next, Change a.config.maxQueuedTracks a.model cause calls model ∧
      a'.model = { model with revision := next } := by
  cases h with
  | unchanged _ hkept => exact absurd hkept.model hchanged
  | rejected _ hkept => exact absurd hkept.model hchanged
  | committed hchange _ hcommit =>
    obtain ⟨next, -, hmodel⟩ := hcommit.revision
    exact ⟨_, _, next, hchange, hmodel⟩

/-- A player that is nowhere can be connected, at the revision that the request names. -/
theorem Player.Sound.connect_of_change {config : PlayerConfig} (hsound : player.Sound config)
    {channel : ChannelId} {revision : StateRevision}
    (hchanged : (player.step (.request (.connect channel revision))).2.actor.model ≠
      player.actor.model) :
    revision = player.actor.model.revision ∧ player.actor.model.voiceChannelId = none ∧
      (player.step (.request (.connect channel revision))).2.actor.model.voiceChannelId =
        some channel := by
  have hrevision : revision = player.actor.model.revision := by
    by_contra hconflict
    rw [(step_conflict (.connect channel revision) rfl hconflict).1] at hchanged
    exact hchanged rfl
  refine ⟨hrevision, ?_⟩
  have hfollows : Follows Player.step player (.request (.connect channel revision),
      (player.step (.request (.connect channel revision))).1)
      (player.step (.request (.connect channel revision))).2 := rfl
  generalize (player.step (.request (.connect channel revision))).1 = reply at hfollows
  generalize (player.step (.request (.connect channel revision))).2 = player' at hfollows hchanged ⊢
  rcases hsound.step_cases hfollows with hturned | ⟨rfl, -⟩
  · cases hturned with
    | answered hcause houtcome =>
      cases hcause
      obtain ⟨calls, model, next, hchange, hmodel⟩ := houtcome.change_of_changed hchanged
      cases hchange with
      | connected _ hvoice => exact ⟨hvoice, by rw [hmodel]⟩
      | left _ _ hcause => simp at hcause
  · exact absurd rfl hchanged

/-- A batch is enqueued at the revision that the request names, and the client learns of it as long
as there is a generation left for the timer. -/
theorem Player.Sound.enqueueBatch_of_change {config : PlayerConfig} (hsound : player.Sound config)
    {tracks : List QueueTrack} {revision : StateRevision}
    (hchanged : (player.step (.request (.enqueueBatch tracks revision))).2.actor.model ≠
      player.actor.model) :
    revision = player.actor.model.revision ∧
      (player.actor.idleTimer.generation.next.isSome = true → ∃ snapshot,
        mutationResult (player.step (.request (.enqueueBatch tracks revision))).1 =
          .ok snapshot) := by
  refine ⟨?_, fun hidle => ?_⟩
  · by_contra hconflict
    rw [(step_conflict (.enqueueBatch tracks revision) rfl hconflict).1] at hchanged
    exact hchanged rfl
  · have hfollows : Follows Player.step player (.request (.enqueueBatch tracks revision),
        (player.step (.request (.enqueueBatch tracks revision))).1)
        (player.step (.request (.enqueueBatch tracks revision))).2 := rfl
    generalize (player.step (.request (.enqueueBatch tracks revision))).1 = reply at hfollows ⊢
    generalize (player.step (.request (.enqueueBatch tracks revision))).2 = player'
      at hfollows hchanged
    rcases hsound.step_cases hfollows with hturned | ⟨rfl, -⟩
    · cases hturned with
      | @answered _ _ _ result hcause houtcome =>
        cases result with
        | error error => exact absurd (houtcome.kept_of_error hidle).1.model hchanged
        | ok snapshot => exact ⟨snapshot, rfl⟩
    · exact absurd rfl hchanged

end Snapshots

section Runs
variable {P S σ ε : Type} [PlaybackPort P] [SnapshotPublisher S] {client : Client σ ε} {first : σ}
  {setup : PlayerSetup P S} {taken : List (Taken (Attended P S σ) (ClientEvent ε))}
  {attended : Attended P S σ}

theorem Client.Runs.sound (run : client.Runs first setup taken attended) :
    attended.player.Sound setup.config := by
  refine run.invariant (I := fun attended => attended.player.Sound setup.config) ?_ ?_
  · exact PlayerSetup.Runs.sound (Run.nil : setup.Runs [] setup.player)
  · rintro before event _ hsound rfl
    rcases client.step_player before event with ⟨label, hfollows⟩ | hkept
    · exact hsound.next hfollows
    · rw [hkept]
      exact hsound

/-- After its end nothing of a client reaches the player. -/
theorem Client.Runs.halted {earlier later : List (Taken (Attended P S σ) (ClientEvent ε))}
    {t : Taken (Attended P S σ) (ClientEvent ε)}
    (run : client.Runs first setup (earlier ++ t :: later) attended)
    (hhalted : client.Halted t.after.stage) :
    attended.stage = t.after.stage ∧ ∀ u ∈ later, u.label = .handled → u.after = u.before := by
  have hstep : ∀ (before : Attended P S σ) (event : ClientEvent ε) (after : Attended P S σ),
      client.step before event = after → before.stage = t.after.stage →
      after.stage = t.after.stage := by
    rintro before event _ rfl hstage
    exact hhalted.step hstage event
  refine ⟨?_, ?_⟩
  · have hrelated := Run.related (R := fun before after : Attended P S σ =>
        before.stage = t.after.stage → after.stage = t.after.stage) run (fun _ h => h)
      (fun _ _ _ h h' hstage => h' (h hstage))
      (fun before event after _ => hstep before event after)
    exact (hrelated.2 t (by simp)).2 rfl
  · have hpairwise := Run.pairwise (R := fun before after : Attended P S σ =>
        before.stage = t.after.stage → after.stage = t.after.stage) run (fun _ h => h)
      (fun _ _ _ h h' hstage => h' (h hstage))
      (fun before event after _ => hstep before event after)
    intro u hu hhandled
    have hlater := (List.pairwise_append.mp hpairwise).2.1
    have hbefore := (List.pairwise_cons.mp hlater).1 u hu rfl
    have hnext := (Run.taken_next run (t := u) (by simp [hu])).2
    rw [hhandled, Client.step_unrequested (by rw [hbefore]; exact hhalted.1)] at hnext
    exact hnext.symm

/-- What holds of the events so far, the player and the stage of the client holds after every run
when it lasts while the client waits and each move of the client keeps it. -/
theorem Client.Runs.traced {I : List (ClientEvent ε) → Player P S → σ → Prop}
    (run : client.Runs first setup taken attended) (h0 : I [] setup.player first)
    (hwait : ∀ events event player player' stage,
      (event = .handled → client.request stage = none) →
      player' = player ∨
        (player.Sound setup.config ∧ ∃ label, Follows Player.step player label player') →
      I events player stage → I (events ++ [event]) player' stage)
    (hanswered : ∀ events player stage request, player.Sound setup.config →
      client.request stage = some request → I events player stage →
      I (events ++ [.handled]) (player.step (.request request)).2
        (client.answered (player.step (.request request)).1 stage))
    (hadvance : ∀ events player stage event, I events player stage →
      I (events ++ [.outside event]) player (client.advance stage event)) :
    I (taken.map Taken.label) attended.player attended.stage := by
  refine run.history (I := fun (taken : List (Taken (Attended P S σ) (ClientEvent ε)))
    (attended : Attended P S σ) => I (taken.map Taken.label) attended.player attended.stage) h0 ?_
  rintro taken before event _ hrun hI rfl
  have hsound := Client.Runs.sound hrun
  rw [List.map_append, List.map_singleton]
  cases event with
  | other input =>
    exact hwait _ _ _ _ _ (fun h => nomatch h)
      (.inr ⟨hsound, (input, (before.player.step input).1), rfl⟩) hI
  | handled =>
    cases hrequest : client.request before.stage with
    | none =>
      rw [Client.step_unrequested hrequest]
      exact hwait _ _ _ _ _ (fun _ => hrequest) (.inl rfl) hI
    | some request =>
      rw [Client.step_handled hrequest]
      exact hanswered _ _ _ request hsound hrequest hI
  | outside event => exact hadvance _ _ _ event hI

end Runs

end PepeAudio
