import PepeAudio.Player.Revisions
import Mathlib.Data.List.DropRight

/-!
# A command is carried out at most once

Two mechanisms stand behind this. While a key is in the window of remembered
keys, an envelope with it is only answered. Whether or not its key is still
there, an envelope that has changed the model expects a revision that is gone.
-/
namespace PepeAudio

open Actor

variable {P S : Type}

/-- The keys of a history that were remembered, oldest first: those of successful commands that
were not among the last ones remembered already. -/
def remember (keys : List Uuid) (t : Taken (Player P S) (Input × Reply)) : List Uuid :=
  match t.label with
  | (.request (.apply envelope), .mutation (.ok _)) =>
    if envelope.idempotencyKey ∈ keys.rtake IDEMPOTENCY_WINDOW then keys
    else keys ++ [envelope.idempotencyKey]
  | _ => keys

def rememberedKeys (taken : List (Taken (Player P S) (Input × Reply))) : List Uuid :=
  taken.foldl remember []

theorem length_rtake {α : Type} (n : ℕ) (l : List α) : (l.rtake n).length = min n l.length := by
  rw [List.rtake, List.length_drop]
  omega

/-- A full window loses its oldest entry when a new one comes in. -/
theorem rtake_push {α : Type} {n : ℕ} (hn : 0 < n) (l : List α) (x : α) :
    (if (l.rtake n).length = n then (l.rtake n).tail else l.rtake n) ++ [x] =
      (l ++ [x]).rtake n := by
  obtain ⟨m, rfl⟩ : ∃ m, n = m + 1 := ⟨n - 1, by omega⟩
  rw [List.rtake_concat_succ, length_rtake]
  congr 1
  by_cases hfull : m + 1 ≤ l.length
  · rw [if_pos (by omega), List.rtake, List.rtake, List.tail_drop]
    congr 1
    omega
  · rw [if_neg (by omega), List.rtake, List.rtake]
    congr 1
    omega

theorem rememberIdempotency_rtake (keys : List Uuid) (key : Uuid) :
    rememberIdempotency (keys.rtake IDEMPOTENCY_WINDOW) key =
      (keys ++ [key]).rtake IDEMPOTENCY_WINDOW :=
  rtake_push (by decide) keys key

theorem Outcome.recent {a a' : Actor P S} {cause : Cause} {result : Except Failure PlayerSnapshot}
    (h : Outcome a cause result a') : a'.recentIdempotency = a.recentIdempotency := by
  cases h with
  | unchanged _ _ hframe => exact hframe.recent
  | rejected _ _ hframe => exact hframe.recent
  | committed _ hframe => exact hframe.recent

theorem ShutDown.recent {a a' : Actor P S} {report : ShutdownReport} (h : ShutDown a report a') :
    a'.recentIdempotency = a.recentIdempotency := by
  cases h with
  | refused _ _ hframe => exact hframe.recent
  | closed _ _ _ _ hframe => exact hframe.recent
  | left _ _ _ _ _ _ hframe => exact hframe.recent

theorem Expired.recent {a a' : Actor P S} {generation : IdleGeneration} {ends : Bool}
    (h : Expired a generation ends a') : a'.recentIdempotency = a.recentIdempotency := by
  cases h with
  | stale => rfl
  | exhausted => rfl
  | rearmed _ _ _ _ _ hframe => exact hframe.recent
  | left _ _ _ _ _ _ _ _ hframe => exact hframe.recent

/-- A turn touches the window only to remember the key of a successful command. -/
theorem Turned.recent {player player' : Player P S} {input : Input} {reply : Reply}
    {keys : List Uuid} (h : Turned player.actor input reply player')
    (hkeys : player.actor.recentIdempotency = keys.rtake IDEMPOTENCY_WINDOW) :
    player'.actor.recentIdempotency =
      (remember keys ⟨player, (input, reply), player'⟩).rtake IDEMPOTENCY_WINDOW := by
  cases h with
  | @answered request cause a' result hcause houtcome =>
    have hkept : remember keys ⟨player, (.request request, .mutation result), ⟨a', .running⟩⟩ =
        keys := by
      cases request <;> first | rfl | contradiction
    rw [hkept, ← hkeys]
    exact houtcome.recent
  | replayed hknown =>
    have hwindow := hkeys ▸ hknown
    simp only [remember, if_pos hwindow]
    exact hkeys
  | accepted haccepted =>
    have hunknown := hkeys ▸ haccepted.unknown
    simp only [remember, if_neg hunknown, haccepted.outcome.recent, hkeys]
    exact rememberIdempotency_rtake _ _
  | invalid | observed => exact hkeys
  | failed haccepted => exact haccepted.outcome.recent.trans hkeys
  | stayed hexpired => exact hexpired.recent.trans hkeys
  | expired _ hexpired => exact hexpired.recent.trans hkeys
  | shutDown hshut => exact hshut.recent.trans hkeys
  | requestsClosed hshut => exact hshut.recent.trans hkeys

/-- The step delivers the envelope and changes the model. -/
def AppliedBy (t : Taken (Player P S) (Input × Reply)) (envelope : CommandEnvelope) : Prop :=
  t.label.1 = .request (.apply envelope) ∧ t.after.actor.model ≠ t.before.actor.model

/-- An envelope that changes the model expects its revision, and leaves the next one behind. -/
theorem Turned.applied {player player' : Player P S} {envelope : CommandEnvelope} {reply : Reply}
    (h : Turned player.actor (.request (.apply envelope)) reply player')
    (hchanged : player'.actor.model ≠ player.actor.model) :
    envelope.expectedRevision = player.actor.model.revision ∧
      player.actor.model.revision.toNat < player'.actor.model.revision.toNat := by
  cases h.moved with
  | kept hmodel => contradiction
  | changed next hasks hmade hchange hnext hmodel =>
    have hlater : player.actor.model.revision.toNat < player'.actor.model.revision.toNat := by
      have hsucc := StateRevision.checkedNext_toNat hnext
      rw [hmodel]
      show player.actor.model.revision.toNat < next.toNat
      omega
    cases hasks with
    | request hcause => contradiction
    | apply hunknown hrevision => exact ⟨hrevision, hlater⟩

variable [PlaybackPort P] [SnapshotPublisher S] {setup : PlayerSetup P S}
  {taken : List (Taken (Player P S) (Input × Reply))} {player : Player P S}

/-- The actor remembers the last keys of its history. -/
theorem PlayerSetup.Runs.recent (run : setup.Runs taken player) :
    player.actor.recentIdempotency = (rememberedKeys taken).rtake IDEMPOTENCY_WINDOW := by
  refine run.history (I := fun taken player => player.actor.recentIdempotency =
    (rememberedKeys taken).rtake IDEMPOTENCY_WINDOW) ?_ ?_
  · obtain ⟨publisher, events, hplayer⟩ := setup.player_eq
    rw [hplayer]
    exact (List.rtake_nil _).symm
  · intro taken s l s' hrun h hstep
    unfold rememberedKeys
    rw [List.foldl_append]
    rcases (PlayerSetup.Runs.sound hrun).step_cases hstep with hturned | ⟨rfl, hnone⟩
    · exact hturned.recent h
    · have hkept : remember (rememberedKeys taken) ⟨s', l, s'⟩ = rememberedKeys taken := by
        obtain ⟨input, reply⟩ := l
        unfold remember
        split
        · rename_i heq
          simp [show reply = .none from hnone] at heq
        · rfl
      exact h.trans (congrArg (List.rtake · IDEMPOTENCY_WINDOW) hkept.symm)

/-- An envelope with a remembered key is answered without touching model and adapter. -/
theorem Player.Sound.replayed {config : PlayerConfig} (h : player.Sound config)
    {envelope : CommandEnvelope}
    (hknown : envelope.idempotencyKey ∈ player.actor.recentIdempotency) :
    (player.step (.request (.apply envelope))).2.actor.model = player.actor.model ∧
      (player.step (.request (.apply envelope))).2.actor.calls = player.actor.calls := by
  have hstep : Follows Player.step player (.request (.apply envelope),
      (player.step (.request (.apply envelope))).1)
      (player.step (.request (.apply envelope))).2 := rfl
  rcases h.step_cases hstep with hturned | ⟨hsame, -⟩
  · generalize (player.step (.request (.apply envelope))).1 = reply at hturned
    generalize (player.step (.request (.apply envelope))).2 = player' at hturned
    cases hturned with
    | answered hcause => contradiction
    | replayed => exact ⟨rfl, rfl⟩
    | accepted haccepted => exact absurd hknown haccepted.unknown
    | invalid _ hunknown => exact absurd hknown hunknown
    | failed haccepted => exact absurd hknown haccepted.unknown
  · exact ⟨congrArg (fun p => p.actor.model) hsame, congrArg (fun p => p.actor.calls) hsame⟩

/-- In every run, an envelope whose key is among the last remembered ones changes no part of the
model and calls no adapter, and each envelope changes the model at most once, whatever is
delivered in between. -/
theorem commands_idempotent (run : setup.Runs taken player) :
    (∀ envelope : CommandEnvelope,
      envelope.idempotencyKey ∈ (rememberedKeys taken).rtake IDEMPOTENCY_WINDOW →
      (player.step (.request (.apply envelope))).2.actor.model = player.actor.model ∧
        (player.step (.request (.apply envelope))).2.actor.calls = player.actor.calls) ∧
    taken.Pairwise fun t t' => ∀ envelope, AppliedBy t envelope → ¬ AppliedBy t' envelope := by
  constructor
  · intro envelope hmem
    exact run.sound.replayed (run.recent ▸ hmem)
  · have hmonotone : taken.Pairwise fun t t' =>
        t.after.actor.model.revision.toNat ≤ t'.before.actor.model.revision.toNat := by
      refine run.pairwise
        (R := fun s s' => s.actor.model.revision.toNat ≤ s'.actor.model.revision.toNat)
        (fun _ => le_rfl) (fun _ _ _ h h' => le_trans h h') ?_
      rintro s l s' ⟨earlier, hearlier⟩ hstep
      exact revision_le_of_step (PlayerSetup.Runs.sound hearlier) hstep
    refine hmonotone.imp_of_mem ?_
    intro t t' ht ht' hle envelope happlied happlied'
    have hread : ∀ {t}, t ∈ taken → AppliedBy t envelope →
        envelope.expectedRevision = t.before.actor.model.revision ∧
          t.before.actor.model.revision.toNat < t.after.actor.model.revision.toNat := by
      intro t ht happlied
      obtain ⟨hinput, hchanged⟩ := happlied
      obtain ⟨⟨earlier, hearlier⟩, hstep⟩ := run.taken_next ht
      rcases (PlayerSetup.Runs.sound hearlier).step_cases hstep with hturned | ⟨hsame, -⟩
      · rw [hinput] at hturned
        exact hturned.applied hchanged
      · rw [hsame] at hchanged
        contradiction
    obtain ⟨hexpected, hlater⟩ := hread ht happlied
    obtain ⟨hexpected', -⟩ := hread ht' happlied'
    have hsame : t.before.actor.model.revision.toNat = t'.before.actor.model.revision.toNat := by
      rw [← hexpected, ← hexpected']
    omega

theorem commands_idempotent_pausedTrack :
    ((PlayerSetup.after [] pausedTrack).step
        (.request (.apply (.scripted 1 3 .play)))).2.actor.model =
      (PlayerSetup.after [] pausedTrack).actor.model :=
  ((commands_idempotent
    (run_record Player.step (PlayerSetup.scripted []).player pausedTrack)).1
      (.scripted 1 3 .play) (by decide +kernel)).1

end PepeAudio
