import PepeAudio.Bot.RegistryInvariant

/-!
# Recreated players never roll back

What a new actor starts with is newer than all that was published or stored for
the guild. An actor changes only while it is in the registry or in the hands of
the call that creates or removes it: a removal takes it out of the registry
before it leaves its channel, and a new actor takes its settings before it is
put there.
-/
namespace PepeAudio

namespace GuildPlayers

variable {P S : Type}

section Steps

variable {environment : GuildEnvironment} {players players' : GuildPlayers P S}
  {event : RegistryEvent P S}
  {current : Option OperationPhase} {index other : ℕ} {actor actor' before after : SpawnedActor P S}

theorem enter_actors (players : GuildPlayers P S) (index : ℕ) (removal : Bool) :
    (players.enter index removal).actors = players.actors := by
  unfold enter
  split <;> rfl

theorem enter_snapshots (players : GuildPlayers P S) (index : ℕ) (removal : Bool) :
    (players.enter index removal).snapshots = players.snapshots := by
  unfold enter
  split <;> rfl

/-- Replacing an actor changes at most the model at its index. -/
theorem model_set {actors : List (SpawnedActor P S)} (actor' : SpawnedActor P S)
    (hactor : actors[index]? = some actor)
    (hkept : index = other → actor'.player.actor.model = actor.player.actor.model)
    (hbefore : actors[other]? = some before)
    (hafter : (actors.set index actor')[other]? = some after) :
    after.player.actor.model = before.player.actor.model := by
  rw [List.getElem?_set] at hafter
  split_ifs at hafter with hindex
  · have hsame := hkept hindex
    subst hindex
    obtain rfl := Option.some.inj hafter
    obtain rfl := Option.some.inj (hactor.symm.trans hbefore)
    exact hsame
  · obtain rfl := Option.some.inj (hbefore.symm.trans hafter)
    rfl

/-- The phase of the call that is inside is that of a call. -/
theorem Sound.owned (h : players.Sound environment current)
    (howner : owner players.registered current = some index) :
    players.registered = some index ∨
      ∃ operation ∈ players.operations, operation.phase.inHand = some index := by
  cases hregistered : players.registered with
  | some registered =>
    left
    rw [hregistered] at howner
    exact howner
  | none =>
    right
    rw [hregistered] at howner
    obtain ⟨phase, hphase, hhand⟩ := Option.bind_eq_some_iff.mp howner
    have hmem : phase ∈ current.toList := Option.mem_toList.mpr hphase
    rw [← h.calls.inside] at hmem
    obtain ⟨operation, hoperation, rfl⟩ := List.mem_map.mp hmem
    exact ⟨operation, (List.mem_filter.mp hoperation).1, hhand⟩

section Moves

variable [PlaybackPort P] [SnapshotPublisher S]

/-- An actor that is nobody's keeps its model. -/
theorem Sound.unowned_kept (h : players.Sound environment current) {input : Input}
    (hactor : players.actors[index]? = some actor)
    (hinput : actor.accepts input = true ∨ input.isPassive = true)
    (hnot : owner players.registered current ≠ some index) :
    (actor.turn input).2.player.actor.model = actor.player.actor.model := by
  have hfit := h.steady.fit actor (List.mem_of_getElem? hactor)
  exact ((h.steady.finished index actor hactor hnot).turn hfit hinput).1.model

theorem Sound.move_kept (h : players.Sound environment current)
    (hmove : players.Move environment event players')
    (hbefore : players.actors[other]? = some before)
    (hafter : players'.actors[other]? = some after)
    (hnot : owner players.registered current ≠ some other) :
    after.player.actor.model = before.player.actor.model := by
  have hsame : players'.actors = players.actors →
      after.player.actor.model = before.player.actor.model := by
    intro hactors
    rw [hactors] at hafter
    obtain rfl := Option.some.inj (hbefore.symm.trans hafter)
    rfl
  cases hmove with
  | entered index lock removal => exact hsame (enter_actors players index removal)
  | idle | arrived | prepares | created | gaveUp | prepared | busy | commands | putBack | removed
  | persistedSnapshot | persistedSettings => exact hsame rfl
  | spawned index lock settings setup =>
    have hlt := (List.getElem?_eq_some_iff.mp hbefore).1
    have hold : (players.actors ++ [SpawnedActor.spawn setup
        players.settings.publishers.length])[other]? = some before := by
      rw [List.getElem?_append_left hlt]
      exact hbefore
    obtain rfl := Option.some.inj (hold.symm.trans hafter)
    rfl
  | alive index lock actorIndex actor hphase hactor =>
    refine model_set _ hactor (fun hindex => ?_) hbefore hafter
    exact h.unowned_kept hactor (.inr rfl) (hindex ▸ hnot)
  | dead index lock actorIndex actor hphase hactor =>
    refine model_set _ hactor (fun hindex => ?_) hbefore hafter
    exact h.unowned_kept hactor (.inr rfl) (hindex ▸ hnot)
  | stops index lock actorIndex actor hphase hactor =>
    refine model_set _ hactor (fun hindex => ?_) hbefore hafter
    exact h.unowned_kept hactor (.inr rfl) (hindex ▸ hnot)
  | asked index lock actorIndex request commands actor hphase hactor =>
    refine model_set _ hactor (fun hindex => ?_) hbefore hafter
    obtain ⟨rfl, hnone, -⟩ := h.inside hphase rfl
    rw [hnone, hindex] at hnot
    exact absurd rfl hnot
  | failed index lock actorIndex reply commands actor hphase hactor =>
    exact model_set { actor with handles := .dropped } hactor (fun _ => rfl) hbefore hafter
  | registered index lock actorIndex reply actor hphase hactor =>
    exact model_set { actor with handles := .shared } hactor (fun _ => rfl) hbefore hafter
  | acted actorIndex actor input hactor hidle haccepts =>
    refine model_set _ hactor (fun hindex => ?_) hbefore hafter
    exact h.unowned_kept hactor (.inl haccepts) (hindex ▸ hnot)
  | published actorIndex actor snapshot publishing hactor =>
    exact model_set { actor with publishing } hactor (fun _ => rfl) hbefore hafter

/-- Where there is one actor more, it starts with a new revision. -/
theorem Sound.move_spawned (h : players.Sound environment current)
    (hmove : players.Move environment event players')
    (hactors : players'.actors = players.actors ++ [actor]) :
    Numbered (players.snapshots.mailboxMark environment.guildId)
      (players.snapshots.store.watermark environment.guildId)
      actor.player.actor.model.revision := by
  have hmore := congrArg List.length hactors
  rw [List.length_append, List.length_singleton] at hmore
  cases hmove with
  | spawned index lock settings setup hphase hguild =>
    obtain ⟨rfl, hnone, hnumbered, -⟩ := h.inside hphase rfl
    obtain ⟨-, hspawned⟩ := List.append_inj' hactors rfl
    obtain rfl := List.singleton_inj.mp hspawned
    obtain ⟨-, hrevision, -⟩ := SpawnedActor.spawn_fit setup players.settings.publishers.length ⊥
    rw [StateRevision.toNat_injective hrevision]
    exact hnumbered
  | entered index lock removal =>
    rw [enter_actors] at hmore
    omega
  | idle | arrived | prepares | created | gaveUp | prepared | busy | commands | putBack | removed
  | persistedSnapshot | persistedSettings =>
    exact absurd hmore (Nat.succ_ne_self _).symm
  | alive | dead | asked | failed | registered | stops | acted | published =>
    exact absurd (hmore.symm.trans (List.length_set ..)) (Nat.succ_ne_self _)

theorem publishSnapshot_store (environment : GuildEnvironment) (snapshot : PlayerSnapshot)
    (runtime : SnapshotRuntime) :
    (publishSnapshot environment snapshot runtime).store = runtime.store := by
  have hpublish : (runtime.step environment.encodedLength environment.ttl
      (.publish environment.guildId snapshot)).2.store = runtime.store := by
    simp only [SnapshotRuntime.step]
    split_ifs
    · rfl
    · rfl
    · split
      · rfl
      · split_ifs <;> rfl
  rw [← hpublish]
  simp only [publishSnapshot, SnapshotRuntime.step]
  split
  · rfl
  · split <;> rfl

/-- The store's watermark does not fall. -/
theorem Sound.move_watermark (h : players.Sound environment current)
    (hmove : players.Move environment event players') :
    players.snapshots.store.watermark environment.guildId ≤
      players'.snapshots.store.watermark environment.guildId := by
  cases hmove with
  | entered index lock removal =>
    rw [enter_snapshots]
  | prepared =>
    obtain ⟨-, hpersisted, -⟩ := h.steady.running.registered environment.ttl
    exact hpersisted.rises
  | persistedSnapshot event hevent =>
    exact (h.steady.running.persisted environment.ttl hevent).2.rises
  | published actorIndex actor snapshot publishing hactor =>
    exact (congrArg (SnapshotStore.watermark environment.guildId)
      (publishSnapshot_store environment snapshot players.snapshots)).ge
  | _ => exact le_rfl

end Moves

end Steps

section Runs

variable [PlaybackPort P] [SnapshotPublisher S] {environment : GuildEnvironment}
  {earlier : List (Taken SnapshotStore (SnapshotCall × SnapshotReply))} {store : SnapshotStore}
  {table : GuildSettingsTable} {taken : List (Taken (GuildPlayers P S) (RegistryEvent P S))}
  {players : GuildPlayers P S}

/-- What this process found in the store stays below the watermark. -/
theorem stored_le_watermark
    (hearlier : SnapshotStore.Serves environment.encodedLength earlier store)
    (run : Runs environment store table taken players)
    {t : Taken SnapshotStore (SnapshotCall × SnapshotReply)} (ht : t ∈ earlier)
    {snapshot : PlayerSnapshot} {ttl : ℕ}
    (hstored : t.label = (.put snapshot ttl, .written (.ok .stored)))
    (hguild : snapshot.guildId = environment.guildId) :
    (snapshot.revision.toNat : WithBot ℕ) ≤
      players.snapshots.store.watermark environment.guildId := by
  have hput := (hearlier.put_reply ht hstored).2.1 rfl
  have hmono := ((SnapshotStore.max_register hearlier).1 environment.guildId t ht).2
  rw [hguild] at hput
  rw [hput] at hmono
  refine hmono.trans ?_
  obtain ⟨snapshots, hstart, run⟩ := run
  have hrelated := run.related
    (R := fun before after => before.snapshots.store.watermark environment.guildId ≤
      after.snapshots.store.watermark environment.guildId)
    (fun _ => le_rfl) (fun _ _ _ => le_trans) ?_
  · have hsame := SnapshotRuntime.start_store hstart
    rw [← hsame]
    exact hrelated.1
  · rintro before event after ⟨taken, hreached⟩ rfl
    obtain ⟨current, h⟩ := run_sound hearlier ⟨snapshots, hstart, hreached⟩
    exact h.move_watermark (step_moves environment before event)

/-- In every run a new actor starts with a revision after all that the actors before it have
published, after all that is in a mailbox or was ever stored, and with the first one if there is
nothing; no two actors publish the same revision; and an actor changes only while it is in the
registry or in the hands of a call that creates or removes it. -/
theorem recreated_never_roll_back
    (hearlier : SnapshotStore.Serves environment.encodedLength earlier store)
    (run : Runs environment store table taken players) :
    (∀ t ∈ taken, ∀ actor, t.after.actors = t.before.actors ++ [actor] →
      (∀ predecessor ∈ t.before.actors, ∀ snapshot ∈ predecessor.player.actor.published,
        snapshot.revision.toNat < actor.revision) ∧
      t.before.snapshots.mailboxMark environment.guildId < actor.revision ∧
      t.before.snapshots.store.watermark environment.guildId < actor.revision ∧
      (∀ stored ∈ earlier, ∀ snapshot ttl,
        stored.label = (.put snapshot ttl, .written (.ok .stored)) →
        snapshot.guildId = environment.guildId → snapshot.revision.toNat < actor.revision) ∧
      (t.before.snapshots.mailboxMark environment.guildId = ⊥ →
        t.before.snapshots.store.watermark environment.guildId = ⊥ →
        actor.player.actor.model.revision = StateRevision.INITIAL)) ∧
    (players.actors.Pairwise fun predecessor successor =>
      ∀ snapshot ∈ predecessor.player.actor.published,
        ∀ snapshot' ∈ successor.player.actor.published,
          snapshot.revision.toNat < snapshot'.revision.toNat) ∧
    (∀ t ∈ taken, ∀ (index : ℕ) (before after : SpawnedActor P S),
      t.before.actors[index]? = some before → t.after.actors[index]? = some after →
      after.player.actor.model ≠ before.player.actor.model →
      t.before.registered = some index ∨
        ∃ operation ∈ t.before.operations, operation.phase.inHand = some index) := by
  obtain ⟨final, hfinal⟩ := run_sound hearlier run
  refine ⟨?_, hfinal.steady.ordered.imp fun h => h.published, ?_⟩
  · intro t ht actor hactors
    obtain ⟨snapshots, hstart, run⟩ := run
    obtain ⟨⟨sofar, hreached⟩, hstep⟩ := run.taken_next ht
    have hbefore : Runs environment store table sofar t.before := ⟨snapshots, hstart, hreached⟩
    obtain ⟨current, h⟩ := run_sound hearlier hbefore
    have hmove := step_moves environment t.before t.label
    rw [hstep] at hmove
    have hnumbered := h.move_spawned hmove hactors
    obtain ⟨current', hafter⟩ := h.move hmove
    have hordered := hafter.steady.ordered
    rw [hactors, List.pairwise_append] at hordered
    refine ⟨?_, hnumbered.newer, hnumbered.unwritten, ?_, hnumbered.initial⟩
    · intro predecessor hpredecessor snapshot hsnapshot
      exact (hordered.2.2 predecessor hpredecessor actor List.mem_cons_self).revision snapshot
        hsnapshot
    · intro stored hstored snapshot ttl hlabel hguild
      have hle := stored_le_watermark hearlier hbefore hstored hlabel hguild
      exact WithBot.coe_lt_coe.mp (hle.trans_lt hnumbered.unwritten)
  · intro t ht index before after hbefore hafter hchanged
    obtain ⟨snapshots, hstart, run⟩ := run
    obtain ⟨⟨sofar, hreached⟩, hstep⟩ := run.taken_next ht
    obtain ⟨current, h⟩ := run_sound hearlier ⟨snapshots, hstart, hreached⟩
    have hmove := step_moves environment t.before t.label
    rw [hstep] at hmove
    by_contra hnot
    refine hchanged (h.move_kept hmove hbefore hafter fun howner => hnot (h.owned howner))

end Runs

/-- A process with one preset, for guild 1. -/
def scripted : GuildEnvironment where
  guildId := ⟨.MIN⟩
  encodedLength := fun _ => 1
  ttl := 1000
  limits := ⟨1, Volume.DEFAULT, .alpha, true, 10⟩
  catalog := ⟨[.alpha]⟩

/-- It starts with an empty store and without a row. -/
def unused : GuildPlayers ScriptedPlayback Unit :=
  start .unused (.start fun _ => none)

theorem unused_runs (events : List (RegistryEvent ScriptedPlayback Unit)) :
    Runs scripted SnapshotStore.empty (fun _ => none) (replay (step scripted) unused events).1
      (replay (step scripted) unused events).2 :=
  ⟨.unused, rfl, run_replay (step scripted) unused events⟩

/-- A command of `initialize` is handled, and its answer brings the next one. -/
def initialized (index actor commandId : ℕ) : List (RegistryEvent ScriptedPlayback Unit) :=
  [.handle index, .publish actor,
    .proceed index (Uuid.fromU128 commandId) (Uuid.fromU128 commandId)]

/-- The only call creates a player with the given index. -/
def creation (actor : ℕ) : List (RegistryEvent ScriptedPlayback Unit) :=
  [.arrive false, .enter 0, .readRow 0 false, .createRow 0 false, .view 0, .readDurable 0 false,
    .readVolatile 0, .prepare 0 false,
    .spawn 0 (some ⟨⟨[]⟩, (), fun n => ⟨⟨n.toUInt64⟩, n⟩⟩), .publish actor] ++
  initialized 0 actor 1 ++ initialized 0 actor 2 ++ initialized 0 actor 3 ++ initialized 0 actor 4

/-- A player joins a channel and is removed. -/
def removal : List (RegistryEvent ScriptedPlayback Unit) :=
  creation 0 ++ [.act 0 (.request (.connect ⟨.two⟩ ⟨1⟩)), .publish 0, .arrive true,
    .enter 0, .handle 0, .publish 0, .proceed 0 (Uuid.fromU128 5) (Uuid.fromU128 5)]

theorem recreated_never_roll_back_removal :
    ((replay (step scripted) unused (removal ++ creation 1)).2.actors.map fun actor =>
      actor.player.actor.published.map fun snapshot => snapshot.revision.toNat) =
        [[0, 1, 2, 3], [4, 5]] ∧
    (replay (step scripted) unused (removal ++ creation 1)).2.actors.Pairwise
      fun predecessor successor => ∀ snapshot ∈ predecessor.player.actor.published,
        ∀ snapshot' ∈ successor.player.actor.published,
          snapshot.revision.toNat < snapshot'.revision.toNat := by
  refine ⟨by decide +kernel, ?_⟩
  exact (recreated_never_roll_back .nil (unused_runs (removal ++ creation 1))).2.1

/-- A removal of the actor has reported that it failed. -/
def reportsFailure (actor : ℕ) : OperationPhase → Bool
  | .stopping index (some (.shutdown ⟨some _, _⟩)) => index = actor
  | _ => false

/-- Leaving its channel, the player that is removed changes outside the registry. -/
theorem unregistered_changes_removal :
    ¬ ∀ t ∈ (replay (step scripted) unused removal).1,
      ∀ (index : ℕ) (before after : SpawnedActor ScriptedPlayback Unit),
        t.before.actors[index]? = some before → t.after.actors[index]? = some after →
        t.before.registered ≠ some index →
        (∀ t' ∈ (replay (step scripted) unused removal).1,
          ∀ operation ∈ t'.after.operations, reportsFailure index operation.phase = false) →
        after.player.actor.model = before.player.actor.model := by
  intro hkept
  have hchange : ∃ t ∈ (replay (step scripted) unused removal).1, t.before.registered = none ∧
      t.before.actors.map SpawnedActor.revision = [2] ∧
      t.after.actors.map SpawnedActor.revision = [3] := by decide +kernel
  have hreports : ∀ t' ∈ (replay (step scripted) unused removal).1,
      ∀ operation ∈ t'.after.operations, reportsFailure 0 operation.phase = false := by
    decide +kernel
  obtain ⟨t, ht, hnone, hbefore, hafter⟩ := hchange
  obtain ⟨before, hbefore, hrevision⟩ := List.map_eq_singleton_iff.mp hbefore
  obtain ⟨after, hafter, hrevision'⟩ := List.map_eq_singleton_iff.mp hafter
  have hsame := hkept t ht 0 before after (by simp [hbefore]) (by simp [hafter]) (by simp [hnone])
    hreports
  have hequal : after.revision = before.revision :=
    congrArg (fun model => model.revision.toNat) hsame
  omega

end GuildPlayers

end PepeAudio
