import PepeAudio.Bot.ActorInitialization
import PepeAudio.Bot.ActorSuccession

/-!
# The creation of an actor

A new actor is in the hands of the call that creates it until it has answered the
last command. What is known of it in between depends on the commands that are
still to come.
-/
namespace PepeAudio

/-- The actor that a call creates. -/
def OperationPhase.inCreation : OperationPhase → Option ℕ
  | .asking actor _ _ | .answered actor _ _ => some actor
  | _ => none

namespace GuildPlayers

variable {P S : Type}

section Definitions

/-- The key of a new envelope is not one that its actor remembers. -/
def drawsFresh (players : GuildPlayers P S) : RegistryEvent P S → Bool
  | .proceed _ _ idempotencyKey => players.operations.all fun operation =>
    match operation.phase with
    | .answered index _ _ => players.actors[index]?.all fun actor =>
      idempotencyKey ∉ actor.player.actor.recentIdempotency
    | _ => true
  | _ => true

/-- The creation of an actor ends well in a step. -/
structure Creates (t : Taken (GuildPlayers P S) (RegistryEvent P S)) (index : ℕ)
    (actor : SpawnedActor P S) : Prop where
  created : ∃ before, t.before.actors[index]? = some before ∧ before.handles = .creator
  shared : t.after.actors[index]? = some actor ∧ actor.handles = .shared

/-- `Q` is what is known of a new actor that some commands are still to reach. -/
def Taking (Q : ℕ → List PlayerCommand → SpawnedActor P S → Prop)
    (actors : List (SpawnedActor P S)) : OperationPhase → Prop
  | .asking index request commands => ∀ actor, actors[index]? = some actor →
    (request = .snapshot ∧ Q index commands actor) ∨
    ∃ envelope, request = .apply envelope ∧
      envelope.idempotencyKey ∉ actor.player.actor.recentIdempotency ∧
      Q index (envelope.command :: commands) actor
  | .answered index reply commands => (∃ snapshot, creationResult reply = .ok snapshot) →
    ∀ actor, actors[index]? = some actor → Q index commands actor
  | _ => True

/-- Nothing has come of a turn for the call that creates an actor. -/
structure Rests (actor actor' : SpawnedActor P S) : Prop where
  model : actor'.player.actor.model = actor.player.actor.model
  publishing : actor'.publishing = actor.publishing
  recent : actor'.player.actor.recentIdempotency = actor.player.actor.recentIdempotency

end Definitions

section Calls

variable {environment : GuildEnvironment} {players players' : GuildPlayers P S}
  {current current' : Option OperationPhase} {index lock : ℕ} {phase phase' : OperationPhase}

theorem Calls.unique {operations : List Operation} (h : Calls operations lock current)
    (h' : Calls operations lock current') : current' = current := by
  have hsame : current'.toList = current.toList := h'.inside.symm.trans h.inside
  cases current with
  | none => exact Option.toList_eq_nil_iff.mp hsame
  | some phase => exact Option.toList_eq_singleton_iff.mp hsame

/-- After the call at an index has gone on, it is the one inside. -/
theorem Sound.goneOn (h : players'.Sound environment current')
    (hoperations : players'.operations = players.operations.modify index
      ({ · with phase := phase' }))
    (hphase : players.operations[index]? = some ⟨lock, phase⟩)
    (hinside : phase'.isWaiting = false) :
    current' = some phase' := by
  have hafter : players'.operations[index]? = some ⟨lock, phase'⟩ := by
    rw [hoperations, List.getElem?_modify, hphase]
    simp
  exact (h.inside hafter hinside).1

/-- After the call at an index has returned, nobody is inside. -/
theorem Sound.finished (h : players.Sound environment current)
    (h' : players'.Sound environment current')
    (hphase : players.operations[index]? = some ⟨lock, phase⟩)
    (hcurrent : phase.isWaiting = false ∨ current = none)
    (hoperations : players'.operations = players.operations.eraseIdx index)
    (hlock : players'.lock = players.lock) : current' = none := by
  have hsame : lock = players.lock := h.calls.locks _ (List.mem_of_getElem? hphase)
  subst hsame
  have hcalls := h'.calls
  rw [hoperations, hlock] at hcalls
  exact (h.calls.finish hphase hcurrent).unique hcalls

end Calls

section Turns

variable {environment : GuildEnvironment} {players players' : GuildPlayers P S}
  {actors : List (SpawnedActor P S)} {current : Option OperationPhase}
  {index : ℕ} {actor actor' : SpawnedActor P S} {phase : OperationPhase}
  {Q : ℕ → List PlayerCommand → SpawnedActor P S → Prop}

/-- What is known of the actor in creation stays while others take their turns, and while its own
turns leave it. -/
theorem Taking.set (h : Taking Q actors phase) (hactor : actors[index]? = some actor)
    (hkept : phase.inCreation = some index →
      actor'.player.actor.recentIdempotency = actor.player.actor.recentIdempotency ∧
        ∀ commands, Q index commands actor → Q index commands actor') :
    Taking Q (actors.set index actor') phase := by
  have hset : ∀ (other : ℕ) (found : SpawnedActor P S), phase.inCreation = some other →
      (actors.set index actor')[other]? = some found →
      ∃ before, actors[other]? = some before ∧
        found.player.actor.recentIdempotency = before.player.actor.recentIdempotency ∧
        ∀ commands, Q other commands before → Q other commands found := by
    intro other found hother hfound
    rw [List.getElem?_set] at hfound
    split_ifs at hfound with hindex
    · subst hindex
      obtain rfl := Option.some.inj hfound
      exact ⟨actor, hactor, hkept hother⟩
    · exact ⟨found, hfound, rfl, fun _ hcase => hcase⟩
  cases phase with
  | asking other request commands =>
    intro found hfound
    obtain ⟨before, hbefore, hrecent, hQ⟩ := hset other found rfl hfound
    rcases h before hbefore with ⟨hrequest, hcase⟩ | ⟨envelope, hrequest, hunknown, hcase⟩
    · exact .inl ⟨hrequest, hQ _ hcase⟩
    · refine .inr ⟨envelope, hrequest, ?_, hQ _ hcase⟩
      rw [hrecent]
      exact hunknown
  | answered other reply commands =>
    intro hreply found hfound
    obtain ⟨before, hbefore, -, hQ⟩ := hset other found rfl hfound
    exact hQ _ (h hreply before hbefore)
  | _ => trivial

/-- The call sends the next command. -/
theorem Taking.commands {operation lock : ℕ} {reply : Reply} {command : PlayerCommand}
    {commands : List PlayerCommand} {snapshot : PlayerSnapshot} {commandId idempotencyKey : Uuid}
    (h : Taking Q players.actors (.answered index reply (command :: commands)))
    (hphase : players.operations[operation]? =
      some ⟨lock, .answered index reply (command :: commands)⟩)
    (hreply : creationResult reply = .ok snapshot) {called : ℕ}
    (hfresh : players.drawsFresh (.proceed called commandId idempotencyKey) = true) :
    Taking Q players.actors (.asking index (.apply (initialEnvelope environment.guildId
      snapshot.revision commandId idempotencyKey command)) commands) := by
  intro actor hactor
  refine .inr ⟨_, rfl, ?_, h ⟨snapshot, hreply⟩ actor hactor⟩
  have hall := List.all_eq_true.mp hfresh _ (List.mem_of_getElem? hphase)
  have hkey : players.actors[index]?.all fun actor =>
      idempotencyKey ∉ actor.player.actor.recentIdempotency := hall
  simpa [hactor, initialEnvelope] using hkey

variable [PlaybackPort P] [SnapshotPublisher S]

/-- A command is answered with a result, or not at all. -/
theorem creationResult_apply {player : Player P S}
    {config : PlayerConfig} (hsound : player.Sound config) {envelope : CommandEnvelope}
    {snapshot : PlayerSnapshot}
    (hresult : creationResult (player.step (.request (.apply envelope))).1 = .ok snapshot) :
    (player.step (.request (.apply envelope))).1 = .mutation (.ok snapshot) := by
  rcases hsound.turned_or_ended (.request (.apply envelope)) with hturned | ⟨-, hended⟩
  · generalize (player.step (.request (.apply envelope))).1 = reply at hturned hresult
    generalize (player.step (.request (.apply envelope))).2 = player' at hturned
    cases hturned <;> exact congrArg Reply.mutation hresult
  · rw [hended] at hresult
    contradiction

/-- The call that creates an actor asks it for a snapshot, or sends it a setting. -/
theorem Taking.asked {mark : WithBot ℕ} {request : PlayerRequest} {commands : List PlayerCommand}
    (h : Taking Q actors (.asking index request commands)) (hactor : actors[index]? = some actor)
    (hinitial : IsInitial request) (hfit : actor.Fit environment.guildId mark)
    (hidle : actor.publishing = []) (hunshared : actor.handles ≠ .shared)
    (hQ : ∀ {index commands actor actor'}, Rests actor actor' → Q index commands actor →
      Q index commands actor')
    (hset : ∀ {command commands} {actor' : SpawnedActor P S},
      Q index (command :: commands) actor →
      Takes actor.player.actor (actor.player.actor.model.audioSettings.set command)
        actor'.player.actor →
      actor'.publishing = actor'.player.actor.published.drop actor.player.actor.published.length →
      Answered actor.player.actor.model actor'.player.actor.model actor'.publishing →
      Q index commands actor')
    (hreply : ∃ snapshot, creationResult (actor.turn (.request request)).1 = .ok snapshot) :
    Q index commands (actor.turn (.request request)).2 := by
  have hanswer : (actor.turn (.request request)).1 =
      (actor.player.step (.request request)).1 := rfl
  have hplayer : (actor.turn (.request request)).2.player =
      (actor.player.step (.request request)).2 := rfl
  have hdrop : (actor.turn (.request request)).2.publishing =
      (actor.player.step (.request request)).2.actor.published.drop
        actor.player.actor.published.length := rfl
  rcases h actor hactor with ⟨rfl, hcase⟩ | ⟨envelope, rfl, hunknown, hcase⟩
  · have hkept := Actor.Unconnected.step_kept hfit.sound (hfit.unconnected hunshared)
      (rfl : (Input.request .snapshot).isPassive = true)
    refine hQ ⟨?_, ?_, ?_⟩ hcase
    · rw [hplayer]
      exact hkept.model
    · rw [hdrop, hkept.published, List.drop_length, hidle]
    · rw [hplayer]
      exact Player.step_recent hfit.sound rfl
  · obtain ⟨snapshot, hresult⟩ := hreply
    have hsetting : envelope.command.isSetting = true := by
      rcases hinitial with hrequest | ⟨other, hrequest, hsetting⟩
      · contradiction
      · obtain rfl := PlayerRequest.apply.inj hrequest
        exact hsetting
    rw [hanswer] at hresult
    have hstep : actor.player.step (.request (.apply envelope)) = (.mutation (.ok snapshot),
        (actor.player.step (.request (.apply envelope))).2) :=
      Prod.ext (creationResult_apply hfit.sound hresult) rfl
    obtain ⟨htakes, hanswered⟩ := Player.step_setting hfit.sound hsetting hunknown hstep
    exact hset hcase htakes hdrop hanswered

/-- Nobody but the call that creates it gives a new actor something to do. -/
theorem Sound.acted_rests (hsound : players.Sound environment current) {input : Input}
    (hactor : players.actors[index]? = some actor) (hidle : actor.publishing = [])
    (haccepts : actor.accepts input = true) (hphase : phase ∈ current)
    (hcreation : phase.inCreation = some index) : Rests actor (actor.turn input).2 := by
  have hunshared : actor.handles ≠ .shared := by
    have hknown := hsound.phase phase hphase
    cases phase with
    | asking other request commands =>
      obtain rfl := Option.some.inj hcreation
      exact hknown.2.1 actor hactor
    | answered other reply commands =>
      obtain rfl := Option.some.inj hcreation
      exact hknown.2.1 actor hactor
    | _ => contradiction
  have hpassive : input.isPassive = true := by
    cases input with
    | request request => simp [SpawnedActor.accepts, hunshared] at haccepts
    | idleExpired | requestsClosed => rfl
  have hfit := hsound.steady.fit actor (List.mem_of_getElem? hactor)
  have hkept := Actor.Unconnected.step_kept hfit.sound (hfit.unconnected hunshared) hpassive
  refine ⟨hkept.model, ?_, Player.step_recent hfit.sound hpassive⟩
  have hdrop : (actor.turn input).2.publishing = (actor.player.step input).2.actor.published.drop
      actor.player.actor.published.length := rfl
  rw [hdrop, hkept.published, List.drop_length, hidle]

omit [PlaybackPort P] [SnapshotPublisher S] in
/-- Replacing an actor shares no handles that were not shared. -/
theorem handles_set {actors : List (SpawnedActor P S)} {other : ℕ}
    {actor' before after : SpawnedActor P S} (hactor : actors[index]? = some actor)
    (hbefore : actors[other]? = some before)
    (hafter : (actors.set index actor')[other]? = some after)
    (hkept : actor'.handles = actor.handles ∨ actor'.handles ≠ .shared) :
    after.handles = before.handles ∨ after.handles ≠ .shared := by
  rw [List.getElem?_set] at hafter
  split_ifs at hafter with hindex
  · subst hindex
    obtain rfl := Option.some.inj hafter
    obtain rfl := Option.some.inj (hactor.symm.trans hbefore)
    exact hkept
  · obtain rfl := Option.some.inj (hbefore.symm.trans hafter)
    exact .inl rfl

/-- A creation ends well with the answer to the last command, before which everything was
published. -/
theorem Move.creates {event : RegistryEvent P S} (hmove : players.Move environment event players')
    {before : SpawnedActor P S} (hbefore : players.actors[index]? = some before)
    (hcreator : before.handles = .creator) (hafter : players'.actors[index]? = some actor)
    (hshared : actor.handles = .shared) :
    players'.settings = players.settings ∧ before.publishing = [] ∧
      actor = { before with handles := .shared } ∧
      ∃ operation ∈ players.operations, ∃ reply, operation.phase = .answered index reply [] ∧
        ∃ snapshot, creationResult reply = .ok snapshot := by
  have hnot : ¬ (actor.handles = before.handles ∨ actor.handles ≠ .shared) := by
    simp [hcreator, hshared]
  have hsame : players'.actors ≠ players.actors := by
    intro hactors
    rw [hactors] at hafter
    obtain rfl := Option.some.inj (hbefore.symm.trans hafter)
    exact hnot (.inl rfl)
  cases hmove with
  | registered operation lock actorIndex reply found hphase hactor hidle hreply =>
    have hset : (players.actors.set actorIndex { found with handles := .shared })[index]? =
      some actor := hafter
    rw [List.getElem?_set] at hset
    split_ifs at hset with hindex
    · subst hindex
      obtain rfl := Option.some.inj (hbefore.symm.trans hactor)
      exact ⟨rfl, hidle, (Option.some.inj hset).symm, _, List.mem_of_getElem? hphase, reply, rfl,
        hreply⟩
    · obtain rfl := Option.some.inj (hbefore.symm.trans hset)
      exact absurd (.inl rfl) hnot
  | entered operation lock removal => exact absurd (enter_actors players operation removal) hsame
  | idle | arrived | prepares | created | gaveUp | prepared | busy | commands | putBack | removed
  | persistedSnapshot | persistedSettings => exact absurd rfl hsame
  | spawned operation lock settings setup =>
    have hlt := (List.getElem?_eq_some_iff.mp hbefore).1
    have hold : (players.actors ++ [SpawnedActor.spawn setup
        players.settings.publishers.length])[index]? = some before := by
      rw [List.getElem?_append_left hlt]
      exact hbefore
    obtain rfl := Option.some.inj (hold.symm.trans hafter)
    exact absurd (.inl rfl) hnot
  | alive operation lock actorIndex found hphase hactor
  | dead operation lock actorIndex found hphase hactor
  | stops operation lock actorIndex found hphase hactor
  | asked operation lock actorIndex request commands found hphase hactor
  | acted actorIndex found input hactor
  | published actorIndex found snapshot publishing hactor =>
    exact absurd (handles_set hactor hbefore hafter (.inl rfl)) hnot
  | failed operation lock actorIndex reply commands found hphase hactor =>
    exact absurd (handles_set hactor hbefore hafter (.inr Handles.noConfusion)) hnot

end Turns

end GuildPlayers

end PepeAudio
