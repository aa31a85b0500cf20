import PepeAudio.Runtime.ApiEvents

/-!
# No stream misses an update

The loop owes a stream whatever is stored beyond the revision it has: the
notification is on its way, the loop is at work on it, or the subscription has
failed and a scan of all subscribed guilds follows. A new stream starts from a
snapshot read after it joined the channel, and its guild was listed before that.
-/
namespace PepeAudio

/-- The revision an event shows. -/
def SseEvent.shown : SseEvent → Option StateRevision
  | .snapshot revision | .player revision => some revision
  | .resync _ _ _ => none

def SseEvent.isResync : SseEvent → Bool
  | .resync _ _ _ => true
  | .snapshot _ | .player _ => false

namespace StreamState

/-- The last revision the stream has emitted. -/
def lastEmitted (state : StreamState) : Option StateRevision :=
  (state.sent.filterMap SseEvent.shown).getLast?

/-- The stream has ended with a resync. -/
def Resynced (state : StreamState) : Prop :=
  state.closeAfterEvent = true ∧ ∃ event, state.sent.getLast? = some event ∧ event.isResync = true

/-- The stream has sent all that was in its channel, and goes on. -/
def Consumed (state : StreamState) : Prop :=
  state.closeAfterEvent = false ∧ state.initial = none ∧ state.receiver = ⟨0, []⟩

/-- What the client has been told fits what the stream remembers. -/
structure Told (state : StreamState) : Prop where
  resynced : state.closeAfterEvent = true → state.Resynced
  waiting : state.closeAfterEvent = false → ∀ event, state.initial = some event →
    event = .snapshot state.lastRevision ∧ state.sent = []
  emitted : state.closeAfterEvent = false → state.initial = none →
    state.lastEmitted = some state.lastRevision

variable {state state' : StreamState} {snapshot : StoredSnapshot} {receiver : BroadcastReceiver}

theorem playerStream_told : (playerStream snapshot receiver).Told :=
  ⟨by simp [playerStream], by simp [playerStream], by simp [playerStream]⟩

theorem Told.withReceiver (h : state.Told) (receiver : BroadcastReceiver) :
    { state with receiver }.Told :=
  ⟨h.resynced, h.waiting, h.emitted⟩

theorem resync_told (reason : String) (skippedEvents : Option ℕ) (state : StreamState) :
    (state.resync reason skippedEvents).Told := by
  refine ⟨fun _ => ⟨rfl, ?_⟩, by simp [resync], by simp [resync]⟩
  simp [resync, SseEvent.isResync]

theorem Told.receive (h : state.Told) (hopen : state.closeAfterEvent = false)
    (hinitial : state.initial = none) : (state.receive snapshot).Told := by
  unfold StreamState.receive
  split_ifs with hguild hold hgap
  · exact resync_told ..
  · exact h
  · exact resync_told ..
  · refine ⟨?_, ?_, fun _ _ => ?_⟩
    · simp [hopen]
    · simp [hinitial]
    · simp [lastEmitted, SseEvent.shown]

/-- What a poll of a stream that goes on can do. -/
theorem poll_cases (hpoll : state.poll = some state') :
    state.closeAfterEvent = false ∧
    ((∃ event, state.initial = some event ∧
        state' = { state with initial := none, sent := state.sent ++ [event] }) ∨
      state.initial = none ∧
        ((∃ reason skippedEvents, state' =
            { state with receiver := ⟨0, state.receiver.unread⟩ }.resync reason skippedEvents) ∨
          state.receiver.skipped = 0 ∧
            (state' = state ∨ ∃ snapshot unread, state.receiver.unread = snapshot :: unread ∧
              state' = { state with receiver := ⟨0, unread⟩ }.receive snapshot))) := by
  unfold poll at hpoll
  split at hpoll
  case isTrue => simp at hpoll
  case isFalse hopen =>
    refine ⟨by simpa using hopen, ?_⟩
    split at hpoll
    case h_1 event hinitial =>
      exact .inl ⟨event, hinitial, (Option.some.inj hpoll).symm⟩
    case h_2 hinitial =>
      refine .inr ⟨hinitial, ?_⟩
      split at hpoll
      case isTrue => exact .inl ⟨_, _, (Option.some.inj hpoll).symm⟩
      case isFalse hskipped =>
        have hkept : state.receiver.skipped = 0 := by omega
        refine .inr ⟨hkept, ?_⟩
        split at hpoll
        · exact .inl (Option.some.inj hpoll).symm
        · rename_i snapshot unread hunread
          refine .inr ⟨snapshot, unread, hunread, ?_⟩
          simpa [hkept] using (Option.some.inj hpoll).symm

theorem Told.poll (h : state.Told) (hpoll : state.poll = some state') : state'.Told := by
  obtain ⟨hopen, ⟨event, hinitial, rfl⟩ | ⟨hinitial, hrest⟩⟩ := poll_cases hpoll
  · obtain ⟨rfl, hsent⟩ := h.waiting hopen event hinitial
    refine ⟨?_, by simp, fun _ _ => ?_⟩
    · simp [hopen]
    · simp [lastEmitted, hsent, SseEvent.shown]
  · obtain ⟨reason, skippedEvents, rfl⟩ | ⟨-, rfl | ⟨snapshot, unread, -, rfl⟩⟩ := hrest
    · exact resync_told ..
    · exact h
    · exact (h.withReceiver ⟨0, unread⟩).receive hopen hinitial

end StreamState

/-- The snapshots a client has read, or has still to read, after the one it shows. -/
def ClientPhase.held : ClientPhase → List StoredSnapshot
  | .subscribed receiver => receiver.unread
  | .fetched snapshot receiver => snapshot :: receiver.unread
  | .streaming state => ⟨state.guildId, state.lastRevision⟩ :: state.receiver.unread
  | .listed | .closed => []

/-- The client has a first snapshot and has lost no event after it. -/
def ClientPhase.Whole : ClientPhase → Prop
  | .fetched _ receiver => receiver.skipped = 0
  | .streaming state => state.closeAfterEvent = false ∧ state.receiver.skipped = 0
  | .listed | .subscribed _ | .closed => False

theorem BroadcastReceiver.push_cases (capacity : ℕ) (snapshot : StoredSnapshot)
    (receiver : BroadcastReceiver) :
    (0 < (receiver.push capacity snapshot).skipped ∨
      receiver.push capacity snapshot = ⟨receiver.skipped, receiver.unread ++ [snapshot]⟩) ∧
    ∀ held ∈ (receiver.push capacity snapshot).unread,
      held ∈ receiver.unread ∨ held = snapshot := by
  simp only [BroadcastReceiver.push]
  split
  · refine ⟨.inl (by simp), fun held hheld => ?_⟩
    simpa using List.mem_of_mem_tail hheld
  · exact ⟨.inr rfl, by simp⟩

namespace EventsClient

variable {capacity : ℕ} {snapshot held : StoredSnapshot} {client : EventsClient}

@[simp] theorem deliver_guildId :
    (client.deliver capacity snapshot).guildId = client.guildId := by
  unfold deliver
  split_ifs
  · rfl
  · cases client.phase <;> rfl

theorem mem_held_deliver (hheld : held ∈ (client.deliver capacity snapshot).phase.held) :
    held ∈ client.phase.held ∨ held = snapshot ∧ snapshot.guildId = client.guildId := by
  unfold deliver at hheld
  split_ifs at hheld with hguild
  · exact .inl hheld
  · have heq : snapshot.guildId = client.guildId := (not_not.mp hguild).symm
    cases hphase : client.phase with
    | subscribed receiver =>
      rw [hphase] at hheld
      exact ((receiver.push_cases capacity snapshot).2 held hheld).imp_right (⟨·, heq⟩)
    | fetched initial receiver =>
      rw [hphase] at hheld
      rcases List.mem_cons.mp hheld with rfl | hheld
      · exact .inl List.mem_cons_self
      · exact ((receiver.push_cases capacity snapshot).2 held hheld).imp
          (List.mem_cons_of_mem _) (⟨·, heq⟩)
    | streaming state =>
      rw [hphase] at hheld
      rcases List.mem_cons.mp hheld with rfl | hheld
      · exact .inl List.mem_cons_self
      · exact ((state.receiver.push_cases capacity snapshot).2 held hheld).imp
          (List.mem_cons_of_mem _) (⟨·, heq⟩)
    | listed => simp [hphase, ClientPhase.held] at hheld
    | closed => simp [hphase, ClientPhase.held] at hheld

/-- A client that stays whole has got the snapshot, and keeps the others. -/
theorem whole_deliver (hwhole : (client.deliver capacity snapshot).phase.Whole) :
    client.phase.Whole ∧ (∀ held ∈ client.phase.held,
      held ∈ (client.deliver capacity snapshot).phase.held) ∧
    (snapshot.guildId = client.guildId →
      snapshot ∈ (client.deliver capacity snapshot).phase.held) := by
  unfold deliver at hwhole ⊢
  split_ifs at hwhole ⊢ with hguild
  · exact ⟨hwhole, fun _ h => h, fun heq => absurd heq.symm hguild⟩
  · cases hphase : client.phase with
    | listed => simp [hphase, ClientPhase.Whole] at hwhole
    | subscribed => simp [hphase, ClientPhase.Whole] at hwhole
    | closed => simp [hphase, ClientPhase.Whole] at hwhole
    | fetched initial receiver =>
      rw [hphase] at hwhole
      have hkept : (receiver.push capacity snapshot).skipped = 0 := hwhole
      rcases (receiver.push_cases capacity snapshot).1 with hlost | hpush
      · omega
      · rw [hpush] at hkept
        simp only [hpush]
        exact ⟨hkept, by simp +contextual [ClientPhase.held], by simp [ClientPhase.held]⟩
    | streaming state =>
      rw [hphase] at hwhole
      obtain ⟨hopen, hkept⟩ : state.closeAfterEvent = false ∧
        (state.receiver.push capacity snapshot).skipped = 0 := hwhole
      rcases (state.receiver.push_cases capacity snapshot).1 with hlost | hpush
      · omega
      · rw [hpush] at hkept
        simp only [hpush]
        exact ⟨⟨hopen, hkept⟩, by simp +contextual [ClientPhase.held], by simp [ClientPhase.held]⟩

end EventsClient

namespace StreamState

variable {state state' : StreamState} {snapshot held : StoredSnapshot}

/-- What the loop of a stream makes of an event: the end, nothing, or the next revision. -/
theorem receive_cases (snapshot : StoredSnapshot) (state : StreamState) :
    (∃ reason, state.receive snapshot = state.resync reason none) ∨
    snapshot.guildId = state.guildId ∧
      (state.receive snapshot = state ∧ snapshot.revision.toNat ≤ state.lastRevision.toNat ∨
        state.receive snapshot =
          { state with
            lastRevision := snapshot.revision
            sent := state.sent ++ [.player snapshot.revision] } ∧
        state.lastRevision.toNat ≤ snapshot.revision.toNat) := by
  unfold receive
  split_ifs with hguild hold hgap
  · exact .inl ⟨_, rfl⟩
  · exact .inr ⟨not_not.mp hguild, .inl ⟨rfl, hold⟩⟩
  · exact .inl ⟨_, rfl⟩
  · exact .inr ⟨not_not.mp hguild, .inr ⟨rfl, by omega⟩⟩

theorem mem_held_poll (hpoll : state.poll = some state')
    (hheld : held ∈ (ClientPhase.streaming state').held) :
    held ∈ (ClientPhase.streaming state).held := by
  obtain ⟨-, ⟨event, -, rfl⟩ | ⟨-, hrest⟩⟩ := poll_cases hpoll
  · exact hheld
  · obtain ⟨reason, skippedEvents, rfl⟩ | ⟨-, rfl | ⟨snapshot, unread, hunread, rfl⟩⟩ := hrest
    · exact hheld
    · exact hheld
    · have hlater : ∀ held ∈ unread, held ∈ (ClientPhase.streaming state).held := by
        simp +contextual [ClientPhase.held, hunread]
      rcases receive_cases snapshot { state with receiver := ⟨0, unread⟩ } with
        ⟨reason, hresync⟩ | ⟨hguild, ⟨hold, -⟩ | ⟨hnew, -⟩⟩
      · rw [hresync] at hheld
        exact (List.mem_cons.mp hheld).elim (fun h => h ▸ List.mem_cons_self) (hlater held)
      · rw [hold] at hheld
        exact (List.mem_cons.mp hheld).elim (fun h => h ▸ List.mem_cons_self) (hlater held)
      · rw [hnew] at hheld
        rcases List.mem_cons.mp hheld with rfl | hheld
        · have hsame : (⟨state.guildId, snapshot.revision⟩ : StoredSnapshot) = snapshot := by
            rw [← show snapshot.guildId = state.guildId from hguild]
          simp [ClientPhase.held, hunread, hsame]
        · exact hlater held hheld

/-- While a stream goes on it gives up a snapshot only for one that is not older. -/
theorem whole_poll (hpoll : state.poll = some state')
    (hwhole : (ClientPhase.streaming state').Whole) :
    (ClientPhase.streaming state).Whole ∧ ∀ held ∈ (ClientPhase.streaming state).held,
      ∃ kept ∈ (ClientPhase.streaming state').held,
        held.revision.toNat ≤ kept.revision.toNat := by
  obtain ⟨hopen, ⟨event, -, rfl⟩ | ⟨-, hrest⟩⟩ := poll_cases hpoll
  · exact ⟨hwhole, fun held hheld => ⟨held, hheld, le_rfl⟩⟩
  · obtain ⟨reason, skippedEvents, rfl⟩ | ⟨hkept, hrest⟩ := hrest
    · simp [ClientPhase.Whole, resync] at hwhole
    · refine ⟨⟨hopen, hkept⟩, ?_⟩
      rcases hrest with rfl | ⟨snapshot, unread, hunread, rfl⟩
      · exact fun held hheld => ⟨held, hheld, le_rfl⟩
      · rcases receive_cases snapshot { state with receiver := ⟨0, unread⟩ } with
          ⟨reason, hresync⟩ | ⟨-, ⟨hold, hle⟩ | ⟨hnew, hle⟩⟩
        · simp [hresync, ClientPhase.Whole, resync] at hwhole
        · rw [hold]
          simp only [ClientPhase.held, hunread, List.mem_cons, forall_eq_or_imp, exists_eq_or_imp]
          exact ⟨.inl le_rfl, .inl hle, fun held hheld => .inr ⟨held, hheld, le_rfl⟩⟩
        · rw [hnew]
          simp only [ClientPhase.held, hunread, List.mem_cons, forall_eq_or_imp, exists_eq_or_imp]
          exact ⟨.inl hle, .inl le_rfl, fun held hheld => .inr ⟨held, hheld, le_rfl⟩⟩

end StreamState

namespace ApiBackend

/-- What the request of a client can do to its phase. -/
inductive ClientMove (stored : GuildId → StateRevision) (client : EventsClient) :
    ClientPhase → Prop
  | subscribed : client.phase = .listed → ClientMove stored client (.subscribed ⟨0, []⟩)
  | fetched (receiver : BroadcastReceiver) : client.phase = .subscribed receiver →
      ClientMove stored client (.fetched ⟨client.guildId, stored client.guildId⟩ receiver)
  | opened (snapshot : StoredSnapshot) (receiver : BroadcastReceiver) :
      client.phase = .fetched snapshot receiver →
      ClientMove stored client (.streaming (playerStream snapshot receiver))
  | polled (state state' : StreamState) : client.phase = .streaming state →
      state.poll = some state' → ClientMove stored client (.streaming state')
  | closed : ClientMove stored client .closed

/-- What a step can do that no client takes part in. -/
inductive LoopMove (backend : ApiBackend) : ApiBackend → Prop
  | idle : LoopMove backend backend
  | announced (guildId : GuildId) (revision : StateRevision) :
      (backend.stored guildId).toNat < revision.toNat → backend.up = true →
      LoopMove backend
        { backend with
          stored := Function.update backend.stored guildId revision
          pending := backend.pending ++ [.notification ⟨guildId, revision⟩] }
  | unannounced (guildId : GuildId) (revision : StateRevision) :
      (backend.stored guildId).toNat < revision.toNat → backend.up = false →
      LoopMove backend
        { backend with stored := Function.update backend.stored guildId revision }
  | failed : LoopMove backend
      { backend with up := false, pending := backend.pending ++ [.failure] }
  | taken (event : SnapshotEvent) (pending : List SubscriptionItem) :
      backend.phase = .listening → backend.pending = .notification event :: pending →
      LoopMove backend { backend with pending, phase := .reading event }
  | lost (pending : List SubscriptionItem) :
      backend.phase = .listening → backend.pending = .failure :: pending →
      LoopMove backend (disconnected { backend with pending })
  | read (event : SnapshotEvent) : backend.phase = .reading event →
      LoopMove backend
        { backend with phase := .publishing ⟨event.guildId, backend.stored event.guildId⟩ }
  | outdated (event : SnapshotEvent) : backend.phase = .reading event →
      (backend.stored event.guildId).toNat < event.revision.toNat →
      LoopMove backend { backend with phase := .listening }
  | unreadable (event : SnapshotEvent) : backend.phase = .reading event →
      LoopMove backend backend.disconnected
  | scanned (guildId : GuildId) (guilds : List GuildId) :
      backend.phase = .scanning (guildId :: guilds) →
      LoopMove backend
        { backend with phase := .scanned ⟨guildId, backend.stored guildId⟩ guilds }
  | scanFailed (guilds : List GuildId) : backend.phase = .scanning guilds →
      LoopMove backend { backend with phase := .retrying }
  | resubscribed : backend.phase = .retrying →
      LoopMove backend { backend with up := true, pending := [], phase := .resubscribed }
  | copied : backend.phase = .resubscribed →
      LoopMove backend { backend with phase := .scanning backend.subscribedGuilds.elems }
  | ready : backend.phase = .scanning [] →
      LoopMove backend { backend with phase := .listening, subscriptionReady := true }
  | stopped : LoopMove backend
      { backend with phase := .stopped, subscriptionReady := false }

/-- What the loop publishes, and how it goes on. -/
inductive Publishes : LoopPhase → StoredSnapshot → LoopPhase → Prop
  | announced (snapshot : StoredSnapshot) : Publishes (.publishing snapshot) snapshot .listening
  | scanned (snapshot : StoredSnapshot) (guilds : List GuildId) :
      Publishes (.scanned snapshot guilds) snapshot (.scanning guilds)

/-- What a step can do to the backend. -/
inductive Move (capacity : ℕ) (backend : ApiBackend) : ApiBackend → Prop
  | loop {backend' : ApiBackend} : LoopMove backend backend' → Move capacity backend backend'
  | published (snapshot : StoredSnapshot) (phase : LoopPhase) :
      Publishes backend.phase snapshot phase →
      Move capacity backend { backend.publish capacity snapshot with phase }
  | connected (guildId : GuildId) : Move capacity backend
      { backend with
        subscribedGuilds := backend.subscribedGuilds.insert guildId
        clients := backend.clients ++ [⟨guildId, .listed⟩] }
  | client (index : ℕ) (client : EventsClient) (phase : ClientPhase) :
      backend.clients[index]? = some client → ClientMove backend.stored client phase →
      Move capacity backend (backend.setClient index client phase)

variable {capacity : ℕ} {backend backend' : ApiBackend}

theorem clientStep_moves {index : ℕ} {client : EventsClient}
    (hclient : backend.clients[index]? = some client) (event : ApiEvent) :
    Move capacity backend (backend.clientStep index client event) := by
  cases event with
  | subscribe =>
    simp only [clientStep]
    split <;> rename_i hphase
    · exact .client index client _ hclient (.subscribed hphase)
    · exact .loop .idle
  | fetch _ fails =>
    simp only [clientStep, getSnapshot]
    split <;> rename_i hphase
    · cases fails with
      | true => exact .client index client _ hclient .closed
      | false => exact .client index client _ hclient (.fetched _ hphase)
    · exact .loop .idle
  | «open» =>
    simp only [clientStep]
    split <;> rename_i hphase
    · exact .client index client _ hclient (.opened _ _ hphase)
    · exact .loop .idle
  | poll =>
    simp only [clientStep]
    split <;> rename_i hphase
    · split <;> rename_i hpoll
      · exact .client index client _ hclient (.polled _ _ hphase hpoll)
      · exact .client index client _ hclient .closed
    · exact .loop .idle
  | close => exact .client index client _ hclient .closed
  | _ => exact .loop .idle

theorem step_moves (capacity : ℕ) (backend : ApiBackend) (event : ApiEvent) :
    Move capacity backend (step capacity backend event) := by
  cases event with
  | write guildId revision =>
    simp only [step]
    split_ifs with hnewer hup
    · exact .loop (.announced guildId revision hnewer hup)
    · exact .loop (.unannounced guildId revision hnewer (by simpa using hup))
    · exact .loop .idle
  | fail =>
    simp only [step]
    split
    · exact .loop .failed
    · exact .loop .idle
  | take =>
    simp only [step]
    split <;> rename_i hphase hpending
    · exact .loop (.taken _ _ hphase hpending)
    · exact .loop (.lost _ hphase hpending)
    · exact .loop .idle
  | read fails =>
    simp only [step]
    split <;> rename_i hphase
    · cases fails with
      | true => exact .loop (.unreadable _ hphase)
      | false =>
        simp only [getSnapshot, handleNotification, Bool.false_eq_true, if_false]
        split_ifs with hcurrent
        · exact .loop (.read _ hphase)
        · exact .loop (.outdated _ hphase (by simpa using hcurrent))
    · cases fails with
      | true => exact .loop (.scanFailed _ hphase)
      | false =>
        simp only [getSnapshot, handleScanned, Bool.false_eq_true, if_false, if_true]
        exact .loop (.scanned _ _ hphase)
    · exact .loop .idle
  | publish =>
    simp only [step]
    split <;> rename_i hphase
    · exact .published _ _ (by rw [hphase]; exact .announced _)
    · exact .published _ _ (by rw [hphase]; exact .scanned _ _)
    · exact .loop .idle
  | resubscribe =>
    simp only [step]
    split <;> rename_i hphase
    · split
      · exact .loop (.resubscribed hphase)
      · exact .loop .idle
    · exact .loop .idle
  | copyGuilds =>
    simp only [step]
    split <;> rename_i hphase
    · exact .loop (.copied hphase)
    · exact .loop .idle
  | finishScan =>
    simp only [step]
    split <;> rename_i hphase
    · exact .loop (.ready hphase)
    · exact .loop .idle
  | shutdown =>
    simp only [step]
    split
    · exact .loop .stopped
    · exact .loop .stopped
    · exact .loop .idle
  | connect guildId => exact .connected guildId
  | subscribe | fetch | «open» | poll | close =>
    simp only [step]
    split <;> rename_i hclient
    · exact clientStep_moves hclient _
    · exact .loop .idle

/-- The loop will still publish what is stored for a guild. -/
def Concerns (stored : GuildId → StateRevision) (guildId : GuildId) : LoopPhase → Prop
  | .listening => False
  | .reading event => event.guildId = guildId
  | .publishing snapshot => snapshot.guildId = guildId ∧
      (stored guildId).toNat ≤ snapshot.revision.toNat
  | .scanning guilds => guildId ∈ guilds
  | .scanned snapshot guilds => guildId ∈ guilds ∨ snapshot.guildId = guildId ∧
      (stored guildId).toNat ≤ snapshot.revision.toNat
  | .retrying | .resubscribed | .stopped => True

/-- Nothing newer than a revision is stored for a guild, or it will still be published. -/
def Covered (backend : ApiBackend) (guildId : GuildId) (revision : StateRevision) : Prop :=
  (backend.stored guildId).toNat ≤ revision.toNat ∨ backend.up = false ∨
    (∃ event : SnapshotEvent, .notification event ∈ backend.pending ∧ event.guildId = guildId) ∨
    Concerns backend.stored guildId backend.phase

theorem Covered.mono {guildId : GuildId} {older newer : StateRevision}
    (h : backend.Covered guildId older) (hle : older.toNat ≤ newer.toNat) :
    backend.Covered guildId newer :=
  h.imp_left (Nat.le_trans · hle)

/-- A snapshot in the hands of the loop is not newer than what is stored. -/
def Within (stored : GuildId → StateRevision) : LoopPhase → Prop
  | .reading event => event.revision.toNat ≤ (stored event.guildId).toNat
  | .publishing snapshot | .scanned snapshot _ =>
    snapshot.revision.toNat ≤ (stored snapshot.guildId).toNat
  | .listening | .scanning _ | .retrying | .resubscribed | .stopped => True

/-- The loop is ready only in its main loop, it will see that the subscription has failed, and
announces nothing that is not stored. -/
structure LoopSound (backend : ApiBackend) : Prop where
  ready : backend.subscriptionReady = true → backend.phase = .listening ∨
    (∃ event, backend.phase = .reading event) ∨ ∃ snapshot, backend.phase = .publishing snapshot
  within : Within backend.stored backend.phase
  announced : ∀ event, .notification event ∈ backend.pending →
    event.revision.toNat ≤ (backend.stored event.guildId).toNat

theorem stored_le_update {stored : GuildId → StateRevision} {guildId : GuildId}
    {revision : StateRevision} (hnewer : (stored guildId).toNat < revision.toNat)
    (other : GuildId) :
    (stored other).toNat ≤ (Function.update stored guildId revision other).toNat := by
  by_cases h : other = guildId
  · subst h
    simpa using hnewer.le
  · simp [h]

theorem Within.mono {stored stored' : GuildId → StateRevision} {phase : LoopPhase}
    (h : Within stored phase) (hle : ∀ guildId, (stored guildId).toNat ≤ (stored' guildId).toNat) :
    Within stored' phase := by
  cases phase with
  | reading event => exact Nat.le_trans h (hle _)
  | publishing snapshot => exact Nat.le_trans h (hle _)
  | scanned snapshot guilds => exact Nat.le_trans h (hle _)
  | _ => trivial

theorem LoopMove.stored_le (hmove : LoopMove backend backend') (guildId : GuildId) :
    (backend.stored guildId).toNat ≤ (backend'.stored guildId).toNat := by
  cases hmove with
  | announced _ _ hnewer => exact stored_le_update hnewer guildId
  | unannounced _ _ hnewer => exact stored_le_update hnewer guildId
  | _ => exact le_rfl

theorem LoopMove.unchanged (hmove : LoopMove backend backend') :
    backend'.subscribedGuilds = backend.subscribedGuilds ∧ backend'.clients = backend.clients := by
  cases hmove <;> exact ⟨rfl, rfl⟩

theorem LoopMove.loopSound (hmove : LoopMove backend backend') (h : backend.LoopSound) :
    backend'.LoopSound := by
  cases hmove with
  | idle => exact h
  | announced guildId revision hnewer =>
    refine ⟨h.ready, h.within.mono (stored_le_update hnewer), fun event hevent => ?_⟩
    rcases List.mem_append.mp hevent with hevent | hevent
    · exact Nat.le_trans (h.announced event hevent) (stored_le_update hnewer _)
    · obtain rfl : event = ⟨guildId, revision⟩ := by simpa using hevent
      simp
  | unannounced guildId revision hnewer =>
    exact ⟨h.ready, h.within.mono (stored_le_update hnewer),
      fun event hevent => Nat.le_trans (h.announced event hevent) (stored_le_update hnewer _)⟩
  | failed => exact ⟨h.ready, h.within, by simpa using h.announced⟩
  | taken event pending hphase hpending =>
    have hannounced := h.announced
    simp only [hpending, List.mem_cons] at hannounced
    exact ⟨fun _ => .inr (.inl ⟨event, rfl⟩), hannounced event (.inl rfl),
      fun other hother => hannounced other (.inr hother)⟩
  | lost pending hphase hpending =>
    have hannounced := h.announced
    simp only [hpending, List.mem_cons] at hannounced
    exact ⟨by simp [disconnected], trivial, fun other hother => hannounced other (.inr hother)⟩
  | read event hphase => exact ⟨fun _ => .inr (.inr ⟨_, rfl⟩), le_rfl, h.announced⟩
  | outdated => exact ⟨fun _ => .inl rfl, trivial, h.announced⟩
  | unreadable => exact ⟨by simp [disconnected], trivial, h.announced⟩
  | scanned guildId guilds hphase =>
    exact ⟨fun hready => by simpa [hphase] using h.ready hready, le_rfl, h.announced⟩
  | scanFailed guilds hphase =>
    exact ⟨fun hready => by simpa [hphase] using h.ready hready, trivial, h.announced⟩
  | resubscribed hphase =>
    exact ⟨fun hready => by simpa [hphase] using h.ready hready, trivial, by simp⟩
  | copied hphase =>
    exact ⟨fun hready => by simpa [hphase] using h.ready hready, trivial, h.announced⟩
  | ready => exact ⟨fun _ => .inl rfl, trivial, h.announced⟩
  | stopped => exact ⟨by simp, trivial, h.announced⟩

theorem Move.loopSound (hmove : Move capacity backend backend') (h : backend.LoopSound) :
    backend'.LoopSound := by
  cases hmove with
  | loop hmove => exact hmove.loopSound h
  | published snapshot phase hpublishes =>
    generalize hphase : backend.phase = before at hpublishes
    cases hpublishes with
    | announced => exact ⟨fun _ => .inl rfl, trivial, h.announced⟩
    | scanned =>
      exact ⟨fun hready => by simpa [hphase] using h.ready hready, trivial, h.announced⟩
  | connected | client => exact ⟨h.ready, h.within, h.announced⟩

theorem Covered.of_concerns {guildId : GuildId} {revision : StateRevision}
    (h : Concerns backend.stored guildId backend.phase) : backend.Covered guildId revision :=
  .inr (.inr (.inr h))

theorem Covered.imp {guildId : GuildId} {revision : StateRevision}
    (h : backend.Covered guildId revision)
    (hstored : backend'.stored guildId = backend.stored guildId)
    (hup : backend.up = false → backend'.up = false)
    (hpending : ∀ event, .notification event ∈ backend.pending → event.guildId = guildId →
      .notification event ∈ backend'.pending ∨ Concerns backend'.stored guildId backend'.phase)
    (hphase : Concerns backend.stored guildId backend.phase →
      Concerns backend'.stored guildId backend'.phase) : backend'.Covered guildId revision := by
  rcases h with hle | hdown | ⟨event, hevent, heq⟩ | hconcerns
  · exact .inl (hstored ▸ hle)
  · exact .inr (.inl (hup hdown))
  · rcases hpending event hevent heq with hkept | hconcerns
    · exact .inr (.inr (.inl ⟨event, hkept, heq⟩))
    · exact .of_concerns hconcerns
  · exact .of_concerns (hphase hconcerns)

/-- What is covered for a subscribed guild stays covered. -/
theorem LoopMove.covered (hmove : LoopMove backend backend') (h : backend.LoopSound)
    {guildId : GuildId} (hlisted : guildId ∈ backend.subscribedGuilds) {revision : StateRevision}
    (hcovered : backend.Covered guildId revision) : backend'.Covered guildId revision := by
  cases hmove with
  | idle => exact hcovered
  | announced other newer =>
    by_cases heq : other = guildId
    · exact .inr (.inr (.inl ⟨⟨other, newer⟩, by simp, heq⟩))
    · have hsame : Function.update backend.stored other newer guildId = backend.stored guildId :=
        Function.update_of_ne (Ne.symm heq) ..
      refine hcovered.imp hsame id (fun event hevent _ => .inl (by simp [hevent])) ?_
      intro hconcerns
      cases hphase : backend.phase <;> simp_all [Concerns]
  | unannounced _ _ _ hdown => exact .inr (.inl hdown)
  | failed => exact .inr (.inl rfl)
  | taken event pending hphase hpending =>
    refine hcovered.imp rfl id (fun other hother heq => ?_) (by simp [hphase, Concerns])
    rw [hpending, List.mem_cons] at hother
    rcases hother with hhead | hother
    · obtain rfl : other = event := by simpa using hhead
      exact .inr heq
    · exact .inl hother
  | read event hphase =>
    refine hcovered.imp rfl id (fun _ hother _ => .inl hother) ?_
    rw [hphase]
    rintro rfl
    exact ⟨rfl, le_rfl⟩
  | outdated event hphase holder =>
    have hwithin := h.within
    rw [hphase] at hwithin
    exact absurd hwithin (Nat.not_le.mpr holder)
  | scanned other guilds hphase =>
    refine hcovered.imp rfl id (fun _ hother _ => .inl hother) ?_
    rw [hphase]
    intro hmem
    rcases List.mem_cons.mp hmem with rfl | hmem
    · exact .inr ⟨rfl, le_rfl⟩
    · exact .inl hmem
  | copied => exact .of_concerns hlisted
  | ready hphase =>
    refine hcovered.imp rfl id (fun _ hother _ => .inl hother) ?_
    simp [hphase, Concerns]
  | lost | unreadable | scanFailed | resubscribed | stopped => exact .of_concerns trivial

variable (capacity) in
/-- A publication leaves a revision covered, or brings one that is. -/
theorem Publishes.covered {snapshot : StoredSnapshot} {phase : LoopPhase}
    (hpublishes : Publishes backend.phase snapshot phase) {guildId : GuildId}
    {revision : StateRevision} (hcovered : backend.Covered guildId revision) :
    { backend.publish capacity snapshot with phase }.Covered guildId revision ∨
      snapshot.guildId = guildId ∧
        (backend.stored guildId).toNat ≤ snapshot.revision.toNat := by
  by_cases hmine : snapshot.guildId = guildId ∧
      (backend.stored guildId).toNat ≤ snapshot.revision.toNat
  · exact .inr hmine
  · refine .inl (hcovered.imp rfl id (fun _ hother _ => .inl hother) ?_)
    generalize backend.phase = before at hpublishes
    cases hpublishes with
    | announced => exact fun hconcerns => absurd hconcerns hmine
    | scanned => exact fun hconcerns => hconcerns.resolve_right hmine

theorem Publishes.within {snapshot : StoredSnapshot} {phase : LoopPhase}
    (hpublishes : Publishes backend.phase snapshot phase) (h : backend.LoopSound) :
    snapshot.revision.toNat ≤ (backend.stored snapshot.guildId).toNat := by
  have hwithin := h.within
  generalize backend.phase = before at hpublishes hwithin
  cases hpublishes with
  | announced => exact hwithin
  | scanned => exact hwithin

/-- A client holds snapshots of its guild that were stored, and one that is covered. -/
structure ClientSound (backend : ApiBackend) (client : EventsClient) : Prop where
  listed : client.guildId ∈ backend.subscribedGuilds
  held : ∀ snapshot ∈ client.phase.held, snapshot.guildId = client.guildId ∧
    snapshot.revision.toNat ≤ (backend.stored client.guildId).toNat
  covered : client.phase.Whole → ∃ snapshot ∈ client.phase.held,
    backend.Covered client.guildId snapshot.revision
  told : ∀ state, client.phase = .streaming state → state.Told

variable {client : EventsClient}

theorem ClientSound.loop (h : backend.ClientSound client) (hloop : backend.LoopSound)
    (hmove : LoopMove backend backend') : backend'.ClientSound client := by
  refine ⟨?_, fun snapshot hheld => ?_, fun hwhole => ?_, h.told⟩
  · rw [hmove.unchanged.1]
    exact h.listed
  · obtain ⟨hguild, hle⟩ := h.held snapshot hheld
    exact ⟨hguild, Nat.le_trans hle (hmove.stored_le _)⟩
  · obtain ⟨snapshot, hheld, hcovered⟩ := h.covered hwhole
    exact ⟨snapshot, hheld, hmove.covered hloop h.listed hcovered⟩

theorem Told.deliver (h : ∀ state, client.phase = .streaming state → state.Told)
    (snapshot : StoredSnapshot) (state : StreamState)
    (hstate : (client.deliver capacity snapshot).phase = .streaming state) : state.Told := by
  unfold EventsClient.deliver at hstate
  split_ifs at hstate with hguild
  · exact h state hstate
  · cases hphase : client.phase with
    | streaming before =>
      simp only [hphase, ClientPhase.streaming.injEq] at hstate
      subst hstate
      exact (h before hphase).withReceiver _
    | _ => simp [hphase] at hstate

theorem ClientSound.deliver {snapshot : StoredSnapshot} {phase : LoopPhase}
    (h : backend.ClientSound client) (hloop : backend.LoopSound)
    (hpublishes : Publishes backend.phase snapshot phase) :
    { backend.publish capacity snapshot with phase }.ClientSound
      (client.deliver capacity snapshot) := by
  refine ⟨?_, fun held hheld => ?_, fun hwhole => ?_, Told.deliver h.told snapshot⟩
  · rw [EventsClient.deliver_guildId]
    exact h.listed
  · rw [EventsClient.deliver_guildId]
    rcases EventsClient.mem_held_deliver hheld with hheld | ⟨rfl, hguild⟩
    · exact h.held held hheld
    · exact ⟨hguild, hguild ▸ hpublishes.within hloop⟩
  · rw [EventsClient.deliver_guildId]
    obtain ⟨hbefore, hkept, hnew⟩ := EventsClient.whole_deliver hwhole
    obtain ⟨held, hheld, hcovered⟩ := h.covered hbefore
    rcases hpublishes.covered capacity hcovered with hcovered | ⟨hguild, hle⟩
    · exact ⟨held, hkept held hheld, hcovered⟩
    · exact ⟨snapshot, hnew hguild, .inl hle⟩

theorem ClientSound.move (h : backend.ClientSound client) {phase : ClientPhase}
    (hmove : ClientMove backend.stored client phase) :
    backend.ClientSound { client with phase } := by
  cases hmove with
  | subscribed => exact ⟨h.listed, by simp [ClientPhase.held], False.elim, by simp⟩
  | fetched receiver hphase =>
    have hheld := h.held
    rw [hphase] at hheld
    refine ⟨h.listed, ?_, fun _ => ⟨_, List.mem_cons_self, .inl le_rfl⟩, by simp⟩
    intro snapshot hsnapshot
    rcases List.mem_cons.mp hsnapshot with rfl | hsnapshot
    · exact ⟨rfl, le_rfl⟩
    · exact hheld snapshot hsnapshot
  | opened snapshot receiver hphase =>
    have hheld := h.held
    have hcovered := h.covered
    rw [hphase] at hheld hcovered
    refine ⟨h.listed, hheld, fun hwhole => hcovered hwhole.2, ?_⟩
    rintro state ⟨⟩
    exact StreamState.playerStream_told
  | polled state state' hphase hpoll =>
    have hheld := h.held
    have hcovered := h.covered
    rw [hphase] at hheld hcovered
    refine ⟨h.listed, fun snapshot hsnapshot => ?_, fun hwhole => ?_, ?_⟩
    · exact hheld snapshot (StreamState.mem_held_poll hpoll hsnapshot)
    · obtain ⟨hbefore, hkept⟩ := StreamState.whole_poll hpoll hwhole
      obtain ⟨snapshot, hsnapshot, hcovers⟩ := hcovered hbefore
      obtain ⟨kept, hkept, hle⟩ := hkept snapshot hsnapshot
      exact ⟨kept, hkept, hcovers.mono hle⟩
    · rintro state ⟨⟩
      exact (h.told _ hphase).poll hpoll
  | closed => exact ⟨h.listed, by simp [ClientPhase.held], False.elim, by simp⟩

theorem Move.clientSound (hmove : Move capacity backend backend') (hloop : backend.LoopSound)
    (h : ∀ client ∈ backend.clients, backend.ClientSound client) :
    ∀ client ∈ backend'.clients, backend'.ClientSound client := by
  cases hmove with
  | loop hmove =>
    intro client hclient
    rw [hmove.unchanged.2] at hclient
    exact (h client hclient).loop hloop hmove
  | published snapshot phase hpublishes =>
    intro client hclient
    obtain ⟨before, hbefore, rfl⟩ := List.mem_map.mp hclient
    exact (h before hbefore).deliver hloop hpublishes
  | connected guildId =>
    intro client hclient
    rcases List.mem_append.mp hclient with hclient | hclient
    · obtain ⟨hlisted, hheld, hcovered, htold⟩ := h client hclient
      exact ⟨by simp [hlisted], hheld, hcovered, htold⟩
    · obtain rfl := List.mem_singleton.mp hclient
      exact ⟨by simp, by simp [ClientPhase.held], False.elim, by simp⟩
  | client index client phase hindex hmove =>
    intro other hother
    rcases List.mem_or_eq_of_mem_set hother with hother | rfl
    · obtain ⟨hlisted, hheld, hcovered, htold⟩ := h other hother
      exact ⟨hlisted, hheld, hcovered, htold⟩
    · obtain ⟨hlisted, hheld, hcovered, htold⟩ :=
        (h client (List.mem_of_getElem? hindex)).move hmove
      exact ⟨hlisted, hheld, hcovered, htold⟩

theorem run_sound {stored : GuildId → StateRevision} {taken : List (Taken ApiBackend ApiEvent)}
    (run : Run (fun backend event backend' => step capacity backend event = backend')
      (start stored) taken backend) :
    backend.LoopSound ∧ ∀ client ∈ backend.clients, backend.ClientSound client := by
  refine run.invariant (I := fun backend =>
    backend.LoopSound ∧ ∀ client ∈ backend.clients, backend.ClientSound client)
    ⟨⟨by simp [start], trivial, by simp [start]⟩, by simp [start]⟩ ?_
  rintro backend event _ ⟨hloop, hclients⟩ rfl
  have hmove := step_moves capacity backend event
  exact ⟨hmove.loopSound hloop, hmove.clientSound hloop hclients⟩

/-- The subscription is up, and the loop is done with what it had to catch up on. -/
def Ready (backend : ApiBackend) : Prop := backend.up = true ∧ backend.subscriptionReady = true

/-- A notification has been delivered, and the loop is not yet done with it. -/
def Unprocessed (backend : ApiBackend) (event : SnapshotEvent) : Prop :=
  .notification event ∈ backend.pending ∨ backend.phase = .reading event ∨
    ∃ snapshot, backend.phase = .publishing snapshot ∧ snapshot.guildId = event.guildId

theorem LoopSound.listening (h : backend.LoopSound) (hready : backend.Ready)
    (hprocessed : ∀ event, ¬ backend.Unprocessed event) : backend.phase = .listening := by
  rcases h.ready hready.2 with hphase | ⟨event, hphase⟩ | ⟨snapshot, hphase⟩
  · exact hphase
  · exact absurd (.inr (.inl hphase)) (hprocessed event)
  · exact absurd (.inr (.inr ⟨snapshot, hphase, rfl⟩))
      (hprocessed ⟨snapshot.guildId, snapshot.revision⟩)

/-- With nothing left to process, only what is not newer than the store covers it. -/
theorem Covered.stored_le {guildId : GuildId} {revision : StateRevision}
    (h : backend.Covered guildId revision) (hloop : backend.LoopSound) (hready : backend.Ready)
    (hprocessed : ∀ event, ¬ backend.Unprocessed event) :
    (backend.stored guildId).toNat ≤ revision.toNat := by
  rcases h with hle | hdown | ⟨event, hevent, -⟩ | hconcerns
  · exact hle
  · simp [hready.1] at hdown
  · exact absurd (.inl hevent) (hprocessed event)
  · rw [hloop.listening hready hprocessed] at hconcerns
    exact hconcerns.elim

/-- Once everything is processed, a stream that has consumed its channel has emitted what is
stored; one that goes no further has told so. -/
theorem streams_current {stored : GuildId → StateRevision}
    {taken : List (Taken ApiBackend ApiEvent)}
    (run : Run (fun backend event backend' => step capacity backend event = backend')
      (start stored) taken backend)
    (hready : backend.Ready) (hprocessed : ∀ event, ¬ backend.Unprocessed event)
    (client : EventsClient) (hclient : client ∈ backend.clients) (state : StreamState)
    (hstate : client.phase = .streaming state) :
    (state.Consumed → state.lastEmitted = some (backend.stored client.guildId)) ∧
      (state.closeAfterEvent = true → state.Resynced) := by
  obtain ⟨hloop, hclients⟩ := run_sound run
  obtain ⟨-, hheld, hcovered, htold⟩ := hclients client hclient
  rw [hstate] at hheld hcovered
  refine ⟨?_, (htold state hstate).resynced⟩
  rintro ⟨hopen, hinitial, hreceiver⟩
  have hlast : (⟨state.guildId, state.lastRevision⟩ : StoredSnapshot) ∈
      (ClientPhase.streaming state).held := List.mem_cons_self
  obtain ⟨snapshot, hsnapshot, hcovers⟩ := hcovered ⟨hopen, by rw [hreceiver]⟩
  obtain rfl : snapshot = ⟨state.guildId, state.lastRevision⟩ := by
    simpa [ClientPhase.held, hreceiver] using hsnapshot
  have hle : state.lastRevision.toNat ≤ (backend.stored client.guildId).toNat :=
    (hheld _ hlast).2
  have hge := hcovers.stored_le hloop hready hprocessed
  have heq : state.lastRevision = backend.stored client.guildId :=
    StateRevision.toNat_injective (Nat.le_antisymm hle hge)
  rw [(htold state hstate).emitted hopen hinitial, heq]

/-- A snapshot is written between joining the channel and reading the first snapshot, one more
while the subscription is down. -/
def interrupted (guildId : GuildId) : List ApiEvent :=
  [.connect guildId, .subscribe 0, .write guildId ⟨1⟩, .fetch 0 false, .take, .read false, .publish,
    .open 0, .poll 0, .poll 0, .fail, .write guildId ⟨2⟩, .take, .resubscribe true, .copyGuilds,
    .read false, .publish, .finishScan, .poll 0]

/-- The stream that a dashboard of guild 1 is left with. -/
def interruptedStream : StreamState :=
  ⟨⟨.MIN⟩, none, ⟨0, []⟩, ⟨2⟩, false, [.snapshot ⟨1⟩, .player ⟨2⟩]⟩

theorem streams_current_interrupted :
    ∃ taken backend, Run (fun backend event backend' => step 256 backend event = backend')
      (start fun _ => .INITIAL) taken backend ∧
      backend.clients = [⟨⟨⟨1, by decide⟩⟩, .streaming interruptedStream⟩] ∧
      interruptedStream.lastEmitted = some (backend.stored ⟨⟨1, by decide⟩⟩) := by
  have run := run_replay (step 256) (start fun _ => .INITIAL) (interrupted ⟨⟨1, by decide⟩⟩)
  have hclients : (replay (step 256) (start fun _ => .INITIAL)
      (interrupted ⟨⟨1, by decide⟩⟩)).2.clients =
        [⟨⟨⟨1, by decide⟩⟩, .streaming interruptedStream⟩] := by decide +kernel
  have hpending : (replay (step 256) (start fun _ => .INITIAL)
      (interrupted ⟨⟨1, by decide⟩⟩)).2.pending = [] := by decide +kernel
  have hphase : (replay (step 256) (start fun _ => .INITIAL)
      (interrupted ⟨⟨1, by decide⟩⟩)).2.phase = .listening := by decide +kernel
  refine ⟨_, _, run, hclients, ?_⟩
  exact (streams_current run ⟨by decide +kernel, by decide +kernel⟩
    (by simp [Unprocessed, hpending, hphase]) _ (by rw [hclients]; exact List.mem_cons_self) _
    rfl).1 ⟨rfl, rfl, rfl⟩

end ApiBackend

end PepeAudio
