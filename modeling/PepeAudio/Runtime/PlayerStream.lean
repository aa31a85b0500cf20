import PepeAudio.Core.WireFormat
import PepeAudio.Player.Model
import PepeAudio.Runtime.ApiEvents

/-!
# The events of one player stream

A stream sends its first snapshot and then every snapshot that directly follows
the last one it sent. Whatever else it receives is skipped when it is old and
ends the stream otherwise, after an event that asks the client to start again.
-/
namespace PepeAudio.PlayerStream

/-- What the broadcast channel hands to a stream; it is closed after its last item. -/
inductive Received where
  | notification (snapshot : PlayerSnapshot)
  | lagged (skipped : UInt64)

inductive Event where
  | snapshot (kind : String) (content : PlayerSnapshot)
  | resync (reason : String) (lastRevision : StateRevision) (skippedEvents : Option UInt64)

namespace Event

def name : Event → String
  | .snapshot kind _ => kind
  | .resync _ _ _ => "resync"

def id : Event → Option String
  | .snapshot _ content => some (decimal content.revision.get)
  | .resync _ _ _ => none

def data : Event → Json
  | .snapshot _ content =>
    .object [("revision", natural content.revision.get), ("snapshot", content.toJson)]
  | .resync reason lastRevision skippedEvents =>
    .object ([("reason", .string reason), ("last_revision", natural lastRevision.get)] ++
      skippedEvents.toList.map fun skipped => ("skipped_events", natural skipped))

/-- The revision of an event that carries a snapshot. -/
def revision : Event → Option StateRevision
  | .snapshot _ content => some content.revision
  | .resync _ _ _ => none

def isResync : Event → Bool
  | .snapshot _ _ => false
  | .resync _ _ _ => true

end Event

def snapshotEvent (kind : String) (snapshot : PlayerSnapshot) : Except String Event :=
  match snapshot.validatePublicShape with
  | .error _ => .error "player snapshot shape is invalid"
  | .ok () =>
    let event := Event.snapshot kind snapshot
    if MAX_PLAYER_SNAPSHOT_JSON_BYTES < event.data.serde.bytes then
      .error "player snapshot exceeds the SSE frame limit"
    else .ok event

structure StreamState where
  guildId : GuildId
  initial : Option Event
  receiver : List Received
  lastRevision : StateRevision
  closeAfterEvent : Bool

namespace StreamState

def resync (state : StreamState) (reason : String) (skippedEvents : Option UInt64) :
    Option Event × StreamState :=
  (some (.resync reason state.lastRevision skippedEvents), { state with closeAfterEvent := true })

/-- One round of the loop: the event to send, if there is one. -/
def receive (state : StreamState) : Received → Option Event × StreamState
  | .notification snapshot =>
    if snapshot.guildId ≠ state.guildId then state.resync "guild_mismatch" none
    else if snapshot.revision.toNat ≤ state.lastRevision.toNat then (none, state)
    else if state.lastRevision.checkedNext ≠ some snapshot.revision then
      state.resync "revision_gap" none
    else match snapshotEvent "player" snapshot with
      | .error _ => state.resync "serialization_failure" none
      | .ok event => (some event, { state with lastRevision := snapshot.revision })
  | .lagged skipped => state.resync "bounded_lag" (some skipped)

/-- The loop over what is received, until there is an event. -/
def loop (state : StreamState) : List Received → Option (Event × StreamState)
  | [] => none
  | item :: rest =>
    match receive { state with receiver := rest } item with
    | (some event, state) => some (event, state)
    | (none, state) => loop state rest

/-- The next event of the stream; `none` is its end. -/
def next (state : StreamState) : Option (Event × StreamState) :=
  if state.closeAfterEvent then none
  else match state.initial with
    | some initial => some (initial, { state with initial := none })
    | none => state.loop state.receiver

/-- The events of the first polls, and the stream after them. -/
def collect : ℕ → StreamState → List Event × StreamState
  | 0, state => ([], state)
  | polls + 1, state =>
    match state.next with
    | none => ([], state)
    | some (event, state) =>
      let (events, state) := collect polls state
      (event :: events, state)

end StreamState

def playerStream (snapshot : PlayerSnapshot) (receiver : List Received) :
    Except String StreamState :=
  match snapshotEvent "snapshot" snapshot with
  | .error error => .error error
  | .ok initial => .ok ⟨snapshot.guildId, some initial, receiver, snapshot.revision, false⟩

theorem snapshotEvent_eq_ok {kind : String} {snapshot : PlayerSnapshot} {event : Event}
    (h : snapshotEvent kind snapshot = .ok event) : event = .snapshot kind snapshot := by
  unfold snapshotEvent at h
  split at h
  · contradiction
  · simp only at h
    split_ifs at h
    exact (Except.ok.inj h).symm

/-- A stream past its first event has sent its next one: the snapshot that follows the last one it
sent, or the event it closes with. -/
inductive Sent (state : StreamState) : Event → StreamState → Prop
  | snapshot (snapshot : PlayerSnapshot) (rest : List Received)
      (hnext : state.lastRevision.checkedNext = some snapshot.revision) :
      Sent state (.snapshot "player" snapshot)
        { state with lastRevision := snapshot.revision, receiver := rest }
  | resync (reason : String) (skippedEvents : Option UInt64) (rest : List Received) :
      Sent state (.resync reason state.lastRevision skippedEvents)
        { state with closeAfterEvent := true, receiver := rest }

theorem Sent.of_receiver {state : StreamState} {receiver : List Received} {event : Event}
    {after : StreamState}
    (h : Sent { state with receiver } event after) : Sent state event after := by
  cases h with
  | snapshot content rest hnext => exact .snapshot content rest hnext
  | resync reason skippedEvents rest => exact .resync reason skippedEvents rest

namespace StreamState

variable {state : StreamState}

/-- A round sends nothing and changes nothing, or sends an event. -/
theorem receive_cases (state : StreamState) (item : Received) :
    state.receive item = (none, state) ∨
      ∃ event after, state.receive item = (some event, after) ∧ Sent state event after := by
  have hresync : ∀ reason skippedEvents, ∃ event after,
      state.resync reason skippedEvents = (some event, after) ∧ Sent state event after :=
    fun reason skippedEvents => ⟨_, _, rfl, .resync reason skippedEvents state.receiver⟩
  cases item with
  | lagged skipped => exact Or.inr (hresync _ _)
  | notification content =>
    unfold receive
    dsimp only
    split_ifs with hguild hstale hgap
    · exact Or.inr (hresync _ _)
    · exact Or.inl rfl
    · exact Or.inr (hresync _ _)
    · cases hevent : snapshotEvent "player" content with
      | error error => exact Or.inr (hresync _ _)
      | ok event =>
        rw [snapshotEvent_eq_ok hevent]
        exact Or.inr ⟨_, _, rfl, .snapshot content state.receiver (not_not.mp hgap)⟩

theorem loop_sent {received : List Received} {event : Event} {after : StreamState}
    (h : state.loop received = some (event, after)) : Sent state event after := by
  induction received generalizing state with
  | nil => contradiction
  | cons item received ih =>
    unfold loop at h
    rcases receive_cases { state with receiver := received } item with
      hskipped | ⟨sent, next, hsent, hcases⟩
    · rw [hskipped] at h
      exact (ih h).of_receiver
    · rw [hsent] at h
      obtain ⟨rfl, rfl⟩ := Prod.mk.inj (Option.some.inj h)
      exact hcases.of_receiver

theorem next_of_closed (h : state.closeAfterEvent = true) : state.next = none := by
  rw [next, if_pos h]

theorem next_of_open (hopen : state.closeAfterEvent = false) (hinitial : state.initial = none) :
    state.next = state.loop state.receiver := by
  simp [next, hopen, hinitial]

/-- What is not newer than the last snapshot sent makes no difference. -/
theorem next_stale {stale : PlayerSnapshot} {rest : List Received}
    (hinitial : state.initial = none) (hguild : stale.guildId = state.guildId)
    (hstale : stale.revision.toNat ≤ state.lastRevision.toNat) :
    next { state with receiver := .notification stale :: rest } =
      next { state with receiver := rest } := by
  by_cases hclosed : state.closeAfterEvent = true
  · have hnone : ∀ receiver, next { state with receiver } = none :=
      fun receiver => next_of_closed hclosed
    rw [hnone, hnone]
  · have hopen : ∀ receiver, next { state with receiver } = loop { state with receiver } receiver :=
      fun receiver => next_of_open (Bool.eq_false_iff.mpr hclosed) hinitial
    have hskipped : receive { state with receiver := rest } (.notification stale) =
        (none, { state with receiver := rest }) := by
      unfold receive
      dsimp only
      rw [if_neg (not_not.mpr hguild), if_pos hstale]
    rw [hopen, hopen, loop]
    simp only [hskipped]

/-- What an open stream sends when some item is the next one it receives. -/
structure Answers (state : StreamState) : Prop where
  follows (content : PlayerSnapshot) (rest : List Received) (event : Event) :
    content.guildId = state.guildId →
      content.revision.toNat = state.lastRevision.toNat + 1 →
      snapshotEvent "player" content = .ok event →
      next { state with receiver := .notification content :: rest } =
        some (.snapshot "player" content,
          { state with receiver := rest, lastRevision := content.revision })
  unsendable (content : PlayerSnapshot) (rest : List Received) (error : String) :
    content.guildId = state.guildId →
      content.revision.toNat = state.lastRevision.toNat + 1 →
      snapshotEvent "player" content = .error error →
      next { state with receiver := .notification content :: rest } =
        some (.resync "serialization_failure" state.lastRevision none,
          { state with receiver := rest, closeAfterEvent := true })
  gap (content : PlayerSnapshot) (rest : List Received) :
    content.guildId = state.guildId →
      state.lastRevision.toNat + 1 < content.revision.toNat →
      next { state with receiver := .notification content :: rest } =
        some (.resync "revision_gap" state.lastRevision none,
          { state with receiver := rest, closeAfterEvent := true })
  mismatch (content : PlayerSnapshot) (rest : List Received) :
    content.guildId ≠ state.guildId →
      next { state with receiver := .notification content :: rest } =
        some (.resync "guild_mismatch" state.lastRevision none,
          { state with receiver := rest, closeAfterEvent := true })
  lagged (skipped : UInt64) (rest : List Received) :
    next { state with receiver := .lagged skipped :: rest } =
      some (.resync "bounded_lag" state.lastRevision (some skipped),
        { state with receiver := rest, closeAfterEvent := true })

/-- A round that sends an event is the whole next poll. -/
theorem next_of_receive {item : Received} {rest : List Received} {event : Event}
    {after : StreamState} (hopen : state.closeAfterEvent = false) (hinitial : state.initial = none)
    (h : receive { state with receiver := rest } item = (some event, after)) :
    next { state with receiver := item :: rest } = some (event, after) := by
  have hloop : next { state with receiver := item :: rest } =
      loop { state with receiver := item :: rest } (item :: rest) := next_of_open hopen hinitial
  rw [hloop, loop]
  simp only [h]

theorem answers_of_open (hopen : state.closeAfterEvent = false) (hinitial : state.initial = none) :
    state.Answers := by
  refine ⟨?_, ?_, ?_, ?_, fun skipped rest => next_of_receive hopen hinitial rfl⟩
  · intro content rest event hguild hrevision hevent
    refine next_of_receive hopen hinitial ?_
    have hnext := StateRevision.checkedNext_of_toNat hrevision
    unfold receive
    dsimp only
    rw [if_neg (not_not.mpr hguild), if_neg (by omega), if_neg (not_not.mpr hnext), hevent,
      snapshotEvent_eq_ok hevent]
  · intro content rest error hguild hrevision herror
    refine next_of_receive hopen hinitial ?_
    have hnext := StateRevision.checkedNext_of_toNat hrevision
    unfold receive
    dsimp only
    rw [if_neg (not_not.mpr hguild), if_neg (by omega), if_neg (not_not.mpr hnext), herror]
    rfl
  · intro content rest hguild hrevision
    refine next_of_receive hopen hinitial ?_
    have hgap : state.lastRevision.checkedNext ≠ some content.revision := by
      intro hnext
      have := StateRevision.checkedNext_toNat hnext
      omega
    unfold receive
    dsimp only
    rw [if_neg (not_not.mpr hguild), if_neg (by omega), if_pos hgap]
    rfl
  · intro content rest hguild
    refine next_of_receive hopen hinitial ?_
    unfold receive
    dsimp only
    rw [if_pos hguild]
    rfl

end StreamState

/-- The events of a stream that has sent `last`, and the revision it has sent last after them. -/
inductive Ordered : StateRevision → List Event → StateRevision → Prop
  | nil (last : StateRevision) : Ordered last [] last
  | snapshot {last final : StateRevision} {events : List Event} (content : PlayerSnapshot)
      (hnext : last.checkedNext = some content.revision)
      (hrest : Ordered content.revision events final) :
      Ordered last (.snapshot "player" content :: events) final
  | resync (last : StateRevision) (reason : String) (skippedEvents : Option UInt64) :
      Ordered last [.resync reason last skippedEvents] last

namespace Ordered

variable {last final : StateRevision} {events : List Event}

/-- The snapshots carry one revision after the other. -/
theorem revisions (h : Ordered last events final) :
    (events.filterMap Event.revision).map StateRevision.toNat =
        List.range' (last.toNat + 1) (events.filterMap Event.revision).length ∧
      final.toNat = last.toNat + (events.filterMap Event.revision).length := by
  induction h with
  | nil last => exact ⟨rfl, rfl⟩
  | snapshot content hnext hrest ih =>
    have hvalue := StateRevision.checkedNext_toNat hnext
    rw [List.filterMap_cons, Event.revision, List.map_cons, List.length_cons, List.range'_succ,
      ih.1, ih.2, hvalue]
    exact ⟨rfl, by omega⟩
  | resync last reason skippedEvents => exact ⟨rfl, rfl⟩

/-- An event that asks to start again has none after it. -/
theorem resync_last (h : Ordered last events final) {front rest : List Event} {event : Event}
    (hevents : events = front ++ event :: rest) (hresync : event.isResync = true) : rest = [] := by
  induction h generalizing front with
  | nil last => simp at hevents
  | snapshot content hnext hrest ih =>
    cases front with
    | nil =>
      obtain ⟨rfl, -⟩ := List.cons.inj hevents
      contradiction
    | cons first front => exact ih (List.cons.inj hevents).2
  | resync last reason skippedEvents =>
    have hlength := congrArg List.length hevents
    simp only [List.length_append, List.length_cons, List.length_nil] at hlength
    exact List.eq_nil_of_length_eq_zero (by omega)

end Ordered

namespace StreamState

variable {state : StreamState}

theorem collect_of_none (h : state.next = none) (polls : ℕ) :
    state.collect polls = ([], state) := by
  cases polls with
  | zero => rfl
  | succ polls => rw [collect, h]

theorem collect_succ {event : Event} {after : StreamState} (h : state.next = some (event, after))
    (polls : ℕ) : state.collect (polls + 1) =
      (event :: (after.collect polls).1, (after.collect polls).2) := by
  rw [collect, h]

/-- What polling leaves: the first event is gone, the guild is the same, and the stream has ended
if it asked to start again. -/
structure Polled (state : StreamState) (events : List Event) (after : StreamState) : Prop where
  ordered : Ordered state.lastRevision events after.lastRevision
  initial : after.initial = none
  guildId : after.guildId = state.guildId
  ended : ∀ event ∈ events, event.isResync = true → after.next = none
  stillOpen : (∀ event ∈ events, event.isResync = false) → after.closeAfterEvent = false

/-- Induction on the polls still to come, each of which yields what one event allows. -/
theorem collect_polled (polls : ℕ) (hopen : state.closeAfterEvent = false)
    (hinitial : state.initial = none) :
    Polled state (state.collect polls).1 (state.collect polls).2 := by
  have hdone : Polled state [] state := ⟨.nil _, hinitial, rfl, by simp, fun _ => hopen⟩
  induction polls generalizing state with
  | zero => exact hdone
  | succ polls ih =>
    cases hnext : state.next with
    | none =>
      rw [collect_of_none hnext]
      exact hdone
    | some result =>
      obtain ⟨event, after⟩ := result
      rw [next_of_open hopen hinitial] at hnext
      have hsent := loop_sent hnext
      rw [← next_of_open hopen hinitial] at hnext
      rw [collect_succ hnext]
      cases hsent with
      | snapshot content rest hfollows =>
        let after : StreamState := { state with lastRevision := content.revision, receiver := rest }
        have hafter : Polled after _ _ :=
          ih hopen hinitial ⟨.nil _, hinitial, rfl, by simp, fun _ => hopen⟩
        refine ⟨.snapshot content hfollows hafter.ordered, hafter.initial, hafter.guildId, ?_, ?_⟩
        · intro event hevent hresync
          rcases List.mem_cons.mp hevent with rfl | hevent
          · contradiction
          · exact hafter.ended event hevent hresync
        · intro hnone
          exact hafter.stillOpen fun event hevent => hnone event (List.mem_cons_of_mem _ hevent)
      | resync reason skippedEvents rest =>
        rw [collect_of_none (next_of_closed rfl)]
        refine ⟨.resync _ _ _, hinitial, rfl, fun _ _ _ => next_of_closed rfl, fun hnone => ?_⟩
        exact absurd (hnone _ List.mem_cons_self) (by simp [Event.isResync])

end StreamState

/-- Whatever a stream receives, the first event is its first snapshot, and the snapshots it sends
carry the revisions from that one on, one after the other. An event that asks to start again ends
the stream. A notification that is not newer than the last snapshot sent yields no event, the one
that follows it is sent, and whatever else an open stream receives makes the client start again. -/
theorem playerStream_ordered {snapshot : PlayerSnapshot} {received : List Received}
    {stream : StreamState} (hstream : playerStream snapshot received = .ok stream) (polls : ℕ) :
    stream.next = some (.snapshot "snapshot" snapshot,
      ⟨snapshot.guildId, none, received, snapshot.revision, false⟩) ∧
    ∃ count,
      ((stream.collect polls).1.filterMap Event.revision).map StateRevision.toNat =
        List.range' snapshot.revision.toNat count ∧
      (∀ front event rest, (stream.collect polls).1 = front ++ event :: rest →
        event.isResync = true → rest = [] ∧ (stream.collect polls).2.next = none) ∧
      (0 < polls → ∀ stale rest, stale.guildId = snapshot.guildId →
        stale.revision.toNat < snapshot.revision.toNat + count →
        StreamState.next { (stream.collect polls).2 with
            receiver := .notification stale :: rest } =
          StreamState.next { (stream.collect polls).2 with receiver := rest }) ∧
      (0 < polls → 0 < count ∧ (stream.collect polls).2.guildId = snapshot.guildId ∧
        (stream.collect polls).2.lastRevision.toNat + 1 = snapshot.revision.toNat + count ∧
        ((∀ event ∈ (stream.collect polls).1, event.isResync = false) →
          (stream.collect polls).2.Answers)) := by
  unfold playerStream at hstream
  cases hfirst : snapshotEvent "snapshot" snapshot with
  | error error =>
    rw [hfirst] at hstream
    contradiction
  | ok first =>
    rw [hfirst] at hstream
    obtain rfl := Except.ok.inj hstream
    obtain rfl := snapshotEvent_eq_ok hfirst
    refine ⟨rfl, ?_⟩
    cases polls with
    | zero => exact ⟨0, rfl, by simp [StreamState.collect], by simp, by simp⟩
    | succ polls =>
      let opened : StreamState := ⟨snapshot.guildId, none, received, snapshot.revision, false⟩
      have hpolled := opened.collect_polled polls rfl rfl
      have hrevisions := hpolled.ordered.revisions
      have hnext : StreamState.next ⟨snapshot.guildId, some (.snapshot "snapshot" snapshot),
          received, snapshot.revision, false⟩ = some (.snapshot "snapshot" snapshot, opened) := rfl
      rw [StreamState.collect_succ hnext]
      refine ⟨((opened.collect polls).1.filterMap Event.revision).length + 1, ?_, ?_, ?_, ?_⟩
      · rw [List.filterMap_cons, Event.revision, List.map_cons, hrevisions.1, List.range'_succ]
      · intro front event rest hevents hresync
        cases front with
        | nil =>
          obtain ⟨rfl, -⟩ := List.cons.inj hevents
          contradiction
        | cons first front =>
          have htail := (List.cons.inj hevents).2
          refine ⟨hpolled.ordered.resync_last htail hresync, hpolled.ended event ?_ hresync⟩
          rw [htail]
          exact List.mem_append_right _ List.mem_cons_self
      · intro _ stale rest hguild hstale
        refine StreamState.next_stale hpolled.initial (hguild.trans hpolled.guildId.symm) ?_
        rw [hrevisions.2]
        show stale.revision.toNat ≤ snapshot.revision.toNat + _
        omega
      · intro _
        refine ⟨Nat.succ_pos _, hpolled.guildId, ?_, fun hnone => ?_⟩
        · rw [hrevisions.2]
          rfl
        · refine StreamState.answers_of_open (hpolled.stillOpen fun event hevent => ?_)
            hpolled.initial
          exact hnone event (List.mem_cons_of_mem _ hevent)

/-- The snapshot of a new player of guild 1 at some revision. -/
def newSnapshot (revision : StateRevision) : PlayerSnapshot :=
  (PlayerModel.new ⟨.MIN⟩ revision).snapshot ⟨⟨0⟩, 0⟩

/-- A stream that receives the next snapshot, the same one again and one after a gap. -/
def newStream : StreamState :=
  ⟨⟨.MIN⟩, some (.snapshot "snapshot" (newSnapshot ⟨0⟩)),
    [.notification (newSnapshot ⟨1⟩), .notification (newSnapshot ⟨1⟩),
      .notification (newSnapshot ⟨3⟩)], ⟨0⟩, false⟩

theorem snapshotEvent_newSnapshot {kind : String} {revision : StateRevision}
    (hshape : (newSnapshot revision).validatePublicShape = .ok ())
    (hsize : (Event.snapshot kind (newSnapshot revision)).data.serde.bytes ≤
      MAX_PLAYER_SNAPSHOT_JSON_BYTES) :
    snapshotEvent kind (newSnapshot revision) = .ok (.snapshot kind (newSnapshot revision)) := by
  unfold snapshotEvent
  rw [hshape]
  exact if_neg (not_lt.mpr hsize)

theorem playerStream_newSnapshot :
    playerStream (newSnapshot ⟨0⟩) newStream.receiver = .ok newStream := by
  unfold playerStream
  rw [snapshotEvent_newSnapshot (by decide) (by decide +kernel)]
  rfl

/-- The second snapshot is sent once, and the gap after it ends the stream. -/
theorem playerStream_ordered_newSnapshot :
    (newStream.collect 4).1 = [.snapshot "snapshot" (newSnapshot ⟨0⟩),
        .snapshot "player" (newSnapshot ⟨1⟩), .resync "revision_gap" ⟨1⟩ none] ∧
      (newStream.collect 4).2.next = none := by
  have hordered := playerStream_ordered playerStream_newSnapshot
  have hfirst : newStream.next = some (.snapshot "snapshot" (newSnapshot ⟨0⟩),
      ⟨⟨.MIN⟩, none, newStream.receiver, ⟨0⟩, false⟩) := (hordered 0).1
  have hsecond : StreamState.next ⟨⟨.MIN⟩, none, newStream.receiver, ⟨0⟩, false⟩ =
      some (.snapshot "player" (newSnapshot ⟨1⟩),
        ⟨⟨.MIN⟩, none, newStream.receiver.tail, ⟨1⟩, false⟩) := by
    obtain ⟨-, count, -, -, -, hmore⟩ := hordered 1
    rw [StreamState.collect_succ hfirst] at hmore
    exact ((hmore one_pos).2.2.2 (by simp [StreamState.collect, Event.isResync])).follows
      (newSnapshot ⟨1⟩) newStream.receiver.tail _ rfl rfl
      (snapshotEvent_newSnapshot (by decide) (by decide +kernel))
  have hthird : StreamState.next ⟨⟨.MIN⟩, none, newStream.receiver.tail, ⟨1⟩, false⟩ =
      some (.resync "revision_gap" ⟨1⟩ none, ⟨⟨.MIN⟩, none, [], ⟨1⟩, true⟩) := by
    obtain ⟨-, count, -, -, hstale, hmore⟩ := hordered 2
    rw [StreamState.collect_succ hfirst, StreamState.collect_succ hsecond, StreamState.collect]
      at hstale hmore
    obtain ⟨-, -, hlast, hanswers⟩ := hmore Nat.two_pos
    have hskipped := hstale Nat.two_pos (newSnapshot ⟨1⟩) [.notification (newSnapshot ⟨3⟩)] rfl
      (by rw [← hlast]; decide)
    refine hskipped.trans ?_
    exact (hanswers (by simp [Event.isResync])).gap (newSnapshot ⟨3⟩) [] rfl
      (by decide)
  have hevents : newStream.collect 4 = ([.snapshot "snapshot" (newSnapshot ⟨0⟩),
      .snapshot "player" (newSnapshot ⟨1⟩), .resync "revision_gap" ⟨1⟩ none],
      ⟨⟨.MIN⟩, none, [], ⟨1⟩, true⟩) := by
    rw [StreamState.collect_succ hfirst]
    rw [StreamState.collect_succ hsecond, StreamState.collect_succ hthird]
    rfl
  rw [hevents]
  exact ⟨rfl, rfl⟩

/-- What the model of the fan-out keeps of an event. -/
def Event.abstract : Event → SseEvent
  | .snapshot kind content =>
    if kind = "snapshot" then .snapshot content.revision else .player content.revision
  | .resync reason lastRevision skippedEvents =>
    .resync reason lastRevision (skippedEvents.map UInt64.toNat)

/-- Both models of a stream are in the same state, as far as events depend on it. -/
structure Abstracts (stream : PepeAudio.StreamState) (state : StreamState) : Prop where
  guildId : stream.guildId = state.guildId
  lastRevision : stream.lastRevision = state.lastRevision
  closeAfterEvent : stream.closeAfterEvent = state.closeAfterEvent

/-- A snapshot that can be sent is treated as the fan-out has it, which knows only its guild and
its revision. -/
theorem receive_abstract {stream : PepeAudio.StreamState} {state : StreamState}
    (h : Abstracts stream state) {content : PlayerSnapshot} {sent : Event}
    (hsent : snapshotEvent "player" content = .ok sent) :
    let received := state.receive (.notification content)
    let after := stream.receive ⟨content.guildId, content.revision⟩
    Abstracts after received.2 ∧
      after.sent = stream.sent ++ (received.1.map Event.abstract).toList := by
  obtain rfl := snapshotEvent_eq_ok hsent
  obtain ⟨hguild, hlast, hclose⟩ := h
  have hresync : ∀ reason, (stream.resync reason none).sent =
      stream.sent ++ ((state.resync reason none).1.map Event.abstract).toList := by
    intro reason
    simp only [PepeAudio.StreamState.resync, hlast]
    rfl
  unfold StreamState.receive PepeAudio.StreamState.receive
  dsimp only
  rw [hguild, hlast]
  by_cases hother : content.guildId ≠ state.guildId
  · rw [if_pos hother, if_pos hother]
    exact ⟨⟨hguild, hlast, rfl⟩, hresync _⟩
  rw [if_neg hother, if_neg hother]
  by_cases hstale : content.revision.toNat ≤ state.lastRevision.toNat
  · rw [if_pos hstale, if_pos hstale]
    exact ⟨⟨hguild, hlast, hclose⟩, by simp⟩
  rw [if_neg hstale, if_neg hstale]
  by_cases hgap : state.lastRevision.checkedNext ≠ some content.revision
  · rw [if_pos hgap, if_pos hgap]
    exact ⟨⟨hguild, hlast, rfl⟩, hresync _⟩
  · rw [if_neg hgap, if_neg hgap]
    simp only [hsent]
    exact ⟨⟨rfl, rfl, hclose⟩, rfl⟩

end PepeAudio.PlayerStream
