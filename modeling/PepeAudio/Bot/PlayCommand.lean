import PepeAudio.Bot.Authorization
import PepeAudio.Bot.OptimisticConcurrency
import PepeAudio.Bot.PlayerClient

/-!
# The command that plays

`/play` resolves its media first, which may take long. Each attempt to commit the batch looks
up the facts of the guild again, connects a player that is nowhere and enqueues at the revision
it has read last; an attempt that comes too late is repeated. What was not committed is
discarded.
-/
namespace PepeAudio.Authorization

def MAX_COMMIT_ATTEMPTS : ℕ := 4

inductive PlayInputError where
  | missing
  | conflicting
  deriving DecidableEq, Repr

structure AttachmentSource where
  filename : String
  url : String
  contentType : Option String
  sizeBytes : UInt64
  deriving DecidableEq, Repr

inductive PlaySource where
  | input (input : String)
  | attachment (attachment : AttachmentSource)
  deriving DecidableEq, Repr

def selectPlaySource : Option String → Option AttachmentSource → Except PlayInputError PlaySource
  | some input, none => .ok (.input input)
  | none, some attachment => .ok (.attachment attachment)
  | none, none => .error .missing
  | some _, some _ => .error .conflicting

/-- The errors that a `CommandError` of this command stands for. -/
inductive PlayError where
  | input (error : PlayInputError)
  | guildPolicy
  | voiceFacts (error : CurrentVoiceFactsError)
  | voicePolicy (error : VoicePolicyError)
  | registry
  | player (error : PlayerError)
  | resolve (error : ResolveError)
  | message (text : String)
  deriving DecidableEq, Repr

def isRevisionConflict : PlayError → Bool
  | .player (.revisionConflict _ _) => true
  | .player (.invalidCommand (.revisionConflict _ _)) => true
  | _ => false

/-- Where the command waits. -/
inductive Playing where
  /-- For its first voice context, before the player is there. -/
  | deferred
  /-- For the second one. -/
  | permitted
  /-- For the player of the guild. -/
  | authorized
  /-- For its snapshot. -/
  | joined
  /-- For the media. -/
  | resolving (maximumItems : ℕ)
  /-- For the voice context of an attempt. -/
  | attempting (batch : ResolvedMediaBatch) (attempt : ℕ)
  /-- For the snapshot that shows where the player is. -/
  | observing (batch : ResolvedMediaBatch) (attempt : ℕ) (channel : ChannelId)
      (botVoiceChannelId : Option ChannelId)
  | connecting (batch : ResolvedMediaBatch) (attempt : ℕ) (channel : ChannelId)
      (revision : StateRevision)
  /-- For the snapshot whose revision the batch is enqueued with. -/
  | connected (batch : ResolvedMediaBatch) (attempt : ℕ)
  | enqueueing (batch : ResolvedMediaBatch) (attempt : ℕ) (revision : StateRevision)
  /-- For the cleanup of a batch that was not committed. -/
  | discarding (batch : ResolvedMediaBatch) (error : PlayError)
  | finished (result : Except PlayError PlayerSnapshot)
  deriving DecidableEq

inductive PlayEvent where
  /-- The settings as the database answers them, and the cache after that. -/
  | facts (cache : GuildCache) (settings : Except StorageError (Option GuildSettings))
  | joined (success : Bool)
  | resolved (outcome : Except ResolveError ResolvedMediaBatch)
  | discarded (success : Bool)

namespace Playing

variable (media : MediaResolver) (guildId : GuildId) (actor : UserId)

def start (query : Option String) (file : Option AttachmentSource) : Playing :=
  match selectPlaySource query file with
  | .error error => finished (.error (.input error))
  | .ok _ => deferred

/-- `voice_context` and `authorize_play`. -/
def permit (cache : GuildCache) (settings : Except StorageError (Option GuildSettings)) :
    Except PlayError (VoiceContext × ChannelId) := do
  let settings ← settings.mapError fun _ => .guildPolicy
  let policy := GuildControlPolicy.ofSettings settings
  let voice ← (currentVoiceContext cache guildId actor policy).mapError .voiceFacts
  let channel ← (authorizePlay voice policy).mapError .voicePolicy
  pure (voice, channel)

/-- `retry_revision_conflicts`, after an attempt that failed. -/
def failed (batch : ResolvedMediaBatch) (attempt : ℕ) (error : PlayError) : Playing :=
  if isRevisionConflict error ∧ attempt + 1 < MAX_COMMIT_ATTEMPTS then
    attempting batch (attempt + 1)
  else discarding batch error

def request : Playing → Option PlayerRequest
  | joined => some .snapshot
  | observing _ _ _ _ => some .snapshot
  | connecting _ _ channel revision => some (.connect channel revision)
  | connected _ _ => some .snapshot
  | enqueueing batch _ revision => some (.enqueueBatch batch.tracks revision)
  | _ => none

/-- An attempt that knows where the player and the bot are. -/
def place (batch : ResolvedMediaBatch) (attempt : ℕ) (channel : ChannelId)
    (botVoiceChannelId : Option ChannelId) (before : PlayerSnapshot) : Playing :=
  match before.voiceChannelId, botVoiceChannelId with
  | none, none => connecting batch attempt channel before.revision
  | some actorChannel, some discordChannel =>
    if actorChannel = channel ∧ discordChannel = channel then connected batch attempt
    else failed batch attempt (.message "the player is active in another voice channel")
  | _, _ =>
    failed batch attempt
      (.message "the Discord voice state is still being reconciled; retry shortly")

def answered (reply : Reply) : Playing → Playing
  | joined =>
    match snapshotResult reply with
    | .error error => finished (.error (.player error))
    | .ok before =>
      match availableBatchItems media before with
      | none => finished (.error (.message "the playback queue is full"))
      | some maximumItems => resolving maximumItems
  | observing batch attempt channel botVoiceChannelId =>
    match snapshotResult reply with
    | .error error => failed batch attempt (.player error)
    | .ok before => place batch attempt channel botVoiceChannelId before
  | connecting batch attempt _ _ =>
    match mutationResult reply with
    | .error error => failed batch attempt (.player error)
    | .ok _ => connected batch attempt
  | connected batch attempt =>
    match snapshotResult reply with
    | .error error => failed batch attempt (.player error)
    | .ok snapshot => enqueueing batch attempt snapshot.revision
  | enqueueing batch attempt _ =>
    match mutationResult reply with
    | .error error => failed batch attempt (.player error)
    | .ok snapshot => finished (.ok snapshot)
  | playing => playing

def advance : Playing → PlayEvent → Playing
  | deferred, .facts cache settings =>
    match permit guildId actor cache settings with
    | .error error => finished (.error error)
    | .ok _ => permitted
  | permitted, .facts cache settings =>
    match permit guildId actor cache settings with
    | .error error => finished (.error error)
    | .ok _ => authorized
  | authorized, .joined success => if success then joined else finished (.error .registry)
  | resolving _, .resolved outcome =>
    match outcome with
    | .error error => finished (.error (.resolve error))
    | .ok batch =>
      if batch.tracks = [] then
        finished (.error (.message "the media resolver returned an empty batch"))
      else attempting batch 0
  | attempting batch attempt, .facts cache settings =>
    match permit guildId actor cache settings with
    | .error error => failed batch attempt error
    | .ok (voice, channel) => observing batch attempt channel voice.botVoiceChannelId
  | discarding _ error, .discarded _ => finished (.error error)
  | playing, _ => playing

/-- `play`, up to its answer. -/
def client : Client Playing PlayEvent where
  request := request
  answered := answered media
  advance := advance guildId actor

variable {guildId actor}

theorem permit_ok {cache : GuildCache} {settings : Except StorageError (Option GuildSettings)}
    {voice : VoiceContext} {channel : ChannelId}
    (h : permit guildId actor cache settings = .ok (voice, channel)) :
    ∃ row, settings = .ok row ∧
      currentVoiceContext cache guildId actor (.ofSettings row) = .ok voice ∧
      authorizePlay voice (.ofSettings row) = .ok channel := by
  obtain ⟨row, hrow, h⟩ := bind_eq_ok h
  obtain ⟨voice', hvoice, h⟩ := bind_eq_ok h
  obtain ⟨channel', hchannel, h⟩ := bind_eq_ok h
  cases h
  exact ⟨row, mapError_eq_ok hrow, mapError_eq_ok hvoice, mapError_eq_ok hchannel⟩

section steps
variable {events : List (ClientEvent PlayEvent)} {event : ClientEvent PlayEvent}
  {batch : ResolvedMediaBatch} {voice : VoiceContext} {channel : ChannelId} {requests : ℕ}
  {stage : Playing}

variable (guildId actor) in
/-- The actor may play by facts that were looked up after the media, and so many requests of an
attempt ago. -/
def Permitted (events : List (ClientEvent PlayEvent)) (batch : ResolvedMediaBatch)
    (voice : VoiceContext) (channel : ChannelId) (requests : ℕ) : Prop :=
  ∃ before after cache settings,
    events = before ++ .outside (.facts cache (.ok settings)) :: after ∧
    .outside (.resolved (.ok batch)) ∈ before ∧
    after.countP ClientEvent.isHandled ≤ requests ∧
    currentVoiceContext cache guildId actor (.ofSettings settings) = .ok voice ∧
    authorizePlay voice (.ofSettings settings) = .ok channel

theorem Permitted.resolved (h : Permitted guildId actor events batch voice channel requests) :
    .outside (.resolved (.ok batch)) ∈ events := by
  obtain ⟨before, after, cache, settings, rfl, hresolved, -⟩ := h
  exact List.mem_append_left _ hresolved

theorem Permitted.snoc (event : ClientEvent PlayEvent)
    (h : Permitted guildId actor events batch voice channel requests) :
    Permitted guildId actor (events ++ [event]) batch voice channel
      (requests + event.isHandled.toNat) := by
  obtain ⟨before, after, cache, settings, rfl, hresolved, hrequests, hpermitted⟩ := h
  refine ⟨before, after ++ [event], cache, settings, by simp, hresolved, ?_, hpermitted⟩
  rw [List.countP_append]
  cases hhandled : event.isHandled with
  | true => simpa [hhandled] using hrequests
  | false => simpa [hhandled] using hrequests

theorem Permitted.le (h : Permitted guildId actor events batch voice channel requests) {more : ℕ}
    (hmore : requests ≤ more) : Permitted guildId actor events batch voice channel more := by
  obtain ⟨before, after, cache, settings, hevents, hresolved, hrequests, hpermitted⟩ := h
  exact ⟨before, after, cache, settings, hevents, hresolved, by omega, hpermitted⟩

variable (guildId actor) in
/-- What the command knows where it waits, by the events so far. -/
def Knows (events : List (ClientEvent PlayEvent)) : Playing → Prop
  | attempting batch _ => .outside (.resolved (.ok batch)) ∈ events
  | observing batch _ channel botVoiceChannelId =>
    ∃ voice, voice.botVoiceChannelId = botVoiceChannelId ∧
      Permitted guildId actor events batch voice channel 0
  | connecting batch _ channel _ =>
    ∃ voice, voice.botVoiceChannelId = none ∧
      Permitted guildId actor events batch voice channel 1
  | connected batch _ => ∃ voice channel, Permitted guildId actor events batch voice channel 2
  | enqueueing batch _ _ => ∃ voice channel, Permitted guildId actor events batch voice channel 3
  | _ => True

theorem knows_failed (hresolved : .outside (.resolved (.ok batch)) ∈ events) (attempt : ℕ)
    (error : PlayError) : Knows guildId actor events (failed batch attempt error) := by
  unfold failed
  split_ifs
  · exact hresolved
  · trivial

/-- An event that is none of the command's. -/
theorem Knows.wait (hevent : event = .handled → stage.request = none)
    (h : Knows guildId actor events stage) : Knows guildId actor (events ++ [event]) stage := by
  have hquiet (hrequest : stage.request.isSome = true) : event.isHandled.toNat = 0 := by
    cases event with
    | handled => simp [hevent rfl] at hrequest
    | other input => rfl
    | outside event => rfl
  cases stage with
  | attempting batch attempt => exact List.mem_append_left _ h
  | observing batch attempt channel botVoiceChannelId =>
    obtain ⟨voice, hbot, h⟩ := h
    exact ⟨voice, hbot, (h.snoc event).le (by rw [hquiet rfl])⟩
  | connecting batch attempt channel revision =>
    obtain ⟨voice, hbot, h⟩ := h
    exact ⟨voice, hbot, (h.snoc event).le (by rw [hquiet rfl])⟩
  | connected batch attempt =>
    obtain ⟨voice, channel, h⟩ := h
    exact ⟨voice, channel, (h.snoc event).le (by rw [hquiet rfl])⟩
  | enqueueing batch attempt revision =>
    obtain ⟨voice, channel, h⟩ := h
    exact ⟨voice, channel, (h.snoc event).le (by rw [hquiet rfl])⟩
  | deferred | permitted | authorized | joined | resolving maximumItems
  | discarding batch error | finished result => trivial

theorem knows_place {attempt : ℕ} {before : PlayerSnapshot}
    (h : Permitted guildId actor events batch voice channel 1) :
    Knows guildId actor events
      (place batch attempt channel voice.botVoiceChannelId before) := by
  unfold place
  split
  · next hbot => exact ⟨voice, hbot, h⟩
  · split_ifs
    · exact ⟨voice, channel, h.le (by omega)⟩
    · exact knows_failed h.resolved _ _
  · exact knows_failed h.resolved _ _

theorem Knows.answered (reply : Reply) (h : Knows guildId actor events stage) :
    Knows guildId actor (events ++ [.handled]) (stage.answered media reply) := by
  cases stage with
  | joined =>
    rw [Playing.answered]
    cases snapshotResult reply with
    | error error => trivial
    | ok before =>
      dsimp only
      cases availableBatchItems media before with
      | none => trivial
      | some maximumItems => trivial
  | observing batch attempt channel botVoiceChannelId =>
    obtain ⟨voice, rfl, h⟩ := h
    have hlater := h.snoc .handled
    rw [Playing.answered]
    cases snapshotResult reply with
    | error error => exact knows_failed hlater.resolved _ _
    | ok before => exact knows_place hlater
  | connecting batch attempt channel revision =>
    obtain ⟨voice, hbot, h⟩ := h
    have hlater := h.snoc .handled
    rw [Playing.answered]
    cases mutationResult reply with
    | error error => exact knows_failed hlater.resolved _ _
    | ok snapshot => exact ⟨voice, channel, hlater⟩
  | connected batch attempt =>
    obtain ⟨voice, channel, h⟩ := h
    have hlater := h.snoc .handled
    rw [Playing.answered]
    cases snapshotResult reply with
    | error error => exact knows_failed hlater.resolved _ _
    | ok snapshot => exact ⟨voice, channel, hlater⟩
  | enqueueing batch attempt revision =>
    obtain ⟨voice, channel, h⟩ := h
    have hlater := h.snoc .handled
    rw [Playing.answered]
    cases mutationResult reply with
    | error error => exact knows_failed hlater.resolved _ _
    | ok snapshot => trivial
  | attempting batch attempt => exact List.mem_append_left _ h
  | deferred | permitted | authorized | resolving maximumItems | discarding batch error
  | finished result => trivial

theorem Knows.advance (outside : PlayEvent) (h : Knows guildId actor events stage) :
    Knows guildId actor (events ++ [.outside outside])
      (Playing.advance guildId actor stage outside) := by
  unfold Playing.advance
  split
  · cases permit guildId actor _ _ <;> trivial
  · cases permit guildId actor _ _ <;> trivial
  · split_ifs <;> trivial
  · split
    · trivial
    · split_ifs
      · trivial
      · exact List.mem_append_right _ (List.mem_singleton_self _)
  · next batch attempt cache settings =>
    split
    · exact knows_failed (List.mem_append_left _ h) _ _
    · next voice channel hpermit =>
      obtain ⟨row, rfl, hvoice, hchannel⟩ := permit_ok hpermit
      exact ⟨voice, rfl, events, [], cache, row, rfl, h, by simp, hvoice, hchannel⟩
  · trivial
  · exact h.wait (fun hhandled => nomatch hhandled)

end steps

/-- The attempt that the command is in, or the number of attempts there are. -/
def attempt : Playing → ℕ
  | attempting _ attempt | observing _ attempt _ _ | connecting _ attempt _ _ | connected _ attempt
  | enqueueing _ attempt _ => attempt
  | discarding _ _ | finished _ => MAX_COMMIT_ATTEMPTS
  | _ => 0

def isEnqueueing : Playing → Bool
  | enqueueing _ _ _ => true
  | _ => false

def InTime : Playing → Prop
  | attempting _ attempt | observing _ attempt _ _ | connecting _ attempt _ _ | connected _ attempt
  | enqueueing _ attempt _ => attempt < MAX_COMMIT_ATTEMPTS
  | _ => True

theorem attempt_le {stage : Playing} (h : stage.InTime) : stage.attempt ≤ MAX_COMMIT_ATTEMPTS := by
  cases stage with
  | attempting | observing | connecting | connected | enqueueing => exact h.le
  | discarding | finished => exact le_rfl
  | deferred | permitted | authorized | joined | resolving => exact Nat.zero_le _

theorem failed_attempt {attempt : ℕ} (hattempt : attempt < MAX_COMMIT_ATTEMPTS)
    (batch : ResolvedMediaBatch) (error : PlayError) :
    (failed batch attempt error).InTime ∧ attempt + 1 ≤ (failed batch attempt error).attempt := by
  unfold failed
  split_ifs with hretried
  · exact ⟨hretried.2, le_rfl⟩
  · exact ⟨trivial, hattempt⟩

/-- A reply counts an attempt up when it is the one to the enqueue, and never back. -/
theorem answered_attempt {stage : Playing} (reply : Reply) (h : stage.InTime) :
    (stage.answered media reply).InTime ∧
      stage.attempt + stage.isEnqueueing.toNat ≤ (stage.answered media reply).attempt := by
  cases stage with
  | joined =>
    rw [Playing.answered]
    cases snapshotResult reply with
    | error error => exact ⟨trivial, Nat.zero_le _⟩
    | ok before =>
      dsimp only
      cases availableBatchItems media before with
      | none => exact ⟨trivial, Nat.zero_le _⟩
      | some maximumItems => exact ⟨trivial, Nat.zero_le _⟩
  | observing batch attempt channel botVoiceChannelId =>
    have hfailed (error : PlayError) := failed_attempt h batch error
    rw [Playing.answered]
    cases snapshotResult reply with
    | error error => exact ⟨(hfailed _).1, Nat.le_of_succ_le (hfailed _).2⟩
    | ok before =>
      dsimp only [place]
      split
      · exact ⟨h, le_rfl⟩
      · split_ifs
        · exact ⟨h, le_rfl⟩
        · exact ⟨(hfailed _).1, Nat.le_of_succ_le (hfailed _).2⟩
      · exact ⟨(hfailed _).1, Nat.le_of_succ_le (hfailed _).2⟩
  | connecting batch attempt channel revision =>
    rw [Playing.answered]
    cases mutationResult reply with
    | error error =>
      obtain ⟨hin, hle⟩ := failed_attempt h batch (.player error)
      exact ⟨hin, Nat.le_of_succ_le hle⟩
    | ok snapshot => exact ⟨h, le_rfl⟩
  | connected batch attempt =>
    rw [Playing.answered]
    cases snapshotResult reply with
    | error error =>
      obtain ⟨hin, hle⟩ := failed_attempt h batch (.player error)
      exact ⟨hin, Nat.le_of_succ_le hle⟩
    | ok snapshot => exact ⟨h, le_rfl⟩
  | enqueueing batch attempt revision =>
    rw [Playing.answered]
    cases mutationResult reply with
    | error error => exact failed_attempt h batch (.player error)
    | ok snapshot => exact ⟨trivial, h⟩
  | deferred | permitted | authorized | resolving maximumItems | attempting batch attempt
  | discarding batch error | finished result => exact ⟨h, le_rfl⟩

variable (guildId actor) in
theorem advance_attempt {stage : Playing} (event : PlayEvent) (h : stage.InTime) :
    (stage.advance guildId actor event).InTime ∧
      stage.attempt ≤ (stage.advance guildId actor event).attempt := by
  unfold Playing.advance
  split
  · cases permit guildId actor _ _ <;> exact ⟨trivial, Nat.zero_le _⟩
  · cases permit guildId actor _ _ <;> exact ⟨trivial, Nat.zero_le _⟩
  · split_ifs <;> exact ⟨trivial, Nat.zero_le _⟩
  · split
    · exact ⟨trivial, Nat.zero_le _⟩
    · split_ifs
      · exact ⟨trivial, Nat.zero_le _⟩
      · exact ⟨Nat.zero_lt_succ _, Nat.zero_le _⟩
  · next batch attempt cache settings =>
    split
    · next error _ =>
      obtain ⟨hin, hle⟩ := failed_attempt h batch error
      exact ⟨hin, Nat.le_of_succ_le hle⟩
    · exact ⟨h, le_rfl⟩
  · exact ⟨trivial, le_rfl⟩
  · exact ⟨h, le_rfl⟩

variable {P S : Type} [PlaybackPort P] [SnapshotPublisher S]

/-- The player handles the enqueue of an attempt. -/
def enqueues (t : Taken (Attended P S Playing) (ClientEvent PlayEvent)) : Bool :=
  t.before.stage.isEnqueueing && t.label.isHandled

section runs
variable {media} {setup : PlayerSetup P S} {first : Playing}
  {taken earlier later : List (Taken (Attended P S Playing) (ClientEvent PlayEvent))}
  {t : Taken (Attended P S Playing) (ClientEvent PlayEvent)} {attended : Attended P S Playing}

variable (media guildId actor) in
theorem step_attempt {before : Attended P S Playing} (event : ClientEvent PlayEvent)
    (h : before.stage.InTime) :
    ((client media guildId actor).step before event).stage.InTime ∧
      before.stage.attempt + (before.stage.isEnqueueing && event.isHandled).toNat ≤
        ((client media guildId actor).step before event).stage.attempt := by
  cases event with
  | other input => exact ⟨h, by simp [ClientEvent.isHandled, Client.step]⟩
  | handled =>
    cases hrequest : (client media guildId actor).request before.stage with
    | none =>
      rw [Client.step_unrequested hrequest]
      refine ⟨h, ?_⟩
      cases hstage : before.stage with
      | enqueueing batch attempt revision =>
        rw [hstage] at hrequest
        contradiction
      | _ => exact le_rfl
    | some request =>
      rw [Client.step_handled hrequest, ClientEvent.isHandled, Bool.and_true]
      exact answered_attempt media _ h
  | outside event =>
    have hadvanced := advance_attempt guildId actor event h
    have hquiet : (ClientEvent.outside event).isHandled = false := rfl
    rw [hquiet, Bool.and_false, Bool.toNat_false]
    exact hadvanced

/-- At most four enqueues reach the player. -/
theorem enqueues_le
    (run : (client media guildId actor).Runs first setup taken attended) (hfirst : first.InTime) :
    taken.countP enqueues ≤ MAX_COMMIT_ATTEMPTS := by
  have hcounted : attended.stage.InTime ∧ taken.countP enqueues ≤ attended.stage.attempt := by
    refine run.history (I := fun taken (attended : Attended P S Playing) =>
      attended.stage.InTime ∧ taken.countP enqueues ≤ attended.stage.attempt)
      ⟨hfirst, Nat.zero_le _⟩ ?_
    rintro taken before event _ - ⟨hin, hle⟩ rfl
    obtain ⟨hin', hle'⟩ := step_attempt media guildId actor event hin
    refine ⟨hin', ?_⟩
    rw [List.countP_append, List.countP_singleton, enqueues]
    cases hlast : before.stage.isEnqueueing && event.isHandled with
    | true =>
      rw [hlast, Bool.toNat_true] at hle'
      rw [if_pos rfl]
      omega
    | false =>
      rw [hlast, Bool.toNat_false] at hle'
      rw [if_neg Bool.false_ne_true]
      omega
  exact hcounted.2.trans (attempt_le hcounted.1)

theorem knows_of_runs {query : Option String} {file : Option AttachmentSource}
    (run : (client media guildId actor).Runs (start query file) setup taken attended) :
    Knows guildId actor (taken.map Taken.label) attended.stage := by
  refine Client.Runs.traced (I := fun events (_ : Player P S) => Knows guildId actor events) run
    ?_ ?_ ?_ ?_
  · unfold start
    split <;> trivial
  · intro events event player player' stage hevent _ h
    exact h.wait hevent
  · intro events player stage request _ _ h
    exact h.answered media _
  · intro events player stage event h
    exact h.advance event

/-- The actor may play, and is in the channel that the bot is sent to. -/
theorem Permitted.authorized {events : List (ClientEvent PlayEvent)} {batch : ResolvedMediaBatch}
    {voice : VoiceContext} {channel : ChannelId} {requests : ℕ}
    (h : Permitted guildId actor events batch voice channel requests) :
    ∃ before after cache settings,
      events = before ++ .outside (.facts cache (.ok settings)) :: after ∧
      .outside (.resolved (.ok batch)) ∈ before ∧
      after.countP ClientEvent.isHandled ≤ requests ∧
      (∀ input, Authorized cache guildId actor (.ofSettings settings) (.enqueueMedia input)) ∧
      currentVoiceContext cache guildId actor (.ofSettings settings) = .ok voice ∧
      voice.actorVoiceChannelId = some channel := by
  obtain ⟨before, after, cache, settings, hevents, hresolved, hrequests, hvoice, hchannel⟩ := h
  refine ⟨before, after, cache, settings, hevents, hresolved, hrequests, fun input => ?_, hvoice,
    ?_⟩
  · exact ⟨voice, hvoice, (authorizePlay_iff input).mp ⟨channel, hchannel⟩⟩
  · unfold authorizePlay at hchannel
    split_ifs at hchannel
    exact (authorizeVoiceControl_eq_ok.mp hchannel).1

/-- Whatever else the player and its surroundings do, at most four enqueues reach the player. The
command changes the player for an actor who may play, by facts that were looked up after the media
was resolved and at most three requests before. It connects a player that was nowhere to the channel
of the actor, or enqueues the batch, and then it has succeeded and does nothing more. -/
theorem play_commits_once {query : Option String} {file : Option AttachmentSource}
    (run : (client media guildId actor).Runs (start query file) setup taken attended) :
    taken.countP enqueues ≤ MAX_COMMIT_ATTEMPTS ∧
      ∀ earlier t later, taken = earlier ++ t :: later → t.label = .handled →
        t.after.player.actor.model ≠ t.before.player.actor.model →
        ∃ batch before after cache settings voice channel,
          earlier.map Taken.label = before ++ .outside (.facts cache (.ok settings)) :: after ∧
          .outside (.resolved (.ok batch)) ∈ before ∧
          after.countP ClientEvent.isHandled ≤ 3 ∧
          (∀ input, Authorized cache guildId actor (.ofSettings settings) (.enqueueMedia input)) ∧
          currentVoiceContext cache guildId actor (.ofSettings settings) = .ok voice ∧
          voice.actorVoiceChannelId = some channel ∧
          (voice.botVoiceChannelId = none ∧
              t.before.player.actor.model.voiceChannelId = none ∧
              t.after.player.actor.model.voiceChannelId = some channel ∧
              t.after.player = (t.before.player.step (.request
                (.connect channel t.before.player.actor.model.revision))).2 ∨
            t.after.player = (t.before.player.step (.request
                (.enqueueBatch batch.tracks t.before.player.actor.model.revision))).2 ∧
              (t.before.player.actor.idleTimer.generation.next.isSome = true →
                (∃ snapshot, attended.stage = .finished (.ok snapshot)) ∧
                ∀ u ∈ later, u.label = .handled → u.after = u.before)) := by
  have hstart : (start query file).InTime := by
    unfold start
    split <;> trivial
  refine ⟨enqueues_le run hstart, ?_⟩
  rintro earlier t later rfl hlabel hchanged
  obtain ⟨hearlier, hnext⟩ := Run.split run
  have hsound := Client.Runs.sound hearlier
  have hknows := knows_of_runs hearlier
  rw [hlabel] at hnext
  have hplayer {request : PlayerRequest} (h : t.before.stage.request = some request) :
      t.after.player = (t.before.player.step (.request request)).2 := by
    rw [← hnext, Client.step_handled (by exact h)]
  have hread (h : t.before.stage.request = some .snapshot) : False := by
    rw [hplayer h, (step_reads _).1] at hchanged
    exact hchanged rfl
  cases hstage : t.before.stage with
  | joined | observing _ _ _ _ | connected _ _ => exact (hread (by rw [hstage]; rfl)).elim
  | connecting batch attempt channel revision =>
    rw [hstage] at hknows
    obtain ⟨voice, hbot, hpermitted⟩ := hknows
    have hconnected := hplayer (by rw [hstage]; rfl)
    rw [hconnected] at hchanged
    obtain ⟨rfl, hnowhere, hvoice⟩ := hsound.connect_of_change hchanged
    obtain ⟨before, after, cache, settings, hevents, hresolved, hrequests, hauthorized, hfacts,
      hchannel⟩ := hpermitted.authorized
    exact ⟨batch, before, after, cache, settings, voice, channel, hevents, hresolved, by omega,
      hauthorized, hfacts, hchannel, .inl ⟨hbot, hnowhere, by rw [hconnected]; exact hvoice,
        hconnected⟩⟩
  | enqueueing batch attempt revision =>
    rw [hstage] at hknows
    obtain ⟨voice, channel, hpermitted⟩ := hknows
    have henqueued := hplayer (by rw [hstage]; rfl)
    rw [henqueued] at hchanged
    obtain ⟨rfl, hreply⟩ := hsound.enqueueBatch_of_change hchanged
    obtain ⟨before, after, cache, settings, hevents, hresolved, hrequests, hauthorized, hfacts,
      hchannel⟩ := hpermitted.authorized
    refine ⟨batch, before, after, cache, settings, voice, channel, hevents, hresolved, hrequests,
      hauthorized, hfacts, hchannel, .inr ⟨henqueued, fun hidle => ?_⟩⟩
    obtain ⟨snapshot, hsnapshot⟩ := hreply hidle
    have hfinished : t.after.stage = .finished (.ok snapshot) := by
      rw [← hnext, Client.step_handled (by rw [hstage]; rfl)]
      show Playing.answered media _ _ = _
      rw [hstage, Playing.answered, hsnapshot]
    have hhalted := run.halted (by rw [hfinished]; exact ⟨rfl, fun _ => rfl⟩)
    exact ⟨⟨snapshot, hhalted.1.trans hfinished⟩, hhalted.2⟩
  | deferred | permitted | authorized | resolving _ | attempting _ _ | discarding _ _
  | finished _ =>
    rw [Client.step_unrequested (by rw [hstage]; rfl)] at hnext
    exact absurd (by rw [hnext]) hchanged

/-- The actor is in a channel, and the bot is nowhere. -/
def botNowhere : GuildCache :=
  ⟨fun _ => some ⟨fun userId =>
      if userId = ⟨.MIN⟩ then some ⟨some ⟨.MIN⟩, some ⟨userId, []⟩⟩ else none,
    fun _ => none, fun _ => false⟩, ⟨.two⟩⟩

def firstClient : Client Playing PlayEvent := client ⟨10, 10⟩ ⟨.MIN⟩ ⟨.MIN⟩

/-- One track is played by a new player, up to its enqueue. -/
def firstEvents : List (ClientEvent PlayEvent) :=
  [.outside (.facts botNowhere (.ok none)), .outside (.facts botNowhere (.ok none)),
    .outside (.joined true), .handled, .outside (.resolved (.ok ⟨[.scripted 1]⟩)),
    .outside (.facts botNowhere (.ok none)), .handled, .handled, .handled]

def firstPlayed : List (Taken (Attended ScriptedPlayback Unit Playing) (ClientEvent PlayEvent)) ×
    Attended ScriptedPlayback Unit Playing :=
  replay firstClient.step ⟨(PlayerSetup.scripted []).player, start (some "track") none⟩ firstEvents

/-- The new player is connected, and then the track is enqueued. -/
theorem play_commits_once_first :
    ∃ snapshot, (firstClient.step firstPlayed.2 .handled).stage = .finished (.ok snapshot) := by
  have run : firstClient.Runs (start (some "track") none) (PlayerSetup.scripted [])
      (firstPlayed.1 ++ [⟨firstPlayed.2, .handled, firstClient.step firstPlayed.2 .handled⟩])
      (firstClient.step firstPlayed.2 .handled) :=
    Run.snoc (run_replay firstClient.step _ firstEvents) rfl
  have hrevision : (firstClient.step firstPlayed.2 .handled).player.actor.model.revision ≠
      firstPlayed.2.player.actor.model.revision := by decide +kernel
  have hconnected : firstPlayed.2.player.actor.model.voiceChannelId.isSome = true := by
    decide +kernel
  have hidle : firstPlayed.2.player.actor.idleTimer.generation.next.isSome = true := by
    decide +kernel
  have hchanged := fun hsame => hrevision (congrArg PlayerModel.revision hsame)
  obtain ⟨_, _, _, _, _, _, _, _, _, _, _, _, _, hcommitted⟩ :=
    (play_commits_once run).2 firstPlayed.1 _ [] rfl rfl hchanged
  rcases hcommitted with ⟨-, hnowhere, -, -⟩ | ⟨-, hfinished⟩
  · rw [hnowhere] at hconnected
    contradiction
  · exact (hfinished hidle).1

end runs

end Playing
end PepeAudio.Authorization
