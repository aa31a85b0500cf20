import PepeAudio.Player.Commands

/-!
# What a player may do

An abstract account of the actor. `Change` lists every way a request, an end
event or an expiration may change the player model, with the adapter calls made
for it, and forgets how the handlers get there. The revision is not part of a
change: `Outcome` adds one revision to each, and says what a request that
changes nothing may have done.
-/
namespace PepeAudio

open Actor

/-- `FirstPlayable candidates calls next remaining`: the candidates are offered to the adapter
in order until it accepts one. A candidate is passed over without a call only when no
generation is left for it. -/
inductive FirstPlayable :
    List QueueTrack → List CallRecord → Option ActiveTrack → List QueueTrack → Prop
  | exhausted : FirstPlayable [] [] none []
  | accepted (track : QueueTrack) (rest : List QueueTrack) (generation : PlaybackGeneration)
      (now : ℕ) :
      FirstPlayable (track :: rest) [⟨.play track generation, true⟩]
        (some (ActiveTrack.playing track generation now)) rest
  | refused (track : QueueTrack) (generation : PlaybackGeneration)
      {rest remaining : List QueueTrack} {calls : List CallRecord} {next : Option ActiveTrack} :
      FirstPlayable rest calls next remaining →
      FirstPlayable (track :: rest) (⟨.play track generation, false⟩ :: calls) next remaining
  | unnumbered (track : QueueTrack) {rest remaining : List QueueTrack}
      {calls : List CallRecord} {next : Option ActiveTrack} :
      FirstPlayable rest calls next remaining →
      FirstPlayable (track :: rest) calls next remaining

/-- `Succession capacity mode natural finished queue history calls next remaining history'`: what
may follow the end of `finished`, one case for each branch of the repeat mode. -/
inductive Succession (capacity : ℕ) (mode : RepeatMode) (natural : Bool) (finished : QueueTrack)
    (queue history : List QueueTrack) :
    List CallRecord → Option ActiveTrack → List QueueTrack → List QueueTrack → Prop
  | brokenOff {calls : List CallRecord} {next : Option ActiveTrack} {remaining : List QueueTrack}
      (hreason : natural = false) (hfirst : FirstPlayable queue calls next remaining) :
      Succession capacity mode natural finished queue history calls next remaining history
  | restarted (generation : PlaybackGeneration) (now : ℕ) (hreason : natural = true)
      (hmode : mode = .track ∨ mode = .queue ∧ queue = []) :
      Succession capacity mode natural finished queue history
        [⟨.play finished generation, true⟩]
        (some (ActiveTrack.playing finished generation now)) queue history
  | restartRefused {tried calls : List CallRecord} {next : Option ActiveTrack}
      {remaining : List QueueTrack} (hreason : natural = true)
      (hmode : mode = .track ∨ mode = .queue ∧ queue = [])
      (htried : tried = [] ∨ ∃ generation, tried = [⟨.play finished generation, false⟩])
      (hfirst : FirstPlayable queue calls next remaining) :
      Succession capacity mode natural finished queue history (tried ++ calls) next remaining
        (pushHistory capacity history finished)
  | cycled {calls : List CallRecord} {next : Option ActiveTrack} {remaining : List QueueTrack}
      (hreason : natural = true) (hmode : mode = .queue) (hqueue : queue ≠ [])
      (hfirst : FirstPlayable (queue ++ [finished]) calls next remaining) :
      Succession capacity mode natural finished queue history calls next remaining
        (pushHistory capacity history finished)
  | wentOn {calls : List CallRecord} {next : Option ActiveTrack} {remaining : List QueueTrack}
      (hreason : natural = true) (hmode : mode = .off)
      (hfirst : FirstPlayable queue calls next remaining) :
      Succession capacity mode natural finished queue history calls next remaining
        (pushHistory capacity history finished)

/-- New tracks a model may take in. -/
structure Admissible (model : PlayerModel) (tracks : List QueueTrack) : Prop where
  title : ∀ track ∈ tracks, track.hasValidPublicTitle = true
  nodup : (tracks.map QueueTrack.trackId).Nodup
  fresh : ∀ track ∈ tracks, track.trackId ∉ model.tracks.map QueueTrack.trackId

/-- The calls that bring a new connection to the settings of the model. -/
def initialCalls (model : PlayerModel) : List CallRecord :=
  [⟨.setVolume model.volume, true⟩] ++
    model.hrirPreset.toList.map (fun preset => ⟨.setHrir preset, true⟩) ++
    [⟨.setSpatialAudio model.spatialAudioEnabled, true⟩]

def PlaybackCall.isVoice : PlaybackCall → Bool
  | .connect _ | .disconnect => true
  | _ => false

/-- A call made only while the player is connected. -/
def whenConnected (model : PlayerModel) (call : PlaybackCall) : List CallRecord :=
  if model.voiceChannelId.isSome then [⟨call, true⟩] else []

/-- What makes an actor change its model. -/
inductive Cause where
  | connect (channelId : ChannelId)
  | enqueue (tracks : List QueueTrack)
  | command (command : PlayerCommand)
  | playbackEnded (identity : PlaybackIdentity) (reason : PlaybackEndReason)
  | observed (channelId : Option ChannelId)
  /-- An idle expiration or the end of the task. -/
  | leave

/-- `Change capacity model cause calls model'`: `cause` may turn the model into `model'`, up to
its revision, with the adapter calls `calls`. -/
inductive Change (capacity : ℕ) (model : PlayerModel) :
    Cause → List CallRecord → PlayerModel → Prop
  | connected (channel : ChannelId) (hvoice : model.voiceChannelId = none) :
      Change capacity model (.connect channel) (⟨.connect channel, true⟩ :: initialCalls model)
        { model with voiceChannelId := some channel, state := .idleConnected }
  | observed (channel : ChannelId) (hvoice : model.voiceChannelId ≠ some channel) :
      Change capacity model (.observed (some channel)) [⟨.connect channel, true⟩]
        { model with
          voiceChannelId := some channel
          state := if model.current.isNone then .idleConnected else model.state }
  | left (cause : Cause) (calls : List CallRecord)
      (hcause : cause = .command .disconnect ∨ cause = .leave ∨
        ∃ channel, cause = .observed channel)
      (hcalls : ∀ record ∈ calls, record.call.isVoice = true) :
      Change capacity model cause calls (clearDisconnected model)
  | queued (tracks : List QueueTrack) (hcurrent : model.current.isSome)
      (hnew : Admissible model tracks) (hroom : model.queue.length + tracks.length ≤ capacity) :
      Change capacity model (.enqueue tracks) []
        { model with queue := tracks.foldl (insertUpcoming model.shuffleEnabled) model.queue }
  | started (first : QueueTrack) (rest : List QueueTrack) (generation : PlaybackGeneration)
      (now : ℕ) (hvoice : model.voiceChannelId.isSome) (hcurrent : model.current = none)
      (hnew : Admissible model (first :: rest))
      (hroom : model.queue.length + rest.length ≤ max capacity model.queue.length) :
      Change capacity model (.enqueue (first :: rest)) [⟨.play first generation, true⟩]
        { model with
          current := some (ActiveTrack.playing first generation now)
          state := .playing
          queue := rest.foldl (insertUpcoming model.shuffleEnabled) model.queue }
  | removed (trackId : Uuid) (index : ℕ) (hindex : queuePosition model.queue trackId = some index) :
      Change capacity model (.command (.removeQueued trackId)) []
        { model with queue := model.queue.eraseIdx index }
  | moved (trackId : Uuid) (beforeTrackId : Option Uuid) (source destination : ℕ)
      (track : QueueTrack) (hsource : model.queue[source]? = some track)
      (hdestination : destination ≤ (model.queue.eraseIdx source).length) :
      Change capacity model (.command (.moveQueued trackId beforeTrackId)) []
        { model with queue := (model.queue.eraseIdx source).insertIdx destination track }
  | resumed (active : ActiveTrack) (now : ℕ) (hcurrent : model.current = some active) :
      Change capacity model (.command .play) [⟨.resume, true⟩]
        { model with current := some (active.resume now), state := .playing }
  | paused (active : ActiveTrack) (now : ℕ) (hcurrent : model.current = some active) :
      Change capacity model (.command .pause) [⟨.pause, true⟩]
        { model with current := some (active.pause now), state := .paused }
  | stopped (calls : List CallRecord) (hcalls : ∀ record ∈ calls, record.call = .stop)
      (hvoice : model.state ≠ .disconnected) :
      Change capacity model (.command .stop) calls
        { model with current := none, queue := [], history := [], state := .idleConnected }
  | skipped (active : ActiveTrack) (track : QueueTrack) (rest : List QueueTrack)
      (generation : PlaybackGeneration) (now : ℕ) (hcurrent : model.current = some active)
      (hqueue : model.queue = track :: rest) :
      Change capacity model (.command .skip) [⟨.play track generation, true⟩]
        { model with
          history := pushHistory capacity model.history active.track
          queue := rest
          current := some (ActiveTrack.playing track generation now)
          state := .playing }
  | skippedLast (active : ActiveTrack) (hcurrent : model.current = some active)
      (hqueue : model.queue = []) :
      Change capacity model (.command .skip) [⟨.stop, true⟩]
        { model with
          history := pushHistory capacity model.history active.track
          current := none
          state := .idleConnected }
  | wentBack (previous : QueueTrack) (generation : PlaybackGeneration) (now : ℕ)
      (hlast : model.history.getLast? = some previous)
      (hroom : (queueAfterPrevious model previous).length ≤ capacity) :
      Change capacity model (.command .previous) [⟨.play previous generation, true⟩]
        { model with
          history := model.history.dropLast
          queue := queueAfterPrevious model previous
          current := some (ActiveTrack.playing previous generation now)
          state := .playing }
  | sought (active : ActiveTrack) (positionMs : UInt64) (advancing : Bool)
      (generation : PlaybackGeneration) (now : ℕ) (hcurrent : model.current = some active) :
      Change capacity model (.command (.seek positionMs)) [⟨.seek positionMs generation, true⟩]
        { model with current := some (active.seek positionMs advancing generation now) }
  | volumeSet (volume : Volume) :
      Change capacity model (.command (.setVolume volume)) (whenConnected model (.setVolume volume))
        { model with volume := volume }
  | repeatSet (mode : RepeatMode) :
      Change capacity model (.command (.setRepeat mode)) [] { model with repeatMode := mode }
  | shuffleSet (enabled : Bool) (queue : List QueueTrack) (hqueue : queue.Perm model.queue) :
      Change capacity model (.command (.setShuffle enabled)) []
        { model with queue := queue, shuffleEnabled := enabled }
  | hrirSet (preset : HrirPresetId) :
      Change capacity model (.command (.setHrir preset)) (whenConnected model (.setHrir preset))
        { model with hrirPreset := some preset, spatialAudioEnabled := true }
  | spatialSet (enabled : Bool) :
      Change capacity model (.command (.setSpatialAudio enabled))
        (whenConnected model (.setSpatialAudio enabled))
        { model with spatialAudioEnabled := enabled }
  | ended (active : ActiveTrack) (reason : PlaybackEndReason) (calls : List CallRecord)
      (remaining history : List QueueTrack) (next : Option ActiveTrack)
      (hcurrent : model.current = some active)
      (hnext : Succession capacity model.repeatMode reason.isNatural active.track model.queue
        model.history calls next remaining history) :
      Change capacity model (.playbackEnded active.identity reason) calls
        { model with
          queue := remaining
          current := next
          history := history
          state := if next.isSome then .playing else .idleConnected }

/-- The generations of the calls that start playback, in order. -/
def generations (calls : List CallRecord) : List ℕ :=
  calls.filterMap fun record => record.call.generation.map PlaybackGeneration.toNat

@[simp] theorem generations_append (calls calls' : List CallRecord) :
    generations (calls ++ calls') = generations calls ++ generations calls' :=
  List.filterMap_append

/-- The calls use increasing generations above `low`, up to `high`. -/
structure Fresh (low high : ℕ) (calls : List CallRecord) : Prop where
  le : low ≤ high
  increasing : (generations calls).Pairwise (· < ·)
  bounds : ∀ n ∈ generations calls, low < n ∧ n ≤ high

namespace Fresh

/-- Calls that start nothing leave the counter where it is. -/
theorem idle {n : ℕ} {calls : List CallRecord} (h : generations calls = []) : Fresh n n calls :=
  ⟨le_rfl, by simp [h], by simp [h]⟩

theorem single {g g' : PlaybackGeneration} (h : g.next = some g') {record : CallRecord}
    (hrecord : record.call.generation = some g') : Fresh g.toNat g'.toNat [record] := by
  have hnext := PlaybackGeneration.next_toNat h
  have hcalls : generations [record] = [g'.toNat] := by simp [generations, hrecord]
  refine ⟨by omega, by simp [hcalls], ?_⟩
  intro n hn
  rw [hcalls, List.mem_singleton] at hn
  omega

theorem append {a b c : ℕ} {calls calls' : List CallRecord} (h : Fresh a b calls)
    (h' : Fresh b c calls') : Fresh a c (calls ++ calls') := by
  refine ⟨le_trans h.le h'.le, ?_, ?_⟩
  · rw [generations_append, List.pairwise_append]
    refine ⟨h.increasing, h'.increasing, fun n hn m hm => ?_⟩
    have hlow := (h.bounds n hn).2
    have hhigh := (h'.bounds m hm).1
    omega
  · intro n hn
    rw [generations_append, List.mem_append] at hn
    have hle := h.le
    have hle' := h'.le
    rcases hn with hn | hn
    · have hb := h.bounds n hn
      omega
    · have hb := h'.bounds n hn
      omega

end Fresh

def PlaybackCall.isSetting : PlaybackCall → Bool
  | .setVolume _ | .setHrir _ | .setSpatialAudio _ => true
  | _ => false

variable {P S : Type}

/-- The calls made between two states of one actor. -/
structure Made (a a' : Actor P S) (calls : List CallRecord) : Prop where
  config : a'.config = a.config
  fresh : Fresh a.playbackGeneration.toNat a'.playbackGeneration.toNat calls
  calls : a'.calls = a.calls ++ calls

/-- What a handler leaves alone, and the calls it made. -/
structure Frame (a a' : Actor P S) (calls : List CallRecord) : Prop extends Made a a' calls where
  recent : a'.recentIdempotency = a.recentIdempotency

theorem Made.congr {a b b' : Actor P S} {calls : List CallRecord} (h : Made a b calls)
    (hconfig : b'.config = b.config) (hgeneration : b'.playbackGeneration = b.playbackGeneration)
    (hcalls : b'.calls = b.calls) : Made a b' calls :=
  ⟨hconfig.trans h.config, hgeneration ▸ h.fresh, hcalls.trans h.calls⟩

theorem Frame.congr {a b b' : Actor P S} {calls : List CallRecord} (h : Frame a b calls)
    (hconfig : b'.config = b.config) (hgeneration : b'.playbackGeneration = b.playbackGeneration)
    (hcalls : b'.calls = b.calls) (hrecent : b'.recentIdempotency = b.recentIdempotency) :
    Frame a b' calls :=
  ⟨h.toMade.congr hconfig hgeneration hcalls, hrecent.trans h.recent⟩

/-- Nothing of the player has changed. -/
structure Kept (a a' : Actor P S) : Prop where
  model : a'.model = a.model
  idleTimer : a'.idleTimer = a.idleTimer
  published : a'.published = a.published

/-- The adapter settings a request may have touched before it failed: none, or those of a
connection that was given up again. -/
def Tentative (model : PlayerModel) (calls : List CallRecord) : Prop :=
  (∀ record ∈ calls, record.call.isSetting = true → record.succeeded = false) ∨
    model.voiceChannelId = none ∧
      ∀ record ∈ calls, ∀ preset, record.call = .setHrir preset → model.hrirPreset = some preset

/-- `model` was committed with the next revision. The idle timer is reconciled with the change;
if that fails, the change stands but is neither published nor returned. -/
structure Committed (timer : IdleTimer) (a a' : Actor P S) (model : PlayerModel)
    (result : Except Failure PlayerSnapshot) : Prop where
  revision : ∃ next, a.model.revision.checkedNext = some next ∧
    a'.model = { model with revision := next }
  idleTimer : a'.idleTimer =
    (timer.reconciled a.model.isIdleConnected model.isIdleConnected).2
  result :
    (timer.reconciled a.model.isIdleConnected model.isIdleConnected).1 = .ok () ∧
        (∃ reading, result = .ok (a'.model.snapshot reading) ∧
          a'.published = a.published ++ [a'.model.snapshot reading]) ∨
      (∃ error, (timer.reconciled a.model.isIdleConnected model.isIdleConnected).1 = .error error ∧
        result = .error (.error error)) ∧ a'.published = a.published

/-- Everything a handler that returns a snapshot may do. -/
inductive Outcome (a : Actor P S) (cause : Cause) : Except Failure PlayerSnapshot → Actor P S → Prop
  | unchanged {a' : Actor P S} (reading : Reading) (hkept : Kept a a') (hframe : Frame a a' []) :
      Outcome a cause (.ok (a'.model.snapshot reading)) a'
  | rejected {a' : Actor P S} {calls : List CallRecord} (error : PlayerError) (hkept : Kept a a')
      (hframe : Frame a a' calls) (hcalls : Tentative a.model calls) :
      Outcome a cause (.error (.error error)) a'
  | committed {a' : Actor P S} {calls : List CallRecord} {model : PlayerModel}
      {result : Except Failure PlayerSnapshot}
      (hchange : Change a.config.maxQueuedTracks a.model cause calls model)
      (hframe : Frame a a' calls) (hcommit : Committed a.idleTimer a a' model result) :
      Outcome a cause result a'

/-- All runs of the rest of a handler, from `a` on, are outcomes of the whole from `a₀`. -/
def Continues (a₀ a : Actor P S) (cause : Cause) (rest : ActorM P S PlayerSnapshot) : Prop :=
  Ends rest a (fun snapshot a' => Outcome a₀ cause (.ok snapshot) a')
    (fun failure a' => Outcome a₀ cause (.error failure) a')

/-- All runs of a handler from `a` are outcomes; none of them panics. -/
def Conforms (a : Actor P S) (cause : Cause) (handler : ActorM P S PlayerSnapshot) : Prop :=
  Continues a a cause handler

theorem Outcome.not_panic {a a' : Actor P S} {cause : Cause} {message : String} :
    ¬ Outcome a cause (.error (.panic message)) a' := by
  intro h
  cases h with
  | committed _ _ hcommit =>
    rcases hcommit.result with ⟨-, reading, hresult, -⟩ | ⟨⟨error, -, hresult⟩, -⟩
    · contradiction
    · simp at hresult

end PepeAudio
