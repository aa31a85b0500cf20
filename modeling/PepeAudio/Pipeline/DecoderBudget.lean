import PepeAudio.Lib.HotSwap
import PepeAudio.Lib.Run

/-!
# The decoder processes of all players

The players of a process share one factory of decoders. A player starts its first
decoder in a slot of the factory's stable budget. When it plays another track or
seeks, the replacement starts in the same slot under the one permit for an
overlap, and the permit comes back when the replaced worker is gone. An operation
stands at one of its awaits, where it may be cancelled; a worker that was aborted
or left to itself runs on until its task is dropped. Permits are reference counted:
the last holder that is dropped gives one back.
-/
namespace PepeAudio.Pipeline

/-- What the player keeps of a track that plays: its process slot and its worker. -/
structure ActiveTrack where
  processSlot : ℕ
  worker : ℕ
  deriving DecidableEq, Repr

/-- A decoder on its way into playback. -/
structure PreparedTrack where
  processSlot : ℕ
  replacementPermit : Option ℕ
  worker : ℕ
  deriving DecidableEq, Repr

/-- Where the operation of a player waits. -/
inductive PlaybackPhase where
  | idle
  /-- `acquire_process_slot`. -/
  | acquiringSlot
  /-- `acquire_replacement_permit`, with the slot of the active track. -/
  | acquiringPermit (activeSlot : ℕ)
  /-- `spawn_child`: no process runs yet. -/
  | spawning (slot : ℕ) (permit : Option ℕ)
  /-- The decoder runs while its processor is built. -/
  | starting (decoder : PreparedTrack)
  /-- `shutdown` of a decoder whose worker could not be started. -/
  | failing (decoder : PreparedTrack)
  /-- `ActiveTrack::shutdown` in `replace_active`. -/
  | replacing (prepared : PreparedTrack) (active : ActiveTrack)
  /-- `PreparedTrack::install`. -/
  | installing (prepared : PreparedTrack)
  /-- `Songbird::remove` in `disconnect_voice`. -/
  | removing
  /-- `ActiveTrack::shutdown` in `stop_active`. -/
  | stopping (active : ActiveTrack) (disconnects : Bool)
  | dropped
  deriving DecidableEq, Repr

structure SongbirdPlayback where
  call : Bool
  active : Option ActiveTrack
  phase : PlaybackPhase
  deriving DecidableEq, Repr

/-- What happens to one player. -/
inductive PlaybackStep where
  | connected
  | play
  | seek
  | slotAcquired
  | permitAcquired
  | spawned
  /-- A permit timed out, the process did not start, or the call could not be removed. -/
  | failed
  | startFailed
  | shutDown
  | workerStarted
  | workerFinished
  | installed
  | stop
  | disconnect
  | callRemoved
  | cancelled
  | dropped
  deriving DecidableEq, Repr

inductive BudgetEvent where
  | created
  | player (index : ℕ) (step : PlaybackStep)
  /-- A decoder is gone, with the worker task that owned it. -/
  | decoderGone (decoder : ℕ)
  deriving DecidableEq, Repr

/-- The factory's permits with the decoders that are alive, and the players. -/
structure DecoderBudget (maximumProcesses : ℕ) where
  factory : SlotPool maximumProcesses
  players : List SongbirdPlayback
  deriving DecidableEq

namespace SongbirdPlayback

def new : SongbirdPlayback := ⟨false, none, .idle⟩

/-- The process slots that the player, its active track and its operation hold. -/
def processSlots (player : SongbirdPlayback) : List ℕ :=
  (player.active.map (·.processSlot)).toList ++
    match player.phase with
    | .acquiringPermit slot | .spawning slot _ => [slot]
    | .starting decoder | .failing decoder => [decoder.processSlot]
    | .replacing prepared active => [prepared.processSlot, active.processSlot]
    | .installing prepared => [prepared.processSlot]
    | .stopping active _ => [active.processSlot]
    | .idle | .acquiringSlot | .removing | .dropped => []

/-- The replacement permits that its operation holds. -/
def replacementPermits (player : SongbirdPlayback) : List ℕ :=
  match player.phase with
  | .spawning _ permit => permit.toList
  | .starting decoder | .failing decoder => decoder.replacementPermit.toList
  | .replacing prepared _ | .installing prepared => prepared.replacementPermit.toList
  | .idle | .acquiringSlot | .acquiringPermit _ | .removing | .stopping .. | .dropped => []

end SongbirdPlayback

namespace DecoderBudget

variable {maximumProcesses : ℕ}

/-- `FfmpegDecoderFactory::new`, before the first player. -/
def new (maximumProcesses : ℕ) : DecoderBudget maximumProcesses := ⟨.empty maximumProcesses, []⟩

/-- Some worker or player still holds the process slot. -/
def holdsSlot (s : DecoderBudget maximumProcesses) (slot : ℕ) : Bool :=
  s.factory.workers.any (·.slot == slot) || s.players.any (·.processSlots.contains slot)

def holdsPermit (s : DecoderBudget maximumProcesses) (permit : ℕ) : Bool :=
  s.factory.workers.any (·.overlap == some permit) ||
    s.players.any (·.replacementPermits.contains permit)

/-- Permits come back when their last holder is dropped. -/
def settle (s : DecoderBudget maximumProcesses) : DecoderBudget maximumProcesses :=
  { s with factory := s.factory.retain s.holdsSlot s.holdsPermit }

def put (s : DecoderBudget maximumProcesses) (index : ℕ) (player : SongbirdPlayback) :
    DecoderBudget maximumProcesses :=
  { s with players := s.players.set index player }

def withFactory (s : DecoderBudget maximumProcesses) (factory : SlotPool maximumProcesses) :
    DecoderBudget maximumProcesses :=
  { s with factory }

section operations
variable (s : DecoderBudget maximumProcesses) (index : ℕ) (player : SongbirdPlayback)

def connectVoice : Option (DecoderBudget maximumProcesses) :=
  match player.phase with
  | .idle => some (s.put index { player with call := true })
  | _ => none

/-- `play_track` with a resolved source, up to the first permit. -/
def playTrack : Option (DecoderBudget maximumProcesses) :=
  match player.phase, player.call, player.active with
  | .idle, true, none => some (s.put index { player with phase := .acquiringSlot })
  | .idle, true, some active =>
    some (s.put index { player with phase := .acquiringPermit active.processSlot })
  | _, _, _ => none

def seekTrack : Option (DecoderBudget maximumProcesses) :=
  match player.phase, player.active with
  | .idle, some active =>
    some (s.put index { player with phase := .acquiringPermit active.processSlot })
  | _, _ => none

def acquireProcessSlot : Option (DecoderBudget maximumProcesses) :=
  match player.phase, s.factory.slots.acquire with
  | .acquiringSlot, some (slot, slots) =>
    some ((s.withFactory { s.factory with slots }).put index
      { player with phase := .spawning slot none })
  | _, _ => none

def acquireReplacementPermit : Option (DecoderBudget maximumProcesses) :=
  match player.phase, s.factory.overlaps.acquire with
  | .acquiringPermit slot, some (permit, overlaps) =>
    some ((s.withFactory { s.factory with overlaps }).put index
      { player with phase := .spawning slot (some permit) })
  | _, _ => none

def spawnDecoder : Option (DecoderBudget maximumProcesses) :=
  match player.phase with
  | .spawning slot permit =>
    some ((s.withFactory (s.factory.launch slot permit)).put index
      { player with phase := .starting ⟨slot, permit, s.factory.nextWorker⟩ })
  | _ => none

/-- An await that fails before there is a decoder, or before the call is gone. -/
def fail : Option (DecoderBudget maximumProcesses) :=
  match player.phase with
  | .acquiringSlot | .acquiringPermit _ | .spawning _ _ | .removing =>
    some (s.put index { player with phase := .idle })
  | _ => none

def startFailed : Option (DecoderBudget maximumProcesses) :=
  match player.phase with
  | .starting decoder => some (s.put index { player with phase := .failing decoder })
  | _ => none

/-- `DecodedPcm::shutdown` has returned, and the decoder is dropped. -/
def shutDown : Option (DecoderBudget maximumProcesses) :=
  match player.phase with
  | .failing decoder =>
    some ((s.withFactory (s.factory.finish decoder.worker)).put index
      { player with phase := .idle })
  | _ => none

/-- `release_replacement_permit`, and `install` begins. -/
def beginInstall (prepared : PreparedTrack) : DecoderBudget maximumProcesses :=
  (s.withFactory
    (match prepared.replacementPermit with
      | none => s.factory
      | some permit => s.factory.releaseOverlap permit)).put index
    { player with
      active := none
      phase := .installing { prepared with replacementPermit := none } }

/-- `replace_active` up to its first await. Without a call the prepared track is dropped, which
aborts its worker. -/
def replaceActive : Option (DecoderBudget maximumProcesses) :=
  match player.phase, player.call, player.active with
  | .starting _, false, _ => some (s.put index { player with phase := .idle })
  | .starting prepared, true, none => some (s.beginInstall index player prepared)
  | .starting prepared, true, some active =>
    some (s.put index { player with active := none, phase := .replacing prepared active })
  | _, _, _ => none

/-- `finish_worker` returns when the worker is gone. -/
def workerFinished : Option (DecoderBudget maximumProcesses) :=
  match player.phase with
  | .replacing prepared active =>
    if s.factory.Runs active.worker then none else some (s.beginInstall index player prepared)
  | .stopping active disconnects =>
    if s.factory.Runs active.worker then none
    else some (s.put index { player with call := player.call && !disconnects, phase := .idle })
  | _ => none

def install : Option (DecoderBudget maximumProcesses) :=
  match player.phase with
  | .installing prepared =>
    some (s.put index { player with
      active := some ⟨prepared.processSlot, prepared.worker⟩
      phase := .idle })
  | _ => none

/-- `stop_active` up to its first await. -/
def beginStop (disconnects : Bool) : DecoderBudget maximumProcesses :=
  match player.active with
  | none => s.put index { player with call := player.call && !disconnects, phase := .idle }
  | some active =>
    s.put index { player with active := none, phase := .stopping active disconnects }

def stopActive : Option (DecoderBudget maximumProcesses) :=
  match player.phase with
  | .idle => some (s.beginStop index player false)
  | _ => none

/-- `disconnect_voice` up to its first await. -/
def disconnectVoice : Option (DecoderBudget maximumProcesses) :=
  match player.phase, player.call with
  | .idle, true => some (s.put index { player with phase := .removing })
  | .idle, false => some (s.beginStop index player true)
  | _, _ => none

/-- `disconnect_voice` once Songbird has removed the call. -/
def callRemoved : Option (DecoderBudget maximumProcesses) :=
  match player.phase with
  | .removing => some (s.beginStop index player true)
  | _ => none

/-- The operation is dropped at its await. A decoder without a worker dies with it, and a worker
that is aborted or detached runs on. -/
def cancel : Option (DecoderBudget maximumProcesses) :=
  match player.phase with
  | .starting decoder | .failing decoder =>
    some ((s.withFactory (s.factory.finish decoder.worker)).put index
      { player with phase := .idle })
  | .acquiringSlot | .acquiringPermit _ | .spawning _ _ | .replacing _ _ | .installing _
  | .removing | .stopping _ _ => some (s.put index { player with phase := .idle })
  | .idle | .dropped => none

/-- The player is dropped, which aborts the worker of its active track. -/
def dropPlayer : Option (DecoderBudget maximumProcesses) :=
  match player.phase with
  | .idle => some (s.put index { player with active := none, phase := .dropped })
  | _ => none

/-- The steps of one player. -/
def act : PlaybackStep → Option (DecoderBudget maximumProcesses)
  | .connected => s.connectVoice index player
  | .play => s.playTrack index player
  | .seek => s.seekTrack index player
  | .slotAcquired => s.acquireProcessSlot index player
  | .permitAcquired => s.acquireReplacementPermit index player
  | .spawned => s.spawnDecoder index player
  | .failed => s.fail index player
  | .startFailed => s.startFailed index player
  | .shutDown => s.shutDown index player
  | .workerStarted => s.replaceActive index player
  | .workerFinished => s.workerFinished index player
  | .installed => s.install index player
  | .stop => s.stopActive index player
  | .disconnect => s.disconnectVoice index player
  | .callRemoved => s.callRemoved index player
  | .cancelled => s.cancel index player
  | .dropped => s.dropPlayer index player

end operations

/-- One event, after which the permits that nobody holds any more are back. -/
def step (s : DecoderBudget maximumProcesses) (event : BudgetEvent) :
    Option (DecoderBudget maximumProcesses) :=
  (match event with
    | .created => some { s with players := s.players ++ [SongbirdPlayback.new] }
    | .player index step => s.players[index]?.bind fun player => s.act index player step
    | .decoderGone decoder =>
      if s.factory.Runs decoder then some (s.withFactory (s.factory.finish decoder)) else none).map
    settle

/-- The runs of the players with one factory. -/
abbrev BudgetRun (maximumProcesses : ℕ) :=
  Run (fun (s : DecoderBudget maximumProcesses) event s' => s.step event = some s')
    (new maximumProcesses)

end DecoderBudget

namespace SongbirdPlayback

/-- What the player claims of the factory. -/
def claim (player : SongbirdPlayback) : Option SlotClaim :=
  match player.phase with
  | .idle | .acquiringSlot | .acquiringPermit _ | .removing =>
    player.active.map fun active => ⟨active.processSlot, some active.worker, none⟩
  | .spawning slot none => some ⟨slot, none, none⟩
  | .spawning slot (some permit) =>
    some ⟨slot, player.active.map (·.worker), some (permit, none)⟩
  | .starting ⟨slot, none, worker⟩ | .failing ⟨slot, none, worker⟩ | .installing ⟨slot, _, worker⟩
  | .replacing ⟨slot, none, worker⟩ _ => some ⟨slot, some worker, none⟩
  | .starting ⟨slot, some permit, worker⟩ | .failing ⟨slot, some permit, worker⟩ =>
    some ⟨slot, player.active.map (·.worker), some (permit, some worker)⟩
  | .replacing ⟨slot, some permit, worker⟩ active =>
    some ⟨slot, some active.worker, some (permit, some worker)⟩
  | .stopping active _ => some ⟨active.processSlot, some active.worker, none⟩
  | .dropped => none

/-- An operation that replaces holds the slot of the active track, and any other one finds
no active track. -/
def Coherent (player : SongbirdPlayback) : Prop :=
  match player.phase with
  | .idle | .removing => True
  | .acquiringSlot | .stopping .. | .dropped => player.active = none
  | .acquiringPermit slot => player.active.map (·.processSlot) = some slot
  | .spawning slot permit => player.active.map (·.processSlot) = permit.map fun _ => slot
  | .starting ⟨slot, permit, _⟩ | .failing ⟨slot, permit, _⟩ =>
    player.active.map (·.processSlot) = permit.map fun _ => slot
  | .replacing ⟨slot, permit, _⟩ active =>
    player.active = none ∧ permit.isSome ∧ active.processSlot = slot
  | .installing _ => player.active = none

end SongbirdPlayback

/-- The operation has not touched the active track. -/
def PlaybackPhase.keepsActive : PlaybackPhase → Bool
  | .acquiringSlot | .acquiringPermit _ | .spawning _ _ | .starting _ | .failing _
  | .removing => true
  | .idle | .replacing _ _ | .installing _ | .stopping _ _ | .dropped => false

namespace DecoderBudget

variable {maximumProcesses : ℕ} {s s' : DecoderBudget maximumProcesses} {index : ℕ}
  {player : SongbirdPlayback}

def claims (s : DecoderBudget maximumProcesses) (index : ℕ) : Option SlotClaim :=
  s.players[index]?.bind SongbirdPlayback.claim

structure Invariant (s : DecoderBudget maximumProcesses) : Prop where
  sound : s.factory.Sound s.claims
  coherent : ∀ player ∈ s.players, player.Coherent

theorem claims_of_player (h : s.players[index]? = some player) : s.claims index = player.claim := by
  simp [claims, h]

/-- What one step of a player does to its claim. -/
structure Moves (s : DecoderBudget maximumProcesses) (index : ℕ)
    (s' : DecoderBudget maximumProcesses) (player' : SongbirdPlayback) : Prop where
  players : s'.players = s.players.set index player'
  coherent : player'.Coherent
  sound : s'.factory.Sound (Function.update s.claims index player'.claim)

theorem Moves.of_claim_eq (hplayer : s.players[index]? = some player)
    (h : s.factory.Sound s.claims) {player' : SongbirdPlayback} (hcoherent : player'.Coherent)
    (hclaim : player'.claim = player.claim) : Moves s index (s.put index player') player' := by
  refine ⟨rfl, hcoherent, ?_⟩
  rw [hclaim, ← claims_of_player hplayer, Function.update_eq_self]
  exact h

section moves
variable (hplayer : s.players[index]? = some player) (hcoherent : player.Coherent)
  (h : s.factory.Sound s.claims)
include hplayer hcoherent h

theorem connectVoice_moves (hstep : s.connectVoice index player = some s') :
    ∃ player', Moves s index s' player' := by
  unfold connectVoice at hstep
  split at hstep <;> cases hstep
  exact ⟨_, .of_claim_eq hplayer h hcoherent rfl⟩

theorem playTrack_moves (hstep : s.playTrack index player = some s') :
    ∃ player', Moves s index s' player' := by
  obtain ⟨call, active, phase⟩ := player
  unfold playTrack at hstep
  split at hstep <;> cases hstep <;> rename_i hphase hcall hactive <;> cases hphase <;>
    cases hactive
  · exact ⟨_, .of_claim_eq hplayer h rfl rfl⟩
  · exact ⟨_, .of_claim_eq hplayer h rfl rfl⟩

theorem seekTrack_moves (hstep : s.seekTrack index player = some s') :
    ∃ player', Moves s index s' player' := by
  obtain ⟨call, active, phase⟩ := player
  unfold seekTrack at hstep
  split at hstep <;> cases hstep
  rename_i hphase hactive
  cases hphase
  cases hactive
  exact ⟨_, .of_claim_eq hplayer h rfl rfl⟩

theorem acquireProcessSlot_moves (hstep : s.acquireProcessSlot index player = some s') :
    ∃ player', Moves s index s' player' := by
  obtain ⟨call, active, phase⟩ := player
  unfold acquireProcessSlot at hstep
  split at hstep <;> cases hstep
  rename_i hphase hacquire
  cases hphase
  cases hcoherent
  exact ⟨_, rfl, rfl, h.claim_new index hacquire⟩

theorem acquireReplacementPermit_moves (hstep : s.acquireReplacementPermit index player = some s') :
    ∃ player', Moves s index s' player' := by
  obtain ⟨call, active, phase⟩ := player
  unfold acquireReplacementPermit at hstep
  split at hstep <;> cases hstep
  rename_i hphase hacquire
  cases hphase
  obtain ⟨active, rfl, rfl⟩ := Option.map_eq_some_iff.mp hcoherent
  exact ⟨_, rfl, rfl, h.reserve (claims_of_player hplayer) hacquire⟩

theorem spawnDecoder_moves (hstep : s.spawnDecoder index player = some s') :
    ∃ player', Moves s index s' player' := by
  obtain ⟨call, active, phase⟩ := player
  have hclaim := claims_of_player hplayer
  unfold spawnDecoder at hstep
  split at hstep <;> cases hstep
  rename_i slot permit hphase
  cases hphase
  cases permit with
  | none => exact ⟨_, rfl, hcoherent, h.launch_main hclaim⟩
  | some permit => exact ⟨_, rfl, hcoherent, h.launch_spare hclaim⟩

omit h in
/-- An operation that ends before it touched the active track leaves that track's claim. -/
theorem sound_idle {factory : SlotPool maximumProcesses} (hfactory : factory.Sound s.claims)
    (hphase : player.phase.keepsActive) :
    factory.Sound (Function.update s.claims index { player with phase := .idle }.claim) := by
  obtain ⟨call, active, phase⟩ := player
  have hclaim := claims_of_player hplayer
  have hsame (heq : s.claims index = (⟨call, active, .idle⟩ : SongbirdPlayback).claim) :
      factory.Sound
        (Function.update s.claims index (⟨call, active, .idle⟩ : SongbirdPlayback).claim) := by
    rw [← heq, Function.update_eq_self]
    exact hfactory
  have hspawning {slot : ℕ} {permit : Option ℕ} (worker : Option ℕ)
      (hcoherent : active.map (·.processSlot) = permit.map fun _ => slot)
      (hspare : ∀ permit' ∈ permit, s.claims index
        = some ⟨slot, active.map (·.worker), some (permit', worker)⟩) :
      factory.Sound
        (Function.update s.claims index (⟨call, active, .idle⟩ : SongbirdPlayback).claim) := by
    cases permit with
    | none =>
      obtain rfl := Option.map_eq_none_iff.mp hcoherent
      exact hfactory.unclaim index
    | some permit =>
      obtain ⟨active, rfl, rfl⟩ := Option.map_eq_some_iff.mp hcoherent
      exact hfactory.abandon (hspare permit rfl)
  cases phase with
  | acquiringSlot => exact hsame hclaim
  | acquiringPermit => exact hsame hclaim
  | removing => exact hsame hclaim
  | spawning slot permit =>
    refine hspawning none hcoherent ?_
    rintro _ rfl
    exact hclaim
  | starting decoder =>
    refine hspawning (some decoder.worker) hcoherent ?_
    rintro _ hpermit
    obtain ⟨slot, permit, worker⟩ := decoder
    cases hpermit
    exact hclaim
  | failing decoder =>
    refine hspawning (some decoder.worker) hcoherent ?_
    rintro _ hpermit
    obtain ⟨slot, permit, worker⟩ := decoder
    cases hpermit
    exact hclaim
  | idle | replacing | installing | stopping | dropped => cases hphase

theorem fail_moves (hstep : s.fail index player = some s') :
    ∃ player', Moves s index s' player' := by
  have hidle := sound_idle hplayer hcoherent h
  unfold fail at hstep
  split at hstep <;> cases hstep <;> rename_i hphase <;>
    exact ⟨_, rfl, trivial, hidle (by rw [hphase]; rfl)⟩

theorem startFailed_moves (hstep : s.startFailed index player = some s') :
    ∃ player', Moves s index s' player' := by
  obtain ⟨call, active, phase⟩ := player
  unfold startFailed at hstep
  split at hstep <;> cases hstep
  rename_i decoder hphase
  cases hphase
  obtain ⟨slot, permit, worker⟩ := decoder
  cases permit with
  | none => exact ⟨_, .of_claim_eq hplayer h hcoherent rfl⟩
  | some permit => exact ⟨_, .of_claim_eq hplayer h hcoherent rfl⟩

theorem shutDown_moves (hstep : s.shutDown index player = some s') :
    ∃ player', Moves s index s' player' := by
  unfold shutDown at hstep
  split at hstep <;> cases hstep
  rename_i decoder hphase
  exact ⟨_, rfl, trivial,
    sound_idle hplayer hcoherent (h.finish decoder.worker) (by rw [hphase]; rfl)⟩

theorem install_moves (hstep : s.install index player = some s') :
    ∃ player', Moves s index s' player' := by
  obtain ⟨call, active, phase⟩ := player
  unfold install at hstep
  split at hstep <;> cases hstep
  rename_i hphase
  cases hphase
  exact ⟨_, .of_claim_eq hplayer h trivial rfl⟩

theorem replaceActive_moves (hstep : s.replaceActive index player = some s') :
    ∃ player', Moves s index s' player' := by
  have hidle := sound_idle hplayer hcoherent h
  obtain ⟨call, active, phase⟩ := player
  have hclaim := claims_of_player hplayer
  unfold replaceActive at hstep
  split at hstep <;> cases hstep <;> rename_i hphase hcall hactive <;> cases hphase <;>
    cases hcall
  · exact ⟨_, rfl, trivial, hidle rfl⟩
  · cases hactive
    rename_i prepared
    obtain ⟨slot, permit, worker⟩ := prepared
    obtain rfl := Option.map_eq_none_iff.mp hcoherent.symm
    exact ⟨_, .of_claim_eq hplayer h rfl rfl⟩
  · cases hactive
    rename_i prepared active
    obtain ⟨slot, permit, worker⟩ := prepared
    obtain ⟨permit, rfl, hslot⟩ := Option.map_eq_some_iff.mp hcoherent.symm
    exact ⟨_, .of_claim_eq hplayer h ⟨rfl, rfl, hslot.symm⟩ rfl⟩

theorem workerFinished_moves (hstep : s.workerFinished index player = some s') :
    ∃ player', Moves s index s' player' := by
  obtain ⟨call, active, phase⟩ := player
  have hclaim := claims_of_player hplayer
  unfold workerFinished at hstep
  split at hstep
  · rename_i prepared old hphase
    split_ifs at hstep with hruns
    cases hstep
    cases hphase
    obtain ⟨slot, permit, worker⟩ := prepared
    obtain ⟨rfl, hpermit, hslot⟩ := hcoherent
    obtain ⟨permit, rfl⟩ := Option.isSome_iff_exists.mp hpermit
    refine ⟨_, rfl, rfl, h.promote hclaim ?_⟩
    rintro _ ⟨⟩
    exact hruns
  · rename_i old disconnects hphase
    split_ifs at hstep
    cases hstep
    cases hphase
    cases hcoherent
    exact ⟨_, rfl, trivial, h.unclaim index⟩
  · cases hstep

omit hcoherent in
theorem beginStop_moves (disconnects : Bool)
    (hphase : player.phase = .idle ∨ player.phase = .removing) :
    ∃ player', Moves s index (s.beginStop index player disconnects) player' := by
  obtain ⟨call, active, phase⟩ := player
  cases active with
  | none => exact ⟨_, .of_claim_eq hplayer h trivial (by rcases hphase with rfl | rfl <;> rfl)⟩
  | some active => exact ⟨_, .of_claim_eq hplayer h rfl (by rcases hphase with rfl | rfl <;> rfl)⟩

omit hcoherent in
theorem stopActive_moves (hstep : s.stopActive index player = some s') :
    ∃ player', Moves s index s' player' := by
  unfold stopActive at hstep
  split at hstep <;> cases hstep
  rename_i hphase
  exact beginStop_moves hplayer h false (.inl hphase)

theorem disconnectVoice_moves (hstep : s.disconnectVoice index player = some s') :
    ∃ player', Moves s index s' player' := by
  unfold disconnectVoice at hstep
  split at hstep <;> cases hstep <;> rename_i hphase hcall
  · obtain ⟨call, active, phase⟩ := player
    cases hphase
    exact ⟨_, .of_claim_eq hplayer h trivial rfl⟩
  · exact beginStop_moves hplayer h true (.inl hphase)

omit hcoherent in
theorem callRemoved_moves (hstep : s.callRemoved index player = some s') :
    ∃ player', Moves s index s' player' := by
  unfold callRemoved at hstep
  split at hstep <;> cases hstep
  rename_i hphase
  exact beginStop_moves hplayer h true (.inr hphase)

theorem cancel_moves (hstep : s.cancel index player = some s') :
    ∃ player', Moves s index s' player' := by
  have hidle {factory : SlotPool maximumProcesses} (hfactory : factory.Sound s.claims) :=
    sound_idle hplayer hcoherent hfactory
  obtain ⟨call, active, phase⟩ := player
  unfold cancel at hstep
  split at hstep <;> cases hstep <;> rename_i hphase <;> cases hphase
  · exact ⟨_, rfl, trivial, hidle (h.finish _) rfl⟩
  · exact ⟨_, rfl, trivial, hidle (h.finish _) rfl⟩
  · exact ⟨_, rfl, trivial, hidle h rfl⟩
  · exact ⟨_, rfl, trivial, hidle h rfl⟩
  · exact ⟨_, rfl, trivial, hidle h rfl⟩
  · obtain ⟨rfl, -, -⟩ := hcoherent
    exact ⟨_, rfl, trivial, h.unclaim index⟩
  · cases hcoherent
    exact ⟨_, rfl, trivial, h.unclaim index⟩
  · exact ⟨_, rfl, trivial, hidle h rfl⟩
  · cases hcoherent
    exact ⟨_, rfl, trivial, h.unclaim index⟩

omit hplayer hcoherent in
theorem dropPlayer_moves (hstep : s.dropPlayer index player = some s') :
    ∃ player', Moves s index s' player' := by
  unfold dropPlayer at hstep
  split at hstep <;> cases hstep
  exact ⟨_, rfl, rfl, h.unclaim index⟩

theorem act_moves {step : PlaybackStep} (hstep : s.act index player step = some s') :
    ∃ player', Moves s index s' player' := by
  cases step with
  | connected => exact connectVoice_moves hplayer hcoherent h hstep
  | play => exact playTrack_moves hplayer hcoherent h hstep
  | seek => exact seekTrack_moves hplayer hcoherent h hstep
  | slotAcquired => exact acquireProcessSlot_moves hplayer hcoherent h hstep
  | permitAcquired => exact acquireReplacementPermit_moves hplayer hcoherent h hstep
  | spawned => exact spawnDecoder_moves hplayer hcoherent h hstep
  | failed => exact fail_moves hplayer hcoherent h hstep
  | startFailed => exact startFailed_moves hplayer hcoherent h hstep
  | shutDown => exact shutDown_moves hplayer hcoherent h hstep
  | workerStarted => exact replaceActive_moves hplayer hcoherent h hstep
  | workerFinished => exact workerFinished_moves hplayer hcoherent h hstep
  | installed => exact install_moves hplayer hcoherent h hstep
  | stop => exact stopActive_moves hplayer h hstep
  | disconnect => exact disconnectVoice_moves hplayer hcoherent h hstep
  | callRemoved => exact callRemoved_moves hplayer h hstep
  | cancelled => exact cancel_moves hplayer hcoherent h hstep
  | dropped => exact dropPlayer_moves h hstep

end moves

theorem Moves.invariant {player' : SongbirdPlayback} (hmoves : Moves s index s' player')
    (hindex : index < s.players.length) (h : s.Invariant) : s'.Invariant := by
  refine ⟨?_, ?_⟩
  · have hclaims : s'.claims = Function.update s.claims index player'.claim := by
      funext other
      by_cases hother : other = index
      · subst hother
        simp [claims, hmoves.players, hindex]
      · simp [claims, hmoves.players, Function.update_of_ne hother, List.getElem?_set_ne
          (Ne.symm hother)]
    rw [hclaims]
    exact hmoves.sound
  · intro player hplayer
    rw [hmoves.players] at hplayer
    rcases List.mem_or_eq_of_mem_set hplayer with hplayer | rfl
    · exact h.coherent player hplayer
    · exact hmoves.coherent

/-- What a player claims is what it holds. -/
theorem mem_held {c : SlotClaim} (hc : c ∈ player.claim) :
    c.slot ∈ player.processSlots ∧ ∀ spare ∈ c.spare, spare.1 ∈ player.replacementPermits := by
  obtain ⟨call, active, phase⟩ := player
  have hleft (hc : c ∈ active.map fun active => ⟨active.processSlot, some active.worker, none⟩)
      (rest : List ℕ) : c.slot ∈ (active.map (·.processSlot)).toList ++ rest
        ∧ ∀ spare ∈ c.spare, spare.1 ∈ ([] : List ℕ) := by
    obtain ⟨active, rfl, rfl⟩ := Option.map_eq_some_iff.mp hc
    simp
  simp only [SongbirdPlayback.processSlots, SongbirdPlayback.replacementPermits]
  cases phase with
  | idle => exact hleft hc _
  | acquiringSlot => exact hleft hc _
  | acquiringPermit activeSlot => exact hleft hc _
  | removing => exact hleft hc _
  | spawning slot permit =>
    cases permit <;> cases hc <;> simp
  | starting decoder =>
    obtain ⟨slot, permit, worker⟩ := decoder
    cases permit <;> cases hc <;> simp
  | failing decoder =>
    obtain ⟨slot, permit, worker⟩ := decoder
    cases permit <;> cases hc <;> simp
  | replacing prepared old =>
    obtain ⟨slot, permit, worker⟩ := prepared
    cases permit <;> cases hc <;> simp
  | installing prepared =>
    cases hc
    simp
  | stopping old disconnects =>
    cases hc
    simp
  | dropped => cases hc

theorem Invariant.settle (h : s.Invariant) : s.settle.Invariant := by
  refine ⟨h.sound.retain ?_ ?_, h.coherent⟩
  · intro w hw
    refine ⟨?_, fun permit hpermit => ?_⟩
    · exact Bool.or_eq_true_iff.mpr (.inl (List.any_eq_true.mpr ⟨w, hw, by simp⟩))
    · exact Bool.or_eq_true_iff.mpr (.inl (List.any_eq_true.mpr ⟨w, hw, by simpa using hpermit⟩))
  · intro index c hc
    obtain ⟨player, hplayer, hclaim⟩ := Option.bind_eq_some_iff.mp hc
    have hmem := List.mem_of_getElem? hplayer
    obtain ⟨hslot, hspare⟩ := mem_held hclaim
    refine ⟨?_, fun spare hs => ?_⟩
    · exact Bool.or_eq_true_iff.mpr
        (.inr (List.any_eq_true.mpr ⟨player, hmem, by simpa using hslot⟩))
    · exact Bool.or_eq_true_iff.mpr
        (.inr (List.any_eq_true.mpr ⟨player, hmem, by simpa using hspare spare hs⟩))

theorem Invariant.created (h : s.Invariant) :
    { s with players := s.players ++ [SongbirdPlayback.new] }.Invariant := by
  refine ⟨?_, ?_⟩
  · have hclaims : claims { s with players := s.players ++ [SongbirdPlayback.new] } = s.claims := by
      funext index
      rcases lt_trichotomy index s.players.length with hindex | rfl | hindex
      · simp [claims, List.getElem?_append_left hindex]
      · simp [claims, SongbirdPlayback.new, SongbirdPlayback.claim]
      · have hbefore : s.players[index]? = none := List.getElem?_eq_none (Nat.le_of_lt hindex)
        have hafter : (s.players ++ [SongbirdPlayback.new])[index]? = none :=
          List.getElem?_eq_none (by rw [List.length_append, List.length_singleton]; omega)
        simp only [claims, hbefore, hafter]
    rw [hclaims]
    exact h.sound
  · intro player hplayer
    rcases List.mem_append.mp hplayer with hplayer | hnew
    · exact h.coherent player hplayer
    · obtain rfl := List.mem_singleton.mp hnew
      trivial

theorem Invariant.step (h : s.Invariant) {event : BudgetEvent} (hstep : s.step event = some s') :
    s'.Invariant := by
  obtain ⟨before, hbefore, rfl⟩ := Option.map_eq_some_iff.mp hstep
  refine Invariant.settle ?_
  cases event with
  | created =>
    cases hbefore
    exact h.created
  | player index step =>
    obtain ⟨player, hplayer, hact⟩ := Option.bind_eq_some_iff.mp hbefore
    obtain ⟨player', hmoves⟩ :=
      act_moves hplayer (h.coherent player (List.mem_of_getElem? hplayer)) h.sound hact
    exact hmoves.invariant (List.getElem?_eq_some_iff.mp hplayer).1 h
  | decoderGone decoder =>
    simp only at hbefore
    split_ifs at hbefore
    cases hbefore
    exact ⟨h.sound.finish decoder, h.coherent⟩

theorem invariant_new (maximumProcesses : ℕ) : (new maximumProcesses).Invariant where
  sound := SlotPool.sound_empty
  coherent := by simp [new]

theorem invariant_of_run {taken : List (Taken (DecoderBudget maximumProcesses) BudgetEvent)}
    (run : BudgetRun maximumProcesses taken s) : s.Invariant :=
  run.invariant (invariant_new maximumProcesses) fun _ _ _ h hstep => h.step hstep

/-- Nothing is out that nobody holds. -/
theorem held_of_run {taken : List (Taken (DecoderBudget maximumProcesses) BudgetEvent)}
    (run : BudgetRun maximumProcesses taken s) :
    (∀ slot ∈ s.factory.slots.out, s.holdsSlot slot = true)
      ∧ ∀ permit ∈ s.factory.overlaps.out, s.holdsPermit permit = true := by
  refine run.invariant (I := fun s => (∀ slot ∈ s.factory.slots.out, s.holdsSlot slot = true)
      ∧ ∀ permit ∈ s.factory.overlaps.out, s.holdsPermit permit = true) ?_ ?_
  · simp [new, SlotPool.empty]
  · intro before event after _ hstep
    obtain ⟨unsettled, -, rfl⟩ := Option.map_eq_some_iff.mp hstep
    exact ⟨fun slot hslot => (Semaphore.mem_retain.mp hslot).2,
      fun permit hpermit => (Semaphore.mem_retain.mp hpermit).2⟩

/-- The player has no active track, and its operation holds neither slot nor permit. -/
def Quiet (player : SongbirdPlayback) : Prop :=
  player.active = none ∧
    (player.phase = .idle ∨ player.phase = .acquiringSlot ∨ player.phase = .removing
      ∨ player.phase = .dropped)

theorem Quiet.holds_nothing (h : Quiet player) :
    player.processSlots = [] ∧ player.replacementPermits = [] := by
  obtain ⟨call, active, phase⟩ := player
  obtain ⟨rfl, hphase⟩ := h
  rcases hphase with rfl | rfl | rfl | rfl <;> exact ⟨rfl, rfl⟩

/-- What the factory's limits promise at any moment. -/
structure WithinBudget (s : DecoderBudget maximumProcesses) : Prop where
  alive : s.factory.workers.length ≤ maximumProcesses + 1
  overlapping : (s.factory.workers.filter s.factory.Overlapping).length ≤ 1
  /-- Without the overlapping one, no two decoders run under one slot. -/
  stable : ∀ w ∈ s.factory.workers, ∀ w' ∈ s.factory.workers, ¬ s.factory.Overlapping w →
    ¬ s.factory.Overlapping w' → w.slot = w'.slot → w = w'
  /-- A slot does not come back before the decoders that run under it are gone. -/
  slot_out : ∀ w ∈ s.factory.workers, w.slot ∈ s.factory.slots.out
  slots : s.factory.slots.out.length ≤ maximumProcesses
  /-- Nothing is lost. -/
  returned : (∀ player ∈ s.players, Quiet player) → s.factory.workers = [] →
    s.factory.slots.out = [] ∧ s.factory.overlaps.out = []

/-- The limits hold at every moment of every run. -/
theorem budget_kept {taken : List (Taken (DecoderBudget maximumProcesses) BudgetEvent)}
    (run : BudgetRun maximumProcesses taken s) : s.WithinBudget := by
  have hworkers := (invariant_of_run run).sound.workers
  obtain ⟨hslots, hpermits⟩ := held_of_run run
  refine ⟨hworkers.length_le, hworkers.overlapping_le, hworkers.stable_unique, hworkers.slot_out,
    s.factory.slots.length_le, fun hquiet hgone => ⟨?_, ?_⟩⟩
  · refine List.eq_nil_iff_forall_not_mem.mpr fun slot hslot => ?_
    have hheld := hslots slot hslot
    simp only [holdsSlot, hgone, List.any_nil, Bool.false_or, List.any_eq_true] at hheld
    obtain ⟨player, hplayer, hcontains⟩ := hheld
    simp [(hquiet player hplayer).holds_nothing.1] at hcontains
  · refine List.eq_nil_iff_forall_not_mem.mpr fun permit hpermit => ?_
    have hheld := hpermits permit hpermit
    simp only [holdsPermit, hgone, List.any_nil, Bool.false_or, List.any_eq_true] at hheld
    obtain ⟨player, hplayer, hcontains⟩ := hheld
    simp [(hquiet player hplayer).holds_nothing.2] at hcontains

/-- A player that plays, and seeks while its decoder runs. -/
def seeking : List BudgetEvent :=
  [.created, .player 0 .connected, .player 0 .play, .player 0 .slotAcquired, .player 0 .spawned,
    .player 0 .workerStarted, .player 0 .installed, .player 0 .seek, .player 0 .permitAcquired,
    .player 0 .spawned]

/-- Both limits are reached: two decoders run, with one slot. -/
theorem budget_kept_seeking : ∃ taken s, BudgetRun 1 taken s ∧ s.factory.workers.length = 1 + 1
    ∧ s.WithinBudget := by
  have hlength : (replay? DecoderBudget.step (new 1) seeking).map (·.2.factory.workers.length)
      = some 2 := by decide
  obtain ⟨⟨taken, s⟩, hreplay, hlength⟩ := Option.map_eq_some_iff.mp hlength
  have run : BudgetRun 1 taken s := run_replay? hreplay
  exact ⟨taken, s, run, hlength, budget_kept run⟩

end DecoderBudget
end PepeAudio.Pipeline
