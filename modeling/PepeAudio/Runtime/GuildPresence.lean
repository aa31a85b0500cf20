import PepeAudio.Core.Identifier
import PepeAudio.Lib.HashSet
import PepeAudio.Lib.Run

/-!
# Presence leases of guilds

One actor owns the guilds the bot wants to be seen in. A command writes to the
store at once; a heartbeat refreshes all leases in a task of its own, which runs
beside the actor on a copy of the set and is aborted before anything is cleared.
Each step below is a stretch between two awaits of the actor or of the task. The set
is gone through in no order that can be relied on, so the event carries it.
-/
namespace PepeAudio

def HEARTBEAT_CONCURRENCY : ℕ := 128

def CLEAR_CONCURRENCY : ℕ := 32

inductive PresenceCommand where
  | present (guildId : GuildId)
  | absent (guildId : GuildId)
  | shutdown
  deriving DecidableEq

inductive RuntimeError where
  | presenceStore
  | presenceTimedOut (operation : String)
  deriving DecidableEq

/-- How a call to the store ends. -/
inductive StoreAnswer where
  | done
  | failed
  | timedOut
  deriving DecidableEq

def StoreAnswer.result (operation : String) : StoreAnswer → Except RuntimeError Unit
  | .done => .ok ()
  | .failed => .error .presenceStore
  | .timedOut => .error (.presenceTimedOut operation)

/-- A round of `refresh_all`: guilds whose turn has not come, and those whose call is running. -/
structure HeartbeatRound where
  waiting : List GuildId
  running : List GuildId
  deriving DecidableEq

/-- Why the actor stops the heartbeat. -/
inductive StopReason where
  | absent (guildId : GuildId)
  | shutdown
  | closed
  deriving DecidableEq

/-- What the actor is waiting for. -/
inductive PresencePhase where
  | listening
  | refreshing (guildId : GuildId)
  | stopping (reason : StopReason)
  | clearing (guildId : GuildId)
  | clearingAll (waiting running : List GuildId) (replies : Bool)
  | stopped
  deriving DecidableEq

structure GuildPresence where
  guilds : HashSet GuildId
  heartbeat : Option HeartbeatRound
  phase : PresencePhase

inductive PresenceEvent where
  /-- What the channel delivers; `none` once it is closed. -/
  | command (command : Option PresenceCommand)
  /-- The call to the store that a command made ends. -/
  | answer (answer : StoreAnswer)
  /-- A round starts with the guilds in this order. -/
  | tick (order : List GuildId)
  /-- The round makes its next call. -/
  | issue
  | complete (index : ℕ) (answer : StoreAnswer)
  | join
  /-- The heartbeat has stopped; if all leases are cleared, then in this order. -/
  | halted (order : List GuildId)
  | issueClear
  | completeClear (index : ℕ) (answer : StoreAnswer)
  | joinClear
  deriving DecidableEq

inductive PresenceEffect where
  | refresh (guildId : GuildId)
  | clear (guildId : GuildId)
  | presentReply (guildId : GuildId) (result : Except RuntimeError Unit)
  | absentReply (guildId : GuildId) (result : Except RuntimeError Unit)
  | shutdownReply
  deriving DecidableEq

namespace GuildPresence

def start : GuildPresence := ⟨∅, none, .listening⟩

def handle (presence : GuildPresence) :
    Option PresenceCommand → List PresenceEffect × GuildPresence
  | some (.present guildId) =>
    ([.refresh guildId],
      { presence with guilds := presence.guilds.insert guildId, phase := .refreshing guildId })
  | some (.absent guildId) =>
    ([], { presence with
      guilds := presence.guilds.remove guildId
      phase := .stopping (.absent guildId) })
  | some .shutdown => ([], { presence with phase := .stopping .shutdown })
  | none => ([], { presence with phase := .stopping .closed })

def clearAll (presence : GuildPresence) (order : List GuildId) (replies : Bool) :
    List PresenceEffect × GuildPresence :=
  if order.Perm presence.guilds.elems then
    ([], { presence with heartbeat := none, phase := .clearingAll order [] replies })
  else ([], presence)

/-- What comes after `stop_heartbeat`. -/
def halted (presence : GuildPresence) (order : List GuildId) :
    StopReason → List PresenceEffect × GuildPresence
  | .absent guildId =>
    ([.clear guildId], { presence with heartbeat := none, phase := .clearing guildId })
  | .shutdown => presence.clearAll order true
  | .closed => presence.clearAll order false

def step (presence : GuildPresence) : PresenceEvent → List PresenceEffect × GuildPresence
  | .command command =>
    match presence.phase with
    | .listening => presence.handle command
    | _ => ([], presence)
  | .answer answer =>
    match presence.phase with
    | .refreshing guildId =>
      ([.presentReply guildId (answer.result "present")], { presence with phase := .listening })
    | .clearing guildId =>
      ([.absentReply guildId (answer.result "absent")], { presence with phase := .listening })
    | _ => ([], presence)
  | .tick order =>
    match presence.phase, presence.heartbeat with
    | .listening, none =>
      if order.Perm presence.guilds.elems then
        ([], { presence with heartbeat := some ⟨order, []⟩ })
      else ([], presence)
    | _, _ => ([], presence)
  | .issue =>
    match presence.heartbeat with
    | some ⟨guildId :: waiting, running⟩ =>
      if running.length < HEARTBEAT_CONCURRENCY then
        ([.refresh guildId],
          { presence with heartbeat := some ⟨waiting, running ++ [guildId]⟩ })
      else ([], presence)
    | _ => ([], presence)
  | .complete index _ =>
    match presence.heartbeat with
    | some round =>
      ([], { presence with
        heartbeat := some { round with running := round.running.eraseIdx index } })
    | none => ([], presence)
  | .join =>
    match presence.phase, presence.heartbeat with
    | .listening, some ⟨[], []⟩ => ([], { presence with heartbeat := none })
    | _, _ => ([], presence)
  | .halted order =>
    match presence.phase with
    | .stopping reason => presence.halted order reason
    | _ => ([], presence)
  | .issueClear =>
    match presence.phase with
    | .clearingAll (guildId :: waiting) running replies =>
      if running.length < CLEAR_CONCURRENCY then
        ([.clear guildId],
          { presence with phase := .clearingAll waiting (running ++ [guildId]) replies })
      else ([], presence)
    | _ => ([], presence)
  | .completeClear index _ =>
    match presence.phase with
    | .clearingAll waiting running replies =>
      ([], { presence with phase := .clearingAll waiting (running.eraseIdx index) replies })
    | _ => ([], presence)
  | .joinClear =>
    match presence.phase with
    | .clearingAll [] [] replies =>
      (if replies then [.shutdownReply] else [], { presence with phase := .stopped })
    | _ => ([], presence)

/-- The steps that have an effect or change the state, with their conditions. -/
inductive Move (presence : GuildPresence) :
    PresenceEvent → List PresenceEffect → GuildPresence → Prop
  | idle (event : PresenceEvent) : Move presence event [] presence
  | present (guildId : GuildId) : presence.phase = .listening →
      Move presence (.command (some (.present guildId))) [.refresh guildId]
        { presence with guilds := presence.guilds.insert guildId, phase := .refreshing guildId }
  | absent (guildId : GuildId) : presence.phase = .listening →
      Move presence (.command (some (.absent guildId))) []
        { presence with
          guilds := presence.guilds.remove guildId
          phase := .stopping (.absent guildId) }
  | shutdown : presence.phase = .listening →
      Move presence (.command (some .shutdown)) [] { presence with phase := .stopping .shutdown }
  | closed : presence.phase = .listening →
      Move presence (.command none) [] { presence with phase := .stopping .closed }
  | refreshed (guildId : GuildId) (answer : StoreAnswer) : presence.phase = .refreshing guildId →
      Move presence (.answer answer) [.presentReply guildId (answer.result "present")]
        { presence with phase := .listening }
  | cleared (guildId : GuildId) (answer : StoreAnswer) : presence.phase = .clearing guildId →
      Move presence (.answer answer) [.absentReply guildId (answer.result "absent")]
        { presence with phase := .listening }
  | started (order : List GuildId) : presence.phase = .listening → presence.heartbeat = none →
      order.Perm presence.guilds.elems →
      Move presence (.tick order) [] { presence with heartbeat := some ⟨order, []⟩ }
  | issued (guildId : GuildId) (waiting running : List GuildId) :
      presence.heartbeat = some ⟨guildId :: waiting, running⟩ →
      Move presence .issue [.refresh guildId]
        { presence with heartbeat := some ⟨waiting, running ++ [guildId]⟩ }
  | completed (index : ℕ) (answer : StoreAnswer) (round : HeartbeatRound) :
      presence.heartbeat = some round →
      Move presence (.complete index answer) []
        { presence with heartbeat := some { round with running := round.running.eraseIdx index } }
  | joined : presence.phase = .listening → presence.heartbeat = some ⟨[], []⟩ →
      Move presence .join [] { presence with heartbeat := none }
  | clears (guildId : GuildId) (order : List GuildId) :
      presence.phase = .stopping (.absent guildId) →
      Move presence (.halted order) [.clear guildId]
        { presence with heartbeat := none, phase := .clearing guildId }
  | clearsAll (reason : StopReason) (order : List GuildId) (replies : Bool) :
      presence.phase = .stopping reason →
      Move presence (.halted order) []
        { presence with heartbeat := none, phase := .clearingAll order [] replies }
  /-- A step of `clear_all`, which refreshes nothing and replies to no guild. -/
  | clearing (event : PresenceEvent) (effects : List PresenceEffect)
      (waiting running : List GuildId)
      (replies : Bool) (phase : PresencePhase) :
      presence.phase = .clearingAll waiting running replies →
      (∀ guildId, .refresh guildId ∉ effects ∧ ∀ result, .absentReply guildId result ∉ effects) →
      (phase = .stopped ∨ ∃ waiting running, phase = .clearingAll waiting running replies) →
      Move presence event effects { presence with phase }

theorem clearAll_moves {presence : GuildPresence} {reason : StopReason}
    (hphase : presence.phase = .stopping reason) (order : List GuildId) (replies : Bool) :
    Move presence (.halted order) (presence.clearAll order replies).1
      (presence.clearAll order replies).2 := by
  unfold clearAll
  split
  · exact .clearsAll reason order replies hphase
  · exact .idle _

theorem step_moves (presence : GuildPresence) (event : PresenceEvent) :
    Move presence event (presence.step event).1 (presence.step event).2 := by
  cases event with
  | command command =>
    simp only [step]
    split
    · next hphase =>
      match command with
      | some (.present guildId) => exact .present guildId hphase
      | some (.absent guildId) => exact .absent guildId hphase
      | some .shutdown => exact .shutdown hphase
      | none => exact .closed hphase
    · exact .idle _
  | answer answer =>
    simp only [step]
    split
    · next guildId hphase => exact .refreshed guildId answer hphase
    · next guildId hphase => exact .cleared guildId answer hphase
    · exact .idle _
  | tick order =>
    simp only [step]
    split
    · next hphase hround =>
      split
      · next hperm => exact .started order hphase hround hperm
      · exact .idle _
    · exact .idle _
  | issue =>
    simp only [step]
    split
    · next guildId waiting running hround =>
      split
      · exact .issued guildId waiting running hround
      · exact .idle _
    · exact .idle _
  | complete index answer =>
    simp only [step]
    split
    · next round hround => exact .completed index answer round hround
    · exact .idle _
  | join =>
    simp only [step]
    split
    · next hphase hround => exact .joined hphase hround
    · exact .idle _
  | halted order =>
    simp only [step]
    split
    · next reason hphase =>
      cases reason with
      | absent guildId => exact .clears guildId order hphase
      | shutdown => exact clearAll_moves hphase order true
      | closed => exact clearAll_moves hphase order false
    · exact .idle _
  | issueClear =>
    simp only [step]
    split
    · next guildId waiting running replies hphase =>
      split
      · exact .clearing _ _ _ _ replies _ hphase (by simp) (.inr ⟨_, _, rfl⟩)
      · exact .idle _
    · exact .idle _
  | completeClear index answer =>
    simp only [step]
    split
    · next waiting running replies hphase =>
      exact .clearing _ _ _ _ replies _ hphase (by simp) (.inr ⟨_, _, rfl⟩)
    · exact .idle _
  | joinClear =>
    simp only [step]
    split
    · next replies hphase =>
      exact .clearing _ _ _ _ replies _ hphase (by cases replies <;> simp) (.inl rfl)
    · exact .idle _

end GuildPresence

end PepeAudio
