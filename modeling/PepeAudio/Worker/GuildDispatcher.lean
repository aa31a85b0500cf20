import PepeAudio.Core.Command
import PepeAudio.Lib.KeyedQueues
import PepeAudio.Lib.Run
import Mathlib.Data.Finset.Basic

/-!
# The guild dispatcher

Commands are queued by guild, and a task takes over everything a guild has
queued. The counters are natural numbers: every buffered command is held in
memory, so that the machine word never saturates.
-/
namespace PepeAudio

def MAX_CONCURRENT_GUILDS : ℕ := 32

/-- A spawned task: the commands it was given and those it has not started yet. -/
structure GuildTask where
  guildId : GuildId
  commands : List ReceivedCommand
  remaining : List ReceivedCommand
  deriving DecidableEq, Repr

/-- The commands of a guild that the tasks have not started yet. -/
def GuildTask.unstarted (tasks : List GuildTask) (guildId : GuildId) : List ReceivedCommand :=
  (tasks.filter fun task => task.guildId = guildId).flatMap GuildTask.remaining

/-- Why a task could not be joined. -/
inductive JoinError where
  | cancelled
  | panicked
  deriving DecidableEq, Repr

structure GuildDispatcher where
  bufferLimit : ℕ
  buffered : ℕ
  queues : KeyedQueues GuildId ReceivedCommand
  ready : List GuildId
  active : Finset GuildId
  tasks : List GuildTask

namespace GuildDispatcher

def new (bufferLimit : ℕ) : GuildDispatcher where
  bufferLimit := bufferLimit
  buffered := 0
  queues := ∅
  ready := []
  active := ∅
  tasks := []

/-- Take over what a guild has queued, unless it has a task already or nothing is queued. -/
def spawn (guildId : GuildId) (dispatcher : GuildDispatcher) : GuildDispatcher :=
  if guildId ∈ dispatcher.active then dispatcher
  else match dispatcher.queues.lookup guildId with
    | none => dispatcher
    | some commands =>
      let drained := { dispatcher with queues := dispatcher.queues.insert guildId [] }
      if commands.isEmpty then drained
      else
        { drained with
          active := insert guildId drained.active
          tasks := drained.tasks ++ [⟨guildId, commands, commands⟩] }

/-- The loop of `spawn_ready`; every round takes one entry from the ready list. -/
def spawnLoop : ℕ → GuildDispatcher → GuildDispatcher
  | 0, dispatcher => dispatcher
  | rounds + 1, dispatcher =>
    if dispatcher.tasks.length < MAX_CONCURRENT_GUILDS then
      match dispatcher.ready with
      | [] => dispatcher
      | guildId :: ready => spawnLoop rounds (spawn guildId { dispatcher with ready := ready })
    else dispatcher

def spawnReady (dispatcher : GuildDispatcher) : GuildDispatcher :=
  spawnLoop dispatcher.ready.length dispatcher

/-- One round of the loop of `enqueue`. -/
def push (dispatcher : GuildDispatcher) (command : ReceivedCommand) : GuildDispatcher :=
  let guildId := command.envelope.guildId
  let queue := dispatcher.queues.waiting guildId
  let needsReadyEntry : Bool := queue.isEmpty && guildId ∉ dispatcher.active
  { dispatcher with
    queues := dispatcher.queues.insert guildId (queue ++ [command])
    buffered := dispatcher.buffered + 1
    ready := if needsReadyEntry then dispatcher.ready ++ [guildId] else dispatcher.ready }

def enqueue (commands : List ReceivedCommand) (dispatcher : GuildDispatcher) : GuildDispatcher :=
  spawnReady (commands.foldl push dispatcher)

/-- What a completed task leaves to do: its guild is ready again if more was queued meanwhile. -/
def release (guildId : GuildId) (processed : ℕ) (dispatcher : GuildDispatcher) :
    GuildDispatcher :=
  let idle :=
    { dispatcher with
      active := dispatcher.active.erase guildId
      buffered := dispatcher.buffered - processed }
  if (idle.queues.lookup guildId).any fun queue => !queue.isEmpty then
    { idle with ready := idle.ready ++ [guildId] }
  else { idle with queues := idle.queues.erase guildId }

/-- Account for what the join of a task returned; `false` stops the dispatcher. -/
def finish (completed : Option (Except JoinError (GuildId × ℕ))) (dispatcher : GuildDispatcher) :
    Bool × GuildDispatcher :=
  match completed with
  | none => (false, dispatcher)
  | some (.error _) => (false, dispatcher)
  | some (.ok (guildId, processed)) => (true, spawnReady (release guildId processed dispatcher))

def hasActive (dispatcher : GuildDispatcher) : Bool := !dispatcher.tasks.isEmpty

/-- The commands tasks were given. -/
def inFlight (dispatcher : GuildDispatcher) : ℕ :=
  (dispatcher.tasks.map fun task => task.commands.length).sum

end GuildDispatcher

/-- The dispatcher with all commands enqueued and started so far, oldest first. -/
structure Dispatching where
  dispatcher : GuildDispatcher
  enqueued : List ReceivedCommand
  started : List ReceivedCommand

inductive DispatchEvent where
  | enqueue (commands : List ReceivedCommand)
  | started (command : ReceivedCommand)
  | completed (guildId : GuildId)
  deriving DecidableEq, Repr

namespace Dispatching

def new (bufferLimit : ℕ) : Dispatching := ⟨GuildDispatcher.new bufferLimit, [], []⟩

/-- Batches arrive, each task works through its commands in order, and tasks that are done are
joined in any order. -/
inductive Next (s : Dispatching) : DispatchEvent → Dispatching → Prop
  | enqueue (commands : List ReceivedCommand) :
      Next s (.enqueue commands)
        { s with
          dispatcher := s.dispatcher.enqueue commands
          enqueued := s.enqueued ++ commands }
  | started (earlier later : List GuildTask) (task : GuildTask) (command : ReceivedCommand)
      (remaining : List ReceivedCommand)
      (htasks : s.dispatcher.tasks = earlier ++ task :: later)
      (hremaining : task.remaining = command :: remaining) :
      Next s (.started command)
        { s with
          dispatcher := { s.dispatcher with
            tasks := earlier ++ { task with remaining := remaining } :: later }
          started := s.started ++ [command] }
  | completed (earlier later : List GuildTask) (task : GuildTask)
      (htasks : s.dispatcher.tasks = earlier ++ task :: later) (hdone : task.remaining = []) :
      Next s (.completed task.guildId)
        { s with
          dispatcher := (GuildDispatcher.finish (some (.ok (task.guildId, task.commands.length)))
            { s.dispatcher with tasks := earlier ++ later }).2 }

end Dispatching

end PepeAudio
