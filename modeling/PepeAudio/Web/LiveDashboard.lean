import PepeAudio.Lib.Run

/-!
# The live dashboard

Two tasks put snapshots of the selected guild on display: the one that follows
the event stream, and the one that waits until a command shows its effect. Both
read the same store, at times of their own, and an answer may be on its way for
as long as it likes. A snapshot is only its revision here.
-/
namespace PepeAudio

inductive SseFrame where
  /-- A frame without data. -/
  | comment
  /-- A frame that asks for a resync, of an unknown event or with a payload that is not valid. -/
  | invalid
  | snapshot (revision : ℕ)
  | player (revision : ℕ)
  deriving DecidableEq

inductive PlayerSseAction where
  | ignore
  | resync
  | snapshot (revision : ℕ)
  deriving DecidableEq

def interpretPlayerSseFrame (frame : SseFrame) (currentRevision : ℕ) : PlayerSseAction :=
  match frame with
  | .comment => .ignore
  | .invalid => .resync
  | .snapshot revision =>
    if revision ≤ currentRevision then .ignore else .snapshot revision
  | .player revision =>
    if revision ≤ currentRevision then .ignore
    else if revision ≠ currentRevision + 1 then .resync
    else .snapshot revision

theorem interpretPlayerSseFrame_newer {frame : SseFrame} {currentRevision revision : ℕ}
    (h : interpretPlayerSseFrame frame currentRevision = .snapshot revision) :
    currentRevision < revision := by
  unfold interpretPlayerSseFrame at h
  split at h
  · contradiction
  · contradiction
  · split at h
    · contradiction
    · obtain rfl := PlayerSseAction.snapshot.inj h
      omega
  · split at h
    · contradiction
    · split at h
      · contradiction
      · obtain rfl := PlayerSseAction.snapshot.inj h
        omega

/-- The revision that a frame carries. -/
def SseFrame.revision : SseFrame → Option ℕ
  | .comment | .invalid => none
  | .snapshot revision | .player revision => some revision

theorem interpretPlayerSseFrame_revision {frame : SseFrame} {currentRevision revision : ℕ}
    (h : interpretPlayerSseFrame frame currentRevision = .snapshot revision) :
    frame.revision = some revision := by
  unfold interpretPlayerSseFrame at h
  split at h
  · contradiction
  · contradiction
  · split at h
    · contradiction
    · exact congrArg some (PlayerSseAction.snapshot.inj h)
  · split at h
    · contradiction
    · split at h
      · contradiction
      · exact congrArg some (PlayerSseAction.snapshot.inj h)

inductive StreamPhase where
  /-- The first fetch is on its way to the store. -/
  | requesting
  /-- The store has answered. -/
  | answered (revision : ℕ)
  | streaming (currentRevision : ℕ) (frames : List SseFrame)
  | reconnecting
  deriving DecidableEq

/-- A call of `maintainPlayerEventStream`. -/
structure StreamTask where
  lastRevision : Option ℕ
  phase : StreamPhase
  deriving DecidableEq

inductive StreamEvent where
  | serve
  | receive
  /-- The server sends a frame. -/
  | push (frame : SseFrame)
  | read
  /-- A fetch fails, or the stream ends. -/
  | fail
  | reconnect
  deriving DecidableEq

namespace StreamTask

def start : StreamTask := ⟨none, .requesting⟩

/-- What happens to the task, and the revision it puts on display. -/
def step (stored : ℕ) (task : StreamTask) : StreamEvent → Option ℕ × StreamTask
  | .serve =>
    match task.phase with
    | .requesting => (none, { task with phase := .answered stored })
    | _ => (none, task)
  | .receive =>
    match task.phase with
    | .answered fresh =>
      if task.lastRevision.any fun lastRevision => fresh < lastRevision then
        -- "Player snapshot revision moved backwards"
        (none, { task with phase := .reconnecting })
      else (some fresh, ⟨some fresh, .streaming fresh []⟩)
    | _ => (none, task)
  | .push frame =>
    match task.phase with
    | .streaming currentRevision frames =>
      -- A frame carries a snapshot that has been in the store.
      if frame.revision.all fun revision => revision ≤ stored then
        (none, { task with phase := .streaming currentRevision (frames ++ [frame]) })
      else (none, task)
    | _ => (none, task)
  | .read =>
    match task.phase with
    | .streaming currentRevision (frame :: frames) =>
      match interpretPlayerSseFrame frame currentRevision with
      | .ignore => (none, { task with phase := .streaming currentRevision frames })
      | .resync => (none, { task with phase := .reconnecting })
      | .snapshot revision => (some revision, ⟨some revision, .streaming revision frames⟩)
    | _ => (none, task)
  | .fail => (none, { task with phase := .reconnecting })
  | .reconnect =>
    match task.phase with
    | .reconnecting => (none, { task with phase := .requesting })
    | _ => (none, task)

end StreamTask

/-- A call of `run`, with the loops of `waitForCommandResult` and `waitForSnapshotRevision`. -/
inductive CommandTask where
  | idle
  | sending (expectedRevision : ℕ)
  | resulting
  | requesting (targetRevision : ℕ)
  | answered (targetRevision revision : ℕ)
  | waiting (targetRevision : ℕ)
  deriving DecidableEq

inductive CommandTaskEvent where
  | run
  | accepted
  | applied (resultingRevision : ℕ)
  | serve
  | receive
  | retry
  /-- The command is not applied, a call fails, a deadline passes or the task is invalidated. -/
  | fail
  deriving DecidableEq

namespace CommandTask

/-- What happens to the task, and the revision it puts on display. -/
def step (stored : ℕ) (snapshot : Option ℕ) (task : CommandTask) :
    CommandTaskEvent → Option ℕ × CommandTask
  | .run =>
    match task, snapshot with
    | .idle, some revision => (none, .sending revision)
    | _, _ => (none, task)
  | .accepted =>
    match task with
    | .sending _ => (none, .resulting)
    | _ => (none, task)
  | .applied resultingRevision =>
    match task with
    | .resulting => (none, .requesting resultingRevision)
    | _ => (none, task)
  | .serve =>
    match task with
    | .requesting targetRevision => (none, .answered targetRevision stored)
    | _ => (none, task)
  | .receive =>
    match task with
    | .answered targetRevision revision =>
      if targetRevision ≤ revision then (some revision, .idle)
      else (none, .waiting targetRevision)
    | _ => (none, task)
  | .retry =>
    match task with
    | .waiting targetRevision => (none, .requesting targetRevision)
    | _ => (none, task)
  | .fail => (none, .idle)

end CommandTask

structure LiveDashboard where
  /-- The revision in the store. -/
  stored : ℕ
  /-- The snapshot on display. -/
  snapshot : Option ℕ
  stream : StreamTask
  command : CommandTask
  /-- What each task has put on display last; no task reads it. -/
  shownByStream : Option ℕ
  shownByCommand : Option ℕ
  deriving DecidableEq

inductive DashboardEvent where
  | commit (revision : ℕ)
  | stream (event : StreamEvent)
  | command (event : CommandTaskEvent)
  /-- The effect that follows the stream runs again. -/
  | restart
  deriving DecidableEq

namespace LiveDashboard

def start (stored : ℕ) : LiveDashboard := ⟨stored, none, .start, .idle, none, none⟩

/-- What happens, and the revision that is put on display. -/
def step (dashboard : LiveDashboard) : DashboardEvent → Option ℕ × LiveDashboard
  | .commit revision => (none, { dashboard with stored := max dashboard.stored revision })
  | .stream event =>
    let (shown, stream) := dashboard.stream.step dashboard.stored event
    (shown, { dashboard with
      stream
      snapshot := shown <|> dashboard.snapshot
      shownByStream := shown <|> dashboard.shownByStream })
  | .command event =>
    let (shown, command) := dashboard.command.step dashboard.stored dashboard.snapshot event
    (shown, { dashboard with
      command
      snapshot := shown <|> dashboard.snapshot
      shownByCommand := shown <|> dashboard.shownByCommand })
  | .restart => (none, { dashboard with snapshot := none, stream := .start })

end LiveDashboard

end PepeAudio
