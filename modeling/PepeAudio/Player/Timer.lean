import PepeAudio.Player.Ports

/-!
# The idle timer

Arming and cancelling both move to a new generation, so that an expiration that
is already in the mailbox no longer names the current one.
-/
namespace PepeAudio

structure IdleTimer where
  generation : IdleGeneration
  /-- The generation the sleeping task will send when it wakes up. -/
  task : Option IdleGeneration
  active : Bool
  deriving DecidableEq, Repr

namespace IdleTimer

def new : IdleTimer := ⟨⟨0⟩, none, false⟩

/-- Abort the sleeping task and move on; an exhausted timer is left stopped. -/
def invalidate (timer : IdleTimer) : Except PlayerError Unit × IdleTimer :=
  let timer := { timer with task := none, active := false }
  match timer.generation.next with
  | some generation => (.ok (), { timer with generation := generation })
  | none => (.error .idleGenerationExhausted, timer)

def arm (timer : IdleTimer) : Except PlayerError IdleGeneration × IdleTimer :=
  match timer.invalidate with
  | (.ok (), timer) =>
    (.ok timer.generation, { timer with task := some timer.generation, active := true })
  | (.error error, timer) => (.error error, timer)

def cancel (timer : IdleTimer) : Except PlayerError IdleGeneration × IdleTimer :=
  match timer.invalidate with
  | (.ok (), timer) => (.ok timer.generation, timer)
  | (.error error, timer) => (.error error, timer)

def markFired (timer : IdleTimer) (generation : IdleGeneration) : IdleTimer :=
  if generation = timer.generation then { timer with task := none, active := false } else timer

/-- What `finish_change` does to the timer when a change is committed. -/
def reconciled (wasIdle isIdle : Bool) (timer : IdleTimer) : Except PlayerError Unit × IdleTimer :=
  if !wasIdle && isIdle then (timer.arm.1.map fun _ => (), timer.arm.2)
  else if wasIdle && !isIdle && timer.active then (timer.cancel.1.map fun _ => (), timer.cancel.2)
  else (.ok (), timer)

theorem arm_eq {timer : IdleTimer} {generation : IdleGeneration}
    (h : timer.generation.next = some generation) :
    timer.arm = (.ok generation, ⟨generation, some generation, true⟩) := by
  simp [arm, invalidate, h]

theorem cancel_eq {timer : IdleTimer} {generation : IdleGeneration}
    (h : timer.generation.next = some generation) :
    timer.cancel = (.ok generation, ⟨generation, none, false⟩) := by
  simp [cancel, invalidate, h]

/-- With a generation left, reconciling cannot fail. -/
theorem reconciled_ok {wasIdle isIdle : Bool} {timer : IdleTimer}
    (hnext : timer.generation.next.isSome = true) :
    (timer.reconciled wasIdle isIdle).1 = .ok () := by
  obtain ⟨generation, hg⟩ := Option.isSome_iff_exists.mp hnext
  unfold reconciled
  split_ifs <;> simp [arm_eq hg, cancel_eq hg, Except.map]

end IdleTimer

end PepeAudio
