import Mathlib.Data.List.Basic
import Mathlib.Data.List.Perm.Basic

/-!
# A pool of tasks

Tasks are started in their order and finish in any order. The pool remembers which tasks wait,
run and have finished, the latter in the order in which they finished.
-/
namespace PepeAudio

structure TaskPool (α : Type*) where
  remaining : List α
  inFlight : List α
  finished : List α
  deriving DecidableEq, Repr

namespace TaskPool

variable {α : Type*}

/-- All tasks wait. -/
def ofTasks (tasks : List α) : TaskPool α := ⟨tasks, [], []⟩

/-- Start the next task, if one waits. -/
def launch (pool : TaskPool α) : TaskPool α :=
  match pool.remaining with
  | [] => pool
  | task :: rest => { pool with remaining := rest, inFlight := pool.inFlight ++ [task] }

/-- Start up to `k` tasks. -/
def fill : ℕ → TaskPool α → TaskPool α
  | 0, pool => pool
  | k + 1, pool => fill k pool.launch

/-- The task at a position among those in flight finishes. -/
def complete (pool : TaskPool α) (position : ℕ) : Option (α × TaskPool α) :=
  match pool.inFlight[position]? with
  | none => none
  | some task => some (task, { pool with
      inFlight := pool.inFlight.eraseIdx position
      finished := pool.finished ++ [task] })

/-- The tasks that are in flight or have finished are the first of `tasks`. -/
def Runs (tasks : List α) (pool : TaskPool α) : Prop :=
  ∃ started, tasks = started ++ pool.remaining
    ∧ (pool.finished ++ pool.inFlight).Perm started

/-- As many tasks are in flight as may be, unless none waits. -/
def Fed (limit : ℕ) (pool : TaskPool α) : Prop :=
  pool.inFlight.length = limit ∨ pool.remaining = []

variable {tasks : List α} {pool pool' : TaskPool α} {limit position : ℕ} {task : α}

theorem runs_ofTasks (tasks : List α) : Runs tasks (ofTasks tasks) :=
  ⟨[], rfl, List.Perm.refl _⟩

@[simp] theorem launch_finished (pool : TaskPool α) : pool.launch.finished = pool.finished := by
  unfold launch
  split <;> rfl

theorem launch_nil (h : pool.remaining = []) : pool.launch = pool := by
  simp [launch, h]

theorem launch_cons {rest : List α} (h : pool.remaining = task :: rest) :
    pool.launch = ⟨rest, pool.inFlight ++ [task], pool.finished⟩ := by
  simp [launch, h]

theorem Runs.launch (h : Runs tasks pool) : Runs tasks pool.launch := by
  obtain ⟨started, htasks, hperm⟩ := h
  cases hremaining : pool.remaining with
  | nil =>
    rw [launch_nil hremaining]
    exact ⟨started, htasks, hperm⟩
  | cons task rest =>
    rw [launch_cons hremaining]
    refine ⟨started ++ [task], ?_, ?_⟩
    · simp [htasks, hremaining]
    · simpa using hperm.append_right [task]

theorem launch_inFlight_le (pool : TaskPool α) :
    pool.launch.inFlight.length ≤ pool.inFlight.length + 1 := by
  cases hremaining : pool.remaining with
  | nil => simp [launch_nil hremaining]
  | cons task rest => simp [launch_cons hremaining]

/-- One place that has become free is taken again. -/
theorem fed_launch (h : pool.inFlight.length + 1 = limit ∨ pool.remaining = []) :
    Fed limit pool.launch := by
  cases hremaining : pool.remaining with
  | nil =>
    rw [launch_nil hremaining]
    exact .inr hremaining
  | cons task rest =>
    rw [launch_cons hremaining]
    rcases h with h | h
    · exact .inl (by simpa using h)
    · rw [hremaining] at h
      contradiction

theorem Runs.fill (h : Runs tasks pool) (k : ℕ) : Runs tasks (pool.fill k) := by
  induction k generalizing pool with
  | zero => exact h
  | succ k ih => exact ih h.launch

theorem fill_inFlight_le (k : ℕ) (pool : TaskPool α) :
    (pool.fill k).inFlight.length ≤ pool.inFlight.length + k := by
  induction k generalizing pool with
  | zero => exact Nat.le_refl _
  | succ k ih =>
    have hrest := ih pool.launch
    have hone := launch_inFlight_le pool
    simp only [fill]
    omega

theorem fill_nil (h : pool.remaining = []) (k : ℕ) : pool.fill k = pool := by
  induction k with
  | zero => rfl
  | succ k ih => rw [fill, launch_nil h, ih]

@[simp] theorem fill_finished (k : ℕ) (pool : TaskPool α) :
    (pool.fill k).finished = pool.finished := by
  induction k generalizing pool with
  | zero => rfl
  | succ k ih => simp [fill, ih]

theorem fed_fill (k : ℕ) (pool : TaskPool α) :
    Fed (pool.inFlight.length + k) (pool.fill k) := by
  induction k generalizing pool with
  | zero => exact .inl rfl
  | succ k ih =>
    cases hremaining : pool.remaining with
    | nil =>
      rw [fill_nil hremaining]
      exact .inr hremaining
    | cons task rest =>
      have hrest := ih pool.launch
      rw [launch_cons hremaining] at hrest
      rw [fill, launch_cons hremaining]
      simpa [Nat.add_assoc, Nat.add_comm 1] using hrest

theorem complete_eq (h : pool.complete position = some (task, pool')) :
    pool.inFlight[position]? = some task ∧ pool' = { pool with
      inFlight := pool.inFlight.eraseIdx position
      finished := pool.finished ++ [task] } := by
  unfold complete at h
  split at h
  · contradiction
  · next other hother =>
    obtain ⟨rfl, rfl⟩ := Prod.mk.inj (Option.some.inj h)
    exact ⟨hother, rfl⟩

theorem complete_length (h : pool.complete position = some (task, pool')) :
    pool'.inFlight.length + 1 = pool.inFlight.length := by
  obtain ⟨htask, rfl⟩ := complete_eq h
  obtain ⟨hlt, -⟩ := List.getElem?_eq_some_iff.mp htask
  rw [List.length_eraseIdx_of_lt hlt]
  omega

theorem Runs.complete (h : Runs tasks pool)
    (hcomplete : pool.complete position = some (task, pool')) : Runs tasks pool' := by
  obtain ⟨started, htasks, hperm⟩ := h
  obtain ⟨htask, rfl⟩ := complete_eq hcomplete
  obtain ⟨hlt, rfl⟩ := List.getElem?_eq_some_iff.mp htask
  have hmoved := List.getElem_cons_eraseIdx_perm hlt
  refine ⟨started, htasks, ?_⟩
  have hregroup : (pool.finished ++ [pool.inFlight[position]]) ++ pool.inFlight.eraseIdx position
      = pool.finished ++ pool.inFlight[position] :: pool.inFlight.eraseIdx position := by simp
  rw [hregroup]
  exact (hmoved.append_left _).trans hperm

/-- A pool that has run dry while it was fed has finished every task. -/
theorem Runs.finished_perm (h : Runs tasks pool) (hfed : Fed limit pool) (hlimit : 0 < limit)
    (hdone : pool.inFlight = []) : pool.finished.Perm tasks := by
  obtain ⟨started, htasks, hperm⟩ := h
  have hremaining : pool.remaining = [] := by
    rcases hfed with hfull | hremaining
    · rw [hdone, List.length_nil] at hfull
      omega
    · exact hremaining
  rw [hdone, List.append_nil] at hperm
  rw [htasks, hremaining, List.append_nil]
  exact hperm

end TaskPool

end PepeAudio
