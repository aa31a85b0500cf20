import PepeAudio.Bot.SiteBatch

/-!
# A batch keeps its order and loses nothing

The local variables of the loop are functions of the items that have finished, in the order in
which they have; the pool accounts for the items themselves.
-/
namespace PepeAudio.ProductionMedia

variable {I T : Type}

theorem map_fst_enumerate (items : List I) :
    (enumerate items).map (·.1) = List.range items.length :=
  List.map_fst_zip (by simp)

theorem length_enumerate (items : List I) : (enumerate items).length = items.length := by
  simp [enumerate]

theorem enumerate_increasing (items : List I) :
    (enumerate items).Pairwise fun a b => a.1 < b.1 := by
  rw [← List.pairwise_map (f := fun task : ℕ × I => task.1), map_fst_enumerate]
  exact List.pairwise_lt_range

section Results

variable (operation : ℕ → I → Except ResolveError T)

/-- The indexed track of an item that succeeds. -/
def success (task : ℕ × I) : Option (ℕ × T) :=
  (operation task.1 task.2).toOption.map fun track => (task.1, track)

def classified (task : ℕ × I) : Except ResolveError ItemOutcome :=
  classifyItem ((operation task.1 task.2).map fun _ => ())

/-- The error of an item that is skipped. -/
def skippedError (task : ℕ × I) : Option ResolveError :=
  match classified operation task with
  | .ok (.skipped error) => some error
  | _ => none

/-- The error of an item that ends the batch. -/
def fatalError (task : ℕ × I) : Option ResolveError :=
  match classified operation task with
  | .error error => some error
  | .ok _ => none

/-- The tracks of those that succeed. -/
def finishedTracks (tasks : List (ℕ × I)) : List T :=
  tasks.filterMap fun task => (operation task.1 task.2).toOption

/-- The tracks of the items that succeed, in the order of the items. -/
def successfulTracks (items : List I) : List T := finishedTracks operation (enumerate items)

/-- What a collection comes to when the items that were started have finished, in some order. -/
inductive Resolved (collection : CatalogCollection I) (cut : Bool) (finished : List (ℕ × I)) :
    Except ResolveError (ResolvedMediaBatch T) × List T → Prop
  /-- The first fatal error, with all finished tracks discarded. -/
  | fatal {error : ResolveError}
      (hfirst : (finished.filterMap (fatalError operation)).head? = some error) :
      Resolved collection cut finished (.error error, finishedTracks operation finished)
  | tracks (hnone : ∀ task ∈ enumerate collection.tracks, fatalError operation task = none)
      (hsome : successfulTracks operation collection.tracks ≠ []) :
      Resolved collection cut finished (.ok {
        tracks := successfulTracks operation collection.tracks
        sourceTitle := some collection.title
        sourceItemCount := collection.sourceItemCount
        skippedItems := min (collection.skippedItemCount + (collection.tracks.length -
          (successfulTracks operation collection.tracks).length)) USIZE_MAX
        truncated := collection.truncated || cut }, [])
  | nothing (hnone : ∀ task ∈ enumerate collection.tracks, fatalError operation task = none)
      (hempty : successfulTracks operation collection.tracks = []) :
      Resolved collection cut finished
        (.error ((finished.filterMap (skippedError operation)).head?.getD .unsupportedStream), [])

variable {operation} {task : ℕ × I}

theorem results_of_ok {track : T} (h : operation task.1 task.2 = .ok track) :
    success operation task = some (task.1, track) ∧ skippedError operation task = none
      ∧ fatalError operation task = none := by
  simp [success, skippedError, fatalError, classified, classifyItem, h, Except.map,
    Except.toOption]

theorem classifyItem_error (error : ResolveError) :
    classifyItem (.error error) = .ok (.skipped error)
      ∨ classifyItem (.error error) = .error error := by
  cases error <;> simp [classifyItem]

theorem results_of_error {error : ResolveError} (h : operation task.1 task.2 = .error error) :
    success operation task = none
      ∧ classified operation task = classifyItem (.error error) := by
  simp [success, classified, h, Except.map, Except.toOption]

/-- An item that is not fatal succeeds or is skipped. -/
theorem length_results {tasks : List (ℕ × I)}
    (h : ∀ task ∈ tasks, fatalError operation task = none) :
    (tasks.filterMap (success operation)).length
      + (tasks.filterMap (skippedError operation)).length = tasks.length := by
  induction tasks with
  | nil => rfl
  | cons task tasks ih =>
    have hrest := ih fun other hother => h other (List.mem_cons_of_mem _ hother)
    have hfatal := h task List.mem_cons_self
    cases hresult : operation task.1 task.2 with
    | ok track =>
      obtain ⟨hsuccess, hskipped, -⟩ := results_of_ok hresult
      simp only [List.filterMap_cons, hsuccess, hskipped, List.length_cons]
      omega
    | error error =>
      obtain ⟨hsuccess, hclassified⟩ := results_of_error hresult
      rcases classifyItem_error error with hkind | hkind
      · have hskipped : skippedError operation task = some error := by
          simp [skippedError, hclassified, hkind]
        simp only [List.filterMap_cons, hsuccess, hskipped, List.length_cons]
        omega
      · simp [fatalError, hclassified, hkind] at hfatal

end Results

variable {operation : ℕ → I → Except ResolveError T}

/-- What the loop has counted, found and registered of the items that have finished. -/
structure Accounts (operation : ℕ → I → Except ResolveError T) (finished : List (ℕ × I))
    (s : BatchState I T) : Prop where
  completed_eq : s.completed = finished.filterMap (success operation)
  skipped_eq :
    s.skippedItems = min (finished.filterMap (skippedError operation)).length USIZE_MAX
  firstSkipped_eq :
    s.firstSkippedError = (finished.filterMap (skippedError operation)).head?
  firstError_eq : s.firstError = (finished.filterMap (fatalError operation)).head?

/-- One more item is accounted for. -/
theorem Accounts.conclude {finished : List (ℕ × I)} {s : BatchState I T}
    (h : Accounts operation finished s) (task : ℕ × I) :
    Accounts operation (finished ++ [task])
      (s.conclude task.1 (operation task.1 task.2)) := by
  obtain ⟨hcompleted, hskipped, hfirstSkipped, hfirstError⟩ := h
  cases hresult : operation task.1 task.2 with
  | ok track =>
    obtain ⟨hsuccess, hskip, hfatal⟩ := results_of_ok hresult
    constructor
    · simp [BatchState.conclude, BatchState.settle, classifyItem, CompletedTracks.register,
        hsuccess, hcompleted]
    · simp [BatchState.conclude, BatchState.settle, classifyItem, hskip, hskipped]
    · simp [BatchState.conclude, BatchState.settle, classifyItem, hskip, hfirstSkipped]
    · simp [BatchState.conclude, BatchState.settle, classifyItem, hfatal, hfirstError]
  | error error =>
    obtain ⟨hsuccess, hclassified⟩ := results_of_error hresult
    rcases classifyItem_error error with hkind | hkind
    · have hskip : skippedError operation task = some error := by
        simp [skippedError, hclassified, hkind]
      have hfatal : fatalError operation task = none := by
        simp [fatalError, hclassified, hkind]
      constructor
      · simp [BatchState.conclude, BatchState.settle, hkind, hsuccess, hcompleted]
      · simp [BatchState.conclude, BatchState.settle, hkind, hskip, hskipped]
        omega
      · simp [BatchState.conclude, BatchState.settle, hkind, hskip, hfirstSkipped,
          List.head?_append]
      · simp [BatchState.conclude, BatchState.settle, hkind, hfatal, hfirstError]
    · have hskip : skippedError operation task = none := by
        simp [skippedError, hclassified, hkind]
      have hfatal : fatalError operation task = some error := by
        simp [fatalError, hclassified, hkind]
      constructor
      · simp [BatchState.conclude, BatchState.settle, hkind, hsuccess, hcompleted]
      · simp [BatchState.conclude, BatchState.settle, hkind, hskip, hskipped]
      · simp [BatchState.conclude, BatchState.settle, hkind, hskip, hfirstSkipped]
      · simp [BatchState.conclude, BatchState.settle, hkind, hfatal, hfirstError,
          List.head?_append]

theorem conclude_pool (s : BatchState I T) (index : ℕ) (result : Except ResolveError T) :
    (s.conclude index result).pool = s.pool := by
  unfold BatchState.conclude BatchState.settle
  split <;> split <;> rfl

/-- A turn takes one item out of flight, accounts for it and may start another one. -/
theorem turn_eq {s s' : BatchState I T} {position : ℕ} (h : s.turn operation position = some s') :
    ∃ task pool, s.pool.complete position = some (task, pool)
      ∧ s' = ({ s with pool := pool }.conclude task.1 (operation task.1 task.2)).admitNext := by
  unfold BatchState.turn at h
  split at h
  · contradiction
  · next index item pool hcomplete =>
    exact ⟨(index, item), pool, hcomplete, (Option.some.inj h).symm⟩

theorem Accounts.admitNext {finished : List (ℕ × I)} {s : BatchState I T}
    (h : Accounts operation finished s) : Accounts operation finished s.admitNext := by
  unfold BatchState.admitNext
  split
  · exact ⟨h.completed_eq, h.skipped_eq, h.firstSkipped_eq, h.firstError_eq⟩
  · exact h

/-- What holds whenever the loop awaits the next item. -/
structure BatchInv (operation : ℕ → I → Except ResolveError T) (items : List I)
    (s : BatchState I T) : Prop where
  runs : s.pool.Runs (enumerate items)
  bounded : s.pool.inFlight.length ≤ SITE_BATCH_CONCURRENCY
  fed : s.firstError = none → s.pool.Fed SITE_BATCH_CONCURRENCY
  accounts : Accounts operation s.pool.finished s

theorem batchInv_start (operation : ℕ → I → Except ResolveError T) (items : List I) :
    BatchInv operation items (BatchState.start items) where
  runs := (TaskPool.runs_ofTasks _).fill _
  bounded := by
    have hfill := TaskPool.fill_inFlight_le SITE_BATCH_CONCURRENCY
      (TaskPool.ofTasks (enumerate items))
    simpa [BatchState.start, TaskPool.ofTasks] using hfill
  fed := fun _ => by
    have hfill := TaskPool.fed_fill SITE_BATCH_CONCURRENCY (TaskPool.ofTasks (enumerate items))
    simpa [BatchState.start, TaskPool.ofTasks] using hfill
  accounts := by
    have hfinished : (BatchState.start items : BatchState I T).pool.finished = [] := by
      simp [BatchState.start, TaskPool.ofTasks]
    rw [hfinished]
    exact ⟨rfl, rfl, rfl, rfl⟩

/-- An error that has occurred stays. -/
theorem firstError_conclude {s : BatchState I T} {index : ℕ} {result : Except ResolveError T}
    (h : (s.conclude index result).firstError = none) : s.firstError = none := by
  unfold BatchState.conclude BatchState.settle at h
  split at h <;> split at h <;> simp_all

theorem batchInv_turn {items : List I} {s s' : BatchState I T} {position : ℕ}
    (h : BatchInv operation items s) (hturn : s.turn operation position = some s') :
    BatchInv operation items s' := by
  obtain ⟨task, pool, hcomplete, rfl⟩ := turn_eq hturn
  have hlength := TaskPool.complete_length hcomplete
  have hruns := h.runs.complete hcomplete
  have hbounded := h.bounded
  obtain ⟨-, hpool⟩ := TaskPool.complete_eq hcomplete
  have hfinished : pool.finished = s.pool.finished ++ [task] := by rw [hpool]
  have hremaining : pool.remaining = s.pool.remaining := by rw [hpool]
  have hbefore : Accounts operation s.pool.finished { s with pool := pool } :=
    ⟨h.accounts.completed_eq, h.accounts.skipped_eq, h.accounts.firstSkipped_eq,
      h.accounts.firstError_eq⟩
  have haccounts := (hbefore.conclude task).admitNext
  rw [← hfinished] at haccounts
  have hconcluded : (({ s with pool := pool } : BatchState I T).conclude task.1
      (operation task.1 task.2)).pool = pool := conclude_pool _ _ _
  have hearlier : (({ s with pool := pool } : BatchState I T).conclude task.1
      (operation task.1 task.2)).firstError = none → s.firstError = none :=
    fun hnone => firstError_conclude (s := { s with pool := pool }) hnone
  generalize ({ s with pool := pool } : BatchState I T).conclude task.1
    (operation task.1 task.2) = concluded at hconcluded hearlier haccounts ⊢
  by_cases herror : concluded.firstError = none
  · have hadmitted : concluded.admitNext = { concluded with pool := pool.launch } := by
      simp [BatchState.admitNext, herror, hconcluded]
    have hle := TaskPool.launch_inFlight_le pool
    rw [hadmitted] at haccounts ⊢
    refine ⟨hruns.launch, by simp only; omega, fun _ => ?_, by simpa using haccounts⟩
    apply TaskPool.fed_launch
    rcases h.fed (hearlier herror) with hfull | hdry
    · exact .inl (by omega)
    · exact .inr (hremaining.trans hdry)
  · have hkept : concluded.admitNext = concluded := by
      simp [BatchState.admitNext, herror]
    rw [hkept] at haccounts ⊢
    rw [← hconcluded] at hruns haccounts
    exact ⟨hruns, by rw [hconcluded]; omega, fun hnone => absurd hnone herror, haccounts⟩

theorem BatchRun.batchInv {items : List I} {taken : List (Taken (BatchState I T) ℕ)}
    {s : BatchState I T} (run : BatchRun operation items taken s) :
    BatchInv operation items s :=
  run.invariant (I := BatchInv operation items) (batchInv_start operation items)
    fun _ _ _ hinv hturn => batchInv_turn hinv hturn

/-- After an error a turn starts nothing and keeps the error. -/
theorem turn_after_error {s s' : BatchState I T} {position : ℕ} (herror : s.firstError ≠ none)
    (hturn : s.turn operation position = some s') :
    s'.firstError ≠ none ∧ s'.pool.remaining = s.pool.remaining := by
  obtain ⟨task, pool, hcomplete, rfl⟩ := turn_eq hturn
  obtain ⟨-, hpool⟩ := TaskPool.complete_eq hcomplete
  have hconcluded := conclude_pool { s with pool := pool } task.1 (operation task.1 task.2)
  have hstays : (({ s with pool := pool } : BatchState I T).conclude task.1
      (operation task.1 task.2)).firstError ≠ none :=
    fun hnone => herror (firstError_conclude (s := { s with pool := pool }) hnone)
  have hkept : (({ s with pool := pool } : BatchState I T).conclude task.1
      (operation task.1 task.2)).admitNext
      = ({ s with pool := pool } : BatchState I T).conclude task.1 (operation task.1 task.2) := by
    simp [BatchState.admitNext, hstays]
  rw [hkept]
  exact ⟨hstays, by rw [hconcluded, hpool]⟩

theorem success_key {task : ℕ × I} {indexed : ℕ × T}
    (h : success operation task = some indexed) : indexed.1 = task.1 := by
  obtain ⟨track, -, rfl⟩ := Option.map_eq_some_iff.mp h
  rfl

theorem successes_increasing (operation : ℕ → I → Except ResolveError T) (items : List I) :
    ((enumerate items).filterMap (success operation)).Pairwise fun a b => a.1 < b.1 := by
  refine List.Pairwise.filterMap _ ?_ (enumerate_increasing items)
  intro task task' hlt indexed hindexed indexed' hindexed'
  rw [success_key hindexed, success_key hindexed']
  exact hlt

theorem map_snd_successes (operation : ℕ → I → Except ResolveError T) (tasks : List (ℕ × I)) :
    (tasks.filterMap (success operation)).map (·.2) = finishedTracks operation tasks := by
  rw [List.map_filterMap, finishedTracks]
  congr 1
  funext task
  simp [success, Function.comp_def]

/-- Sorted by their indices the registered tracks stand in the order of their items. -/
theorem takeOrdered_eq {items : List I} {completed : CompletedTracks T}
    (h : completed.Perm ((enumerate items).filterMap (success operation))) :
    completed.takeOrdered = successfulTracks operation items := by
  have hincreasing := successes_increasing operation items
  have hnodup : (((enumerate items).filterMap (success operation)).map (·.1)).Nodup :=
    (List.pairwise_map.mpr hincreasing).imp fun hlt => Nat.ne_of_lt hlt
  have hperm := (List.mergeSort_perm completed fun a b => decide (a.1 ≤ b.1)).trans h
  have htrans : ∀ a b c : ℕ × T, decide (a.1 ≤ b.1) → decide (b.1 ≤ c.1) → decide (a.1 ≤ c.1) := by
    intro a b c hab hbc
    simp only [decide_eq_true_eq] at hab hbc ⊢
    omega
  have htotal : ∀ a b : ℕ × T, (decide (a.1 ≤ b.1) || decide (b.1 ≤ a.1)) = true := by
    intro a b
    simp only [Bool.or_eq_true, decide_eq_true_eq]
    omega
  have hleft := List.pairwise_mergeSort htrans htotal completed
  have hright := hincreasing.imp fun {a b : ℕ × T} (hlt : a.1 < b.1) =>
    decide_eq_true (Nat.le_of_lt hlt)
  have hsorted : completed.mergeSort (fun a b => a.1 ≤ b.1)
      = (enumerate items).filterMap (success operation) := by
    refine List.Perm.eq_of_pairwise ?_ hleft hright hperm
    intro a b ha hb hab hba
    exact List.inj_on_of_nodup_map hnodup (hperm.subset ha) hb
      (Nat.le_antisymm (of_decide_eq_true hab) (of_decide_eq_true hba))
  rw [CompletedTracks.takeOrdered, hsorted, map_snd_successes, successfulTracks]

/-- When nothing is in flight any more and no error has occurred, every item has succeeded or
been skipped. -/
theorem BatchInv.complete {items : List I} (hfits : items.length ≤ USIZE_MAX)
    {s : BatchState I T} (h : BatchInv operation items s) (hdone : s.pool.inFlight = [])
    (hnone : s.firstError = none) :
    s.completed.takeOrdered = successfulTracks operation items
      ∧ s.completed.takeOrdered.length + s.skippedItems = items.length := by
  have hperm := h.runs.finished_perm (h.fed hnone) (by decide) hdone
  have hfatal : ∀ task ∈ s.pool.finished, fatalError operation task = none := by
    have hempty := List.head?_eq_none_iff.mp (h.accounts.firstError_eq.symm.trans hnone)
    exact List.filterMap_eq_nil_iff.mp hempty
  have hresults := length_results hfatal
  have hlength : s.pool.finished.length = items.length := by
    rw [hperm.length_eq, length_enumerate]
  have hskipped := h.accounts.skipped_eq
  have hcompleted := congrArg List.length h.accounts.completed_eq
  constructor
  · apply takeOrdered_eq
    rw [h.accounts.completed_eq]
    exact hperm.filterMap _
  · rw [CompletedTracks.takeOrdered, List.length_map, List.length_mergeSort]
    omega

/-- Behind a batch that has ended comes what its items say. -/
theorem BatchInv.resolved {collection : CatalogCollection I} {s : BatchState I T}
    (h : BatchInv operation collection.tracks s) (hdone : s.pool.inFlight = []) (cut : Bool) :
    Resolved operation collection cut s.pool.finished
      (finishCatalog collection cut (some s.outcome) s.completed) := by
  have htaken : s.completed.take = finishedTracks operation s.pool.finished := by
    rw [CompletedTracks.take, h.accounts.completed_eq, map_snd_successes]
  have hfirst := h.accounts.firstError_eq
  unfold finishCatalog BatchState.outcome
  dsimp only
  cases hfatal : s.firstError with
  | some error =>
    rw [hfatal] at hfirst
    dsimp only
    rw [htaken]
    exact .fatal hfirst.symm
  | none =>
    have hperm := h.runs.finished_perm (h.fed hfatal) (by decide) hdone
    have hnone : ∀ task ∈ s.pool.finished, fatalError operation task = none :=
      List.filterMap_eq_nil_iff.mp (List.head?_eq_none_iff.mp (hfirst.symm.trans hfatal))
    have hnone' : ∀ task ∈ enumerate collection.tracks, fatalError operation task = none :=
      fun task htask => hnone task (hperm.mem_iff.mpr htask)
    have htracks : s.completed.takeOrdered = successfulTracks operation collection.tracks := by
      apply takeOrdered_eq
      rw [h.accounts.completed_eq]
      exact hperm.filterMap _
    dsimp only
    rw [htracks]
    split_ifs with hempty
    · rw [h.accounts.firstSkipped_eq]
      exact .nothing hnone' (List.isEmpty_iff.mp hempty)
    · have hresults := length_results hnone
      have hlength : s.pool.finished.length = collection.tracks.length := by
        rw [hperm.length_eq, length_enumerate]
      have hsuccesses := congrArg List.length htracks
      rw [CompletedTracks.takeOrdered, List.length_map, List.length_mergeSort,
        h.accounts.completed_eq] at hsuccesses
      have hskipped : min (collection.skippedItemCount + s.skippedItems) USIZE_MAX =
          min (collection.skippedItemCount + (collection.tracks.length -
            (successfulTracks operation collection.tracks).length)) USIZE_MAX := by
        rw [h.accounts.skipped_eq]
        omega
      rw [hskipped]
      exact .tracks hnone' (fun hnil => hempty (List.isEmpty_iff.mpr hnil))

/-- Whatever the order in which the items finish, at most four are in flight, an error lets
nothing be started any more, and the batch returns when everything it has started has
finished; without an error its tracks are those of the items that succeed, in their order, and
all other items are skipped. A catalog reference comes to what its items say, unless the deadline
passes, which discards what has finished. -/
theorem batch_loses_nothing (operation : ℕ → I → Except ResolveError T) (items : List I)
    (hfits : items.length ≤ USIZE_MAX) {taken : List (Taken (BatchState I T) ℕ)}
    {s : BatchState I T} (run : BatchRun operation items taken s) :
    s.pool.inFlight.length ≤ SITE_BATCH_CONCURRENCY
      ∧ (s.outcome.fatalError ≠ none → ∀ later s',
        Run (fun s position s' => s.turn operation position = some s') s later s' →
          s'.pool.remaining = s.pool.remaining)
      ∧ (s.pool.inFlight = [] →
        (∃ started, enumerate items = started ++ s.pool.remaining
            ∧ s.pool.finished.Perm started)
          ∧ (s.outcome.fatalError = none →
            s.completed.takeOrdered = successfulTracks operation items
              ∧ s.completed.takeOrdered.length + s.outcome.skippedItems = items.length))
      ∧ ∀ around maximumItems,
        (∀ error, prepareCatalog around maximumItems = .error error → ∀ ended,
          ResolveCatalog operation around maximumItems ended ↔ ended = (.error error, []))
        ∧ ∀ collection cut, prepareCatalog around maximumItems = .ok (collection, cut) →
          (∀ taken s, BatchRun operation collection.tracks taken s → s.pool.inFlight = [] →
            ∃ ended, ResolveCatalog operation around maximumItems ended
              ∧ Resolved operation collection cut s.pool.finished ended)
          ∧ ∀ ended, ResolveCatalog operation around maximumItems ended →
            ∃ taken s, BatchRun operation collection.tracks taken s
              ∧ (ended = (.error .timedOut, finishedTracks operation s.pool.finished)
                ∨ s.pool.inFlight = [] ∧
                  Resolved operation collection cut s.pool.finished ended) := by
  have hinv := run.batchInv
  refine ⟨hinv.bounded, ?_, fun hdone => ⟨?_, hinv.complete hfits hdone⟩,
    fun around maximumItems => ⟨fun error herror ended => ⟨fun h => ?_, ?_⟩,
      fun collection cut hprepare => ⟨fun taken s run hdone => ?_, fun ended h => ?_⟩⟩⟩
  · intro herror later s' hlater
    have hafter := hlater.invariant
      (I := fun s' => s'.firstError ≠ none ∧ s'.pool.remaining = s.pool.remaining)
      ⟨herror, rfl⟩ ?_
    · exact hafter.2
    · rintro s₁ position s₂ ⟨herror₁, hremaining⟩ hturn
      obtain ⟨herror₂, hkept⟩ := turn_after_error herror₁ hturn
      exact ⟨herror₂, hkept.trans hremaining⟩
  · obtain ⟨started, hstarted, hperm⟩ := hinv.runs
    rw [hdone, List.append_nil] at hperm
    exact ⟨started, hstarted, hperm⟩
  · cases h with
    | rejected hprepare =>
      rw [herror] at hprepare
      rw [Except.error.inj hprepare]
    | returned hprepare | expired hprepare =>
      rw [herror] at hprepare
      cases hprepare
  · rintro rfl
    exact .rejected herror
  · exact ⟨_, .returned hprepare run hdone, run.batchInv.resolved hdone cut⟩
  · cases h with
    | rejected hrejected =>
      rw [hprepare] at hrejected
      cases hrejected
    | returned hreturned run hdone =>
      obtain ⟨rfl, rfl⟩ := Prod.mk.inj (Except.ok.inj (hprepare.symm.trans hreturned))
      exact ⟨_, _, run, .inr ⟨hdone, run.batchInv.resolved hdone cut⟩⟩
    | expired hexpired run =>
      obtain ⟨rfl, rfl⟩ := Prod.mk.inj (Except.ok.inj (hprepare.symm.trans hexpired))
      refine ⟨_, _, run, .inl ?_⟩
      rw [← map_snd_successes, ← run.batchInv.accounts.completed_eq]
      rfl

/-- Only the second item has no match. -/
def matchOdd (_ : ℕ) (item : ℕ) : Except ResolveError ℕ :=
  if item = 8 then .error .noSearchMatch else .ok item

def threeItems : CatalogSurroundings ℕ where
  batchPermit := true
  collectionLimit := some 100
  resolveReference _ := some (.ok ⟨"album", [7, 8, 9], some 4, 1, false⟩)
  siteClient := true
  maximumPlaylistItems := 50

/-- The items finish the other way round; the tracks keep their order. -/
theorem batch_loses_nothing_reversed :
    ∃ (taken : List (Taken (BatchState ℕ ℕ) ℕ)) (s : BatchState ℕ ℕ),
      BatchRun matchOdd [7, 8, 9] taken s ∧ s.completed = [(2, 9), (0, 7)]
        ∧ s.completed.takeOrdered = [7, 9]
        ∧ ResolveCatalog matchOdd threeItems 10
          (.ok ⟨[7, 9], some "album", some 4, 2, false⟩, []) := by
  have run : BatchRun matchOdd [7, 8, 9] _
      (⟨⟨[], [], [(2, 9), (1, 8), (0, 7)]⟩, none, some .noSearchMatch, 1, [(2, 9), (0, 7)]⟩ :
        BatchState ℕ ℕ) :=
    .snoc (l := 0) (.snoc (l := 1) (.snoc (l := 2) .nil rfl) rfl) rfl
  obtain ⟨-, -, hall, hcatalog⟩ := batch_loses_nothing matchOdd [7, 8, 9] (by decide) run
  obtain ⟨ended, hended, hresolved⟩ := ((hcatalog threeItems 10).2 _ false rfl).1 _ _ run rfl
  refine ⟨_, _, run, rfl, ((hall rfl).2 rfl).1, ?_⟩
  cases hresolved with
  | fatal hfirst => cases hfirst
  | tracks => exact hended
  | nothing _ hempty => exact absurd hempty (by decide)

end PepeAudio.ProductionMedia
