import PepeAudio.Web.LiveDashboard

/-!
# In which order snapshots reach the display

Each task shows what it has in order. The display goes back exactly when one task
shows an answer that the other has overtaken: it was on its way while the other
task showed something newer.
-/
namespace PepeAudio

/-- No revision of an optional one is above a bound. -/
def Below (shown : Option ℕ) (bound : ℕ) : Prop :=
  ∀ revision, shown = some revision → revision ≤ bound

@[simp] theorem below_none (bound : ℕ) : Below none bound := by simp [Below]

@[simp] theorem below_some {revision bound : ℕ} :
    Below (some revision) bound ↔ revision ≤ bound := by
  simp [Below]

theorem Below.trans {shown : Option ℕ} {a b : ℕ} (h : Below shown a) (hle : a ≤ b) :
    Below shown b := fun revision hshown => Nat.le_trans (h revision hshown) hle

/-- What the task holds is in the store and not older than what it has shown. -/
structure StreamTask.Fresh (stored : ℕ) (shown : Option ℕ) (task : StreamTask) : Prop where
  held : Below shown stored
  answered : ∀ revision, task.phase = .answered revision →
    Below shown revision ∧ revision ≤ stored
  streaming : ∀ currentRevision frames, task.phase = .streaming currentRevision frames →
    shown = some currentRevision ∧ ∀ frame ∈ frames, Below frame.revision stored

structure CommandTask.Fresh (stored : ℕ) (shown : Option ℕ) (task : CommandTask) : Prop where
  held : Below shown stored
  answered : ∀ targetRevision revision, task = .answered targetRevision revision →
    Below shown revision ∧ revision ≤ stored

variable {stored stored' : ℕ} {shown : Option ℕ}

theorem StreamTask.Fresh.later {task : StreamTask} (h : task.Fresh stored shown)
    (hle : stored ≤ stored') : task.Fresh stored' shown where
  held := h.held.trans hle
  answered revision hphase := by
    obtain ⟨hbelow, hstored⟩ := h.answered revision hphase
    exact ⟨hbelow, Nat.le_trans hstored hle⟩
  streaming currentRevision frames hphase := by
    obtain ⟨hcurrent, hframes⟩ := h.streaming currentRevision frames hphase
    exact ⟨hcurrent, fun frame hframe => (hframes frame hframe).trans hle⟩

theorem CommandTask.Fresh.later {task : CommandTask} (h : task.Fresh stored shown)
    (hle : stored ≤ stored') : task.Fresh stored' shown where
  held := h.held.trans hle
  answered targetRevision revision htask := by
    obtain ⟨hbelow, hstored⟩ := h.answered targetRevision revision htask
    exact ⟨hbelow, Nat.le_trans hstored hle⟩

theorem StreamTask.step_fresh {task : StreamTask} (h : task.Fresh stored shown)
    (event : StreamEvent) :
    (task.step stored event).2.Fresh stored ((task.step stored event).1 <|> shown) ∧
      ∀ revision, (task.step stored event).1 = some revision →
        Below shown revision ∧ revision ≤ stored := by
  cases event with
  | serve =>
    simp only [step]
    split
    · exact ⟨⟨h.held, by simpa using h.held, by simp⟩, by simp⟩
    · exact ⟨h, by simp⟩
  | receive =>
    simp only [step]
    split
    · next fresh hphase =>
      obtain ⟨hbelow, hstored⟩ := h.answered fresh hphase
      split
      · exact ⟨⟨h.held, by simp, by simp⟩, by simp⟩
      · exact ⟨⟨by simpa using hstored, by simp, by simp⟩, by simpa using ⟨hbelow, hstored⟩⟩
    · exact ⟨h, by simp⟩
  | push frame =>
    simp only [step]
    split
    · next currentRevision frames hphase =>
      obtain ⟨hcurrent, hframes⟩ := h.streaming currentRevision frames hphase
      split
      · next hframe =>
        refine ⟨⟨h.held, by simp, ?_⟩, by simp⟩
        rintro current' frames' hphase'
        obtain ⟨rfl, rfl⟩ := StreamPhase.streaming.inj hphase'
        refine ⟨hcurrent, fun other hother => ?_⟩
        rcases List.mem_append.mp hother with hother | hother
        · exact hframes other hother
        · obtain rfl := List.mem_singleton.mp hother
          intro revision hrevision
          simpa [hrevision] using hframe
      · exact ⟨h, by simp⟩
    · exact ⟨h, by simp⟩
  | read =>
    simp only [step]
    split
    · next currentRevision frame frames hphase =>
      obtain ⟨rfl, hframes⟩ := h.streaming currentRevision _ hphase
      split
      · refine ⟨⟨h.held, by simp, ?_⟩, by simp⟩
        rintro current' frames' hphase'
        obtain ⟨rfl, rfl⟩ := StreamPhase.streaming.inj hphase'
        exact ⟨rfl, fun other hother => hframes other (List.mem_cons_of_mem _ hother)⟩
      · exact ⟨⟨h.held, by simp, by simp⟩, by simp⟩
      · next revision haction =>
        have hnewer := interpretPlayerSseFrame_newer haction
        have hstored := hframes frame List.mem_cons_self revision
          (interpretPlayerSseFrame_revision haction)
        refine ⟨⟨by simpa using hstored, by simp, ?_⟩, by simp; omega⟩
        rintro current' frames' hphase'
        obtain ⟨rfl, rfl⟩ := StreamPhase.streaming.inj hphase'
        exact ⟨rfl, fun other hother => hframes other (List.mem_cons_of_mem _ hother)⟩
    · exact ⟨h, by simp⟩
  | fail => exact ⟨⟨h.held, by simp [step], by simp [step]⟩, by simp [step]⟩
  | reconnect =>
    simp only [step]
    split
    · exact ⟨⟨h.held, by simp, by simp⟩, by simp⟩
    · exact ⟨h, by simp⟩

theorem CommandTask.step_fresh {task : CommandTask} (h : task.Fresh stored shown)
    (snapshot : Option ℕ) (event : CommandTaskEvent) :
    (task.step stored snapshot event).2.Fresh stored
        ((task.step stored snapshot event).1 <|> shown) ∧
      ∀ revision, (task.step stored snapshot event).1 = some revision →
        Below shown revision ∧ revision ≤ stored := by
  cases event with
  | serve =>
    simp only [step]
    split
    · refine ⟨⟨h.held, ?_⟩, by simp⟩
      rintro target revision htask
      obtain ⟨rfl, rfl⟩ := CommandTask.answered.inj htask
      exact ⟨h.held, Nat.le_refl _⟩
    · exact ⟨h, by simp⟩
  | receive =>
    simp only [step]
    split
    · next target revision =>
      obtain ⟨hbelow, hstored⟩ := h.answered target revision rfl
      split
      · exact ⟨⟨by simpa using hstored, by simp⟩, by simpa using ⟨hbelow, hstored⟩⟩
      · exact ⟨⟨h.held, by simp⟩, by simp⟩
    · exact ⟨h, by simp⟩
  | run | accepted | applied | retry | fail =>
    simp only [step]
    try split
    all_goals first
      | exact ⟨h, by simp⟩
      | exact ⟨⟨h.held, by simp⟩, by simp⟩

/-- All that was shown is covered by what either writer showed last. -/
structure Covers (all : List ℕ) (mine other : Option ℕ) : Prop where
  covered : ∀ revision ∈ all, ∃ last, revision ≤ last ∧ (mine = some last ∨ other = some last)
  last : ∀ revision, mine = some revision ∨ other = some revision → revision ∈ all

variable {all : List ℕ} {mine other : Option ℕ}

theorem Covers.symm (h : Covers all mine other) : Covers all other mine where
  covered revision hrevision := by
    obtain ⟨last, hle, hlast⟩ := h.covered revision hrevision
    exact ⟨last, hle, hlast.symm⟩
  last revision hrevision := h.last revision hrevision.symm

/-- A writer that goes forward on its own keeps everything covered. -/
theorem Covers.append (h : Covers all mine other) {output : Option ℕ}
    (hnewer : ∀ revision, output = some revision → Below mine revision) :
    Covers (all ++ output.toList) (output <|> mine) other := by
  cases output with
  | none => simpa using h
  | some revision =>
    refine ⟨fun shown hshown => ?_, fun shown hshown => ?_⟩
    · rcases List.mem_append.mp hshown with hshown | hshown
      · obtain ⟨last, hle, hmine | hother⟩ := h.covered shown hshown
        · exact ⟨revision, Nat.le_trans hle (hnewer revision rfl last hmine), .inl rfl⟩
        · exact ⟨last, hle, .inr hother⟩
      · obtain rfl : shown = revision := by simpa using hshown
        exact ⟨shown, Nat.le_refl _, .inl rfl⟩
    · rcases hshown with hshown | hshown
      · obtain rfl : revision = shown := by simpa using hshown
        simp
      · exact List.mem_append_left _ (h.last shown (.inr hshown))

theorem Covers.le_iff (h : Covers all mine other) (bound : ℕ) :
    (∀ revision ∈ all, revision ≤ bound) ↔ Below mine bound ∧ Below other bound := by
  constructor
  · intro hall
    exact ⟨fun revision hshown => hall revision (h.last revision (.inl hshown)),
      fun revision hshown => hall revision (h.last revision (.inr hshown))⟩
  · rintro ⟨hmine, hother⟩ revision hrevision
    obtain ⟨last, hle, hlast | hlast⟩ := h.covered revision hrevision
    · exact Nat.le_trans hle (hmine last hlast)
    · exact Nat.le_trans hle (hother last hlast)

/-- What a writer shows keeps the order of all exactly when the other one showed nothing newer. -/
theorem Covers.pairwise_append (h : Covers all mine other) {output : Option ℕ}
    (hnewer : ∀ revision, output = some revision → Below mine revision) :
    (all ++ output.toList).Pairwise (· ≤ ·) ↔
      all.Pairwise (· ≤ ·) ∧ ∀ revision, output = some revision → Below other revision := by
  cases output with
  | none => simp
  | some revision =>
    have hboth := h.le_iff revision
    have hown := hnewer revision rfl
    rw [List.pairwise_append]
    simp [hboth, hown]

namespace LiveDashboard

abbrev DashboardStep : Type := Taken LiveDashboard (DashboardEvent × Option ℕ)

/-- The revisions put on display, oldest first. -/
def shownIn (taken : List DashboardStep) : List ℕ := taken.filterMap fun t => t.label.2

/-- A task shows an answer while the other one has shown something newer, which it can only have
done since the store gave that answer. -/
def Overtaken (dashboard : LiveDashboard) : DashboardEvent → Prop
  | .stream event =>
    ∃ revision, (dashboard.stream.step dashboard.stored event).1 = some revision ∧
      ¬ Below dashboard.shownByCommand revision
  | .command event =>
    ∃ revision, (dashboard.command.step dashboard.stored dashboard.snapshot event).1 =
      some revision ∧ ¬ Below dashboard.shownByStream revision
  | .commit _ | .restart => False

structure Consistent (taken : List DashboardStep) (dashboard : LiveDashboard) : Prop where
  stream : dashboard.stream.Fresh dashboard.stored dashboard.shownByStream
  command : dashboard.command.Fresh dashboard.stored dashboard.shownByCommand
  covers : Covers (shownIn taken) dashboard.shownByStream dashboard.shownByCommand

variable {taken : List DashboardStep} {dashboard dashboard' : LiveDashboard}

@[simp] theorem shownIn_snoc (t : DashboardStep) :
    shownIn (taken ++ [t]) = shownIn taken ++ t.label.2.toList := by
  cases hshown : t.label.2 <;> simp [shownIn, hshown]

theorem step_consistent (h : Consistent taken dashboard) (event : DashboardEvent) :
    Consistent (taken ++ [⟨dashboard, (event, (dashboard.step event).1), (dashboard.step event).2⟩])
        (dashboard.step event).2 ∧
      ((shownIn taken ++ (dashboard.step event).1.toList).Pairwise (· ≤ ·) ↔
        (shownIn taken).Pairwise (· ≤ ·) ∧ ¬ dashboard.Overtaken event) := by
  cases event with
  | commit revision =>
    have hle : dashboard.stored ≤ max dashboard.stored revision := Nat.le_max_left _ _
    exact ⟨⟨h.stream.later hle, h.command.later hle, by simpa [step] using h.covers⟩,
      by simp [step, Overtaken]⟩
  | stream event =>
    obtain ⟨hfresh, hnewer⟩ := StreamTask.step_fresh h.stream event
    have hbelow := fun revision hshown => (hnewer revision hshown).1
    refine ⟨⟨hfresh, h.command, ?_⟩, ?_⟩
    · rw [shownIn_snoc]
      exact h.covers.append hbelow
    · have hpairwise := h.covers.pairwise_append hbelow
      simpa [step, Overtaken] using hpairwise
  | command event =>
    obtain ⟨hfresh, hnewer⟩ := CommandTask.step_fresh h.command dashboard.snapshot event
    have hbelow := fun revision hshown => (hnewer revision hshown).1
    refine ⟨⟨h.stream, hfresh, ?_⟩, ?_⟩
    · rw [shownIn_snoc]
      exact (h.covers.symm.append hbelow).symm
    · have hpairwise := h.covers.symm.pairwise_append hbelow
      simpa [step, Overtaken] using hpairwise
  | restart =>
    exact ⟨⟨⟨h.stream.held, by simp [step, StreamTask.start], by simp [step, StreamTask.start]⟩,
      h.command, by simpa [step] using h.covers⟩, by simp [step, Overtaken]⟩

/-- The display never goes back exactly in the runs in which no shown answer was overtaken. -/
theorem display_in_order_iff {stored : ℕ}
    (run : Run (Follows step) (start stored) taken dashboard) :
    (shownIn taken).Pairwise (· ≤ ·) ↔ ∀ t ∈ taken, ¬ t.before.Overtaken t.label.1 := by
  have hboth : Consistent taken dashboard ∧
      ((shownIn taken).Pairwise (· ≤ ·) ↔ ∀ t ∈ taken, ¬ t.before.Overtaken t.label.1) := by
    refine run.history (I := fun taken dashboard => Consistent taken dashboard ∧
      ((shownIn taken).Pairwise (· ≤ ·) ↔ ∀ t ∈ taken, ¬ t.before.Overtaken t.label.1)) ?_ ?_
    · refine ⟨⟨⟨by simp [start], ?_, ?_⟩, ⟨by simp [start], by simp [start]⟩,
        ⟨by simp [shownIn], by simp [start]⟩⟩, by simp [shownIn]⟩
      · simp [start, StreamTask.start]
      · simp [start, StreamTask.start]
    · rintro taken dashboard ⟨event, shown⟩ dashboard' _ ⟨hconsistent, hiff⟩ hstep
      obtain ⟨hlabel, rfl⟩ := hstep.eq
      have hshown : shown = (dashboard.step event).1 := (Prod.mk.inj hlabel).2
      subst hshown
      obtain ⟨hafter, hpairwise⟩ := step_consistent hconsistent event
      refine ⟨hafter, ?_⟩
      rw [shownIn_snoc, hpairwise, hiff]
      simp [or_imp, forall_and]
  exact hboth.2

/-- The confirmation of a command stays on its way while the stream shows a later change. -/
def lateConfirmation : List DashboardEvent :=
  [.stream .serve, .stream .receive, .command .run, .command .accepted, .commit 6,
    .command (.applied 6), .command .serve, .commit 7, .stream (.push (.player 6)),
    .stream (.push (.player 7)), .stream .read, .stream .read, .command .receive]

theorem display_goes_back :
    ∃ taken dashboard, Run (Follows step) (start 5) taken dashboard ∧ shownIn taken = [5, 6, 7, 6] ∧
      ¬ (shownIn taken).Pairwise (· ≤ ·) :=
  ⟨_, _, run_record step (start 5) lateConfirmation, by decide, by decide⟩

theorem display_in_order_without_confirmation :
    shownIn (record step (start 5) lateConfirmation.dropLast).1 = [5, 6, 7] ∧
      ∀ t ∈ (record step (start 5) lateConfirmation.dropLast).1, ¬ t.before.Overtaken t.label.1 :=
  ⟨by decide, (display_in_order_iff (run_record step (start 5) lateConfirmation.dropLast)).mp
    (by decide)⟩

end LiveDashboard

end PepeAudio
