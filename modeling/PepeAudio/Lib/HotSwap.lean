import Mathlib.Data.List.Basic
import Mathlib.Data.List.Nodup
import Mathlib.Data.Option.Basic
import Mathlib.Logic.Function.Basic
import Mathlib.Algebra.GroupWithZero.Nat
import Mathlib.Order.Lattice.Nat

/-!
# Slots whose workers are replaced while they run

A pool has a number of slots and one permit more for an overlap. A client claims
a slot, runs a main worker in it, and may replace that worker by a spare one that
starts under the overlap permit in the same slot. The permit comes back once the
main worker is gone. Workers may outlive the claim they were started for, and a
slot or a permit is out as long as a client or a worker holds it.
-/
namespace PepeAudio

/-- A semaphore of `capacity` permits, by the permits that are out. Permits are
numbered in the order in which they were handed out. -/
structure Semaphore (capacity : ℕ) where
  out : List ℕ
  next : ℕ
  nodup : out.Nodup
  length_le : out.length ≤ capacity
  fresh : ∀ permit ∈ out, permit < next
  deriving DecidableEq

namespace Semaphore

variable {capacity : ℕ}

def full (capacity : ℕ) : Semaphore capacity where
  out := []
  next := 0
  nodup := List.nodup_nil
  length_le := Nat.zero_le _
  fresh := by simp

theorem nodup_append_next (s : Semaphore capacity) : (s.out ++ [s.next]).Nodup := by
  refine List.nodup_append.mpr ⟨s.nodup, List.nodup_singleton _, ?_⟩
  intro permit hout permit' hnext
  have hlt := s.fresh permit hout
  have heq := List.mem_singleton.mp hnext
  omega

theorem fresh_append_next (s : Semaphore capacity) :
    ∀ permit ∈ s.out ++ [s.next], permit < s.next + 1 := by
  intro permit hpermit
  rcases List.mem_append.mp hpermit with hout | hnext
  · exact Nat.lt_succ_of_lt (s.fresh permit hout)
  · have heq := List.mem_singleton.mp hnext
    omega

/-- Take a permit, when one is left. -/
def acquire (s : Semaphore capacity) : Option (ℕ × Semaphore capacity) :=
  if hfree : s.out.length < capacity then
    some (s.next, {
      out := s.out ++ [s.next]
      next := s.next + 1
      nodup := s.nodup_append_next
      length_le := by rw [List.length_append]; exact hfree
      fresh := s.fresh_append_next })
  else none

/-- The permits that are not kept come back. -/
def retain (s : Semaphore capacity) (keep : ℕ → Bool) : Semaphore capacity where
  out := s.out.filter keep
  next := s.next
  nodup := s.nodup.filter _
  length_le := (List.length_filter_le _ _).trans s.length_le
  fresh := fun permit hpermit => s.fresh permit (List.mem_of_mem_filter hpermit)

def release (s : Semaphore capacity) (permit : ℕ) : Semaphore capacity :=
  s.retain (· != permit)

variable {s s' : Semaphore capacity} {permit : ℕ}

@[simp] theorem full_out : (full capacity).out = [] := rfl

@[simp] theorem mem_retain {keep : ℕ → Bool} :
    permit ∈ (s.retain keep).out ↔ permit ∈ s.out ∧ keep permit = true :=
  List.mem_filter

@[simp] theorem retain_next (keep : ℕ → Bool) : (s.retain keep).next = s.next := rfl

@[simp] theorem mem_release {released : ℕ} :
    permit ∈ (s.release released).out ↔ permit ∈ s.out ∧ permit ≠ released := by
  simp [release]

@[simp] theorem release_next (released : ℕ) : (s.release released).next = s.next := rfl

/-- What taking a permit tells: it is new, and it is out from now on. -/
theorem acquire_eq (h : s.acquire = some (permit, s')) :
    permit = s.next ∧ s'.out = s.out ++ [s.next] ∧ s'.next = s.next + 1 := by
  unfold acquire at h
  split at h
  · obtain ⟨rfl, rfl⟩ := Prod.mk.inj (Option.some.inj h)
    exact ⟨rfl, rfl, rfl⟩
  · cases h

theorem mem_of_acquire (h : s.acquire = some (permit, s')) (other : ℕ) :
    other ∈ s'.out ↔ other ∈ s.out ∨ other = permit := by
  obtain ⟨rfl, hout, -⟩ := acquire_eq h
  simp [hout]

end Semaphore

/-- A running worker with the slot it runs in and the overlap permit it was started
under. The permit may have come back since. -/
structure SlotWorker where
  id : ℕ
  slot : ℕ
  overlap : Option ℕ
  deriving DecidableEq, Repr

/-- The slot a client claims, its main worker, and the overlap permit it holds
with the spare worker started under it. -/
structure SlotClaim where
  slot : ℕ
  main : Option ℕ
  spare : Option (ℕ × Option ℕ)
  deriving DecidableEq, Repr

structure SlotPool (capacity : ℕ) where
  slots : Semaphore capacity
  overlaps : Semaphore 1
  workers : List SlotWorker
  nextWorker : ℕ
  deriving DecidableEq

namespace SlotPool

variable {capacity : ℕ}

def empty (capacity : ℕ) : SlotPool capacity := ⟨.full capacity, .full 1, [], 0⟩

/-- A worker starts in a slot, under an overlap permit or without one. -/
def launch (pool : SlotPool capacity) (slot : ℕ) (overlap : Option ℕ) : SlotPool capacity :=
  { pool with
    workers := pool.workers ++ [⟨pool.nextWorker, slot, overlap⟩]
    nextWorker := pool.nextWorker + 1 }

/-- A worker is gone. -/
def finish (pool : SlotPool capacity) (worker : ℕ) : SlotPool capacity :=
  { pool with workers := pool.workers.filter (·.id != worker) }

def releaseOverlap (pool : SlotPool capacity) (permit : ℕ) : SlotPool capacity :=
  { pool with overlaps := pool.overlaps.release permit }

/-- The slots and permits that are not kept come back. -/
def retain (pool : SlotPool capacity) (keepSlot keepOverlap : ℕ → Bool) : SlotPool capacity :=
  { pool with
    slots := pool.slots.retain keepSlot
    overlaps := pool.overlaps.retain keepOverlap }

def Runs (pool : SlotPool capacity) (worker : ℕ) : Prop :=
  ∃ w ∈ pool.workers, w.id = worker

instance (pool : SlotPool capacity) (worker : ℕ) : Decidable (pool.Runs worker) :=
  inferInstanceAs (Decidable (∃ w ∈ pool.workers, w.id = worker))

/-- The worker runs under an overlap permit that is still out. -/
def Overlapping (pool : SlotPool capacity) (w : SlotWorker) : Prop :=
  ∃ permit ∈ w.overlap, permit ∈ pool.overlaps.out

instance (pool : SlotPool capacity) : DecidablePred pool.Overlapping := fun w =>
  inferInstanceAs (Decidable (∃ permit ∈ w.overlap, permit ∈ pool.overlaps.out))

variable {ι : Type*} [DecidableEq ι]

/-- What the running workers say about each other and about what is out. -/
structure WorkersSound (pool : SlotPool capacity) : Prop where
  ids : (pool.workers.map (·.id)).Nodup
  id_fresh : ∀ w ∈ pool.workers, w.id < pool.nextWorker
  slot_out : ∀ w ∈ pool.workers, w.slot ∈ pool.slots.out
  overlap_fresh : ∀ w ∈ pool.workers, ∀ permit ∈ w.overlap, permit < pool.overlaps.next
  overlap_unique : ∀ w ∈ pool.workers, ∀ w' ∈ pool.workers, ∀ permit ∈ w.overlap,
    permit ∈ w'.overlap → w = w'
  stable_unique : ∀ w ∈ pool.workers, ∀ w' ∈ pool.workers, ¬ pool.Overlapping w →
    ¬ pool.Overlapping w' → w.slot = w'.slot → w = w'

/-- What one claim says about the workers: apart from overlapping ones only the main worker
runs in the slot, and only the spare worker runs under the permit. -/
structure ClaimSound (pool : SlotPool capacity) (c : SlotClaim) : Prop where
  out : c.slot ∈ pool.slots.out
  main_only : ∀ w ∈ pool.workers, w.slot = c.slot → ¬ pool.Overlapping w → c.main = some w.id
  spare_out : ∀ spare ∈ c.spare, spare.1 ∈ pool.overlaps.out
  spare_worker : ∀ spare ∈ c.spare, ∀ w ∈ pool.workers, w.overlap = some spare.1 →
    spare.2 = some w.id ∧ w.slot = c.slot

end SlotPool

/-- Two claims share neither the slot nor the overlap permit. -/
structure SlotClaim.Apart (c c' : SlotClaim) : Prop where
  slot : c.slot ≠ c'.slot
  spare : ∀ spare ∈ c.spare, ∀ spare' ∈ c'.spare, spare.1 ≠ spare'.1

theorem SlotClaim.Apart.symm {c c' : SlotClaim} (h : c.Apart c') : c'.Apart c :=
  ⟨h.slot.symm, fun spare hs spare' hs' => (h.spare spare' hs' spare hs).symm⟩

namespace SlotPool

variable {capacity : ℕ} {ι : Type*} [DecidableEq ι]

/-- The claims of a pool's clients agree with its workers and with what is out. -/
structure Sound (pool : SlotPool capacity) (claims : ι → Option SlotClaim) : Prop where
  workers : pool.WorkersSound
  claim : ∀ i, ∀ c ∈ claims i, pool.ClaimSound c
  apart : ∀ i j, i ≠ j → ∀ c ∈ claims i, ∀ c' ∈ claims j, c.Apart c'

section rules
variable {pool pool' : SlotPool capacity} {claims : ι → Option SlotClaim} {i : ι} {c : SlotClaim}

omit [DecidableEq ι] in
theorem sound_empty : (empty capacity).Sound fun _ : ι => none where
  workers := by constructor <;> simp [empty]
  claim := by simp
  apart := by simp

/-- One client changes its claim, and the pool changes so that the other claims stand. -/
theorem Sound.update (h : pool.Sound claims) {claim' : Option SlotClaim}
    (hworkers : pool'.WorkersSound)
    (hothers : ∀ j ≠ i, ∀ c ∈ claims j, pool'.ClaimSound c)
    (hclaim : ∀ c' ∈ claim', pool'.ClaimSound c')
    (hapart : ∀ j ≠ i, ∀ c ∈ claims j, ∀ c' ∈ claim', c'.Apart c) :
    pool'.Sound (Function.update claims i claim') where
  workers := hworkers
  claim := by
    intro j c hc
    by_cases hj : j = i
    · subst hj
      rw [Function.update_self] at hc
      exact hclaim c hc
    · rw [Function.update_of_ne hj] at hc
      exact hothers j hj c hc
  apart := by
    intro j k hne c hc c' hc'
    by_cases hj : j = i
    · subst hj
      rw [Function.update_self] at hc
      rw [Function.update_of_ne hne.symm] at hc'
      exact hapart k hne.symm c' hc' c hc
    · rw [Function.update_of_ne hj] at hc
      by_cases hk : k = i
      · subst hk
        rw [Function.update_self] at hc'
        exact (hapart j hj c hc c' hc').symm
      · rw [Function.update_of_ne hk] at hc'
        exact h.apart j k hne c hc c' hc'

/-- A client gives up its claim. Its workers may run on. -/
theorem Sound.unclaim (h : pool.Sound claims) (i : ι) :
    pool.Sound (Function.update claims i none) :=
  h.update h.workers (fun j _ => h.claim j) (by simp) (by simp)

/-- A client gives up its spare. The worker started under the permit may run on. -/
theorem Sound.abandon (h : pool.Sound claims) (hc : c ∈ claims i) :
    pool.Sound (Function.update claims i (some { c with spare := none })) := by
  have hclaim := h.claim i c hc
  refine h.update h.workers (fun j _ => h.claim j) ?_ ?_
  · rintro _ ⟨⟩
    exact ⟨hclaim.out, hclaim.main_only, by simp, by simp⟩
  · rintro j hj c' hc' _ ⟨⟩
    exact ⟨(h.apart i j (Ne.symm hj) c hc c' hc').slot, by simp⟩

/-- A client without a claim takes a new slot, in which nothing runs. -/
theorem Sound.claim_new (h : pool.Sound claims) (i : ι) {slot : ℕ}
    {slots' : Semaphore capacity} (hacquire : pool.slots.acquire = some (slot, slots')) :
    { pool with slots := slots' }.Sound
      (Function.update claims i (some ⟨slot, none, none⟩)) := by
  have hmem := Semaphore.mem_of_acquire hacquire
  obtain ⟨rfl, -, -⟩ := Semaphore.acquire_eq hacquire
  refine h.update ?_ ?_ ?_ ?_
  · exact { h.workers with slot_out := fun w hw => (hmem _).mpr (.inl (h.workers.slot_out w hw)) }
  · intro j _ c hc
    exact { h.claim j c hc with out := (hmem _).mpr (.inl (h.claim j c hc).out) }
  · rintro _ ⟨⟩
    refine ⟨(hmem _).mpr (.inr rfl), fun w hw heq => ?_, by simp, by simp⟩
    have hlt := pool.slots.fresh w.slot (h.workers.slot_out w hw)
    exact absurd heq (Nat.ne_of_lt hlt)
  · rintro j _ c hc _ ⟨⟩
    have hlt := pool.slots.fresh c.slot (h.claim j c hc).out
    exact ⟨(Nat.ne_of_lt hlt).symm, by simp⟩

/-- Workers do not notice that a new overlap permit is taken. -/
theorem WorkersSound.overlapping_acquire (h : pool.WorkersSound) {permit : ℕ}
    {overlaps' : Semaphore 1} (hacquire : pool.overlaps.acquire = some (permit, overlaps'))
    {w : SlotWorker} (hw : w ∈ pool.workers) :
    { pool with overlaps := overlaps' }.Overlapping w ↔ pool.Overlapping w := by
  have hmem := Semaphore.mem_of_acquire hacquire
  obtain ⟨rfl, -, -⟩ := Semaphore.acquire_eq hacquire
  constructor
  · rintro ⟨other, hother, hout⟩
    have hlt := h.overlap_fresh w hw other hother
    rcases (hmem _).mp hout with hout | rfl
    · exact ⟨other, hother, hout⟩
    · omega
  · rintro ⟨other, hother, hout⟩
    exact ⟨other, hother, (hmem _).mpr (.inl hout)⟩

/-- A client takes the overlap permit for a spare worker. -/
theorem Sound.reserve (h : pool.Sound claims) (hc : c ∈ claims i) {permit : ℕ}
    {overlaps' : Semaphore 1} (hacquire : pool.overlaps.acquire = some (permit, overlaps')) :
    { pool with overlaps := overlaps' }.Sound
      (Function.update claims i (some { c with spare := some (permit, none) })) := by
  have hmem := Semaphore.mem_of_acquire hacquire
  have hsame {w : SlotWorker} (hw : w ∈ pool.workers) :=
    h.workers.overlapping_acquire hacquire hw
  obtain ⟨rfl, -, hnext⟩ := Semaphore.acquire_eq hacquire
  have hstable : ∀ c ∈ claims i, ∀ w ∈ pool.workers, w.slot = c.slot →
      ¬ { pool with overlaps := overlaps' }.Overlapping w → c.main = some w.id :=
    fun c hc w hw heq hover => (h.claim i c hc).main_only w hw heq ((hsame hw).not.mp hover)
  refine h.update ?_ ?_ ?_ ?_
  · refine { h.workers with overlap_fresh := ?_, stable_unique := ?_ }
    · intro w hw other hother
      have hlt := h.workers.overlap_fresh w hw other hother
      simp only [hnext]
      omega
    · intro w hw w' hw' hover hover'
      exact h.workers.stable_unique w hw w' hw' ((hsame hw).not.mp hover)
        ((hsame hw').not.mp hover')
  · intro j _ c' hc'
    have hclaim := h.claim j c' hc'
    exact { hclaim with
      main_only := fun w hw heq hover => hclaim.main_only w hw heq ((hsame hw).not.mp hover)
      spare_out := fun spare hs => (hmem _).mpr (.inl (hclaim.spare_out spare hs)) }
  · rintro _ ⟨⟩
    refine ⟨(h.claim i c hc).out, hstable c hc, ?_, ?_⟩
    · rintro _ ⟨⟩
      exact (hmem _).mpr (.inr rfl)
    · rintro _ ⟨⟩ w hw heq
      have hlt := h.workers.overlap_fresh w hw _ heq
      simp at hlt
  · rintro j hj c' hc' _ ⟨⟩
    refine ⟨(h.apart i j (Ne.symm hj) c hc c' hc').slot, ?_⟩
    rintro _ ⟨⟩ spare' hs'
    have hlt := pool.overlaps.fresh _ ((h.claim j c' hc').spare_out spare' hs')
    exact (Nat.ne_of_lt hlt).symm

@[simp] theorem overlapping_launch (pool : SlotPool capacity) (slot : ℕ) (overlap : Option ℕ)
    (w : SlotWorker) : (pool.launch slot overlap).Overlapping w ↔ pool.Overlapping w := Iff.rfl

theorem mem_launch {slot : ℕ} {overlap : Option ℕ} {w : SlotWorker} :
    w ∈ (pool.launch slot overlap).workers ↔
      w ∈ pool.workers ∨ w = ⟨pool.nextWorker, slot, overlap⟩ := by
  simp [launch]

/-- A worker may start in a slot that is out when no stable worker runs in it, or under an
overlap permit that is out and under which no worker was started. -/
theorem WorkersSound.launch (h : pool.WorkersSound) {slot : ℕ} {overlap : Option ℕ}
    (hslot : slot ∈ pool.slots.out) (hpermit : ∀ permit ∈ overlap, permit ∈ pool.overlaps.out)
    (hunused : ∀ permit ∈ overlap, ∀ w ∈ pool.workers, permit ∉ w.overlap)
    (hstable : overlap = none → ∀ w ∈ pool.workers, w.slot = slot → pool.Overlapping w) :
    (pool.launch slot overlap).WorkersSound := by
  have hnew : ¬ pool.Overlapping ⟨pool.nextWorker, slot, overlap⟩ → overlap = none := by
    intro hover
    cases hoverlap : overlap with
    | none => rfl
    | some permit =>
      exact absurd ⟨permit, hoverlap, hpermit permit hoverlap⟩ hover
  constructor
  · have hids : (pool.launch slot overlap).workers.map (·.id)
        = pool.workers.map (·.id) ++ [pool.nextWorker] := by simp [SlotPool.launch]
    rw [hids]
    refine List.nodup_append.mpr ⟨h.ids, List.nodup_singleton _, fun id hid id' hid' => ?_⟩
    obtain ⟨w, hw, rfl⟩ := List.mem_map.mp hid
    have hlt := h.id_fresh w hw
    have heq := List.mem_singleton.mp hid'
    omega
  · intro w hw
    rcases mem_launch.mp hw with hw | rfl
    · exact Nat.lt_succ_of_lt (h.id_fresh w hw)
    · exact Nat.lt_succ_self _
  · intro w hw
    rcases mem_launch.mp hw with hw | rfl
    · exact h.slot_out w hw
    · exact hslot
  · intro w hw permit hp
    rcases mem_launch.mp hw with hw | rfl
    · exact h.overlap_fresh w hw permit hp
    · exact pool.overlaps.fresh permit (hpermit permit hp)
  · intro w hw w' hw' permit hp hp'
    rcases mem_launch.mp hw with hw | rfl <;> rcases mem_launch.mp hw' with hw' | rfl
    · exact h.overlap_unique w hw w' hw' permit hp hp'
    · exact absurd hp (hunused permit hp' w hw)
    · exact absurd hp' (hunused permit hp w' hw')
    · rfl
  · intro w hw w' hw' hover hover' heq
    rcases mem_launch.mp hw with hw | rfl <;> rcases mem_launch.mp hw' with hw' | rfl
    · exact h.stable_unique w hw w' hw' hover hover' heq
    · exact absurd (hstable (hnew hover') w hw heq) hover
    · exact absurd (hstable (hnew hover) w' hw' heq.symm) hover'
    · rfl

/-- Another claim stands when a worker starts in a slot and under a permit that are not its. -/
theorem ClaimSound.launch (h : pool.ClaimSound c) {slot : ℕ} {overlap : Option ℕ}
    (hslot : slot ≠ c.slot) (hspare : ∀ spare ∈ c.spare, overlap ≠ some spare.1) :
    (pool.launch slot overlap).ClaimSound c := by
  refine { h with main_only := ?_, spare_worker := ?_ }
  · intro w hw heq hover
    rcases mem_launch.mp hw with hw | rfl
    · exact h.main_only w hw heq hover
    · exact absurd heq hslot
  · intro spare hs w hw heq
    rcases mem_launch.mp hw with hw | rfl
    · exact h.spare_worker spare hs w hw heq
    · exact absurd heq (hspare spare hs)

/-- A client whose slot is unused starts its main worker. -/
theorem Sound.launch_main (h : pool.Sound claims) {slot : ℕ}
    (hc : claims i = some ⟨slot, none, none⟩) :
    (pool.launch slot none).Sound
      (Function.update claims i (some ⟨slot, some pool.nextWorker, none⟩)) := by
  have hclaim := h.claim i _ hc
  have hunused : ∀ w ∈ pool.workers, w.slot = slot → pool.Overlapping w := by
    intro w hw heq
    by_contra hover
    have hmain := hclaim.main_only w hw heq hover
    simp at hmain
  refine h.update ?_ ?_ ?_ ?_
  · exact h.workers.launch hclaim.out (by simp) (by simp) fun _ => hunused
  · intro j hj c' hc'
    exact (h.claim j c' hc').launch (h.apart i j (Ne.symm hj) _ hc c' hc').slot (by simp)
  · rintro _ ⟨⟩
    refine ⟨hclaim.out, fun w hw heq hover => ?_, by simp, by simp⟩
    rcases mem_launch.mp hw with hw | rfl
    · exact absurd (hunused w hw heq) hover
    · rfl
  · rintro j hj c' hc' _ ⟨⟩
    exact ⟨(h.apart i j (Ne.symm hj) _ hc c' hc').slot, by simp⟩

/-- A client that holds the overlap permit starts a spare worker in its slot. -/
theorem Sound.launch_spare (h : pool.Sound claims) {slot permit : ℕ} {main : Option ℕ}
    (hc : claims i = some ⟨slot, main, some (permit, none)⟩) :
    (pool.launch slot (some permit)).Sound
      (Function.update claims i (some ⟨slot, main, some (permit, some pool.nextWorker)⟩)) := by
  have hclaim := h.claim i _ hc
  have hpermit : permit ∈ pool.overlaps.out := hclaim.spare_out _ rfl
  have hunused : ∀ w ∈ pool.workers, permit ∉ w.overlap := by
    intro w hw hp
    have hnone := (hclaim.spare_worker _ rfl w hw hp).1
    simp at hnone
  refine h.update ?_ ?_ ?_ ?_
  · refine h.workers.launch hclaim.out ?_ ?_ (by simp)
    · rintro _ ⟨⟩
      exact hpermit
    · rintro _ ⟨⟩
      exact hunused
  · intro j hj c' hc'
    have hapart := h.apart i j (Ne.symm hj) _ hc c' hc'
    refine (h.claim j c' hc').launch hapart.slot fun spare hs heq => ?_
    exact hapart.spare _ rfl spare hs (Option.some.inj heq)
  · rintro _ ⟨⟩
    refine ⟨hclaim.out, ?_, ?_, ?_⟩
    · intro w hw heq hover
      rcases mem_launch.mp hw with hw | rfl
      · exact hclaim.main_only w hw heq hover
      · exact absurd ⟨permit, rfl, hpermit⟩ hover
    · rintro _ ⟨⟩
      exact hpermit
    · rintro _ ⟨⟩ w hw heq
      rcases mem_launch.mp hw with hw | rfl
      · exact absurd heq (hunused w hw)
      · exact ⟨rfl, rfl⟩
  · rintro j hj c' hc' _ ⟨⟩
    have hapart := h.apart i j (Ne.symm hj) _ hc c' hc'
    refine ⟨hapart.slot, ?_⟩
    rintro _ ⟨⟩ spare hs
    exact hapart.spare (permit, none) rfl spare hs

/-- Once the main worker is gone, the spare one takes its place and the permit comes back. -/
theorem Sound.promote (h : pool.Sound claims) {slot permit worker : ℕ} {main : Option ℕ}
    (hc : claims i = some ⟨slot, main, some (permit, some worker)⟩)
    (hgone : ∀ id ∈ main, ¬ pool.Runs id) :
    (pool.releaseOverlap permit).Sound
      (Function.update claims i (some ⟨slot, some worker, none⟩)) := by
  have hclaim := h.claim i _ hc
  have hover {w : SlotWorker} (hw : ¬ (pool.releaseOverlap permit).Overlapping w) :
      ¬ pool.Overlapping w ∨ w.overlap = some permit := by
    by_cases hpermit : w.overlap = some permit
    · exact .inr hpermit
    · refine .inl fun ⟨other, hother, hout⟩ => hw ⟨other, hother, ?_⟩
      refine Semaphore.mem_release.mpr ⟨hout, ?_⟩
      rintro rfl
      exact hpermit hother
  have hstable : ∀ w ∈ pool.workers, w.slot = slot → ¬ pool.Overlapping w → False := by
    intro w hw heq hnot
    exact hgone w.id (hclaim.main_only w hw heq hnot) ⟨w, hw, rfl⟩
  have hspare : ∀ w ∈ pool.workers, w.overlap = some permit → worker = w.id ∧ w.slot = slot := by
    intro w hw heq
    obtain ⟨hid, hslot⟩ := hclaim.spare_worker _ rfl w hw heq
    exact ⟨Option.some.inj hid, hslot⟩
  refine h.update ?_ ?_ ?_ ?_
  · refine { h.workers with stable_unique := ?_ }
    intro w hw w' hw' hnot hnot' heq
    rcases hover hnot with hw₁ | hw₁ <;> rcases hover hnot' with hw₂ | hw₂
    · exact h.workers.stable_unique w hw w' hw' hw₁ hw₂ heq
    · exact (hstable w hw (heq.trans (hspare w' hw' hw₂).2) hw₁).elim
    · exact (hstable w' hw' (heq.symm.trans (hspare w hw hw₁).2) hw₂).elim
    · exact h.workers.overlap_unique w hw w' hw' permit hw₁ hw₂
  · intro j hj c' hc'
    have hclaim' := h.claim j c' hc'
    have hapart := h.apart i j (Ne.symm hj) _ hc c' hc'
    refine { hclaim' with main_only := ?_, spare_out := ?_ }
    · intro w hw heq hnot
      rcases hover hnot with hw₁ | hw₁
      · exact hclaim'.main_only w hw heq hw₁
      · exact absurd ((hspare w hw hw₁).2.symm.trans heq) hapart.slot
    · intro spare hs
      exact Semaphore.mem_release.mpr
        ⟨hclaim'.spare_out spare hs, (hapart.spare _ rfl spare hs).symm⟩
  · rintro _ ⟨⟩
    refine ⟨hclaim.out, fun w hw heq hnot => ?_, by simp, by simp⟩
    rcases hover hnot with hw₁ | hw₁
    · exact (hstable w hw heq hw₁).elim
    · rw [(hspare w hw hw₁).1]
  · rintro j hj c' hc' _ ⟨⟩
    exact ⟨(h.apart i j (Ne.symm hj) _ hc c' hc').slot, by simp⟩

omit [DecidableEq ι] in
/-- A worker is gone. -/
theorem Sound.finish (h : pool.Sound claims) (worker : ℕ) : (pool.finish worker).Sound claims := by
  have hmem {w : SlotWorker} (hw : w ∈ (pool.finish worker).workers) : w ∈ pool.workers :=
    List.mem_of_mem_filter hw
  have hw := h.workers
  refine ⟨⟨?_, ?_, ?_, ?_, ?_, ?_⟩, ?_, h.apart⟩
  · exact (List.filter_sublist.map _).nodup hw.ids
  · exact fun w hw' => hw.id_fresh w (hmem hw')
  · exact fun w hw' => hw.slot_out w (hmem hw')
  · exact fun w hw' => hw.overlap_fresh w (hmem hw')
  · exact fun w hw' w' hw'' => hw.overlap_unique w (hmem hw') w' (hmem hw'')
  · exact fun w hw' w' hw'' => hw.stable_unique w (hmem hw') w' (hmem hw'')
  · intro j c hc
    have hclaim := h.claim j c hc
    exact { hclaim with
      main_only := fun w hw' => hclaim.main_only w (hmem hw')
      spare_worker := fun spare hs w hw' => hclaim.spare_worker spare hs w (hmem hw') }

omit [DecidableEq ι] in
/-- Slots and permits that no worker and no claim holds may come back at any time. -/
theorem Sound.retain (h : pool.Sound claims) {keepSlot keepOverlap : ℕ → Bool}
    (hworkers : ∀ w ∈ pool.workers, keepSlot w.slot = true
      ∧ ∀ permit ∈ w.overlap, keepOverlap permit = true)
    (hclaims : ∀ i, ∀ c ∈ claims i, keepSlot c.slot = true
      ∧ ∀ spare ∈ c.spare, keepOverlap spare.1 = true) :
    (pool.retain keepSlot keepOverlap).Sound claims := by
  have hover {w : SlotWorker} (hw : w ∈ pool.workers)
      (hnot : ¬ (pool.retain keepSlot keepOverlap).Overlapping w) : ¬ pool.Overlapping w := by
    rintro ⟨permit, hp, hout⟩
    exact hnot ⟨permit, hp, Semaphore.mem_retain.mpr ⟨hout, (hworkers w hw).2 permit hp⟩⟩
  have hw := h.workers
  refine ⟨{ hw with slot_out := ?_, stable_unique := ?_ }, ?_, h.apart⟩
  · exact fun w hw' => Semaphore.mem_retain.mpr ⟨hw.slot_out w hw', (hworkers w hw').1⟩
  · exact fun w hw₁ w' hw₂ hnot hnot' =>
      hw.stable_unique w hw₁ w' hw₂ (hover hw₁ hnot) (hover hw₂ hnot')
  · intro j c hc
    have hclaim := h.claim j c hc
    obtain ⟨hslot, hspare⟩ := hclaims j c hc
    exact { hclaim with
      out := Semaphore.mem_retain.mpr ⟨hclaim.out, hslot⟩
      main_only := fun w hw' heq hnot => hclaim.main_only w hw' heq (hover hw' hnot)
      spare_out := fun spare hs =>
        Semaphore.mem_retain.mpr ⟨hclaim.spare_out spare hs, hspare spare hs⟩ }

end rules

section bounds
variable {pool : SlotPool capacity}

/-- An injection on a list into another list bounds its length. -/
theorem length_le_of_injOn {α β : Type*} {xs : List α} {ys : List β} (f : α → β)
    (hxs : xs.Nodup) (hinj : ∀ x ∈ xs, ∀ x' ∈ xs, f x = f x' → x = x')
    (hf : ∀ x ∈ xs, f x ∈ ys) : xs.length ≤ ys.length := by
  have hnodup : (xs.map f).Nodup := (List.nodup_map_iff_inj_on hxs).mpr hinj
  have hsub : xs.map f ⊆ ys := by
    intro y hy
    obtain ⟨x, hx, rfl⟩ := List.mem_map.mp hy
    exact hf x hx
  simpa using (hnodup.subperm hsub).length_le

theorem WorkersSound.nodup (h : pool.WorkersSound) : pool.workers.Nodup :=
  List.Nodup.of_map _ h.ids

/-- At most one worker overlaps another one. -/
theorem WorkersSound.overlapping_le (h : pool.WorkersSound) :
    (pool.workers.filter pool.Overlapping).length ≤ 1 := by
  have hsome : ∀ w ∈ pool.workers.filter pool.Overlapping,
      ∃ permit, w.overlap = some permit ∧ permit ∈ pool.overlaps.out := by
    intro w hw
    obtain ⟨-, hover⟩ := List.mem_filter.mp hw
    obtain ⟨permit, hp, hout⟩ := of_decide_eq_true hover
    exact ⟨permit, hp, hout⟩
  refine (length_le_of_injOn (fun w => w.overlap.getD 0) (h.nodup.filter _) ?_ ?_).trans
    pool.overlaps.length_le
  · intro w hw w' hw' heq
    obtain ⟨permit, hp, -⟩ := hsome w hw
    obtain ⟨permit', hp', -⟩ := hsome w' hw'
    have hsame : permit = permit' := by simpa [hp, hp'] using heq
    exact h.overlap_unique w (List.mem_of_mem_filter hw) w' (List.mem_of_mem_filter hw') permit hp
      (hsame ▸ hp')
  · intro w hw
    obtain ⟨permit, hp, hout⟩ := hsome w hw
    simpa [hp] using hout

/-- Every other worker has a slot of its own. -/
theorem WorkersSound.stable_le (h : pool.WorkersSound) :
    (pool.workers.filter fun w => ¬ pool.Overlapping w).length ≤ pool.slots.out.length := by
  refine length_le_of_injOn (·.slot) (h.nodup.filter _) ?_ ?_
  · intro w hw w' hw' heq
    obtain ⟨hmem, hnot⟩ := List.mem_filter.mp hw
    obtain ⟨hmem', hnot'⟩ := List.mem_filter.mp hw'
    exact h.stable_unique w hmem w' hmem' (of_decide_eq_true hnot) (of_decide_eq_true hnot') heq
  · exact fun w hw => h.slot_out w (List.mem_of_mem_filter hw)

/-- One worker more than the slots allow runs at most. -/
theorem WorkersSound.length_le (h : pool.WorkersSound) : pool.workers.length ≤ capacity + 1 := by
  have hsplit := pool.workers.length_eq_length_filter_add (fun w => decide (pool.Overlapping w))
  have hover := h.overlapping_le
  have hstable := h.stable_le
  have hslots := pool.slots.length_le
  simp only [decide_not] at hstable
  omega

end bounds
end SlotPool
end PepeAudio
