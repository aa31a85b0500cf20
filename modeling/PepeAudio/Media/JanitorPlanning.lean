import PepeAudio.Lib.Counter
import Mathlib.Data.List.Sort

/-!
# Which cached files are removed

Files past their age go first. While the rest is still over the limit, the oldest
objects go, one after the other. A leased file counts but is never removed.
Instants and durations are in nanoseconds.
-/
namespace PepeAudio.Janitor

inductive ManagedKind where
  | staging
  | object
  deriving DecidableEq, Repr

inductive RemovalReason where
  | stagingExpired
  | objectExpired
  | capacity
  deriving DecidableEq, Repr

structure Candidate (Path : Type) where
  path : Path
  kind : ManagedKind
  sizeBytes : UInt64
  modified : ℤ
  leased : Bool
  deriving DecidableEq, Repr

structure Policy where
  stagingTtl : ℕ
  objectTtl : ℕ
  /-- Young objects are protected from eviction for capacity. -/
  minimumObjectRetention : ℕ
  maxTotalBytes : UInt64

structure Plan where
  index : ℕ
  reason : RemovalReason
  deriving DecidableEq, Repr

/-- An instant in the future has no age. -/
def oldEnough (now modified : ℤ) (minimumAge : ℕ) : Bool :=
  modified ≤ now && minimumAge ≤ now - modified

/-- The age a file must have to be removed for a reason. -/
def Policy.minimumAge (policy : Policy) : RemovalReason → ℕ
  | .stagingExpired => policy.stagingTtl
  | .objectExpired => policy.objectTtl
  | .capacity => policy.minimumObjectRetention

variable {Path : Type}

def expiryReason (policy : Policy) (now : ℤ) (candidate : Candidate Path) :
    Option RemovalReason :=
  match candidate.kind with
  | .staging =>
    if oldEnough now candidate.modified policy.stagingTtl then some .stagingExpired else none
  | .object =>
    if oldEnough now candidate.modified policy.objectTtl then some .objectExpired else none

/-- What the first loop has found so far. -/
structure Planning where
  plans : List Plan
  planned : List Bool
  retained : UInt64

/-- The first loop, over the candidates with their indices. -/
def planExpired (policy : Policy) (now : ℤ) :
    List (Candidate Path × ℕ) → Planning → Planning
  | [], planning => planning
  | (candidate, index) :: rest, planning =>
    if candidate.leased then planExpired policy now rest planning
    else match expiryReason policy now candidate with
      | some reason => planExpired policy now rest
          { plans := planning.plans ++ [⟨index, reason⟩]
            planned := planning.planned.set index true
            retained := saturatingSub planning.retained candidate.sizeBytes }
      | none => planExpired policy now rest planning

/-- Whether an object may be removed for capacity. -/
def evictable (policy : Policy) (now : ℤ) (candidate : Candidate Path) : Bool :=
  !candidate.leased && candidate.kind = .object &&
    oldEnough now candidate.modified policy.minimumObjectRetention

/-- The oldest one first, and by path among those of one instant. -/
def Before [LinearOrder Path] (left right : Candidate Path × ℕ) : Prop :=
  left.1.modified < right.1.modified ∨
    left.1.modified = right.1.modified ∧ left.1.path ≤ right.1.path

instance [LinearOrder Path] : DecidableRel (Before : Candidate Path × ℕ → _ → Prop) :=
  fun _ _ => inferInstanceAs (Decidable (_ ∨ _))

/-- The second loop, over the sorted candidates. -/
def evict (maxTotalBytes : UInt64) : List (Candidate Path × ℕ) → UInt64 → List Plan
  | [], _ => []
  | (candidate, index) :: rest, retained =>
    if retained ≤ maxTotalBytes then []
    else ⟨index, .capacity⟩ :: evict maxTotalBytes rest (saturatingSub retained candidate.sizeBytes)

def quotaCandidates (policy : Policy) (now : ℤ) (planned : List Bool)
    (candidates : List (Candidate Path)) : List (Candidate Path × ℕ) :=
  candidates.zipIdx.filter fun entry =>
    !(planned[entry.2]?.getD false) && evictable policy now entry.1

def planRemovals [LinearOrder Path] (candidates : List (Candidate Path)) (policy : Policy)
    (now : ℤ) (observedBytes : UInt64) : List Plan :=
  let planning := planExpired policy now candidates.zipIdx
    ⟨[], List.replicate candidates.length false, observedBytes⟩
  let sorted := (quotaCandidates policy now planning.planned candidates).insertionSort Before
  planning.plans ++ evict policy.maxTotalBytes sorted planning.retained

def sizeAt (candidates : List (Candidate Path)) (index : ℕ) : ℕ :=
  (candidates[index]?.map fun candidate => candidate.sizeBytes.toNat).getD 0

/-- The sizes of the planned files. -/
def plannedBytes (candidates : List (Candidate Path)) (plans : List Plan) : ℕ :=
  (plans.map fun plan => sizeAt candidates plan.index).sum

/-- What is left of the observed bytes once the planned files are gone. -/
def retainedBytes (candidates : List (Candidate Path)) (observed : UInt64) (plans : List Plan) :
    ℕ :=
  observed.toNat - plannedBytes candidates plans

section Accounting

variable {candidates : List (Candidate Path)} {observed retained : UInt64} {plans : List Plan}

theorem sizeAt_of_getElem? {index : ℕ} {candidate : Candidate Path}
    (h : candidates[index]? = some candidate) :
    sizeAt candidates index = candidate.sizeBytes.toNat := by
  rw [sizeAt, h]
  rfl

@[simp] theorem plannedBytes_append (more : List Plan) :
    plannedBytes candidates (plans ++ more) =
      plannedBytes candidates plans + plannedBytes candidates more := by
  simp [plannedBytes]

/-- Subtracting the size of one more file. -/
theorem retainedBytes_append_singleton {index : ℕ} {candidate : Candidate Path}
    (h : candidates[index]? = some candidate) (reason : RemovalReason)
    (hretained : retained.toNat = retainedBytes candidates observed plans) :
    (saturatingSub retained candidate.sizeBytes).toNat =
      retainedBytes candidates observed (plans ++ [⟨index, reason⟩]) := by
  have hone : plannedBytes candidates [⟨index, reason⟩] = candidate.sizeBytes.toNat := by
    simp [plannedBytes, sizeAt_of_getElem? h]
  rw [toNat_saturatingSub, hretained]
  unfold retainedBytes
  rw [plannedBytes_append, hone]
  omega

end Accounting

section Expired

variable {candidates : List (Candidate Path)} {policy : Policy} {now : ℤ} {observed : UInt64}

/-- The plan for a file that is past its age. -/
def agedPlan (policy : Policy) (now : ℤ) (entry : Candidate Path × ℕ) : Option Plan :=
  if entry.1.leased then none
  else (expiryReason policy now entry.1).map fun reason => ⟨entry.2, reason⟩

theorem agedPlan_eq_some {entry : Candidate Path × ℕ} {plan : Plan}
    (h : agedPlan policy now entry = some plan) :
    entry.1.leased = false ∧ plan.index = entry.2 ∧
      expiryReason policy now entry.1 = some plan.reason := by
  unfold agedPlan at h
  split_ifs at h with hleased
  obtain ⟨reason, hreason, rfl⟩ := Option.map_eq_some_iff.mp h
  exact ⟨Bool.eq_false_iff.mpr hleased, rfl, hreason⟩

/-- What the planning knows between two candidates. -/
structure Planning.Sound (candidates : List (Candidate Path)) (observed : UInt64)
    (planning : Planning) : Prop where
  length : planning.planned.length = candidates.length
  recorded : ∀ index < candidates.length, planning.planned[index]?.getD false = true ↔
    index ∈ planning.plans.map Plan.index
  retained : planning.retained.toNat = retainedBytes candidates observed planning.plans

theorem Planning.Sound.plan {planning : Planning} (h : planning.Sound candidates observed)
    {index : ℕ} {candidate : Candidate Path} (hcandidate : candidates[index]? = some candidate)
    (reason : RemovalReason) :
    Planning.Sound candidates observed
      { plans := planning.plans ++ [⟨index, reason⟩]
        planned := planning.planned.set index true
        retained := saturatingSub planning.retained candidate.sizeBytes } := by
  refine ⟨by rw [List.length_set, h.length], ?_,
    retainedBytes_append_singleton hcandidate reason h.retained⟩
  intro other hother
  have hlength := h.length
  rw [List.map_append, List.mem_append, List.getElem?_set]
  by_cases hsame : index = other
  · subst hsame
    simp [hlength, hother]
  · have hrecorded := h.recorded other hother
    simp only [if_neg hsame, hrecorded]
    simp [Ne.symm hsame]

/-- The loop plans the aged files in their order; the induction is on the candidates still to be
looked at. -/
theorem planExpired_sound {entries : List (Candidate Path × ℕ)} {planning : Planning}
    (hentries : ∀ entry ∈ entries, candidates[entry.2]? = some entry.1)
    (h : planning.Sound candidates observed) :
    (planExpired policy now entries planning).Sound candidates observed ∧
      (planExpired policy now entries planning).plans =
        planning.plans ++ entries.filterMap (agedPlan policy now) := by
  induction entries generalizing planning with
  | nil => exact ⟨h, by simp [planExpired]⟩
  | cons entry entries ih =>
    obtain ⟨candidate, index⟩ := entry
    have hrest : ∀ entry ∈ entries, candidates[entry.2]? = some entry.1 :=
      fun entry hentry => hentries entry (List.mem_cons_of_mem _ hentry)
    have hcandidate := hentries _ List.mem_cons_self
    unfold planExpired
    by_cases hleased : candidate.leased = true
    · have hnone : agedPlan policy now (candidate, index) = none := by simp [agedPlan, hleased]
      rw [if_pos hleased, List.filterMap_cons_none hnone]
      exact ih hrest h
    · rw [if_neg hleased]
      cases hreason : expiryReason policy now candidate with
      | none =>
        have hnone : agedPlan policy now (candidate, index) = none := by
          simp [agedPlan, hleased, hreason]
        rw [List.filterMap_cons_none hnone]
        exact ih hrest h
      | some reason =>
        have hsome : agedPlan policy now (candidate, index) = some ⟨index, reason⟩ := by
          simp [agedPlan, hleased, hreason]
        have hplanned := ih hrest (h.plan hcandidate reason)
        rw [List.filterMap_cons_some hsome]
        simp only
        exact ⟨hplanned.1, by rw [hplanned.2]; simp⟩

end Expired

section Evicted

variable {candidates : List (Candidate Path)} {observed maximum : UInt64}

/-- The plans that remove some objects for capacity. -/
def capacityPlans (entries : List (Candidate Path × ℕ)) : List Plan :=
  entries.map fun entry => ⟨entry.2, .capacity⟩

/-- The loop takes objects from the front until the rest is within the limit. -/
theorem evict_spec {entries : List (Candidate Path × ℕ)} {retained : UInt64} {plans : List Plan}
    (hentries : ∀ entry ∈ entries, candidates[entry.2]? = some entry.1)
    (hretained : retained.toNat = retainedBytes candidates observed plans) :
    ∃ count ≤ entries.length, evict maximum entries retained = capacityPlans (entries.take count) ∧
      (∀ fewer < count, maximum.toNat <
        retainedBytes candidates observed (plans ++ capacityPlans (entries.take fewer))) ∧
      (retainedBytes candidates observed (plans ++ capacityPlans (entries.take count)) ≤
        maximum.toNat ∨ count = entries.length) := by
  induction entries generalizing retained plans with
  | nil => exact ⟨0, le_rfl, rfl, by simp, Or.inr rfl⟩
  | cons entry entries ih =>
    obtain ⟨candidate, index⟩ := entry
    unfold evict
    by_cases hwithin : retained ≤ maximum
    · refine ⟨0, Nat.zero_le _, if_pos hwithin, by simp, Or.inl ?_⟩
      rw [List.take_zero, capacityPlans, List.map_nil, List.append_nil, ← hretained]
      exact UInt64.le_iff_toNat_le.mp hwithin
    · have hstep :=
        retainedBytes_append_singleton (hentries _ List.mem_cons_self) .capacity hretained
      obtain ⟨count, hcount, hevict, hfewer, hend⟩ :=
        ih (fun entry hentry => hentries entry (List.mem_cons_of_mem _ hentry)) hstep
      have hmore : ∀ n, plans ++ capacityPlans (((candidate, index) :: entries).take (n + 1)) =
          plans ++ [⟨index, .capacity⟩] ++ capacityPlans (entries.take n) := by
        intro n
        simp [capacityPlans]
      refine ⟨count + 1, Nat.succ_le_succ hcount, ?_, ?_, ?_⟩
      · rw [if_neg hwithin, hevict]
        rfl
      · intro fewer hlt
        cases fewer with
        | zero =>
          rw [List.take_zero, capacityPlans, List.map_nil, List.append_nil, ← hretained]
          exact Nat.lt_of_not_le fun hle => hwithin (UInt64.le_iff_toNat_le.mpr hle)
        | succ fewer =>
          rw [hmore]
          exact hfewer fewer (by omega)
      · rw [hmore, List.length_cons]
        rcases hend with hend | hend
        · exact Or.inl hend
        · exact Or.inr (congrArg Nat.succ hend)

end Evicted

section Whole

variable {candidates : List (Candidate Path)} {policy : Policy} {now : ℤ}

def RemovalReason.kind : RemovalReason → ManagedKind
  | .stagingExpired => .staging
  | .objectExpired | .capacity => .object

theorem expiryReason_eq_some {candidate : Candidate Path} {reason : RemovalReason}
    (h : expiryReason policy now candidate = some reason) :
    reason ≠ .capacity ∧ candidate.kind = reason.kind ∧
      oldEnough now candidate.modified (policy.minimumAge reason) = true := by
  unfold expiryReason at h
  cases hkind : candidate.kind <;> rw [hkind] at h <;> dsimp only at h <;>
    split_ifs at h with hold <;> obtain rfl := Option.some.inj h <;>
    exact ⟨by simp, rfl, hold⟩

def agedPlans (policy : Policy) (now : ℤ) (candidates : List (Candidate Path)) : List Plan :=
  candidates.zipIdx.filterMap (agedPlan policy now)

/-- The unleased objects that are not planned for their age. -/
def remaining (policy : Policy) (now : ℤ) (candidates : List (Candidate Path)) :
    List (Candidate Path × ℕ) :=
  candidates.zipIdx.filter fun entry => !entry.1.leased && entry.1.kind = .object &&
    entry.2 ∉ (agedPlans policy now candidates).map Plan.index

theorem getElem?_of_mem_zipIdx {entry : Candidate Path × ℕ} (h : entry ∈ candidates.zipIdx) :
    candidates[entry.2]? = some entry.1 :=
  List.mem_zipIdx_iff_getElem?.mp h

/-- The second loop looks at the remaining objects that are old enough for it. -/
theorem quotaCandidates_eq {planning : Planning} {observed : UInt64}
    (h : planning.Sound candidates observed)
    (hplans : planning.plans = agedPlans policy now candidates) :
    quotaCandidates policy now planning.planned candidates =
      (remaining policy now candidates).filter fun entry =>
        oldEnough now entry.1.modified policy.minimumObjectRetention := by
  unfold quotaCandidates remaining
  rw [List.filter_filter]
  refine List.filter_congr fun entry hentry => ?_
  have hlt : entry.2 < candidates.length :=
    (List.getElem?_eq_some_iff.mp (getElem?_of_mem_zipIdx hentry)).1
  have hrecorded := h.recorded entry.2 hlt
  rw [hplans] at hrecorded
  unfold evictable
  cases hplanned : planning.planned[entry.2]?.getD false with
  | true =>
    have hmem := hrecorded.mp hplanned
    simp [hmem]
  | false =>
    have hmem : entry.2 ∉ (agedPlans policy now candidates).map Plan.index := fun hmem => by
      rw [hrecorded.mpr hmem] at hplanned
      contradiction
    simp [hmem, Bool.and_comm]

/-- Objects old enough to go come before those that are not. -/
theorem before_of_oldEnough [LinearOrder Path] {minimum : ℕ} {old young : Candidate Path × ℕ}
    (hold : oldEnough now old.1.modified minimum = true)
    (hyoung : ¬ oldEnough now young.1.modified minimum = true) : Before old young := by
  refine Or.inl ?_
  simp only [oldEnough, Bool.and_eq_true, decide_eq_true_eq] at hold hyoung
  omega

instance [LinearOrder Path] : IsTrans (Candidate Path × ℕ) Before where
  trans _ _ _ := by
    rintro (h | ⟨h, hle⟩) (h' | ⟨h', hle'⟩)
    · exact Or.inl (h.trans h')
    · exact Or.inl (h' ▸ h)
    · exact Or.inl (h ▸ h')
    · exact Or.inr ⟨h.trans h', hle.trans hle'⟩

instance [LinearOrder Path] : Std.Total (Before : Candidate Path × ℕ → _ → Prop) where
  total left right := by
    rcases lt_trichotomy left.1.modified right.1.modified with h | h | h
    · exact Or.inl (Or.inl h)
    · exact (le_total left.1.path right.1.path).imp (fun hle => Or.inr ⟨h, hle⟩)
        fun hle => Or.inr ⟨h.symm, hle⟩
    · exact Or.inr (Or.inl h)

theorem agedPlans_sublist :
    ((agedPlans policy now candidates).map Plan.index).Sublist
      (candidates.zipIdx.map Prod.snd) := by
  unfold agedPlans
  generalize candidates.zipIdx = entries
  induction entries with
  | nil => exact List.Sublist.refl _
  | cons entry entries ih =>
    cases hplan : agedPlan policy now entry with
    | none =>
      rw [List.filterMap_cons_none hplan]
      exact ih.cons _
    | some plan =>
      rw [List.filterMap_cons_some hplan, List.map_cons, List.map_cons,
        (agedPlan_eq_some hplan).2.1]
      exact ih.cons_cons _

/-- Before the first candidate nothing is planned. -/
theorem Planning.sound_start (candidates : List (Candidate Path)) (observed : UInt64) :
    Planning.Sound candidates observed
      ⟨[], List.replicate candidates.length false, observed⟩ := by
  refine ⟨List.length_replicate, ?_, rfl⟩
  intro index hlt
  simp [hlt]

/-- No plan is for a leased file, or for one too young for its reason. -/
def Plan.Justified (policy : Policy) (now : ℤ) (candidates : List (Candidate Path))
    (plan : Plan) : Prop :=
  ∃ candidate, candidates[plan.index]? = some candidate ∧ candidate.leased = false ∧
    candidate.kind = plan.reason.kind ∧
    oldEnough now candidate.modified (policy.minimumAge plan.reason) = true

theorem agedPlans_justified {plan : Plan} (h : plan ∈ agedPlans policy now candidates) :
    plan.Justified policy now candidates := by
  obtain ⟨entry, hentry, hplan⟩ := List.mem_filterMap.mp h
  obtain ⟨hleased, hindex, hreason⟩ := agedPlan_eq_some hplan
  obtain ⟨-, hkind, hold⟩ := expiryReason_eq_some hreason
  exact ⟨entry.1, hindex ▸ getElem?_of_mem_zipIdx hentry, hleased, hkind, hold⟩

theorem capacityPlans_justified {entries : List (Candidate Path × ℕ)} {plan : Plan}
    (hentries : ∀ entry ∈ entries, entry ∈ remaining policy now candidates ∧
      oldEnough now entry.1.modified policy.minimumObjectRetention = true)
    (h : plan ∈ capacityPlans entries) : plan.Justified policy now candidates := by
  obtain ⟨entry, hentry, rfl⟩ := List.mem_map.mp h
  obtain ⟨hremaining, hold⟩ := hentries entry hentry
  obtain ⟨hmem, hobject⟩ := List.mem_filter.mp hremaining
  simp only [Bool.and_eq_true, Bool.not_eq_true', decide_eq_true_eq] at hobject
  exact ⟨entry.1, getElem?_of_mem_zipIdx hmem, hobject.1.1, hobject.1.2, hold⟩

variable [LinearOrder Path]

/-- The remaining objects that may go for capacity, the oldest one first. -/
def oldObjects (policy : Policy) (now : ℤ) (candidates : List (Candidate Path)) :
    List (Candidate Path × ℕ) :=
  ((remaining policy now candidates).filter fun entry =>
    oldEnough now entry.1.modified policy.minimumObjectRetention).insertionSort Before

/-- The remaining objects in the order of their removal. Those that are too young come last. -/
def evictionOrder (policy : Policy) (now : ℤ) (candidates : List (Candidate Path)) :
    List (Candidate Path × ℕ) :=
  oldObjects policy now candidates ++
    ((remaining policy now candidates).filter fun entry =>
      !oldEnough now entry.1.modified policy.minimumObjectRetention).insertionSort Before

theorem mem_oldObjects {entry : Candidate Path × ℕ} (h : entry ∈ oldObjects policy now candidates) :
    entry ∈ remaining policy now candidates ∧
      oldEnough now entry.1.modified policy.minimumObjectRetention = true :=
  List.mem_filter.mp ((List.mem_insertionSort _).mp h)

theorem evictionOrder_perm :
    (evictionOrder policy now candidates).Perm (remaining policy now candidates) :=
  ((List.perm_insertionSort _ _).append (List.perm_insertionSort _ _)).trans
    (List.filter_append_perm _ _)

theorem evictionOrder_pairwise :
    (evictionOrder policy now candidates).Pairwise Before := by
  unfold evictionOrder
  rw [List.pairwise_append]
  refine ⟨List.pairwise_insertionSort _ _, List.pairwise_insertionSort _ _, ?_⟩
  intro old hold young hyoung
  have hyoung' := (List.mem_filter.mp ((List.mem_insertionSort _).mp hyoung)).2
  exact before_of_oldEnough (mem_oldObjects hold).2 (by simpa using hyoung')

/-- Different entries have different indices. -/
theorem oldObjects_nodup : ((oldObjects policy now candidates).map Prod.snd).Nodup := by
  have hperm := (List.perm_insertionSort Before ((remaining policy now candidates).filter
    fun entry => oldEnough now entry.1.modified policy.minimumObjectRetention)).map Prod.snd
  have hsub : ((remaining policy now candidates).filter fun entry =>
      oldEnough now entry.1.modified policy.minimumObjectRetention).Sublist candidates.zipIdx :=
    List.filter_sublist.trans List.filter_sublist
  refine hperm.nodup_iff.mpr ((hsub.map Prod.snd).nodup ?_)
  rw [List.zipIdx_map_snd]
  exact List.nodup_range'

/-- Both loops together. -/
theorem planRemovals_eq (observed : UInt64) :
    ∃ count ≤ (oldObjects policy now candidates).length,
      planRemovals candidates policy now observed = agedPlans policy now candidates ++
        capacityPlans ((oldObjects policy now candidates).take count) ∧
      (∀ fewer < count, policy.maxTotalBytes.toNat < retainedBytes candidates observed
        (agedPlans policy now candidates ++
          capacityPlans ((oldObjects policy now candidates).take fewer))) ∧
      (retainedBytes candidates observed (agedPlans policy now candidates ++
          capacityPlans ((oldObjects policy now candidates).take count)) ≤
        policy.maxTotalBytes.toNat ∨ count = (oldObjects policy now candidates).length) := by
  have hplanned : (planExpired policy now candidates.zipIdx _).Sound candidates observed ∧ _ =
      [] ++ agedPlans policy now candidates :=
    planExpired_sound (fun _ => getElem?_of_mem_zipIdx) (Planning.sound_start candidates observed)
  obtain ⟨hsound, hplans⟩ := hplanned
  have hold := quotaCandidates_eq hsound hplans
  have hentries : ∀ entry ∈ oldObjects policy now candidates,
      candidates[entry.2]? = some entry.1 := fun entry hentry =>
    getElem?_of_mem_zipIdx (List.mem_filter.mp (mem_oldObjects hentry).1).1
  have hretained := hsound.retained
  rw [hplans] at hretained
  obtain ⟨count, hcount, hevict, hfewer, hend⟩ := evict_spec hentries hretained
  refine ⟨count, hcount, ?_, hfewer, hend⟩
  unfold planRemovals
  dsimp only
  rw [hold, hplans]
  exact congrArg (agedPlans policy now candidates ++ ·) hevict

omit [LinearOrder Path] in
theorem map_index_capacityPlans (entries : List (Candidate Path × ℕ)) :
    (capacityPlans entries).map Plan.index = entries.map Prod.snd := by
  rw [capacityPlans, List.map_map]
  rfl

/-- A plan removes no leased file and no file twice, each for a reason it is old enough for. For
capacity it removes, beside the aged files, the shortest front of the remaining objects that
brings the rest within the limit, or all that may go. -/
theorem planRemovals_exact (candidates : List (Candidate Path)) (policy : Policy) (now : ℤ)
    (observed : UInt64) :
    ((planRemovals candidates policy now observed).map Plan.index).Nodup ∧
    (∀ plan ∈ planRemovals candidates policy now observed,
      plan.Justified policy now candidates) ∧
    ∃ (order : List (Candidate Path × ℕ)) (count : ℕ), planRemovals candidates policy now observed =
        agedPlans policy now candidates ++ capacityPlans (order.take count) ∧
      order.Perm (remaining policy now candidates) ∧ order.Pairwise Before ∧
      (∀ fewer < count, policy.maxTotalBytes.toNat < retainedBytes candidates observed
        (agedPlans policy now candidates ++ capacityPlans (order.take fewer))) ∧
      (retainedBytes candidates observed (planRemovals candidates policy now observed) ≤
          policy.maxTotalBytes.toNat ∨
        ∀ entry ∈ order, evictable policy now entry.1 = true → entry ∈ order.take count) := by
  obtain ⟨count, hcount, hplan, hfewer, hend⟩ :
      ∃ count ≤ (oldObjects policy now candidates).length,
        planRemovals candidates policy now observed = _ ∧ _ :=
    planRemovals_eq observed
  have htake : ∀ n ≤ (oldObjects policy now candidates).length,
      (evictionOrder policy now candidates).take n = (oldObjects policy now candidates).take n :=
    fun n hn => List.take_append_of_le_length hn
  have htaken : ∀ entry ∈ (oldObjects policy now candidates).take count,
      entry ∈ remaining policy now candidates ∧
        oldEnough now entry.1.modified policy.minimumObjectRetention = true :=
    fun entry hentry => mem_oldObjects (List.mem_of_mem_take hentry)
  refine ⟨?_, ?_, evictionOrder policy now candidates, count, ?_, evictionOrder_perm,
    evictionOrder_pairwise, ?_, ?_⟩
  · rw [hplan, List.map_append, map_index_capacityPlans, List.nodup_append]
    refine ⟨agedPlans_sublist.nodup ?_,
      ((List.take_sublist _ _).map Prod.snd).nodup oldObjects_nodup, ?_⟩
    · rw [List.zipIdx_map_snd]
      exact List.nodup_range'
    · rintro index haged _ hcapacity rfl
      obtain ⟨entry, hentry, rfl⟩ := List.mem_map.mp hcapacity
      have hremaining := (List.mem_filter.mp (htaken entry hentry).1).2
      simp only [Bool.and_eq_true, decide_eq_true_eq] at hremaining
      exact hremaining.2 haged
  · intro plan hmem
    rw [hplan, List.mem_append] at hmem
    exact hmem.elim agedPlans_justified (capacityPlans_justified htaken)
  · rw [htake count hcount]
    exact hplan
  · intro fewer hlt
    rw [htake fewer (hlt.le.trans hcount)]
    exact hfewer fewer hlt
  · rw [hplan, htake count hcount]
    refine hend.imp id fun hall entry hentry hevictable => ?_
    rw [hall, List.take_length]
    simp only [evictable, Bool.and_eq_true] at hevictable
    exact (List.mem_insertionSort _).mpr
      (List.mem_filter.mpr ⟨evictionOrder_perm.mem_iff.mp hentry, hevictable.2⟩)

end Whole

end PepeAudio.Janitor
