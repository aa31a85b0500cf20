import PepeAudio.Lib.Reinsert
import PepeAudio.Player.Shuffle

/-!
# Every access of a shuffle is in range

The helpers once more with what can panic in them written out: the assertion and the
conversion of a draw, the swap outside the values and the insertion outside the queue.
-/
namespace PepeAudio

/-- `usize::MAX`. -/
def SplitMix64.largestIndex : ℕ := 2 ^ 64 - 1

/-- `index`: `none` where the assertion or the conversion panics. -/
def SplitMix64.checkedIndex (random : SplitMix64) (upper : ℕ) : Option (ℕ × SplitMix64) :=
  if upper = 0 then none
  else
    let (value, random) := random.next
    let index := value.toNat % upper
    if index ≤ SplitMix64.largestIndex then some (index, random) else none

variable {α : Type}

/-- `swap` of a slice: `none` outside of it. -/
def checkedSwap (values : Array α) (i j : ℕ) : Option (Array α) :=
  if h : i < values.size ∧ j < values.size then some (values.swap i j h.1 h.2) else none

/-- `VecDeque::insert`: `none` behind the end of the queue. -/
def checkedInsert (queue : List α) (index : ℕ) (value : α) : Option (List α) :=
  if index ≤ queue.length then some (queue.insertIdx index value) else none

/-- One round of the loop of `shuffle_queue`. -/
def shuffleRound (state : Array α × SplitMix64) (upper : ℕ) :
    Option (Array α × SplitMix64) := do
  let (index, random) ← state.2.checkedIndex upper
  let values ← checkedSwap state.1 (upper - 1) index
  pure (values, random)

/-- `(2..=length).rev()`. -/
def shuffleUppers (length : ℕ) : List ℕ := (List.range' 2 (length - 1)).reverse

/-- `shuffle_queue` from any state of the generator. -/
def checkedShuffle (queue : List α) (random : SplitMix64) : Option (List α) := do
  let (values, _) ← (shuffleUppers queue.length).foldlM shuffleRound (queue.toArray, random)
  pure values.toList

/-- `insert_shuffled` from any state of the generator. -/
def checkedInsertShuffled (queue : List α) (value : α) (random : SplitMix64) :
    Option (List α) := do
  let (index, _) ← random.checkedIndex (min (queue.length + 1) SplitMix64.largestIndex)
  checkedInsert queue index value

theorem checkedIndex_eq (random : SplitMix64) {upper : ℕ} (hupper : 0 < upper) :
    random.checkedIndex upper
      = some ((random.index upper hupper).1.val, (random.index upper hupper).2) := by
  have hlt : random.next.1.toNat < 2 ^ 64 := random.next.1.toNat_lt
  have hle : random.next.1.toNat % upper ≤ random.next.1.toNat := Nat.mod_le _ _
  have hfits : random.next.1.toNat % upper ≤ SplitMix64.largestIndex := by
    unfold SplitMix64.largestIndex
    omega
  simp [SplitMix64.checkedIndex, SplitMix64.index, hfits, Nat.pos_iff_ne_zero.mp hupper]

/-- A draw below a positive bound succeeds, below the bound. -/
theorem checkedIndex_lt (random : SplitMix64) {upper : ℕ} (hupper : 0 < upper) :
    ∃ index random', random.checkedIndex upper = some (index, random') ∧ index < upper :=
  ⟨_, _, checkedIndex_eq random hupper, Fin.isLt _⟩

/-- A round whose bound is within the values swaps two of them. -/
theorem shuffleRound_perm (values : Array α) (random : SplitMix64) {upper : ℕ}
    (hlow : 2 ≤ upper) (hhigh : upper ≤ values.size) :
    ∃ values' random', shuffleRound (values, random) upper = some (values', random')
      ∧ values'.size = values.size ∧ values'.Perm values := by
  obtain ⟨index, random', hindex, hlt⟩ := checkedIndex_lt random (show 0 < upper by omega)
  have hrange : upper - 1 < values.size ∧ index < values.size := by omega
  refine ⟨values.swap (upper - 1) index hrange.1 hrange.2, random', ?_, ?_, ?_⟩
  · simp [shuffleRound, hindex, checkedSwap, hrange]
  · simp
  · exact Array.swap_perm hrange.1 hrange.2

/-- Rounds whose bounds are within the values permute them. -/
theorem shuffleRounds_perm (uppers : List ℕ) (values : Array α) (random : SplitMix64)
    (huppers : ∀ upper ∈ uppers, 2 ≤ upper ∧ upper ≤ values.size) :
    ∃ values' random', uppers.foldlM shuffleRound (values, random) = some (values', random')
      ∧ values'.Perm values := by
  induction uppers generalizing values random with
  | nil => exact ⟨values, random, rfl, Array.Perm.refl _⟩
  | cons upper uppers ih =>
    obtain ⟨hlow, hhigh⟩ := huppers upper List.mem_cons_self
    obtain ⟨values₁, random₁, hround, hsize, hperm⟩ :=
      shuffleRound_perm values random hlow hhigh
    have hrest : ∀ upper ∈ uppers, 2 ≤ upper ∧ upper ≤ values₁.size := by
      intro upper' hmem
      have := huppers upper' (List.mem_cons_of_mem _ hmem)
      omega
    obtain ⟨values₂, random₂, hrounds, hperm₂⟩ := ih values₁ random₁ hrest
    refine ⟨values₂, random₂, ?_, hperm₂.trans hperm⟩
    simp [List.foldlM_cons, hround, hrounds]

theorem mem_shuffleUppers {length upper : ℕ} (h : upper ∈ shuffleUppers length) :
    2 ≤ upper ∧ upper ≤ length := by
  simp only [shuffleUppers, List.mem_reverse, List.mem_range'_1] at h
  omega

/-- The rounds are those of the loop whose indices are in range by their type. -/
theorem shuffleRounds_eq {n : ℕ} (values : Vector α n) (random : SplitMix64) (upper : ℕ)
    (h : upper ≤ n) :
    ((shuffleUppers upper).foldlM shuffleRound (values.toArray, random)).map (·.1)
      = some (shuffleLoop values random upper h).toArray := by
  induction values, random, upper, h using shuffleLoop.induct with
  | case1 values random h => rfl
  | case2 values random h => rfl
  | case3 values random upper h index random' hdraw hindex ih =>
    have huppers : shuffleUppers (upper + 2) = (upper + 2) :: shuffleUppers (upper + 1) := by
      unfold shuffleUppers
      rw [show upper + 2 - 1 = upper + 1 from rfl, List.range'_concat]
      simp [Nat.add_comm]
    have hround : shuffleRound (values.toArray, random) (upper + 2)
        = some ((values.swap (upper + 1) index.val).toArray, random') := by
      have hindexed := checkedIndex_eq random (show 0 < upper + 2 by omega)
      rw [hdraw] at hindexed
      simp [shuffleRound, hindexed, checkedSwap, hindex, Nat.lt_of_succ_le h]
    rw [huppers, List.foldlM_cons, hround, shuffleLoop]
    simpa [hdraw] using ih

theorem checkedShuffle_eq (queue : List α) (seed : UInt64) :
    checkedShuffle queue (SplitMix64.new seed) = some (shuffleQueue queue seed) := by
  have h := shuffleRounds_eq (n := queue.length) ⟨queue.toArray, by simp⟩
    (SplitMix64.new seed) queue.length le_rfl
  obtain ⟨⟨values, random⟩, hrounds, hvalues⟩ := Option.map_eq_some_iff.mp h
  have hvalues' : values = _ := hvalues
  simp [checkedShuffle, hrounds, hvalues', shuffleQueue, Vector.toList]

theorem checkedInsertShuffled_eq (queue : List α) (value : α) (seed : UInt64)
    (h : queue.length < SplitMix64.largestIndex) :
    checkedInsertShuffled queue value (SplitMix64.new seed)
      = some (insertShuffled queue value seed) := by
  have hmin : min (queue.length + 1) SplitMix64.largestIndex = queue.length + 1 :=
    Nat.min_eq_left (Nat.succ_le_of_lt h)
  obtain ⟨⟨position, random'⟩, hdraw⟩ :
      ∃ draw, (SplitMix64.new seed).index (queue.length + 1) (Nat.succ_pos _) = draw := ⟨_, rfl⟩
  have hle : position.val ≤ queue.length := Nat.le_of_lt_succ position.isLt
  have hindexed := checkedIndex_eq (SplitMix64.new seed) (Nat.succ_pos queue.length)
  rw [hdraw] at hindexed
  rw [checkedInsertShuffled, hmin, hindexed, insertShuffled, hdraw]
  simp [checkedInsert, hle]

/-- Neither helper panics from any state of the generator; a shuffle permutes the queue, an
insertion splits it at one position and puts the new value there. -/
theorem shuffle_helpers_correct (queue : List α) (value : α) (random : SplitMix64) :
    (∃ shuffled, checkedShuffle queue random = some shuffled ∧ shuffled.Perm queue)
      ∧ ∃ position ≤ queue.length, checkedInsertShuffled queue value random
          = some (queue.take position ++ value :: queue.drop position) := by
  constructor
  · obtain ⟨values, random', hrounds, hperm⟩ :=
      shuffleRounds_perm (shuffleUppers queue.length) queue.toArray random
        fun upper hmem => by simpa using mem_shuffleUppers hmem
    refine ⟨values.toList, ?_, ?_⟩
    · simp [checkedShuffle, hrounds]
    · simpa using hperm.toList
  · have hpos : 0 < min (queue.length + 1) SplitMix64.largestIndex := by
      unfold SplitMix64.largestIndex
      omega
    obtain ⟨index, random', hindex, hlt⟩ := checkedIndex_lt random hpos
    have hle : index ≤ queue.length := by omega
    refine ⟨index, hle, ?_⟩
    simp [checkedInsertShuffled, hindex, checkedInsert, hle, insertIdx_eq_append hle]

end PepeAudio
