import PepeAudio.Media.RemoteFetch

/-!
# The files of a fetch

What is written is covered by the reservation before it is written, and is within the
limit of a download. A file is final only with the size that is reported; whatever goes
wrong leaves no file behind that could be removed.
-/
namespace PepeAudio

namespace ReservationCall

/-- An active reservation that is ensured covers what was asked for, and otherwise is as before. -/
theorem ensure_covers (call : ReservationCall) (requestedBytes : UInt64) :
    Ends (ensure requestedBytes) call
      (fun _ after => after.reservation.active = call.reservation.active ∧
        requestedBytes ≤ after.reservation.chargedBytes ∧
        call.reservation.chargedBytes ≤ after.reservation.chargedBytes)
      (fun _ after => after = call) := by
  unfold ensure
  simp only [ends_bind, ends_get, ends_ite, ends_pure, ends_throw, ends_modify]
  split
  · next hcovered => exact ⟨trivial, hcovered, UInt64.le_refl _⟩
  · next hgrows =>
    have hgrows : call.reservation.chargedBytes.toNat < requestedBytes.toNat :=
      Nat.lt_of_not_le hgrows
    split
    · trivial
    · exact ⟨rfl, UInt64.le_refl _, UInt64.le_iff_toNat_le.mpr (Nat.le_of_lt hgrows)⟩

theorem commit_ends (call : ReservationCall) (path : MediaPath) (actualBytes : UInt64) :
    Ends (commit path actualBytes) call
      (fun _ after => after.reservation.active = false ∧
        after.inner.state.entries.lookup path = some actualBytes)
      (fun _ after => after = call) := by
  unfold commit
  simp only [ends_bind, ends_get, ends_ite, ends_throw]
  split
  · trivial
  · split
    · trivial
    · split
      · trivial
      · simp [setState]

end ReservationCall

theorem CapacityInner.reserve_active (inner : CapacityInner) (requestedBytes : UInt64) :
    Ends (CapacityInner.reserve requestedBytes) inner
      (fun reservation _ => reservation.active = true) (fun _ _ => True) := by
  simp [CapacityInner.reserve, ends_ite]

/-- The size is not zero, and the one the server has declared. -/
def Download.Complete (download : Download) : Prop :=
  download.sizeBytes ≠ 0 ∧ ∀ expected ∈ download.response.contentLength,
    expected = download.sizeBytes

/-- The files that are left when a fetch is over can be removed. -/
def FetchEvent.Removes : FetchEvent → Prop
  | .cleaned removals | .cancel _ removals =>
    removals.dropPartial = true ∧ removals.dropFinal = true
  | _ => True

namespace Fetching

variable {fetcher : MediaFetcher} {request : MediaRequest} {s s' : Fetching}

/-- An active reservation of at least so many bytes. -/
def Holds (s : Fetching) (bytes : ℕ) : Prop :=
  ∃ reservation, s.own = some reservation ∧ reservation.active = true ∧
    bytes ≤ reservation.chargedBytes.toNat

/-- Both files are at most so long. -/
def Within (s : Fetching) (bytes : ℕ) : Prop :=
  ∀ contents, s.staged = some contents ∨ s.object = some contents → contents.length ≤ bytes

/-- No final file, and at most a partial one that was created too late. -/
def Emptied (s : Fetching) : Prop :=
  s.object = none ∧ ∀ contents ∈ s.staged, contents = []

/-- The fields that the files are judged by, beside the reservation. -/
def files (s : Fetching) : Option Bytes × Option Bytes × Option HttpResponse :=
  (s.staged, s.object, s.accepted)

theorem Holds.mono {bytes bytes' : ℕ} (h : s.Holds bytes) (hle : bytes' ≤ bytes) :
    s.Holds bytes' := by
  obtain ⟨reservation, hown, hactive, hbytes⟩ := h
  exact ⟨reservation, hown, hactive, hle.trans hbytes⟩

theorem Within.mono {bytes bytes' : ℕ} (h : s.Within bytes) (hle : bytes ≤ bytes') :
    s.Within bytes' :=
  fun contents hmem => (h contents hmem).trans hle

theorem within_of_none (hstaged : s.staged = none) (hobject : s.object = none) (bytes : ℕ) :
    s.Within bytes := by
  intro contents hmem
  simp [hstaged, hobject] at hmem

theorem emptied_of_none (hstaged : s.staged = none) (hobject : s.object = none) : s.Emptied :=
  ⟨hobject, by simp [hstaged]⟩

theorem staged_of_files (h : s'.files = s.files) : s'.staged = s.staged := congrArg (·.1) h

theorem object_of_files (h : s'.files = s.files) : s'.object = s.object := congrArg (·.2.1) h

theorem accepted_of_files (h : s'.files = s.files) : s'.accepted = s.accepted :=
  congrArg (·.2.2) h

section Frame

@[simp] theorem release_own : s.release.own = none := by
  unfold release
  split
  · assumption
  · rfl

theorem release_files : s.release.files = s.files := by
  unfold release
  split <;> rfl

theorem call_files {method : EStateM StoreError ReservationCall Unit} :
    (s.call method).2.files = s.files := by
  unfold call
  split
  · rfl
  · split <;> rfl

/-- A method that fails without a trace leaves the fetch as it was. -/
theorem call_eq_error {method : EStateM StoreError ReservationCall Unit} {error : StoreError}
    {ok : ReservationCall → Unit → ReservationCall → Prop}
    (hmethod : ∀ call, Ends method call (ok call) (fun _ after => after = call))
    (h : s.call method = (.error error, s')) : s' = s := by
  unfold call at h
  split at h
  · simp at h
  · next reservation hown =>
    split at h
    · simp at h
    · next after hresult =>
      obtain rfl := (hmethod _).of_error hresult
      obtain ⟨-, rfl⟩ := Prod.mk.inj h
      rw [← hown]

theorem ensure_eq_ok {bytes : ℕ} {requestedBytes : UInt64} (hholds : s.Holds bytes)
    (h : s.call (ReservationCall.ensure requestedBytes) = (.ok (), s')) :
    s'.Holds (max bytes requestedBytes.toNat) ∧ s'.files = s.files := by
  have hfiles : s'.files = s.files := (congrArg (·.2.files) h).symm.trans call_files
  obtain ⟨reservation, hown, hactive, hbytes⟩ := hholds
  unfold call at h
  rw [hown] at h
  dsimp only at h
  split at h
  · next after hresult =>
    obtain ⟨-, rfl⟩ := Prod.mk.inj h
    obtain ⟨hkept, hcovered, hgrown⟩ := (ReservationCall.ensure_covers _ _).of_ok hresult
    refine ⟨⟨_, rfl, hkept.trans hactive, ?_⟩, hfiles⟩
    have hcovered := UInt64.le_iff_toNat_le.mp hcovered
    have hgrown := UInt64.le_iff_toNat_le.mp hgrown
    exact Nat.max_le.mpr ⟨hbytes.trans hgrown, hcovered⟩
  · simp at h

/-- The files that dropping leaves. -/
theorem dropPartial_files (paths : ManagedPaths) (download : Download)
    (partialRemoved finalRemoved : Bool) :
    (s.dropPartial paths download partialRemoved finalRemoved).files =
      (if partialRemoved then none else s.staged, if finalRemoved then none else s.object,
        s.accepted) := by
  unfold dropPartial
  dsimp only
  split
  · exact release_files
  · exact release_files.trans call_files

@[simp] theorem dropPartial_own {paths : ManagedPaths} {download : Download}
    {partialRemoved finalRemoved : Bool} :
    (s.dropPartial paths download partialRemoved finalRemoved).own = none := by
  unfold dropPartial
  dsimp only
  split
  · exact release_own
  · exact release_own

theorem Within.dropPartial {bytes : ℕ} (h : s.Within bytes) (paths : ManagedPaths)
    (download : Download) (partialRemoved finalRemoved : Bool) :
    (s.dropPartial paths download partialRemoved finalRemoved).Within bytes := by
  have hfiles := dropPartial_files (s := s) paths download partialRemoved finalRemoved
  have hstaged := congrArg (·.1) hfiles
  have hobject := congrArg (·.2.1) hfiles
  dsimp only [files] at hstaged hobject
  intro contents hmem
  rw [hstaged, hobject] at hmem
  refine h contents (hmem.imp ?_ ?_)
  · intro hsome
    split_ifs at hsome
    exact hsome
  · intro hsome
    split_ifs at hsome
    exact hsome

end Frame

/-- The bytes of a download so far are in the partial file, but for those that are pending; they
are within the reservation and the limit. -/
structure Downloads (fetcher : MediaFetcher) (s : Fetching) (download : Download)
    (pending : ℕ) : Prop where
  holds : s.Holds download.sizeBytes.toNat
  limit : download.sizeBytes ≤ fetcher.limits.maxDownloadBytes
  staged : ∃ contents, s.staged = some contents ∧
    contents.length + pending = download.sizeBytes.toNat
  object : s.object = none
  accepted : s.accepted = some download.response

/-- If `removes` holds, the files that are left at the end can be removed. -/
def FilesInv (removes : Prop) (fetcher : MediaFetcher) (s : Fetching) : Prop :=
  match s.phase with
  | .admission => s.own = none ∧ s.staged = none ∧ s.object = none
  | .approving .. | .requesting .. => s.Holds 0 ∧ s.staged = none ∧ s.object = none
  | .beginning response _ =>
    s.Holds 0 ∧ s.staged = none ∧ s.object = none ∧ s.accepted = some response
  | .streaming download => s.Downloads fetcher download 0
  | .writing download chunk => s.Downloads fetcher download chunk.length
  | .flushing download | .renaming download => s.Downloads fetcher download 0 ∧ download.Complete
  | .cleaning _ _ => ∃ bytes, bytes ≤ fetcher.limits.maxDownloadBytes.toNat ∧ s.Holds bytes ∧
      s.Within bytes
  | .finished (.ok media) => s.own = none ∧ s.staged = none ∧
      media.sizeBytes ≤ fetcher.limits.maxDownloadBytes ∧
      (∃ contents, s.object = some contents ∧ contents.length = media.sizeBytes.toNat) ∧
      ∃ response, s.accepted = some response ∧
        ∀ expected ∈ response.contentLength, expected = media.sizeBytes
  | .finished (.error _) | .cancelled =>
    s.own = none ∧ s.Within fetcher.limits.maxDownloadBytes.toNat ∧ (removes → s.Emptied)

section Files

variable {removes : Prop} {download : Download} {pending : ℕ}

theorem Downloads.within (h : s.Downloads fetcher download pending) :
    s.Within download.sizeBytes.toNat := by
  obtain ⟨contents, hstaged, hlength⟩ := h.staged
  intro found hmem
  rw [hstaged, h.object] at hmem
  obtain rfl : contents = found := by simpa using hmem
  omega

theorem filesInv_fail (hstaged : s.staged = none) (hobject : s.object = none)
    (error : FetchError) : (s.fail error).FilesInv removes fetcher := by
  have hstaged := (staged_of_files release_files).trans hstaged
  have hobject := (object_of_files release_files).trans hobject
  exact ⟨release_own, within_of_none hstaged hobject _, fun _ => emptied_of_none hstaged hobject⟩

theorem filesInv_cleanUp {bytes : ℕ} (hlimit : bytes ≤ fetcher.limits.maxDownloadBytes.toNat)
    (hholds : s.Holds bytes) (hwithin : s.Within bytes) (download : Download)
    (error : FetchError) : (s.cleanUp download error).FilesInv removes fetcher :=
  ⟨bytes, hlimit, hholds, hwithin⟩

theorem Downloads.cleanUp (h : s.Downloads fetcher download pending) (other : Download)
    (error : FetchError) : (s.cleanUp other error).FilesInv removes fetcher :=
  filesInv_cleanUp (UInt64.le_iff_toNat_le.mp h.limit) h.holds h.within other error

/-- The end with whatever files dropping leaves. -/
theorem filesInv_dropPartial {phase : FetchPhase}
    (hwithin : s.Within fetcher.limits.maxDownloadBytes.toNat)
    (hphase : (∃ error, phase = .finished (.error error)) ∨ phase = .cancelled)
    (download : Download) {partialRemoved finalRemoved : Bool}
    (hremoved : removes → partialRemoved = true ∧ finalRemoved = true) :
    ({ s.dropPartial fetcher.paths download partialRemoved finalRemoved with phase } :
      Fetching).FilesInv removes fetcher := by
  have hafter := hwithin.dropPartial fetcher.paths download partialRemoved finalRemoved
  have hemptied : removes →
      (s.dropPartial fetcher.paths download partialRemoved finalRemoved).Emptied := by
    intro hholds
    obtain ⟨rfl, rfl⟩ := hremoved hholds
    have hfiles := dropPartial_files (s := s) fetcher.paths download true true
    exact emptied_of_none (congrArg (·.1) hfiles) (congrArg (·.2.1) hfiles)
  rcases hphase with ⟨error, rfl⟩ | rfl
  · exact ⟨dropPartial_own, hafter, hemptied⟩
  · exact ⟨dropPartial_own, hafter, hemptied⟩

theorem filesInv_admit (hphase : s.phase = .admission) (h : s.FilesInv removes fetcher)
    (deadlineFits : Bool) :
    (s.admitFetch fetcher request deadlineFits).FilesInv removes fetcher := by
  rw [FilesInv, hphase] at h
  obtain ⟨hown, hstaged, hobject⟩ := h
  have hnothing := within_of_none hstaged hobject fetcher.limits.maxDownloadBytes.toNat
  have hemptied := fun _ : removes => emptied_of_none hstaged hobject
  unfold Fetching.admitFetch
  dsimp only
  split_ifs
  · exact ⟨hown, hnothing, hemptied⟩
  · split
    · exact ⟨hown, hnothing, hemptied⟩
    · exact ⟨hown, hnothing, hemptied⟩
    · next reservation inner hreserve =>
      have hactive := (CapacityInner.reserve_active _ _).of_ok hreserve
      exact ⟨⟨reservation, rfl, hactive, Nat.zero_le _⟩, hstaged, hobject⟩
  · split
    · exact ⟨hown, hnothing, hemptied⟩
    · exact ⟨hown, hnothing, hemptied⟩
    · refine filesInv_fail ?_ ?_ _
      · exact hstaged
      · exact hobject

theorem filesInv_approve (hholds : s.Holds 0) (hstaged : s.staged = none)
    (hobject : s.object = none) (outcome : ApprovalOutcome) (current : String)
    (visited : List String) (redirectCount : ℕ) :
    (s.approve fetcher request outcome current visited redirectCount).FilesInv removes fetcher := by
  have hfail : ∀ error, (s.fail error).FilesInv removes fetcher := filesInv_fail hstaged hobject
  unfold Fetching.approve
  split
  · exact hfail _
  · split
    · exact hfail _
    · split
      · exact hfail _
      · split_ifs
        · exact hfail _
        · exact hfail _
        · exact hfail _
        · exact ⟨hholds, hstaged, hobject⟩

theorem ensureLength_files (hholds : s.Holds 0) {response : HttpResponse}
    {outcome : Except StoreError Unit} {after : Fetching}
    (h : s.ensureLength response = (outcome, after)) :
    (outcome = .ok () → after.Holds 0) ∧ after.files = s.files := by
  unfold ensureLength at h
  split at h
  · obtain ⟨-, rfl⟩ := Prod.mk.inj h
    exact ⟨fun _ => hholds, rfl⟩
  · refine ⟨?_, (congrArg (·.2.files) h).symm.trans call_files⟩
    rintro rfl
    exact (ensure_eq_ok hholds h).1.mono (Nat.zero_le _)

theorem filesInv_accept (hholds : s.Holds 0) (hstaged : s.staged = none)
    (hobject : s.object = none) (response : HttpResponse) (finalUrl : String)
    (deadlineFits : Bool) :
    (s.accept fetcher response finalUrl deadlineFits).FilesInv removes fetcher := by
  have hheld : ({ s with accepted := some response } : Fetching).Holds 0 := hholds
  have hbefore : ({ s with accepted := some response } : Fetching).files
      = (none, none, some response) := by
    simp [files, hstaged, hobject]
  unfold Fetching.accept
  dsimp only
  split_ifs
  · refine filesInv_fail ?_ ?_ _
    · exact hstaged
    · exact hobject
  all_goals
    split
    · next error after hafter =>
      have hfiles := (ensureLength_files hheld hafter).2.trans hbefore
      exact filesInv_fail (congrArg (·.1) hfiles) (congrArg (·.2.1) hfiles) _
    · next after hafter =>
      have hfiles := (ensureLength_files hheld hafter).2.trans hbefore
      first
        | exact ⟨(ensureLength_files hheld hafter).1 rfl, congrArg (·.1) hfiles,
          congrArg (·.2.1) hfiles,
            congrArg (·.2.2) hfiles⟩
        | exact filesInv_fail (congrArg (·.1) hfiles) (congrArg (·.2.1) hfiles) _

theorem filesInv_receive (hholds : s.Holds 0) (hstaged : s.staged = none)
    (hobject : s.object = none) (outcome : TransportOutcome) (deadlineFits : Bool)
    (target : ApprovedUrl) (visited : List String) (redirectCount : ℕ) :
    (s.receive fetcher outcome deadlineFits target visited redirectCount).FilesInv removes
      fetcher := by
  have hfail : ∀ error, (s.fail error).FilesInv removes fetcher := filesInv_fail hstaged hobject
  unfold Fetching.receive
  split
  · exact hfail _
  · exact hfail _
  · split_ifs
    · exact hfail _
    · split
      · exact hfail _
      · split
        · exact hfail _
        · exact ⟨hholds, hstaged, hobject⟩
    · exact hfail _
    · exact filesInv_accept hholds hstaged hobject _ _ _

/-- A partial file that is created too late is empty. -/
theorem late_emptied (hobject : s.object = none) (late : Bool) (phase : FetchPhase) :
    (∀ bytes, ({ s with staged := if late then some [] else none, phase } : Fetching).Within
        bytes) ∧
      ({ s with staged := if late then some [] else none, phase } : Fetching).Emptied := by
  refine ⟨fun bytes contents hmem => ?_, hobject, ?_⟩
  · cases late with
    | true =>
      obtain rfl : [] = contents := by simpa [hobject] using hmem
      exact Nat.zero_le _
    | false => simp [hobject] at hmem
  · intro contents hmem
    cases late with
    | true => simpa using hmem.symm
    | false => simp at hmem

theorem filesInv_start (hholds : s.Holds 0) (hstaged : s.staged = none)
    (hobject : s.object = none) {response : HttpResponse}
    (haccepted : s.accepted = some response) (outcome : BeginOutcome) (finalUrl : String) :
    (s.start outcome response finalUrl).FilesInv removes fetcher := by
  have hfail : ∀ error, (s.fail error).FilesInv removes fetcher := filesInv_fail hstaged hobject
  unfold Fetching.start
  split
  · next late =>
    have hnone : s.release.object = none := (object_of_files release_files).trans hobject
    obtain ⟨hwithin, hemptied⟩ := late_emptied hnone late (.finished (.error .downloadTimeout))
    exact ⟨release_own, hwithin _, fun _ => hemptied⟩
  · exact hfail _
  · split
    · exact hfail _
    · exact ⟨hholds, UInt64.zero_le, ⟨[], rfl, rfl⟩, hobject, haccepted⟩

theorem grown_toNat {sizeBytes sizeBytes' : UInt64} {chunk : Bytes}
    (h : grown sizeBytes chunk = some sizeBytes') :
    sizeBytes'.toNat = sizeBytes.toNat + chunk.length := by
  unfold grown at h
  split_ifs at h with hword
  have hsum := checkedAdd_toNat h
  rw [hsum, UInt64.toNat_ofNat_of_lt' hword]

theorem le_max_one (n : UInt64) : n ≤ max n 1 := by
  change n ≤ if n ≤ 1 then 1 else n
  split_ifs with hone
  · exact hone
  · exact UInt64.le_refl n

/-- A chunk is covered by the reservation before it is written. -/
theorem filesInv_next (h : s.Downloads fetcher download 0) (outcome : BodyOutcome) :
    (s.next fetcher outcome download).FilesInv removes fetcher := by
  unfold Fetching.next
  split
  · exact h.cleanUp _ _
  · exact h.cleanUp _ _
  · next bytes =>
    split
    · exact h.cleanUp _ _
    · next sizeBytes hgrown =>
      have hsize := grown_toNat hgrown
      split_ifs with hlarge
      · exact h.cleanUp _ _
      · split
        · next error after hcall =>
          obtain rfl := call_eq_error
            (fun call => ReservationCall.ensure_covers call (max sizeBytes 1)) hcall
          exact h.cleanUp _ _
        · next after hcall =>
          obtain ⟨hholds, hfiles⟩ := ensure_eq_ok h.holds hcall
          obtain ⟨contents, hstaged, hlength⟩ := h.staged
          refine ⟨hholds.mono ?_, UInt64.not_lt.mp hlarge,
            ⟨contents, (staged_of_files hfiles).trans hstaged, ?_⟩,
            (object_of_files hfiles).trans h.object, (accepted_of_files hfiles).trans h.accepted⟩
          · exact (UInt64.le_iff_toNat_le.mp (le_max_one sizeBytes)).trans (le_max_right _ _)
          · dsimp only
            omega
  · split_ifs with hzero hlength
    · exact h.cleanUp _ _
    · exact h.cleanUp _ _
    · refine ⟨⟨h.holds, h.limit, h.staged, h.object, h.accepted⟩, hzero, ?_⟩
      intro expected hexpected
      simpa [Option.mem_def.mp hexpected] using hlength

theorem filesInv_write {chunk : Bytes} (h : s.Downloads fetcher download chunk.length)
    (outcome : WriteOutcome) : (s.write outcome download chunk).FilesInv removes fetcher := by
  obtain ⟨contents, hstaged, hlength⟩ := h.staged
  have hpart : ∀ written error, ({ s with
      staged := s.staged.map (· ++ chunk.take written) }.cleanUp download error).FilesInv
        removes fetcher := by
    intro written error
    refine filesInv_cleanUp (UInt64.le_iff_toNat_le.mp h.limit) ?_ ?_ _ _
    · exact h.holds
    intro found hmem
    have htake := List.length_take_le' written chunk
    simp only [hstaged, h.object, Option.map_some, Option.some.injEq, reduceCtorEq, or_false]
      at hmem
    rw [← hmem, List.length_append]
    omega
  cases outcome with
  | done =>
    refine ⟨h.holds, h.limit, ⟨contents ++ chunk, congrArg (Option.map (· ++ chunk)) hstaged, ?_⟩,
      h.object, h.accepted⟩
    rw [List.length_append]
    omega
  | failed written => exact hpart _ _
  | timedOut written => exact hpart _ _

theorem filesInv_flush (h : s.Downloads fetcher download 0) (hcomplete : download.Complete)
    (outcome : FileOutcome) : (s.flush outcome download).FilesInv removes fetcher := by
  cases outcome with
  | done => exact ⟨⟨h.holds, h.limit, h.staged, h.object, h.accepted⟩, hcomplete⟩
  | failed => exact h.cleanUp _ _
  | timedOut late => exact h.cleanUp _ _

theorem Within.move {bytes : ℕ} (h : s.Within bytes) : s.move.Within bytes :=
  fun contents hmem => h contents (.inl (by simpa [Fetching.move] using hmem))

/-- The final file is the partial one, with its size. -/
theorem filesInv_rename (h : s.Downloads fetcher download 0) (hcomplete : download.Complete)
    (outcome : FileOutcome) (removed : Bool) :
    (s.rename fetcher request outcome removed download).FilesInv removes fetcher := by
  have hlimit := UInt64.le_iff_toNat_le.mp h.limit
  unfold Fetching.rename
  split
  · dsimp only
    split
    · next after hcall =>
      have hfiles : after.release.files = s.move.files :=
        release_files.trans ((congrArg (·.2.files) hcall).symm.trans call_files)
      obtain ⟨contents, hstaged, hlength⟩ := h.staged
      refine ⟨release_own, staged_of_files hfiles, h.limit,
        ⟨contents, (object_of_files hfiles).trans hstaged, hlength⟩,
        download.response, (accepted_of_files hfiles).trans h.accepted, hcomplete.2⟩
    · next error after hcall =>
      obtain rfl := call_eq_error (fun call => ReservationCall.commit_ends call _ _) hcall
      refine filesInv_cleanUp hlimit ?_ ?_ _ _
      · exact h.holds
      intro contents hmem
      refine h.within.move contents (hmem.imp id fun hsome => ?_)
      dsimp only at hsome
      split_ifs at hsome
      exact hsome
  · exact h.cleanUp _ _
  · next late =>
    cases late with
    | true =>
      refine filesInv_cleanUp hlimit ?_ ?_ _ _
      · exact h.holds
      · exact h.within.move
    | false => exact h.cleanUp _ _

theorem filesInv_clean (h : s.Within fetcher.limits.maxDownloadBytes.toNat)
    (removals : Removals) (error : FetchError)
    (hremoves : removes → removals.dropPartial = true ∧ removals.dropFinal = true) :
    (s.clean fetcher removals download error).FilesInv removes fetcher := by
  unfold Fetching.clean
  split_ifs
  · exact filesInv_dropPartial h (.inl ⟨_, rfl⟩) _ hremoves
  · refine filesInv_dropPartial ?_ (.inl ⟨_, rfl⟩) _ hremoves
    exact fun contents hmem => h contents (.inr (by simpa using hmem))
  · exact filesInv_dropPartial (within_of_none rfl rfl _) (.inl ⟨_, rfl⟩) _ hremoves

theorem filesInv_cancel (h : s.FilesInv removes fetcher) (late : Bool) (removals : Removals)
    (hremoves : removes → removals.dropPartial = true ∧ removals.dropFinal = true) :
    (s.cancel fetcher late removals).FilesInv removes fetcher := by
  have hkeep := h
  have hreleased : s.staged = none → s.object = none →
      ({ s.release with phase := .cancelled } : Fetching).FilesInv removes fetcher := by
    intro hstaged hobject
    have hstaged := (staged_of_files release_files).trans hstaged
    have hobject := (object_of_files release_files).trans hobject
    exact ⟨release_own, within_of_none hstaged hobject _, fun _ => emptied_of_none hstaged hobject⟩
  unfold FilesInv at h
  unfold Fetching.cancel
  split
  · next hphase =>
    rw [hphase] at h
    exact hreleased h.2.1 h.2.2
  · next hphase =>
    rw [hphase] at h
    exact hreleased h.2.1 h.2.2
  · next hphase =>
    rw [hphase] at h
    have hnone : s.release.object = none := (object_of_files release_files).trans h.2.2.1
    obtain ⟨hwithin, hemptied⟩ := late_emptied hnone late .cancelled
    exact ⟨release_own, hwithin _, fun _ => hemptied⟩
  · next download hphase =>
    rw [hphase] at h
    have hwithin := h.1.within.mono (UInt64.le_iff_toNat_le.mp h.1.limit)
    cases late with
    | true => exact filesInv_dropPartial hwithin.move (.inr rfl) _ hremoves
    | false => exact filesInv_dropPartial hwithin (.inr rfl) _ hremoves
  · next download chunk hphase =>
    rw [hphase] at h
    obtain ⟨contents, hstaged, hlength⟩ := h.staged
    have hlimit := UInt64.le_iff_toNat_le.mp h.limit
    refine filesInv_dropPartial ?_ (.inr rfl) _ hremoves
    intro found hmem
    simp only [hstaged, h.object, Option.map_some, Option.some.injEq, reduceCtorEq, or_false]
      at hmem
    rw [← hmem]
    split_ifs
    · rw [List.length_append]
      omega
    · omega
  · next download hphase =>
    rw [hphase] at h
    exact filesInv_dropPartial (h.within.mono (UInt64.le_iff_toNat_le.mp h.limit)) (.inr rfl) _
      hremoves
  · next download hphase =>
    rw [hphase] at h
    exact filesInv_dropPartial (h.1.within.mono (UInt64.le_iff_toNat_le.mp h.1.limit)) (.inr rfl)
      _ hremoves
  · next download error hphase =>
    rw [hphase] at h
    obtain ⟨bytes, hlimit, -, hwithin⟩ := h
    exact filesInv_dropPartial (hwithin.mono hlimit) (.inr rfl) _ hremoves
  · exact hkeep
  · exact hkeep
  · exact hkeep

/-- What others do leaves the reservation and the files of a fetch alone. -/
theorem filesInv_other (h : s.FilesInv removes fetcher) (event : CapacityEvent) :
    (s.other event).FilesInv removes fetcher := by
  have hdownloads : ∀ download pending, s.Downloads fetcher download pending →
      (s.other event).Downloads fetcher download pending := fun _ _ hdownload =>
    ⟨hdownload.holds, hdownload.limit, hdownload.staged, hdownload.object, hdownload.accepted⟩
  have hphase : (s.other event).phase = s.phase := rfl
  unfold FilesInv at h ⊢
  rw [hphase]
  split at h
  · exact h
  · exact h
  · exact h
  · exact h
  · exact hdownloads _ _ h
  · exact hdownloads _ _ h
  · exact ⟨hdownloads _ _ h.1, h.2⟩
  · exact ⟨hdownloads _ _ h.1, h.2⟩
  · exact h
  · exact h
  · exact h
  · exact h

/-- Every step keeps what is known of the files. -/
theorem FilesInv.step (h : s.FilesInv removes fetcher) (event : FetchEvent)
    (hremoves : removes → event.Removes) :
    (s.step fetcher request event).FilesInv removes fetcher := by
  have hkeep := h
  unfold FilesInv at h
  unfold Fetching.step
  split
  · next hphase => exact filesInv_admit hphase hkeep _
  · next hphase =>
    rw [hphase] at h
    exact filesInv_approve h.1 h.2.1 h.2.2 _ _ _ _
  · next hphase =>
    rw [hphase] at h
    exact filesInv_receive h.1 h.2.1 h.2.2 _ _ _ _ _
  · next hphase =>
    rw [hphase] at h
    exact filesInv_start h.1 h.2.1 h.2.2.1 h.2.2.2 _ _
  · next hphase =>
    rw [hphase] at h
    exact filesInv_next h _
  · next hphase =>
    rw [hphase] at h
    exact filesInv_write h _
  · next hphase =>
    rw [hphase] at h
    exact filesInv_flush h.1 h.2 _
  · next hphase =>
    rw [hphase] at h
    exact filesInv_rename h.1 h.2 _ _
  · next hphase =>
    rw [hphase] at h
    obtain ⟨bytes, hlimit, -, hwithin⟩ := h
    exact filesInv_clean (hwithin.mono hlimit) _ _ hremoves
  · exact filesInv_cancel hkeep _ _ hremoves
  · exact filesInv_other hkeep _
  · exact hkeep

theorem filesInv_initial (media : ManagedCapacity) : (initial media).FilesInv removes fetcher :=
  ⟨rfl, rfl, rfl⟩

/-- While the reservation is held it covers both files, and no file is larger than the limit. -/
theorem FilesInv.bounded (h : s.FilesInv removes fetcher) {contents : Bytes}
    (hmem : s.staged = some contents ∨ s.object = some contents) :
    contents.length ≤ fetcher.limits.maxDownloadBytes.toNat ∧
      ∀ reservation, s.own = some reservation →
        contents.length ≤ reservation.chargedBytes.toNat := by
  have hcovered : ∀ bytes, bytes ≤ fetcher.limits.maxDownloadBytes.toNat → s.Holds bytes →
      s.Within bytes → contents.length ≤ fetcher.limits.maxDownloadBytes.toNat ∧
        ∀ reservation, s.own = some reservation →
          contents.length ≤ reservation.chargedBytes.toNat := by
    intro bytes hlimit hholds hwithin
    have hlength := hwithin contents hmem
    obtain ⟨held, hown, -, hbytes⟩ := hholds
    refine ⟨hlength.trans hlimit, fun reservation hsome => ?_⟩
    obtain rfl := Option.some.inj (hown.symm.trans hsome)
    exact hlength.trans hbytes
  have hdownload : ∀ download pending, s.Downloads fetcher download pending →
      contents.length ≤ fetcher.limits.maxDownloadBytes.toNat ∧
        ∀ reservation, s.own = some reservation →
          contents.length ≤ reservation.chargedBytes.toNat := fun download pending hdownload =>
    hcovered _ (UInt64.le_iff_toNat_le.mp hdownload.limit) hdownload.holds hdownload.within
  unfold FilesInv at h
  split at h
  · simp [h.2.1, h.2.2] at hmem
  · simp [h.2.1, h.2.2] at hmem
  · simp [h.2.1, h.2.2] at hmem
  · simp [h.2.1, h.2.2.1] at hmem
  · exact hdownload _ _ h
  · exact hdownload _ _ h
  · exact hdownload _ _ h.1
  · exact hdownload _ _ h.1
  · obtain ⟨bytes, hlimit, hholds, hwithin⟩ := h
    exact hcovered bytes hlimit hholds hwithin
  · obtain ⟨hown, hstaged, hlimit, ⟨found, hobject, hlength⟩, -⟩ := h
    obtain rfl : found = contents := by simpa [hstaged, hobject] using hmem
    have hlimit := UInt64.le_iff_toNat_le.mp hlimit
    exact ⟨by omega, by simp [hown]⟩
  · exact ⟨h.2.1 contents hmem, by simp [h.1]⟩
  · exact ⟨h.2.1 contents hmem, by simp [h.1]⟩

end Files

end Fetching

end PepeAudio
