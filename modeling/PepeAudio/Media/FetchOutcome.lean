import PepeAudio.Media.FetchFiles
import PepeAudio.Media.FetchRequests

/-!
# What a fetch leaves behind

The accounts of the shared capacity balance while a fetch runs beside others. When it is
over it holds no reservation: what stays charged is the files that are recorded and what
the others hold. A fetch that fails leaves no final file.
-/
namespace PepeAudio

/-- The same event, behind one more reservation. -/
def CapacityEvent.behind : CapacityEvent → CapacityEvent
  | .reserve requestedBytes => .reserve requestedBytes
  | .ensure index requestedBytes => .ensure (index + 1) requestedBytes
  | .commit index path actualBytes => .commit (index + 1) path actualBytes
  | .retainFailedFile index path => .retainFailedFile (index + 1) path
  | .removed path => .removed path
  | .drop index => .drop (index + 1)

namespace ManagedCapacity

variable {inner : CapacityInner} {reservation : CapacityReservation}
  {others : List CapacityReservation} {kept : ℕ}

theorem call_cons (index : ℕ) (method : EStateM StoreError ReservationCall Unit) :
    (mk inner (reservation :: others)).call (index + 1) method =
      (((mk inner others).call index method).1,
        ⟨((mk inner others).call index method).2.inner,
          reservation :: ((mk inner others).call index method).2.reservations⟩) := by
  unfold call
  rw [List.getElem?_cons_succ]
  cases others[index]? with
  | none => rfl
  | some held =>
    dsimp only
    cases method ⟨inner, held⟩ with
    | ok _ after => rfl
    | error error after => rfl

/-- A reservation that is left alone changes nothing for the others. -/
theorem step_cons (event : CapacityEvent) :
    (mk inner (reservation :: others)).step event.behind =
      (((mk inner others).step event).1,
        ⟨((mk inner others).step event).2.inner,
          reservation :: ((mk inner others).step event).2.reservations⟩) := by
  cases event with
  | reserve requestedBytes =>
    unfold step
    dsimp only [CapacityEvent.behind]
    cases CapacityInner.reserve requestedBytes inner with
    | ok _ after => rfl
    | error error after => rfl
  | ensure index requestedBytes => exact call_cons index _
  | commit index path actualBytes => exact call_cons index _
  | retainFailedFile index path => exact call_cons index _
  | removed path => rfl
  | drop index =>
    simp only [step, CapacityEvent.behind, List.getElem?_cons_succ]
    cases others[index]? with
    | none => rfl
    | some held => rfl

theorem keptBy_cons (event : CapacityEvent) :
    (mk inner (reservation :: others)).keptBy event.behind = (mk inner others).keptBy event := by
  cases event with
  | ensure index requestedBytes =>
    simp [keptBy, CapacityEvent.behind, keptByCall]
  | retainFailedFile index path =>
    simp [keptBy, CapacityEvent.behind, keptByCall]
  | reserve requestedBytes => rfl
  | commit index path actualBytes => rfl
  | removed path => rfl
  | drop index => rfl

theorem balanced_cons : (mk inner (reservation :: others)).Balanced kept ↔
    inner.Balanced ((mk inner others).reserved + reservation.held)
      ((mk inner others).places + reservation.place) kept := by
  simp only [Balanced, reserved, places, List.map_cons, List.sum_cons, Nat.add_comm]

end ManagedCapacity

namespace Fetching

variable {fetcher : MediaFetcher} {request : MediaRequest} {s : Fetching} {kept : ℕ}

/-- The capacity with all reservations, the fetch's own one first. -/
def media (s : Fetching) : ManagedCapacity := ⟨s.inner, s.own.toList ++ s.others⟩

/-- What an event of others leaves charged for nobody. -/
def keptByOthers (s : Fetching) : FetchEvent → ℕ
  | .other event => (ManagedCapacity.mk s.inner s.others).keptBy event
  | _ => 0

theorem keptByOthers_eq_zero {event : FetchEvent}
    (h : ∀ other, event = .other other → False) : s.keptByOthers event = 0 := by
  cases event with
  | other event => exact (h event rfl).elim
  | _ => rfl

theorem media_of_own {reservation : CapacityReservation} (h : s.own = some reservation) :
    s.media = ⟨s.inner, reservation :: s.others⟩ := by
  simp [media, h]

theorem media_of_none (h : s.own = none) : s.media = ⟨s.inner, s.others⟩ := by
  simp [media, h]

theorem release_balanced (h : s.media.Balanced kept) : s.release.media.Balanced kept := by
  unfold release
  split
  · exact h
  · next reservation hown =>
    rw [media_of_own hown, ManagedCapacity.balanced_cons] at h
    exact CapacityInner.dropReservation_balanced h

theorem call_balanced {method : EStateM StoreError ReservationCall Unit}
    {keep : ReservationCall → ℕ}
    (hmethod : ∀ call reserved places kept, ReservationCall.Balanced call reserved places kept →
      Ends method call (fun _ after => after.Balanced reserved places (kept + keep call))
        (fun _ after => after = call ∧ keep call = 0))
    (hkeep : ∀ reservation, s.own = some reservation → keep ⟨s.inner, reservation⟩ = 0)
    (h : s.media.Balanced kept) : (s.call method).2.media.Balanced kept := by
  unfold call
  split
  · exact h
  · next reservation hown =>
    rw [media_of_own hown, ManagedCapacity.balanced_cons] at h
    have hcall := hmethod ⟨s.inner, reservation⟩ _ _ kept h
    rw [hkeep reservation hown] at hcall
    split
    · next hresult => exact ManagedCapacity.balanced_cons.mpr (hcall.of_ok hresult)
    · next hresult =>
      obtain ⟨rfl, -⟩ := hcall.of_error hresult
      exact ManagedCapacity.balanced_cons.mpr h

theorem ensure_balanced {bytes : ℕ} (hholds : s.Holds bytes) (h : s.media.Balanced kept)
    (requestedBytes : UInt64) :
    (s.call (ReservationCall.ensure requestedBytes)).2.media.Balanced kept := by
  refine call_balanced
    (fun call _ _ _ hcall => call.ensure_balanced hcall requestedBytes) ?_ h
  intro reservation hown
  obtain ⟨held, hheld, hactive, -⟩ := hholds
  obtain rfl := Option.some.inj (hheld.symm.trans hown)
  simp [ReservationCall.keptByEnsure, hactive]

theorem other_balanced (h : s.media.Balanced kept) (event : CapacityEvent) :
    (s.other event).media.Balanced (kept + s.keptByOthers (.other event)) := by
  cases hown : s.own with
  | none =>
    rw [media_of_none hown] at h
    have hafter := (ManagedCapacity.step_balanced h event).1
    rw [media_of_none (show (s.other event).own = none from hown)]
    exact hafter
  | some reservation =>
    rw [media_of_own hown] at h
    have hafter := (ManagedCapacity.step_balanced h event.behind).1
    rw [ManagedCapacity.step_cons, ManagedCapacity.keptBy_cons] at hafter
    rw [media_of_own (show (s.other event).own = some reservation from hown)]
    exact hafter

theorem admit_balanced (hown : s.own = none) (h : s.media.Balanced kept) (deadlineFits : Bool) :
    (s.admitFetch fetcher request deadlineFits).media.Balanced kept := by
  have hreserve := CapacityInner.reserve_balanced (media_of_none hown ▸ h)
  have hnone : ∀ inner, inner = s.inner →
      ({ s with inner } : Fetching).media.Balanced kept := by
    rintro inner rfl
    exact h
  unfold Fetching.admitFetch
  dsimp only
  split_ifs
  · exact h
  · split
    · next hresult => exact hnone _ ((hreserve _).of_error hresult)
    · next hresult => exact hnone _ ((hreserve _).of_error hresult)
    · next hresult => exact ManagedCapacity.balanced_cons.mpr ((hreserve _).of_ok hresult)
  · split
    · next hresult => exact hnone _ ((hreserve _).of_error hresult)
    · next hresult => exact hnone _ ((hreserve _).of_error hresult)
    · next reservation inner hresult =>
      have hheld : ({ s with inner, own := some reservation } : Fetching).media.Balanced kept :=
        ManagedCapacity.balanced_cons.mpr ((hreserve _).of_ok hresult)
      exact release_balanced hheld

theorem approve_balanced (h : s.media.Balanced kept) (outcome : ApprovalOutcome)
    (current : String) (visited : List String) (redirectCount : ℕ) :
    (s.approve fetcher request outcome current visited redirectCount).media.Balanced kept := by
  have hfail := release_balanced h
  unfold Fetching.approve
  split
  · exact hfail
  · split
    · exact hfail
    · split
      · exact hfail
      · split_ifs
        · exact hfail
        · exact hfail
        · exact hfail
        · exact h

theorem ensureLength_balanced (hholds : s.Holds 0) (h : s.media.Balanced kept)
    {response : HttpResponse} {outcome : Except StoreError Unit} {after : Fetching}
    (hresult : s.ensureLength response = (outcome, after)) : after.media.Balanced kept := by
  unfold ensureLength at hresult
  split at hresult
  · obtain ⟨-, rfl⟩ := Prod.mk.inj hresult
    exact h
  · next contentLength _ =>
    have hafter := ensure_balanced hholds h (max contentLength 1)
    rwa [hresult] at hafter

theorem accept_balanced (hholds : s.Holds 0) (h : s.media.Balanced kept)
    (response : HttpResponse) (finalUrl : String) (deadlineFits : Bool) :
    (s.accept fetcher response finalUrl deadlineFits).media.Balanced kept := by
  have hheld : ({ s with accepted := some response } : Fetching).Holds 0 := hholds
  have hbefore : ({ s with accepted := some response } : Fetching).media.Balanced kept := h
  unfold Fetching.accept
  dsimp only
  split_ifs
  · exact release_balanced h
  all_goals
    split
    · next hafter => exact release_balanced (ensureLength_balanced hheld hbefore hafter)
    · next hafter =>
      have hbalanced := ensureLength_balanced hheld hbefore hafter
      first
        | exact hbalanced
        | exact release_balanced hbalanced

theorem receive_balanced (hholds : s.Holds 0) (h : s.media.Balanced kept)
    (outcome : TransportOutcome) (deadlineFits : Bool) (target : ApprovedUrl)
    (visited : List String) (redirectCount : ℕ) :
    (s.receive fetcher outcome deadlineFits target visited redirectCount).media.Balanced
      kept := by
  have hfail := release_balanced h
  unfold Fetching.receive
  split
  · exact hfail
  · exact hfail
  · split_ifs
    · exact hfail
    · split
      · exact hfail
      · split
        · exact hfail
        · exact h
    · exact hfail
    · exact accept_balanced hholds h _ _ _

theorem start_balanced (h : s.media.Balanced kept) (outcome : BeginOutcome)
    (response : HttpResponse) (finalUrl : String) :
    (s.start outcome response finalUrl).media.Balanced kept := by
  have hfail := release_balanced h
  unfold Fetching.start
  split
  · exact hfail
  · exact hfail
  · split
    · exact hfail
    · exact h

theorem next_balanced {download : Download} (hholds : s.Holds download.sizeBytes.toNat)
    (h : s.media.Balanced kept) (outcome : BodyOutcome) :
    (s.next fetcher outcome download).media.Balanced kept := by
  unfold Fetching.next
  split
  · exact h
  · exact h
  · split
    · exact h
    · next sizeBytes _ =>
      split_ifs
      · exact h
      · have hafter := ensure_balanced hholds h (max sizeBytes 1)
        split
        · next hcall =>
          rw [hcall] at hafter
          exact hafter
        · next hcall =>
          rw [hcall] at hafter
          exact hafter
  · split_ifs
    · exact h
    · exact h
    · exact h

theorem write_balanced (h : s.media.Balanced kept) (outcome : WriteOutcome) (download : Download)
    (chunk : Bytes) : (s.write outcome download chunk).media.Balanced kept := by
  cases outcome with
  | done => exact h
  | failed written => exact h
  | timedOut written => exact h

theorem flush_balanced (h : s.media.Balanced kept) (outcome : FileOutcome) (download : Download) :
    (s.flush outcome download).media.Balanced kept := by
  cases outcome with
  | done => exact h
  | failed => exact h
  | timedOut late => exact h

theorem rename_balanced (h : s.media.Balanced kept) (outcome : FileOutcome) (removed : Bool)
    (download : Download) :
    (s.rename fetcher request outcome removed download).media.Balanced kept := by
  unfold Fetching.rename
  split
  · dsimp only
    have hmoved : s.move.media.Balanced kept := h
    have hafter := call_balanced
      (fun call _ _ _ hcall => call.commit_balanced hcall
        ⟨fetcher.paths.objects, download.identifier⟩ download.sizeBytes)
      (fun _ _ => rfl) hmoved
    split
    · next hcall =>
      rw [hcall] at hafter
      exact release_balanced hafter
    · next hcall =>
      rw [hcall] at hafter
      exact hafter
  · exact h
  · next late =>
    cases late with
    | true => exact h
    | false => exact h

/-- When both files are removed nothing is retained. -/
theorem dropPartial_balanced {removals : Removals}
    (hremoves : removals.dropPartial = true ∧ removals.dropFinal = true)
    (h : s.media.Balanced kept) (paths : ManagedPaths) (download : Download) :
    (s.dropPartial paths download removals.dropPartial removals.dropFinal).media.Balanced
      kept := by
  obtain ⟨hpart, hfinal⟩ := hremoves
  rw [hpart, hfinal]
  have hemptied : ({ s with staged := none, object := none } : Fetching).media.Balanced kept := h
  exact release_balanced hemptied

theorem clean_balanced {removals : Removals}
    (hremoves : removals.dropPartial = true ∧ removals.dropFinal = true)
    (h : s.media.Balanced kept) (download : Download) (error : FetchError) :
    (s.clean fetcher removals download error).media.Balanced kept := by
  unfold Fetching.clean
  split_ifs
  · exact dropPartial_balanced hremoves h _ _
  · refine dropPartial_balanced hremoves ?_ _ _
    exact h
  · refine dropPartial_balanced hremoves ?_ _ _
    exact h

theorem cancel_balanced {removals : Removals}
    (hremoves : removals.dropPartial = true ∧ removals.dropFinal = true)
    (h : s.media.Balanced kept) (late : Bool) :
    (s.cancel fetcher late removals).media.Balanced kept := by
  unfold Fetching.cancel
  split
  · exact release_balanced h
  · exact release_balanced h
  · exact release_balanced h
  · refine dropPartial_balanced hremoves ?_ _ _
    cases late with
    | true => exact h
    | false => exact h
  · refine dropPartial_balanced hremoves ?_ _ _
    exact h
  · exact dropPartial_balanced hremoves h _ _
  · exact dropPartial_balanced hremoves h _ _
  · exact dropPartial_balanced hremoves h _ _
  · exact h
  · exact h
  · exact h

/-- A step whose removals succeed adds no charge but what others leave. -/
theorem step_balanced {removes : Prop} (hfiles : s.FilesInv removes fetcher)
    (h : s.media.Balanced kept) {event : FetchEvent} (hremoves : event.Removes) :
    (s.step fetcher request event).media.Balanced (kept + s.keptByOthers event) := by
  unfold FilesInv at hfiles
  unfold Fetching.step
  split
  · next hphase =>
    rw [hphase] at hfiles
    exact admit_balanced hfiles.1 h _
  · exact approve_balanced h _ _ _ _
  · next hphase =>
    rw [hphase] at hfiles
    exact receive_balanced hfiles.1 h _ _ _ _ _
  · exact start_balanced h _ _ _
  · next hphase =>
    rw [hphase] at hfiles
    exact next_balanced hfiles.holds h _
  · exact write_balanced h _ _ _
  · exact flush_balanced h _ _
  · exact rename_balanced h _ _ _
  · exact clean_balanced hremoves h _ _
  · exact cancel_balanced hremoves h _
  · exact other_balanced h _
  · rw [keptByOthers_eq_zero (by assumption)]
    exact h

/-- A step of the fetch or of others. -/
def Next (fetcher : MediaFetcher) (request : MediaRequest) (s : Fetching) (event : FetchEvent)
    (s' : Fetching) : Prop :=
  s.step fetcher request event = s'

/-- What the events of others in a history leave charged for nobody. -/
def keptIn (taken : List (Taken Fetching FetchEvent)) : ℕ :=
  (taken.map fun t => t.before.keptByOthers t.label).sum

/-- An error was returned, or the fetch was dropped. -/
def Failed (s : Fetching) : Prop :=
  (∃ error, s.phase = .finished (.error error)) ∨ s.phase = .cancelled

section Runs

variable {media : ManagedCapacity} {taken : List (Taken Fetching FetchEvent)}

theorem run_requests (hurls : fetcher.urls.Lawful)
    (run : Run (Next fetcher request) (initial media) taken s) : s.RequestsInv fetcher := by
  refine run.invariant (RequestsInv.initial media) ?_
  rintro s event s' hinv rfl
  exact hinv.step hurls event

theorem run_files (run : Run (Next fetcher request) (initial media) taken s) :
    s.FilesInv (∀ t ∈ taken, t.label.Removes) fetcher := by
  refine run.invariant_of (C := fun t => (∀ t ∈ taken, t.label.Removes) → t.label.Removes)
    (I := fun _ s => s.FilesInv (∀ t ∈ taken, t.label.Removes) fetcher)
    (filesInv_initial media) ?_ fun t ht hall => hall t ht
  rintro _ s event s' _ hinv rfl hremoves
  exact hinv.step event hremoves

theorem run_balanced {kept : ℕ} (hmedia : media.Balanced kept)
    (run : Run (Next fetcher request) (initial media) taken s)
    (hremoves : ∀ t ∈ taken, t.label.Removes) : s.media.Balanced (kept + keptIn taken) := by
  have hinv : s.FilesInv True fetcher ∧ s.media.Balanced (kept + keptIn taken) := by
    refine run.invariant_of (C := fun t => t.label.Removes)
      (I := fun taken s => s.FilesInv True fetcher ∧ s.media.Balanced (kept + keptIn taken))
      ⟨filesInv_initial media, hmedia⟩ ?_ hremoves
    rintro taken s event s' _ ⟨hfiles, hbalanced⟩ rfl hremoves
    refine ⟨hfiles.step event fun _ => hremoves, ?_⟩
    have hafter : (s.step fetcher request event).media.Balanced
        (kept + keptIn taken + s.keptByOthers event) := step_balanced hfiles hbalanced hremoves
    simpa [keptIn, Nat.add_assoc] using hafter
  exact hinv.2

end Runs

end Fetching

open Fetching

/-- At every moment of a fetch the files are within the reservation and the limit. A fetch that
succeeds has the final file of the size it reports, one that fails has none and holds nothing. The
requests are few, approved, all different, and never go back from TLS. -/
theorem remote_fetch_bounded {fetcher : MediaFetcher} {request : MediaRequest}
    (hurls : fetcher.urls.Lawful) {paths : ManagedPaths} {validated : Except JanitorError Unit}
    {staging objects : Option DirectoryListing} {maximumBytes maximumEntries : UInt64}
    {inner : CapacityInner} {media : ManagedCapacity}
    {earlier : List (Taken ManagedCapacity (CapacityEvent × Except StoreError Unit))}
    (hstart : initializeCapacity paths validated staging objects maximumBytes maximumEntries =
      .ok inner)
    (hearlier : Run (Follows ManagedCapacity.step) ⟨inner, []⟩ earlier media)
    {taken : List (Taken Fetching FetchEvent)} {s : Fetching}
    (run : Run (Next fetcher request) (Fetching.initial media) taken s) :
    (∀ contents, s.staged = some contents ∨ s.object = some contents →
      contents.length ≤ fetcher.limits.maxDownloadBytes.toNat ∧
        ∀ reservation, s.own = some reservation →
          contents.length ≤ reservation.chargedBytes.toNat) ∧
    (∀ downloaded, s.phase = .finished (.ok downloaded) →
      s.own = none ∧ s.staged = none ∧
        (∃ contents, s.object = some contents ∧
          contents.length = downloaded.sizeBytes.toNat) ∧
        ∃ response, s.accepted = some response ∧
          ∀ expected ∈ response.contentLength, expected = downloaded.sizeBytes) ∧
    (s.Failed → s.own = none ∧ ((∀ t ∈ taken, t.label.Removes) →
      s.object = none ∧ (∀ contents ∈ s.staged, contents = []) ∧
        (ManagedCapacity.mk s.inner s.others).Balanced
          (ManagedCapacity.keptIn earlier + keptIn taken))) ∧
    s.requests.length ≤ fetcher.limits.maxRedirects + 1 ∧
    (∀ target ∈ s.requests, ∃ raw resolve,
      fetcher.guard.approve fetcher.urls raw resolve = .ok target) ∧
    (s.requests.map (·.url.asStr)).Nodup ∧
    s.requests.Pairwise fun earlier later => Secure earlier.url later.url := by
  have hfiles := run_files run
  have hrequests := run_requests hurls run
  have hmedia := (ManagedCapacity.run_balanced (initializeCapacity_balanced hstart).1 hearlier).1
  refine ⟨fun contents hmem => hfiles.bounded hmem, ?_, ?_, hrequests.length_le,
    hrequests.approved, hrequests.distinct, hrequests.secure⟩
  · intro downloaded hphase
    rw [FilesInv, hphase] at hfiles
    exact ⟨hfiles.1, hfiles.2.1, hfiles.2.2.2⟩
  · intro hfailed
    have hended : s.own = none ∧ ((∀ t ∈ taken, t.label.Removes) → s.Emptied) := by
      rcases hfailed with ⟨error, hphase⟩ | hphase
      · rw [FilesInv, hphase] at hfiles
        exact ⟨hfiles.1, hfiles.2.2⟩
      · rw [FilesInv, hphase] at hfiles
        exact ⟨hfiles.1, hfiles.2.2⟩
    refine ⟨hended.1, fun hremoves => ?_⟩
    have hbalanced := run_balanced hmedia run hremoves
    rw [media_of_none hended.1] at hbalanced
    exact ⟨(hended.2 hremoves).1, (hended.2 hremoves).2, hbalanced⟩

def smallFetcher : MediaFetcher := ⟨plainWebUrls, ⟨64, 1, 8, 1⟩, ⟨"staging", "objects"⟩⟩

def threeBytes : List FetchEvent :=
  [.admitFetch true, .approval (.resolved publicAnswer true),
    .transport (.responded ⟨200, none, some 3, none⟩) true,
    .begun (.tried fun _ => .created "object"), .body (.chunk [1, 2, 3]), .written .done,
    .body .ended, .flushed .done, .renamed .done true]

theorem remote_fetch_bounded_threeBytes :
    (replay (Fetching.step smallFetcher (.directUrl "https://media.example/a"))
        (Fetching.initial ⟨emptyCapacity, []⟩) threeBytes).2.object = some [1, 2, 3] ∧
      (replay (Fetching.step smallFetcher (.directUrl "https://media.example/a"))
        (Fetching.initial ⟨emptyCapacity, []⟩) threeBytes).2.requests.length ≤ 2 ∧
      [1, 2, 3].length ≤ 8 := by
  have hobject : (replay (Fetching.step smallFetcher (.directUrl "https://media.example/a"))
      (Fetching.initial ⟨emptyCapacity, []⟩) threeBytes).2.object = some [1, 2, 3] := by
    decide +kernel
  have hurls : smallFetcher.urls.Lawful := plainWebUrls_lawful
  have run : Run (Next smallFetcher (.directUrl "https://media.example/a"))
      (Fetching.initial ⟨emptyCapacity, []⟩) _ _ := run_replay _ _ threeBytes
  have hall := remote_fetch_bounded hurls
    (show initializeCapacity ⟨"staging", "objects"⟩ (.ok ()) (some []) (some []) 16 4 =
      .ok emptyCapacity from rfl) .nil run
  exact ⟨hobject, hall.2.2.2.1, (hall.1 _ (.inr hobject)).1⟩

end PepeAudio
