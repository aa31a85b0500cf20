import PepeAudio.Media.RemoteFetch

/-!
# The requests of a fetch

Along the redirects the requests are counted and their URLs remembered. Each of them
was approved, none is made twice, and after a request over TLS no other one is made
without it.
-/
namespace PepeAudio

/-- What is relied on of a URL library: a resolved reference is serialised to a text that parses
to it. -/
structure WebUrls.Lawful (urls : WebUrls) : Prop where
  joined : ∀ base location url, urls.join base location = some url →
    urls.parse url.asStr = some url

theorem plainWebUrls_lawful : plainWebUrls.Lawful := ⟨fun _ _ _ h => PlainUrl.fixed h⟩

section Redirects

variable {urls : WebUrls} {guard : UrlGuard}

theorem scheme_of_validateParsed {url : Url} (h : guard.validateParsed urls url = .ok ()) :
    url.scheme = "http" ∨ url.scheme = "https" := by
  unfold UrlGuard.validateParsed at h
  split_ifs at h with _ hscheme
  by_contra hother
  push Not at hother
  exact hscheme hother

/-- A redirect that is followed leads to a URL of a web scheme, and never from TLS to none. -/
theorem join_eq_ok {base : Url} {location next : String}
    (h : guard.join urls base location = .ok next) :
    ∃ joined, urls.join base location = some joined ∧ next = joined.asStr ∧
      (base.scheme = "https" → joined.scheme = "https") := by
  unfold UrlGuard.join at h
  split_ifs at h
  cases hjoined : urls.join base location with
  | none => simp [hjoined] at h
  | some joined =>
    rw [hjoined] at h
    obtain ⟨_, hvalid, h⟩ := bind_eq_ok h
    split_ifs at h with hinsecure
    refine ⟨joined, rfl, (Except.ok.inj h).symm, fun hsecure => ?_⟩
    rcases scheme_of_validateParsed hvalid with hhttp | hhttps
    · exact absurd ⟨hsecure, hhttp⟩ hinsecure
    · exact hhttps

end Redirects

/-- No step from TLS to none. -/
def Secure (earlier later : Url) : Prop := earlier.scheme = "https" → later.scheme = "https"

/-- The phases after the last request. -/
def FetchPhase.afterRequests : FetchPhase → Bool
  | .admission | .approving .. | .requesting .. => false
  | _ => true

namespace Fetching

section Frame

variable {s : Fetching}

@[simp] theorem release_requests : s.release.requests = s.requests := by
  unfold release
  split <;> rfl

@[simp] theorem fail_requests {error : FetchError} : (s.fail error).requests = s.requests :=
  release_requests

@[simp] theorem fail_phase {error : FetchError} :
    (s.fail error).phase = .finished (.error error) := rfl

@[simp] theorem cleanUp_requests {download : Download} {error : FetchError} :
    (s.cleanUp download error).requests = s.requests := rfl

@[simp] theorem cleanUp_phase {download : Download} {error : FetchError} :
    (s.cleanUp download error).phase = .cleaning download error := rfl

@[simp] theorem move_requests : s.move.requests = s.requests := rfl

@[simp] theorem call_requests {method : EStateM StoreError ReservationCall Unit} :
    (s.call method).2.requests = s.requests := by
  unfold call
  split
  · rfl
  · split <;> rfl

@[simp] theorem dropPartial_requests {paths : ManagedPaths} {download : Download}
    {partialRemoved finalRemoved : Bool} :
    (s.dropPartial paths download partialRemoved finalRemoved).requests = s.requests := by
  unfold dropPartial
  dsimp only
  split
  · exact release_requests
  · rw [release_requests, call_requests]

end Frame

section Invariant

variable {fetcher : MediaFetcher} {request : MediaRequest} {s s' : Fetching}

/-- What each phase knows of the requests. -/
def PhaseRequests (fetcher : MediaFetcher) (s : Fetching) : Prop :=
  match s.phase with
  | .admission => s.requests = []
  | .approving current visited redirectCount =>
    s.requests.length = redirectCount ∧ redirectCount ≤ fetcher.limits.maxRedirects ∧
      visited = s.requests.map (·.url.asStr) ∧
      ∀ url, fetcher.urls.parse current = some url →
        ∀ earlier ∈ s.requests, Secure earlier.url url
  | .requesting target visited redirectCount =>
    s.requests.length = redirectCount + 1 ∧ redirectCount ≤ fetcher.limits.maxRedirects ∧
      visited = s.requests.map (·.url.asStr) ∧
      ∀ earlier ∈ s.requests, Secure earlier.url target.url
  | _ => s.requests.length ≤ fetcher.limits.maxRedirects + 1

structure RequestsInv (fetcher : MediaFetcher) (s : Fetching) : Prop where
  approved : ∀ target ∈ s.requests, ∃ raw resolve,
    fetcher.guard.approve fetcher.urls raw resolve = .ok target
  distinct : (s.requests.map (·.url.asStr)).Nodup
  secure : s.requests.Pairwise fun earlier later => Secure earlier.url later.url
  phase : s.PhaseRequests fetcher

theorem RequestsInv.length_le (h : s.RequestsInv fetcher) :
    s.requests.length ≤ fetcher.limits.maxRedirects + 1 := by
  have hphase := h.phase
  unfold PhaseRequests at hphase
  split at hphase
  · simp [hphase]
  · omega
  · omega
  · exact hphase

/-- A late phase with the same requests. -/
theorem RequestsInv.of_after (h : s.RequestsInv fetcher) (hsame : s'.requests = s.requests)
    (hafter : s'.phase.afterRequests = true) : s'.RequestsInv fetcher := by
  refine ⟨by rw [hsame]; exact h.approved, by rw [hsame]; exact h.distinct,
    by rw [hsame]; exact h.secure, ?_⟩
  have hlength := h.length_le
  rw [← hsame] at hlength
  unfold PhaseRequests
  split
  · next hphase => simp [hphase, FetchPhase.afterRequests] at hafter
  · next hphase => simp [hphase, FetchPhase.afterRequests] at hafter
  · next hphase => simp [hphase, FetchPhase.afterRequests] at hafter
  · exact hlength

theorem RequestsInv.fail (h : s.RequestsInv fetcher) (error : FetchError) :
    (s.fail error).RequestsInv fetcher :=
  h.of_after fail_requests rfl

theorem RequestsInv.admitFetch (h : s.RequestsInv fetcher) (hphase : s.phase = .admission)
    (deadlineFits : Bool) : (s.admitFetch fetcher request deadlineFits).RequestsInv fetcher := by
  have hempty : s.requests = [] := by
    have hphaseInv := h.phase
    rw [PhaseRequests, hphase] at hphaseInv
    exact hphaseInv
  unfold Fetching.admitFetch
  dsimp only
  split_ifs
  · exact h.of_after rfl rfl
  · split
    · exact h.of_after rfl rfl
    · exact h.of_after rfl rfl
    · next reservation inner _ =>
      refine ⟨h.approved, h.distinct, h.secure, ?_⟩
      simp [PhaseRequests, hempty]
  · split
    · exact h.of_after rfl rfl
    · exact h.of_after rfl rfl
    · exact h.of_after fail_requests rfl

/-- A request is made for a URL that is approved, new, and as secure as the ones before. -/
theorem RequestsInv.approve (h : s.RequestsInv fetcher) (outcome : ApprovalOutcome)
    {current : String} {visited : List String} {redirectCount : ℕ}
    (hphase : s.phase = .approving current visited redirectCount) :
    (s.approve fetcher request outcome current visited redirectCount).RequestsInv fetcher := by
  have hphaseInv := h.phase
  rw [PhaseRequests, hphase] at hphaseInv
  obtain ⟨hcount, hlimit, hvisited, hsecure⟩ := hphaseInv
  unfold Fetching.approve
  split
  · exact h.fail _
  · next resolve timeLeft =>
    split
    · exact h.fail _
    · next approved happroved =>
      have hparse := (approve_eq_ok happroved).1
      split
      · exact h.fail _
      · split_ifs with _ hnew
        · exact h.fail _
        · exact h.fail _
        · exact h.fail _
        · rw [hvisited] at hnew
          have hlast := hsecure approved.url hparse
          refine ⟨?_, ?_, ?_, ?_⟩
          · intro target hmem
            rcases List.mem_append.mp hmem with hmem | hmem
            · exact h.approved target hmem
            · obtain rfl := List.mem_singleton.mp hmem
              exact ⟨current, resolve, happroved⟩
          · simp only [List.map_append, List.map_singleton]
            exact List.nodup_append.mpr ⟨h.distinct, List.nodup_singleton _, by
              intro url hmem other hother
              obtain rfl := List.mem_singleton.mp hother
              rintro rfl
              exact hnew hmem⟩
          · refine List.pairwise_append.mpr ⟨h.secure, List.pairwise_singleton _ _, ?_⟩
            intro earlier hmem later hafterr
            obtain rfl := List.mem_singleton.mp hafterr
            exact hlast earlier hmem
          · refine ⟨by simp [hcount], hlimit, by simp [hvisited], ?_⟩
            intro earlier hmem
            rcases List.mem_append.mp hmem with hmem | hmem
            · exact hlast earlier hmem
            · obtain rfl := List.mem_singleton.mp hmem
              exact id

/-- A step that ends the redirects or goes on with the file. -/
def AfterRequests (s s' : Fetching) : Prop :=
  s'.requests = s.requests ∧ s'.phase.afterRequests = true

theorem ensureLength_requests {response : HttpResponse} {outcome : Except StoreError Unit}
    {after : Fetching} (h : s.ensureLength response = (outcome, after)) :
    after.requests = s.requests := by
  unfold ensureLength at h
  split at h
  · exact (congrArg (·.2.requests) h).symm
  · exact (congrArg (·.2.requests) h).symm.trans call_requests

theorem accept_after (response : HttpResponse) (finalUrl : String) (deadlineFits : Bool) :
    s.AfterRequests (s.accept fetcher response finalUrl deadlineFits) := by
  unfold Fetching.accept
  dsimp only
  split_ifs
  · exact ⟨fail_requests, rfl⟩
  all_goals
    split
    · next error after hensured =>
      have hsame : after.requests = ({ s with accepted := some response } : Fetching).requests :=
        ensureLength_requests hensured
      exact ⟨fail_requests.trans hsame, rfl⟩
    · next after hensured =>
      have hsame : after.requests = ({ s with accepted := some response } : Fetching).requests :=
        ensureLength_requests hensured
      first
        | exact ⟨hsame, rfl⟩
        | exact ⟨fail_requests.trans hsame, rfl⟩

theorem RequestsInv.receive (h : s.RequestsInv fetcher) (hurls : fetcher.urls.Lawful)
    (outcome : TransportOutcome) (deadlineFits : Bool) {target : ApprovedUrl}
    {visited : List String} {redirectCount : ℕ}
    (hphase : s.phase = .requesting target visited redirectCount) :
    (s.receive fetcher outcome deadlineFits target visited redirectCount).RequestsInv fetcher := by
  have hphaseInv := h.phase
  rw [PhaseRequests, hphase] at hphaseInv
  obtain ⟨hcount, hlimit, hvisited, hsecure⟩ := hphaseInv
  unfold Fetching.receive
  split
  · exact h.fail _
  · exact h.fail _
  · split_ifs with _ hredirects
    · exact h.fail _
    · split
      · exact h.fail _
      · split
        · exact h.fail _
        · next next hjoin =>
          obtain ⟨joined, hjoined, rfl, hkept⟩ := join_eq_ok hjoin
          refine ⟨h.approved, h.distinct, h.secure, hcount, Nat.lt_of_not_le hredirects, hvisited,
            ?_⟩
          intro url hurl earlier hmem hearlier
          rw [hurls.joined _ _ _ hjoined] at hurl
          obtain rfl := Option.some.inj hurl
          exact hkept (hsecure earlier hmem hearlier)
    · exact h.fail _
    · exact h.of_after (accept_after _ _ _).1 (accept_after _ _ _).2

theorem start_after (outcome : BeginOutcome) (response : HttpResponse) (finalUrl : String) :
    s.AfterRequests (s.start outcome response finalUrl) := by
  unfold Fetching.start
  split
  · have hsame : (s.fail .downloadTimeout).requests = s.requests := fail_requests
    exact ⟨hsame, rfl⟩
  · exact ⟨fail_requests, rfl⟩
  · split
    · exact ⟨fail_requests, rfl⟩
    · exact ⟨rfl, rfl⟩

theorem next_after (outcome : BodyOutcome) (download : Download) :
    s.AfterRequests (s.next fetcher outcome download) := by
  unfold Fetching.next
  split
  · exact ⟨rfl, rfl⟩
  · exact ⟨rfl, rfl⟩
  · split
    · exact ⟨rfl, rfl⟩
    · split_ifs
      · exact ⟨rfl, rfl⟩
      · split
        · next hcall => exact ⟨(congrArg (·.2.requests) hcall).symm.trans call_requests, rfl⟩
        · next hcall => exact ⟨(congrArg (·.2.requests) hcall).symm.trans call_requests, rfl⟩
  · split_ifs
    · exact ⟨rfl, rfl⟩
    · exact ⟨rfl, rfl⟩
    · exact ⟨rfl, rfl⟩

theorem write_after (outcome : WriteOutcome) (download : Download) (chunk : Bytes) :
    s.AfterRequests (s.write outcome download chunk) := by
  cases outcome with
  | done => exact ⟨rfl, rfl⟩
  | failed written => exact ⟨rfl, rfl⟩
  | timedOut written => exact ⟨rfl, rfl⟩

theorem flush_after (outcome : FileOutcome) (download : Download) :
    s.AfterRequests (s.flush outcome download) := by
  cases outcome with
  | done => exact ⟨rfl, rfl⟩
  | failed => exact ⟨rfl, rfl⟩
  | timedOut late => exact ⟨rfl, rfl⟩

theorem rename_after (outcome : FileOutcome) (removed : Bool) (download : Download) :
    s.AfterRequests (s.rename fetcher request outcome removed download) := by
  unfold Fetching.rename
  split
  · dsimp only
    split
    · next hcall =>
      have hsame := (congrArg (·.2.requests) hcall).symm.trans call_requests
      exact ⟨release_requests.trans hsame, rfl⟩
    · next hcall => exact ⟨(congrArg (·.2.requests) hcall).symm.trans call_requests, rfl⟩
  · exact ⟨rfl, rfl⟩
  · next late =>
    cases late with
    | true => exact ⟨rfl, rfl⟩
    | false => exact ⟨rfl, rfl⟩

theorem clean_after (removals : Removals) (download : Download) (error : FetchError) :
    s.AfterRequests (s.clean fetcher removals download error) := by
  unfold Fetching.clean
  split_ifs
  · exact ⟨dropPartial_requests, rfl⟩
  · exact ⟨dropPartial_requests, rfl⟩
  · exact ⟨dropPartial_requests, rfl⟩

theorem RequestsInv.cancel (h : s.RequestsInv fetcher) (late : Bool) (removals : Removals) :
    (s.cancel fetcher late removals).RequestsInv fetcher := by
  unfold Fetching.cancel
  split
  · exact h.of_after release_requests rfl
  · exact h.of_after release_requests rfl
  · exact h.of_after release_requests rfl
  · cases late with
    | true => exact h.of_after dropPartial_requests rfl
    | false => exact h.of_after dropPartial_requests rfl
  · exact h.of_after dropPartial_requests rfl
  · exact h.of_after dropPartial_requests rfl
  · exact h.of_after dropPartial_requests rfl
  · exact h.of_after dropPartial_requests rfl
  · exact h
  · exact h
  · exact h

/-- No step makes a request that is not approved, not new, or less secure than one before. -/
theorem RequestsInv.step (h : s.RequestsInv fetcher) (hurls : fetcher.urls.Lawful)
    (event : FetchEvent) : (s.step fetcher request event).RequestsInv fetcher := by
  unfold Fetching.step
  split
  · next hphase => exact h.admitFetch hphase _
  · next hphase => exact h.approve _ hphase
  · next hphase => exact h.receive hurls _ _ hphase
  · exact h.of_after (start_after _ _ _).1 (start_after _ _ _).2
  · exact h.of_after (next_after _ _).1 (next_after _ _).2
  · exact h.of_after (write_after _ _ _).1 (write_after _ _ _).2
  · exact h.of_after (flush_after _ _).1 (flush_after _ _).2
  · exact h.of_after (rename_after _ _ _).1 (rename_after _ _ _).2
  · exact h.of_after (clean_after _ _ _).1 (clean_after _ _ _).2
  · exact h.cancel _ _
  · exact ⟨h.approved, h.distinct, h.secure, h.phase⟩
  · exact h

theorem RequestsInv.initial (media : ManagedCapacity) : (initial media).RequestsInv fetcher :=
  ⟨by simp [Fetching.initial], by simp [Fetching.initial], by simp [Fetching.initial], rfl⟩

end Invariant

end Fetching

end PepeAudio
