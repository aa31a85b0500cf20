import PepeAudio.Lib.Program
import PepeAudio.Media.Capacity

/-!
# The capacity accounts balance

Every charged byte belongs to a recorded file or to an active reservation. There
are two exceptions, and both only ever add to the charge: a reservation that
ends for a path that is recorded already, and one that grows after its end.
-/
namespace PepeAudio

/-- The bytes that a reservation holds. -/
def CapacityReservation.held (reservation : CapacityReservation) : ℕ :=
  if reservation.active then reservation.chargedBytes.toNat else 0

/-- The place among the entries that a reservation holds. -/
def CapacityReservation.place (reservation : CapacityReservation) : ℕ :=
  if reservation.active then 1 else 0

def CapacityInner.limits (inner : CapacityInner) : UInt64 × UInt64 :=
  (inner.maximumBytes, inner.maximumEntries)

/-- The accounts with so many bytes and places reserved, and so many bytes kept for nobody. -/
structure CapacityInner.Balanced (inner : CapacityInner) (reserved places kept : ℕ) : Prop where
  charged : inner.state.chargedBytes.toNat =
    totalWeight UInt64.toNat inner.state.entries + reserved + kept
  reservations : inner.state.reservations.toNat = places
  bytes : inner.state.chargedBytes ≤ inner.maximumBytes
  entries : inner.state.entries.entries.length + places ≤ inner.maximumEntries.toNat

/-- The bytes that `ensure` charges for a reservation that has ended. -/
def ReservationCall.keptByEnsure (call : ReservationCall) (requestedBytes : UInt64) : ℕ :=
  if call.reservation.active = false ∧ fits call.inner.state.chargedBytes
      (requestedBytes - call.reservation.chargedBytes) call.inner.maximumBytes = true then
    requestedBytes.toNat - call.reservation.chargedBytes.toNat
  else 0

/-- The bytes that stay charged when a reservation ends for a recorded path. -/
def ReservationCall.keptByRetain (call : ReservationCall) (path : MediaPath) : ℕ :=
  if path ∈ call.inner.state.entries then call.reservation.held else 0

theorem fits_iff {current additional maximum : UInt64} :
    fits current additional maximum = true ↔
      current.toNat + additional.toNat ≤ maximum.toNat := by
  have hmaximum := maximum.toNat_lt
  unfold fits
  cases hsum : checkedAdd current additional with
  | none =>
    have hsize := checkedAdd_eq_none hsum
    simp only [UInt64.size] at hsize
    simp
    omega
  | some total =>
    have htotal := checkedAdd_toNat hsum
    simp only [decide_eq_true_eq, UInt64.le_iff_toNat_le]
    omega

/-- The charge that `fits` admits does not wrap. -/
theorem toNat_add_of_fits {current additional maximum : UInt64}
    (h : fits current additional maximum = true) :
    (current + additional).toNat = current.toNat + additional.toNat := by
  have hle := fits_iff.mp h
  have hmaximum := maximum.toNat_lt
  rw [UInt64.toNat_add]
  exact Nat.mod_eq_of_lt (by omega)

namespace ReservationCall

variable {call : ReservationCall} {reserved places kept : ℕ} {path : MediaPath}

/-- The accounts with the reservation of a call beside the others. -/
def Balanced (call : ReservationCall) (reserved places kept : ℕ) : Prop :=
  call.inner.Balanced (reserved + call.reservation.held) (places + call.reservation.place) kept

@[simp] theorem setState_inner (call : ReservationCall) (state : CapacityState) :
    (call.setState state).inner = { call.inner with state } := rfl

@[simp] theorem setState_reservation (call : ReservationCall) (state : CapacityState) :
    (call.setState state).reservation = call.reservation := rfl

theorem ensure_balanced (h : call.Balanced reserved places kept) (requestedBytes : UInt64) :
    Ends (ensure requestedBytes) call
      (fun _ after => after.Balanced reserved places (kept + call.keptByEnsure requestedBytes))
      (fun _ after => after = call ∧ call.keptByEnsure requestedBytes = 0) := by
  unfold ensure
  simp only [ends_bind, ends_get, ends_ite, ends_pure, ends_throw, ends_modify]
  split
  · next hle =>
    have hnothing : call.keptByEnsure requestedBytes = 0 := by
      have hle : requestedBytes.toNat ≤ call.reservation.chargedBytes.toNat := hle
      unfold keptByEnsure
      split <;> omega
    rw [hnothing]
    exact h
  · next hlt =>
    split
    · next hfull => simp [keptByEnsure, hfull]
    · next hfits =>
      have hfits := (Bool.not_eq_false _).mp hfits
      have hsum := toNat_add_of_fits hfits
      have hmaximum := fits_iff.mp hfits
      have hgrows : call.reservation.chargedBytes.toNat < requestedBytes.toNat :=
        Nat.lt_of_not_le hlt
      have hmore := UInt64.toNat_sub_of_le requestedBytes call.reservation.chargedBytes
        (UInt64.le_iff_toNat_le.mpr (by omega))
      obtain ⟨hcharged, hreservations, hbytes, hentries⟩ := h
      refine ⟨?_, hreservations, ?_, hentries⟩
      · simp only [setState_inner, setState_reservation, hsum, hmore, hcharged, keptByEnsure, hfits,
          CapacityReservation.held]
        by_cases hactive : call.reservation.active = true <;> simp [hactive] <;> omega
      · simp only [setState_inner, UInt64.le_iff_toNat_le, hsum]
        exact hmaximum

/-- The accounts of an active reservation. -/
theorem Balanced.of_active (h : call.Balanced reserved places kept)
    (hactive : call.reservation.active = true) :
    call.inner.Balanced (reserved + call.reservation.chargedBytes.toNat) (places + 1) kept := by
  simpa only [Balanced, CapacityReservation.held, CapacityReservation.place, hactive, if_true]
    using h

/-- The accounts after the end of a reservation. -/
theorem balanced_ended {call : ReservationCall} (hactive : call.reservation.active = false) :
    call.Balanced reserved places kept ↔ call.inner.Balanced reserved places kept := by
  simp [Balanced, CapacityReservation.held, CapacityReservation.place, hactive]

theorem toNat_pred {n : UInt64} {m : ℕ} (h : n.toNat = m + 1) : (n - 1).toNat = m := by
  rw [UInt64.toNat_sub_of_le n 1 (UInt64.le_iff_toNat_le.mpr (by simp; omega)), h]
  rfl

theorem commit_balanced (h : call.Balanced reserved places kept) (path : MediaPath)
    (actualBytes : UInt64) :
    Ends (commit path actualBytes) call
      (fun _ after => after.Balanced reserved places (kept + 0))
      (fun _ after => after = call ∧ 0 = 0) := by
  unfold commit
  simp only [ends_bind, ends_get, ends_ite, ends_throw, and_true, Nat.add_zero]
  split
  · trivial
  · next hguard =>
    split
    · trivial
    · next hfree =>
      push Not at hguard hfree
      obtain ⟨hactive, -, hactual⟩ := hguard
      obtain ⟨hcharged, hreservations, hbytes, hentries⟩ :=
        h.of_active ((Bool.not_eq_false _).mp hactive)
      split
      · trivial
      · next chargedBytes hnew =>
        obtain ⟨left, hleft, hnew⟩ := Option.bind_eq_some_iff.mp hnew
        have hleft := checkedSub_toNat hleft
        have hnew := checkedAdd_toNat hnew
        have hactual : actualBytes.toNat ≤ call.reservation.chargedBytes.toNat :=
          Nat.le_of_not_lt hactual
        have hbytes : call.inner.state.chargedBytes.toNat ≤ call.inner.maximumBytes.toNat := hbytes
        simp only [ends_modify, ends_bind, setState_inner, setState_reservation]
        rw [balanced_ended rfl]
        refine ⟨?_, toNat_pred hreservations, ?_, ?_⟩
        · simp only [totalWeight_insert hfree.1]
          omega
        · simp only [UInt64.le_iff_toNat_le]
          omega
        · simp only [length_entries_insert hfree.1]
          omega

theorem retainFailedFile_balanced (h : call.Balanced reserved places kept) (path : MediaPath) :
    Ends (retainFailedFile path) call
      (fun _ after => after.Balanced reserved places (kept + call.keptByRetain path))
      (fun _ after => after = call ∧ call.keptByRetain path = 0) := by
  unfold retainFailedFile
  simp only [ends_bind, ends_get, ends_ite, ends_pure, ends_modify, setState_inner,
    setState_reservation]
  split
  · next hended =>
    have hnothing : call.keptByRetain path = 0 := by
      simp [keptByRetain, CapacityReservation.held, hended]
    rw [hnothing]
    exact h
  · next hactive =>
    have hactive := (Bool.not_eq_false _).mp hactive
    obtain ⟨hcharged, hreservations, hbytes, hentries⟩ := h.of_active hactive
    have hpositive : 0 < call.inner.state.reservations :=
      UInt64.lt_iff_toNat_lt.mpr (by simp; omega)
    rw [if_pos hpositive]
    split
    · next hrecorded =>
      have hkept : call.keptByRetain path = call.reservation.chargedBytes.toNat := by
        simp [keptByRetain, CapacityReservation.held, hrecorded, hactive]
      rw [balanced_ended rfl, hkept]
      exact ⟨by simp only; omega, toNat_pred hreservations, hbytes, by simp only; omega⟩
    · next hfree =>
      have hnothing : call.keptByRetain path = 0 := by simp [keptByRetain, hfree]
      rw [balanced_ended rfl, hnothing]
      refine ⟨?_, toNat_pred hreservations, hbytes, ?_⟩
      · simp only [totalWeight_insert hfree]
        omega
      · simp only [length_entries_insert hfree]
        omega

end ReservationCall

namespace CapacityInner

variable {inner : CapacityInner} {reserved places kept : ℕ}

theorem reserve_balanced (h : inner.Balanced reserved places kept) (requestedBytes : UInt64) :
    Ends (reserve requestedBytes) inner
      (fun reservation after =>
        after.Balanced (reserved + reservation.held) (places + reservation.place) kept)
      (fun _ after => after = inner) := by
  unfold reserve
  simp only [ends_bind, ends_get, ends_ite, ends_throw, ends_set, ends_pure]
  split
  · trivial
  · next hfree =>
    push Not at hfree
    obtain ⟨hplaces, hfits⟩ := hfree
    have hfits := (Bool.not_eq_false _).mp hfits
    have hsum := toNat_add_of_fits hfits
    obtain ⟨hcharged, hreservations, hbytes, hentries⟩ := h
    have hmaximum := inner.maximumEntries.toNat_lt
    have hoccupied : inner.state.entries.entries.length + places < inner.maximumEntries.toNat := by
      rw [hreservations] at hplaces
      simp only [USIZE_MAX] at hplaces
      omega
    refine ⟨?_, ?_, ?_, ?_⟩
    · simp only [hsum, hcharged, CapacityReservation.held, if_true]
      omega
    · simp only [UInt64.toNat_add, hreservations, CapacityReservation.place, if_true]
      exact Nat.mod_eq_of_lt (by simp; omega)
    · simp only [UInt64.le_iff_toNat_le, hsum]
      exact fits_iff.mp hfits
    · simp only [CapacityReservation.place, if_true]
      omega

theorem removed_balanced (h : inner.Balanced reserved places kept) (path : MediaPath) :
    (inner.removed path).Balanced reserved places kept := by
  obtain ⟨hcharged, hreservations, hbytes, hentries⟩ := h
  unfold removed
  split
  · next bytes hlookup =>
    have hweight := totalWeight_erase (f := UInt64.toNat) hlookup
    have hlength := length_entries_erase hlookup
    have hleft : bytes.toNat ≤ inner.state.chargedBytes.toNat := by omega
    have hsub := saturatingSub_toNat hleft
    have hbytes := UInt64.le_iff_toNat_le.mp hbytes
    refine ⟨by simp only; omega, hreservations, ?_, by simp only; omega⟩
    simp only [UInt64.le_iff_toNat_le]
    omega
  · exact ⟨hcharged, hreservations, hbytes, hentries⟩

theorem dropReservation_balanced {reservation : CapacityReservation}
    (h : inner.Balanced (reserved + reservation.held) (places + reservation.place) kept) :
    (inner.dropReservation reservation).Balanced reserved places kept := by
  unfold dropReservation
  split
  · next hactive =>
    simp only [CapacityReservation.held, CapacityReservation.place, hactive, if_true] at h
    obtain ⟨hcharged, hreservations, hbytes, hentries⟩ := h
    have hsub : reservation.chargedBytes.toNat ≤ inner.state.chargedBytes.toNat := by omega
    have hsub := saturatingSub_toNat hsub
    have hone : (1 : UInt64).toNat ≤ inner.state.reservations.toNat := by
      rw [hreservations]
      exact Nat.le_add_left _ _
    have hone := saturatingSub_toNat hone
    have hbytes := UInt64.le_iff_toNat_le.mp hbytes
    refine ⟨by simp only; omega, ?_, ?_, by simp only; omega⟩
    · simp only [UInt64.toNat_one] at hone ⊢
      omega
    · simp only [UInt64.le_iff_toNat_le]
      omega
  · next hended =>
    simpa [CapacityReservation.held, CapacityReservation.place, hended] using h

end CapacityInner

theorem scanEntries_charged {directory : String} {staging : Bool} {maximumEntries : UInt64}
    {listing : DirectoryListing} {entries entries' : ManagedFiles} {charged charged' : UInt64}
    (hcharged : charged.toNat = totalWeight UInt64.toNat entries)
    (h : scanEntries directory staging maximumEntries listing (entries, charged) =
      .ok (entries', charged')) :
    charged'.toNat = totalWeight UInt64.toNat entries' := by
  induction listing generalizing entries charged with
  | nil =>
    obtain ⟨rfl, rfl⟩ := Prod.mk.inj (Except.ok.inj h)
    exact hcharged
  | cons entry listing ih =>
    cases entry with
    | none => simp [scanEntries] at h
    | some entry =>
      rw [scanEntries] at h
      split at h
      · contradiction
      split at h
      · contradiction
      split at h
      · contradiction
      split at h
      · next length canonical _ _ =>
        split at h
        · contradiction
        split at h
        · contradiction
        · next sum hsum =>
          split at h
          · contradiction
          · next hnew =>
            refine ih ?_ h
            rw [checkedAdd_toNat hsum, totalWeight_insert hnew]
            omega
      · contradiction

theorem scanDirectory_charged {directory : String} {staging : Bool} {maximumEntries : UInt64}
    {listing : Option DirectoryListing} {entries entries' : ManagedFiles}
    {charged charged' : UInt64}
    (hcharged : charged.toNat = totalWeight UInt64.toNat entries)
    (h : scanDirectory directory staging maximumEntries listing (entries, charged) =
      .ok (entries', charged')) :
    charged'.toNat = totalWeight UInt64.toNat entries' := by
  cases listing with
  | none => contradiction
  | some listing => exact scanEntries_charged hcharged h

theorem initializeCapacity_balanced {paths : ManagedPaths} {validated : Except JanitorError Unit}
    {staging objects : Option DirectoryListing} {maximumBytes maximumEntries : UInt64}
    {inner : CapacityInner}
    (h : initializeCapacity paths validated staging objects maximumBytes maximumEntries =
      .ok inner) :
    inner.Balanced 0 0 0 ∧ inner.limits = (maximumBytes, maximumEntries) := by
  unfold initializeCapacity at h
  split at h
  · contradiction
  obtain ⟨-, -, h⟩ := bind_eq_ok h
  obtain ⟨⟨left, charged⟩, hstaging, h⟩ := bind_eq_ok h
  obtain ⟨⟨entries, chargedBytes⟩, hobjects, h⟩ := bind_eq_ok h
  have hleft : charged.toNat = totalWeight UInt64.toNat left :=
    scanDirectory_charged (by simp) hstaging
  have hcharged : chargedBytes.toNat = totalWeight UInt64.toNat entries :=
    scanDirectory_charged hleft hobjects
  simp only at h
  split at h
  · contradiction
  · next hentries =>
    split at h
    · contradiction
    · next hbytes =>
      obtain rfl := Except.ok.inj h
      exact ⟨⟨by simpa using hcharged, rfl, UInt64.not_lt.mp hbytes, by simpa using hentries⟩, rfl⟩

namespace ManagedCapacity

variable {media media' : ManagedCapacity} {kept : ℕ}

/-- The bytes that all reservations hold. -/
def reserved (media : ManagedCapacity) : ℕ :=
  (media.reservations.map CapacityReservation.held).sum

/-- The number of active reservations. -/
def places (media : ManagedCapacity) : ℕ :=
  (media.reservations.map CapacityReservation.place).sum

def Balanced (media : ManagedCapacity) (kept : ℕ) : Prop :=
  media.inner.Balanced media.reserved media.places kept

/-- What a call of a method leaves charged for nobody. -/
def keptByCall (media : ManagedCapacity) (index : ℕ) (keep : ReservationCall → ℕ) : ℕ :=
  match media.reservations[index]? with
  | none => 0
  | some reservation => keep ⟨media.inner, reservation⟩

/-- What an event leaves charged for nobody. -/
def keptBy (media : ManagedCapacity) : CapacityEvent → ℕ
  | .ensure index requestedBytes =>
    media.keptByCall index fun call => call.keptByEnsure requestedBytes
  | .retainFailedFile index path => media.keptByCall index fun call => call.keptByRetain path
  | _ => 0

/-- What a history leaves charged for nobody. -/
def keptIn (taken : List (Taken ManagedCapacity (CapacityEvent × Except StoreError Unit))) : ℕ :=
  (taken.map fun t => t.before.keptBy t.label.1).sum

theorem call_balanced (h : media.Balanced kept) (index : ℕ)
    {method : EStateM StoreError ReservationCall Unit} (keep : ReservationCall → ℕ)
    (hmethod : ∀ call reserved places kept, ReservationCall.Balanced call reserved places kept →
      Ends method call (fun _ after => after.Balanced reserved places (kept + keep call))
        (fun _ after => after = call ∧ keep call = 0)) :
    (media.call index method).2.Balanced (kept + media.keptByCall index keep) ∧
      ∀ error, (media.call index method).1 = .error error →
        (media.call index method).2 = media := by
  cases hindex : media.reservations[index]? with
  | none => simp [call, keptByCall, hindex, h]
  | some reservation =>
    have hkeep : media.keptByCall index keep = keep ⟨media.inner, reservation⟩ := by
      simp only [keptByCall, hindex]
    have hheld := sum_map_eraseIdx (f := CapacityReservation.held) hindex
    have hplace := sum_map_eraseIdx (f := CapacityReservation.place) hindex
    have hbefore : media.inner.Balanced
        (((media.reservations.eraseIdx index).map CapacityReservation.held).sum + reservation.held)
        (((media.reservations.eraseIdx index).map CapacityReservation.place).sum +
          reservation.place) kept := by
      rw [hheld, hplace]
      exact h
    have hcall := hmethod ⟨media.inner, reservation⟩ _ _ kept hbefore
    cases hresult : method ⟨media.inner, reservation⟩ with
    | ok _ after =>
      have hstep : media.call index method =
          (.ok (), ⟨after.inner, media.reservations.set index after.reservation⟩) := by
        simp only [call, hindex, hresult]
      have hheld' := sum_map_set (f := CapacityReservation.held) hindex after.reservation
      have hplace' := sum_map_set (f := CapacityReservation.place) hindex after.reservation
      have hreserved : reserved ⟨after.inner, media.reservations.set index after.reservation⟩ =
          ((media.reservations.eraseIdx index).map CapacityReservation.held).sum +
            after.reservation.held := by
        simp only [reserved]
        omega
      have hplaces : places ⟨after.inner, media.reservations.set index after.reservation⟩ =
          ((media.reservations.eraseIdx index).map CapacityReservation.place).sum +
            after.reservation.place := by
        simp only [places]
        omega
      rw [hstep, hkeep]
      refine ⟨?_, fun _ => nofun⟩
      rw [Balanced, hreserved, hplaces]
      exact hcall.of_ok hresult
    | error error after =>
      obtain ⟨rfl, hnothing⟩ := hcall.of_error hresult
      obtain ⟨hlt, hget⟩ := List.getElem?_eq_some_iff.mp hindex
      have hset : media.reservations.set index reservation = media.reservations := by
        rw [← hget]
        exact List.set_getElem_self hlt
      have hstep : media.call index method = (.error error, media) := by
        simp only [call, hindex, hresult, hset]
      rw [hstep, hkeep, hnothing]
      exact ⟨h, fun _ _ => rfl⟩

theorem step_balanced (h : media.Balanced kept) (event : CapacityEvent) :
    (media.step event).2.Balanced (kept + media.keptBy event) ∧
      ∀ error, (media.step event).1 = .error error → (media.step event).2 = media := by
  cases event with
  | reserve requestedBytes =>
    have hreserve := CapacityInner.reserve_balanced h requestedBytes
    cases hresult : CapacityInner.reserve requestedBytes media.inner with
    | ok reservation inner =>
      have hstep : media.step (.reserve requestedBytes) =
          (.ok (), ⟨inner, media.reservations ++ [reservation]⟩) := by
        simp only [step, hresult]
      have hafter := hreserve.of_ok hresult
      rw [hstep]
      refine ⟨?_, fun _ => nofun⟩
      simpa [Balanced, reserved, places, keptBy] using hafter
    | error error inner =>
      obtain rfl := hreserve.of_error hresult
      have hstep : media.step (.reserve requestedBytes) = (.error error, media) := by
        simp only [step, hresult]
      rw [hstep]
      exact ⟨h, fun _ _ => rfl⟩
  | ensure index requestedBytes =>
    exact call_balanced h index _ fun call _ _ _ hcall => call.ensure_balanced hcall requestedBytes
  | commit index path actualBytes =>
    have hcall := call_balanced h index (fun _ => 0) fun call _ _ _ hcall =>
      call.commit_balanced hcall path actualBytes
    have hnothing : media.keptByCall index (fun _ => 0) = 0 := by
      unfold keptByCall
      split <;> rfl
    rw [hnothing] at hcall
    exact hcall
  | retainFailedFile index path =>
    exact call_balanced h index _ fun call _ _ _ hcall => call.retainFailedFile_balanced hcall path
  | removed path =>
    exact ⟨CapacityInner.removed_balanced h path, fun _ => nofun⟩
  | drop index =>
    cases hindex : media.reservations[index]? with
    | none => simp [step, hindex, keptBy, h]
    | some reservation =>
      have hstep : media.step (.drop index) =
          (.ok (), ⟨media.inner.dropReservation reservation,
            media.reservations.eraseIdx index⟩) := by
        simp only [step, hindex]
      have hheld := sum_map_eraseIdx (f := CapacityReservation.held) hindex
      have hplace := sum_map_eraseIdx (f := CapacityReservation.place) hindex
      rw [Balanced, reserved, places, ← hheld, ← hplace] at h
      rw [hstep]
      exact ⟨CapacityInner.dropReservation_balanced h, fun _ => nofun⟩

/-- The subtractions that an event makes, with what they subtract from. -/
inductive Subtracts (media : ManagedCapacity) : CapacityEvent → UInt64 → UInt64 → Prop
  | grow {index : ℕ} {requestedBytes : UInt64} {reservation : CapacityReservation} :
      media.reservations[index]? = some reservation →
      ¬ requestedBytes ≤ reservation.chargedBytes →
      Subtracts media (.ensure index requestedBytes) requestedBytes reservation.chargedBytes
  | commit {index : ℕ} {path : MediaPath} {actualBytes : UInt64}
      {reservation : CapacityReservation} :
      media.reservations[index]? = some reservation → reservation.active = true →
      Subtracts media (.commit index path actualBytes) media.inner.state.chargedBytes
        reservation.chargedBytes
  | commitPlace {index : ℕ} {path : MediaPath} {actualBytes : UInt64}
      {reservation : CapacityReservation} :
      media.reservations[index]? = some reservation → reservation.active = true →
      Subtracts media (.commit index path actualBytes) media.inner.state.reservations 1
  | retainPlace {index : ℕ} {path : MediaPath} {reservation : CapacityReservation} :
      media.reservations[index]? = some reservation → reservation.active = true →
      Subtracts media (.retainFailedFile index path) media.inner.state.reservations 1
  | removed {path : MediaPath} {bytes : UInt64} :
      media.inner.state.entries.lookup path = some bytes →
      Subtracts media (.removed path) media.inner.state.chargedBytes bytes
  | drop {index : ℕ} {reservation : CapacityReservation} :
      media.reservations[index]? = some reservation → reservation.active = true →
      Subtracts media (.drop index) media.inner.state.chargedBytes reservation.chargedBytes
  | dropPlace {index : ℕ} {reservation : CapacityReservation} :
      media.reservations[index]? = some reservation → reservation.active = true →
      Subtracts media (.drop index) media.inner.state.reservations 1

theorem Balanced.held_le (h : media.Balanced kept) {index : ℕ} {reservation : CapacityReservation}
    (hindex : media.reservations[index]? = some reservation) (hactive : reservation.active = true) :
    reservation.chargedBytes ≤ media.inner.state.chargedBytes ∧
      1 ≤ media.inner.state.reservations := by
  have hheld := le_sum_map (f := CapacityReservation.held) hindex
  have hplace := le_sum_map (f := CapacityReservation.place) hindex
  have hcharged := h.charged
  have hreservations := h.reservations
  simp only [CapacityReservation.held, CapacityReservation.place, hactive, if_true] at hheld hplace
  simp only [reserved, places] at hcharged hreservations
  simp only [UInt64.le_iff_toNat_le, UInt64.toNat_one]
  omega

theorem Balanced.subtracts_le (h : media.Balanced kept) {event : CapacityEvent} {a b : UInt64}
    (hsub : media.Subtracts event a b) : b ≤ a := by
  cases hsub with
  | grow _ hgrows =>
    have hgrows := UInt64.lt_iff_toNat_lt.mp (UInt64.not_le.mp hgrows)
    exact UInt64.le_iff_toNat_le.mpr (by omega)
  | commit hindex hactive => exact (h.held_le hindex hactive).1
  | commitPlace hindex hactive => exact (h.held_le hindex hactive).2
  | retainPlace hindex hactive => exact (h.held_le hindex hactive).2
  | removed hlookup =>
    have hweight := totalWeight_erase (f := UInt64.toNat) hlookup
    have hcharged := h.charged
    exact UInt64.le_iff_toNat_le.mpr (by omega)
  | drop hindex hactive => exact (h.held_le hindex hactive).1
  | dropPlace hindex hactive => exact (h.held_le hindex hactive).2

/-- What `usage` reports as used is the total of the entries, and all other charge as reserved. -/
theorem Balanced.usage (h : media.Balanced kept) :
    media.inner.usage.usedBytes.toNat = totalWeight UInt64.toNat media.inner.state.entries ∧
      media.inner.usage.usedBytes ≤ media.inner.state.chargedBytes ∧
      media.inner.usage.reservedBytes.toNat = media.reserved + kept := by
  have hcharged := h.charged
  have hword := media.inner.state.chargedBytes.toNat_lt
  have hused : media.inner.usage.usedBytes.toNat =
      totalWeight UInt64.toNat media.inner.state.entries := by
    have hsum := toNat_sum (l := media.inner.state.entries.entries.map fun entry => entry.2)
    rw [List.map_map] at hsum
    refine hsum ?_
    show totalWeight UInt64.toNat media.inner.state.entries < _
    omega
  have hle : media.inner.usage.usedBytes ≤ media.inner.state.chargedBytes :=
    UInt64.le_iff_toNat_le.mpr (by omega)
  have hreserved : media.inner.usage.reservedBytes.toNat + media.inner.usage.usedBytes.toNat =
      media.inner.state.chargedBytes.toNat := saturatingSub_toNat hle
  exact ⟨hused, hle, by omega⟩

theorem call_limits (index : ℕ) {method : EStateM StoreError ReservationCall Unit}
    (hmethod : ∀ call, Ends method call
      (fun _ after => after.inner.limits = call.inner.limits)
      (fun _ after => after.inner.limits = call.inner.limits)) :
    (media.call index method).2.inner.limits = media.inner.limits := by
  unfold call
  split
  · rfl
  · next reservation _ =>
    have hcall := hmethod ⟨media.inner, reservation⟩
    split
    · next hresult => exact hcall.of_ok hresult
    · next hresult => exact hcall.of_error hresult

theorem step_limits (event : CapacityEvent) :
    (media.step event).2.inner.limits = media.inner.limits := by
  cases event with
  | reserve requestedBytes =>
    have hreserve : Ends (CapacityInner.reserve requestedBytes) media.inner
        (fun _ after => after.limits = media.inner.limits)
        (fun _ after => after.limits = media.inner.limits) := by
      simp [CapacityInner.reserve, CapacityInner.limits, ends_ite]
    cases hresult : CapacityInner.reserve requestedBytes media.inner with
    | ok reservation inner =>
      simp only [step, hresult]
      exact hreserve.of_ok hresult
    | error error inner =>
      simp only [step, hresult]
      exact hreserve.of_error hresult
  | ensure index requestedBytes =>
    refine call_limits index fun call => ?_
    simp [ReservationCall.ensure, CapacityInner.limits, ends_ite]
  | commit index path actualBytes =>
    refine call_limits index fun call => ?_
    simp only [ReservationCall.commit, ends_bind, ends_get, ends_ite, ends_throw]
    split
    · trivial
    split
    · trivial
    split <;> simp [CapacityInner.limits]
  | retainFailedFile index path =>
    refine call_limits index fun call => ?_
    simp [ReservationCall.retainFailedFile, CapacityInner.limits, ends_ite]
  | removed path =>
    show (media.inner.removed path).limits = _
    unfold CapacityInner.removed
    split <;> rfl
  | drop index =>
    simp only [step]
    split
    · rfl
    · show (media.inner.dropReservation _).limits = _
      unfold CapacityInner.dropReservation
      split <;> rfl

/-- The accounts at the end of any run. -/
theorem run_balanced {inner : CapacityInner} (h : inner.Balanced 0 0 0)
    {taken : List (Taken ManagedCapacity (CapacityEvent × Except StoreError Unit))}
    (run : Run (Follows step) ⟨inner, []⟩ taken media) :
    media.Balanced (keptIn taken) ∧ media.inner.limits = inner.limits := by
  refine run.history (I := fun taken media =>
    media.Balanced (keptIn taken) ∧ media.inner.limits = inner.limits) ⟨h, rfl⟩ ?_
  rintro taken media ⟨event, reply⟩ media' _ ⟨hbalanced, hlimits⟩ hstep
  obtain ⟨-, rfl⟩ := hstep.eq
  refine ⟨?_, (step_limits event).trans hlimits⟩
  have hafter := (step_balanced hbalanced event).1
  simpa [keptIn] using hafter

end ManagedCapacity

open ManagedCapacity

/-- The charge is the recorded files, the active reservations, and what was kept on purpose when a
reservation ended for a recorded path or grew after its end. -/
theorem capacity_accounted {paths : ManagedPaths} {validated : Except JanitorError Unit}
    {staging objects : Option DirectoryListing} {maximumBytes maximumEntries : UInt64}
    {inner : CapacityInner} {media : ManagedCapacity}
    {taken : List (Taken ManagedCapacity (CapacityEvent × Except StoreError Unit))}
    (hstart : initializeCapacity paths validated staging objects maximumBytes maximumEntries =
      .ok inner)
    (run : Run (Follows step) ⟨inner, []⟩ taken media) :
    media.inner.state.chargedBytes.toNat =
        totalWeight UInt64.toNat media.inner.state.entries + media.reserved + keptIn taken ∧
      media.inner.state.chargedBytes ≤ maximumBytes ∧
      media.inner.state.entries.entries.length + media.places ≤ maximumEntries.toNat ∧
      media.inner.usage.usedBytes ≤ media.inner.state.chargedBytes ∧
      ∀ t ∈ taken, (∀ a b, t.before.Subtracts t.label.1 a b → b ≤ a) ∧
        ∀ error, t.label.2 = .error error → t.after = t.before := by
  obtain ⟨hinitial, hlimits⟩ := initializeCapacity_balanced hstart
  obtain ⟨hbalanced, hsame⟩ := run_balanced hinitial run
  obtain ⟨hbytes, hentries⟩ := Prod.mk.inj (hsame.trans hlimits)
  refine ⟨hbalanced.charged, hbytes ▸ hbalanced.bytes, hentries ▸ hbalanced.entries,
    hbalanced.usage.2.1, fun t ht => ?_⟩
  obtain ⟨⟨earlier, hearlier⟩, hnext⟩ := run.taken_next ht
  have hbefore := (run_balanced hinitial hearlier).1
  obtain ⟨hlabel, hafter⟩ := hnext.eq
  refine ⟨fun a b hsub => hbefore.subtracts_le hsub, fun error herror => ?_⟩
  rw [hlabel] at herror
  rw [hafter]
  exact (step_balanced hbefore _).2 error herror

def emptyCapacity : CapacityInner := ⟨16, 4, ⟨0, ∅, 0⟩⟩

/-- A reservation that ends for a path that is recorded already. -/
def collision : List CapacityEvent :=
  [.reserve 4, .commit 0 ⟨"objects", "object"⟩ 4, .reserve 4,
    .retainFailedFile 1 ⟨"objects", "object"⟩]

theorem charge_without_file :
    ∃ inner taken media,
      initializeCapacity ⟨"staging", "objects"⟩ (.ok ()) (some []) (some []) 16 4 =
        .ok inner ∧
      Run (Follows step) ⟨inner, []⟩ taken media ∧
      media.inner.state.chargedBytes.toNat ≠
        totalWeight UInt64.toNat media.inner.state.entries + media.reserved := by
  refine ⟨emptyCapacity, _, _, rfl, run_record step _ collision, ?_⟩
  decide

theorem capacity_accounted_collision :
    (record step ⟨emptyCapacity, []⟩ collision).2.inner.state.chargedBytes.toNat = 4 + 0 + 4 :=
  (capacity_accounted (show initializeCapacity ⟨"staging", "objects"⟩ (.ok ()) (some []) (some [])
    16 4 = .ok emptyCapacity from rfl) (run_record step _ collision)).1

end PepeAudio
