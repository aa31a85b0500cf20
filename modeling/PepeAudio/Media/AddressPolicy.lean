import PepeAudio.Lib.IpAddress

/-!
# Addresses nothing is fetched from

The ranges of both versions that are not public. Version 6 has several ways to
write an address of version 4, and each of them is looked through.
-/
namespace PepeAudio

def forbiddenV4 (address : Ipv4Addr) : Bool :=
  let first := address.a
  let second := address.b
  address.isUnspecified || address.isLoopback || address.isPrivate || address.isLinkLocal ||
    address.isMulticast || address.isBroadcast || address.isDocumentation || first = 0 ||
    (first = 100 && 64 ≤ second && second ≤ 127) ||
    (first = 198 && (second = 18 || second = 19)) || (first = 192 && second = 0) ||
    (first = 192 && second = 88 && address.c = 99) || 240 ≤ first

/-- The address of version 4 in two neighbouring segments. -/
def embeddedV4 (high low : UInt16) : Ipv4Addr :=
  let (a, b) := toBeBytes high
  let (c, d) := toBeBytes low
  ⟨a, b, c, d⟩

def forbiddenV6 (address : Ipv6Addr) : Bool :=
  match address.toIpv4Mapped with
  | some mapped => forbiddenV4 mapped
  | none =>
    let segments := address.segment
    let ipv4Compatible := [0, 1, 2, 3, 4, 5].all fun i => segments i = 0
    let nat64WellKnown := segments 0 = 0x0064 && segments 1 = 0xff9b &&
      [2, 3, 4, 5].all fun i => segments i = 0
    let embedded := embeddedV4 (segments 6) (segments 7)
    let sixToFour := embeddedV4 (segments 1) (segments 2)
    address.isUnspecified || address.isLoopback || address.isMulticast || address.isUniqueLocal ||
      address.isUnicastLinkLocal || segments 0 &&& 0xffc0 = 0xfec0 ||
      (segments 0 = 0x2001 && segments 1 = 0x0db8) ||
      (segments 0 = 0x0100 && [1, 2, 3].all fun i => segments i = 0) || ipv4Compatible ||
      (nat64WellKnown && forbiddenV4 embedded) ||
      (segments 0 = 0x0064 && segments 1 = 0xff9b && segments 2 = 1) ||
      (segments 0 = 0x2002 && forbiddenV4 sixToFour) || (segments 0 = 0x2001 && segments 1 = 0) ||
      (segments 0 = 0x2001 && segments 1 = 2) ||
      (segments 0 = 0x2001 && segments 1 &&& 0xfff0 = 0x0020)

def isForbiddenIp : IpAddr → Bool
  | .v4 address => forbiddenV4 address
  | .v6 address => forbiddenV6 address

theorem embeddedV4_fromBeBytes (a b c d : UInt8) :
    embeddedV4 (fromBeBytes a b) (fromBeBytes c d) = ⟨a, b, c, d⟩ := by
  simp only [embeddedV4, toBeBytes_fromBeBytes]

theorem forbiddenV6_of_compatible {address : Ipv6Addr} (hmapped : address.toIpv4Mapped = none)
    (h : ∀ i ∈ ([0, 1, 2, 3, 4, 5] : List (Fin 8)), address.segment i = 0) :
    forbiddenV6 address = true := by
  have hall : ([0, 1, 2, 3, 4, 5] : List (Fin 8)).all (fun i => address.segment i = 0) = true := by
    simpa using h
  unfold forbiddenV6
  rw [hmapped]
  simp only [hall, Bool.or_true, Bool.true_or]

theorem forbiddenV6_of_nat64 {address : Ipv6Addr} (hmapped : address.toIpv4Mapped = none)
    (hleading : address.segment 0 = 0x0064 ∧ address.segment 1 = 0xff9b ∧
      ∀ i ∈ ([2, 3, 4, 5] : List (Fin 8)), address.segment i = 0)
    (h : forbiddenV4 (embeddedV4 (address.segment 6) (address.segment 7)) = true) :
    forbiddenV6 address = true := by
  have hall : ([2, 3, 4, 5] : List (Fin 8)).all (fun i => address.segment i = 0) = true := by
    simpa using hleading.2.2
  unfold forbiddenV6
  rw [hmapped]
  simp only [hleading.1, hleading.2.1, hall, h, decide_true, Bool.and_true, Bool.or_true,
    Bool.true_or]

theorem forbiddenV6_of_sixToFour {address : Ipv6Addr} (hmapped : address.toIpv4Mapped = none)
    (hleading : address.segment 0 = 0x2002)
    (h : forbiddenV4 (embeddedV4 (address.segment 1) (address.segment 2)) = true) :
    forbiddenV6 address = true := by
  unfold forbiddenV6
  rw [hmapped]
  simp only [hleading, h, decide_true, Bool.and_true, Bool.or_true, Bool.true_or]

/-- A forbidden address stays forbidden in whichever way version 6 writes it. -/
theorem forbiddenV6_of_embeds {address : Ipv4Addr} {embedding : Ipv6Addr}
    (hembeds : address.Embeds embedding) (h : forbiddenV4 address = true) :
    forbiddenV6 embedding = true := by
  cases hembeds with
  | mapped =>
    have hmapped : address.mapped.toIpv4Mapped = some address := rfl
    unfold forbiddenV6
    rw [hmapped]
    exact h
  | compatible =>
    refine forbiddenV6_of_compatible rfl ?_
    intro i hi
    simp only [List.mem_cons, List.not_mem_nil, or_false] at hi
    rcases hi with rfl | rfl | rfl | rfl | rfl | rfl <;> exact fromBeBytes_zero
  | nat64 =>
    have hzero : address.nat64.segment 0 = fromBeBytes 0x00 0x64 := rfl
    have hone : address.nat64.segment 1 = fromBeBytes 0xff 0x9b := rfl
    refine forbiddenV6_of_nat64 rfl ⟨hzero.trans rfl, hone.trans rfl, ?_⟩ ?_
    · intro i hi
      simp only [List.mem_cons, List.not_mem_nil, or_false] at hi
      rcases hi with rfl | rfl | rfl | rfl <;> exact fromBeBytes_zero
    · have hembedded := embeddedV4_fromBeBytes address.a address.b address.c address.d
      exact hembedded ▸ h
  | sixToFour rest =>
    have hoctet : ∀ i, (hi : i < 6) → (address.sixToFour rest).octets[i] =
        #v[0x20, 0x02, address.a, address.b, address.c, address.d][i] := fun i hi =>
      Vector.getElem_append_left hi
    have hzero : (address.sixToFour rest).segment 0 = fromBeBytes 0x20 0x02 :=
      congrArg₂ fromBeBytes (hoctet 0 (by omega)) (hoctet 1 (by omega))
    have hone : (address.sixToFour rest).segment 1 = fromBeBytes address.a address.b :=
      congrArg₂ fromBeBytes (hoctet 2 (by omega)) (hoctet 3 (by omega))
    have htwo : (address.sixToFour rest).segment 2 = fromBeBytes address.c address.d :=
      congrArg₂ fromBeBytes (hoctet 4 (by omega)) (hoctet 5 (by omega))
    refine forbiddenV6_of_sixToFour ?_ (hzero.trans rfl) ?_
    · have hmem : (address.sixToFour rest).octets[0] ∈
          (address.sixToFour rest).octets.toList.take 10 := by
        rw [List.mem_take_iff_getElem]
        exact ⟨0, by simp, by simp⟩
      have hall : ((address.sixToFour rest).octets.toList.take 10).all (· = 0) = false := by
        rw [List.all_eq_false]
        refine ⟨_, hmem, ?_⟩
        rw [hoctet 0 (by omega)]
        simp
      rw [Ipv6Addr.toIpv4Mapped, hall]
      rfl
    · rw [hone, htwo, embeddedV4_fromBeBytes]
      exact h

end PepeAudio
