import Mathlib.Algebra.GroupWithZero.Nat
import Mathlib.Order.Lattice.Nat
import Mathlib.Tactic.Common

/-!
# IP addresses

The addresses of both versions as octets, the ranges of them that have names, and
the ways in which an address of version 4 is written as one of version 6.
-/
namespace PepeAudio

/-- `u16::from_be_bytes`. -/
def fromBeBytes (high low : UInt8) : UInt16 := UInt16.ofNat (high.toNat * 256 + low.toNat)

/-- `u16::to_be_bytes`. -/
def toBeBytes (n : UInt16) : UInt8 × UInt8 :=
  (UInt8.ofNat (n.toNat / 256), UInt8.ofNat (n.toNat % 256))

theorem toBeBytes_fromBeBytes (high low : UInt8) :
    toBeBytes (fromBeBytes high low) = (high, low) := by
  have hhigh := high.toNat_lt
  have hlow := low.toNat_lt
  have hvalue : (fromBeBytes high low).toNat = high.toNat * 256 + low.toNat := by
    rw [fromBeBytes, UInt16.toNat_ofNat']
    omega
  have hdiv : (high.toNat * 256 + low.toNat) / 256 = high.toNat := by omega
  have hmod : (high.toNat * 256 + low.toNat) % 256 = low.toNat := by omega
  rw [toBeBytes, hvalue, hdiv, hmod, UInt8.ofNat_toNat, UInt8.ofNat_toNat]

theorem fromBeBytes_zero : fromBeBytes 0 0 = 0 := rfl

structure Ipv4Addr where
  a : UInt8
  b : UInt8
  c : UInt8
  d : UInt8
  deriving DecidableEq, Repr

structure Ipv6Addr where
  octets : Vector UInt8 16
  deriving DecidableEq, Repr

inductive IpAddr where
  | v4 (address : Ipv4Addr)
  | v6 (address : Ipv6Addr)
  deriving DecidableEq, Repr

namespace Ipv4Addr

def isUnspecified (address : Ipv4Addr) : Bool := address = ⟨0, 0, 0, 0⟩

def isLoopback (address : Ipv4Addr) : Bool := address.a = 127

def isPrivate (address : Ipv4Addr) : Bool :=
  address.a = 10 || (address.a = 172 && 16 ≤ address.b && address.b ≤ 31) ||
    (address.a = 192 && address.b = 168)

def isLinkLocal (address : Ipv4Addr) : Bool := address.a = 169 && address.b = 254

def isMulticast (address : Ipv4Addr) : Bool := 224 ≤ address.a && address.a ≤ 239

def isBroadcast (address : Ipv4Addr) : Bool := address = ⟨255, 255, 255, 255⟩

def isDocumentation (address : Ipv4Addr) : Bool :=
  (address.a = 192 && address.b = 0 && address.c = 2) ||
    (address.a = 198 && address.b = 51 && address.c = 100) ||
    (address.a = 203 && address.b = 0 && address.c = 113)

end Ipv4Addr

namespace Ipv6Addr

/-- There are segments. -/
instance instNeZeroSegments : NeZero 8 := ⟨by decide⟩

/-- The segments are the pairs of octets, the high one first. -/
def segment (address : Ipv6Addr) (i : Fin 8) : UInt16 :=
  fromBeBytes address.octets[2 * i.val] address.octets[2 * i.val + 1]

def isUnspecified (address : Ipv6Addr) : Bool := address.octets.toList.all (· = 0)

def isLoopback (address : Ipv6Addr) : Bool :=
  (address.octets.toList.take 15).all (· = 0) && address.octets[15] = 1

def isMulticast (address : Ipv6Addr) : Bool := address.segment 0 &&& 0xff00 = 0xff00

def isUniqueLocal (address : Ipv6Addr) : Bool := address.segment 0 &&& 0xfe00 = 0xfc00

def isUnicastLinkLocal (address : Ipv6Addr) : Bool := address.segment 0 &&& 0xffc0 = 0xfe80

def toIpv4Mapped (address : Ipv6Addr) : Option Ipv4Addr :=
  if (address.octets.toList.take 10).all (· = 0) && address.octets[10] = 0xff &&
      address.octets[11] = 0xff then
    some ⟨address.octets[12], address.octets[13], address.octets[14], address.octets[15]⟩
  else none

end Ipv6Addr

namespace Ipv4Addr

/-- `::ffff:a.b.c.d` -/
def mapped (address : Ipv4Addr) : Ipv6Addr :=
  ⟨#v[0, 0, 0, 0, 0, 0, 0, 0, 0, 0, 0xff, 0xff, address.a, address.b, address.c, address.d]⟩

/-- `::a.b.c.d` -/
def compatible (address : Ipv4Addr) : Ipv6Addr :=
  ⟨#v[0, 0, 0, 0, 0, 0, 0, 0, 0, 0, 0, 0, address.a, address.b, address.c, address.d]⟩

/-- `64:ff9b::a.b.c.d` -/
def nat64 (address : Ipv4Addr) : Ipv6Addr :=
  ⟨#v[0x00, 0x64, 0xff, 0x9b, 0, 0, 0, 0, 0, 0, 0, 0, address.a, address.b, address.c, address.d]⟩

/-- `2002:ab:cd::` with any subnet and interface. -/
def sixToFour (address : Ipv4Addr) (rest : Vector UInt8 10) : Ipv6Addr :=
  ⟨#v[0x20, 0x02, address.a, address.b, address.c, address.d] ++ rest⟩

/-- The addresses of version 6 that stand for one of version 4. -/
inductive Embeds (address : Ipv4Addr) : Ipv6Addr → Prop
  | mapped : Embeds address address.mapped
  | compatible : Embeds address address.compatible
  | nat64 : Embeds address address.nat64
  | sixToFour (rest : Vector UInt8 10) : Embeds address (address.sixToFour rest)

end Ipv4Addr

end PepeAudio
