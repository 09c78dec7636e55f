import SocksGateway.Address.Ipv6

/-!
IP addresses of either family, the single canonical form of an address, and the private ranges.
-/

set_option autoImplicit false

namespace SocksGateway

/-- An address of either family. -/
inductive Ip where
  | v4 (ip : Ipv4)
  | v6 (ip : Ipv6)
deriving DecidableEq, Repr, Inhabited

namespace Ip

def unspecified : Ip := .v4 .unspecified

def text : Ip → String
  | v4 ip => ip.text
  | v6 ip => ip.text

/-- The IPv4 form, also of an IPv4-mapped address. -/
def toIpv4? : Ip → Option Ipv4
  | v4 ip => some ip
  | v6 ip => ip.toIpv4?

/-- An IPv4-mapped address counts as its IPv4 form. -/
def canonical (ip : Ip) : Ip :=
  match ip.toIpv4? with
  | some short => v4 short
  | none => ip

/-- The all-zero address of the family; the mapped form of `0.0.0.0` is not one. -/
def isUnspecified : Ip → Bool
  | v4 ip => ip == .unspecified
  | v6 ip => ip == .unspecified

/-- An address in a private IPv4 range, in either form. -/
def isPrivate (ip : Ip) : Bool :=
  match ip.toIpv4? with
  | some short => short.isPrivate
  | none => false

@[simp] theorem canonical_v4 (ip : Ipv4) : (v4 ip).canonical = v4 ip := rfl

@[simp] theorem canonical_ofIpv4 (ip : Ipv4) : (v6 (.ofIpv4 ip)).canonical = v4 ip := by
  simp only [canonical, toIpv4?, Ipv6.toIpv4?_ofIpv4]

theorem canonical_of_some {ip : Ip} {short : Ipv4} (found : ip.toIpv4? = some short) :
    ip.canonical = v4 short := by
  simp only [canonical, found]

theorem canonical_of_none {ip : Ip} (absent : ip.toIpv4? = none) : ip.canonical = ip := by
  simp only [canonical, absent]

theorem canonical_canonical (ip : Ip) : ip.canonical.canonical = ip.canonical := by
  cases found : ip.toIpv4? with
  | some short => rw [canonical_of_some found, canonical_v4]
  | none => rw [canonical_of_none found, canonical_of_none found]

end Ip

end SocksGateway
