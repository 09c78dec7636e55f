import SocksGateway.Bytes

/-!
IPv4 addresses: four octets, also read as a number, and their dotted text.
-/

set_option autoImplicit false

namespace SocksGateway

/-- An IPv4 address `a.b.c.d`. -/
structure Ipv4 where
  a : UInt8
  b : UInt8
  c : UInt8
  d : UInt8
deriving DecidableEq, Repr, Inhabited

namespace Ipv4

def unspecified : Ipv4 := ⟨0, 0, 0, 0⟩

def octets (ip : Ipv4) : Bytes := [ip.a, ip.b, ip.c, ip.d]

/-- The address as a number, its first octet the most significant. -/
def toNat (ip : Ipv4) : Nat :=
  ((ip.a.toNat * 256 + ip.b.toNat) * 256 + ip.c.toNat) * 256 + ip.d.toNat

/-- The address with a given number, reduced to 32 bits. -/
def ofNat (value : Nat) : Ipv4 :=
  ⟨UInt8.ofNat (value / 16777216), UInt8.ofNat (value / 65536), UInt8.ofNat (value / 256),
    UInt8.ofNat value⟩

theorem toNat_lt (ip : Ipv4) : ip.toNat < 4294967296 := by
  have ha := ip.a.toNat_lt
  have hb := ip.b.toNat_lt
  have hc := ip.c.toNat_lt
  have hd := ip.d.toNat_lt
  unfold toNat
  omega

theorem toNat_ofNat (value : Nat) (small : value < 4294967296) : (ofNat value).toNat = value := by
  simp only [toNat, ofNat, UInt8.toNat_ofNat']
  omega

theorem ofNat_toNat (ip : Ipv4) : ofNat ip.toNat = ip := by
  have ha := ip.a.toNat_lt
  have hb := ip.b.toNat_lt
  have hc := ip.c.toNat_lt
  have hd := ip.d.toNat_lt
  cases ip with
  | mk a b c d =>
    simp only [toNat, ofNat, mk.injEq] at *
    refine ⟨?_, ?_, ?_, ?_⟩ <;> apply UInt8.toNat_inj.mp <;>
      simp only [UInt8.toNat_ofNat'] <;> omega

/-- The private ranges 10.0.0.0/8, 172.16.0.0/12 and 192.168.0.0/16. -/
def isPrivate (ip : Ipv4) : Bool :=
  ip.a == 10 || (ip.a == 172 && 16 ≤ ip.b && ip.b ≤ 31) || (ip.a == 192 && ip.b == 168)

/-- Dotted decimal notation. -/
def text (ip : Ipv4) : String :=
  toString ip.a.toNat ++ "." ++ toString ip.b.toNat ++ "." ++ toString ip.c.toNat ++ "."
    ++ toString ip.d.toNat

end Ipv4

end SocksGateway
