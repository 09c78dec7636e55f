import SocksGateway.Address.Reader

/-!
IPv4 ranges in CIDR notation: an address and the length of the network part.
-/

set_option autoImplicit false

namespace SocksGateway

/-- A range `base/length`. The base may be any address of the range. -/
structure Cidr where
  base : Ipv4
  length : Nat
  length_le : length ≤ 32 := by omega
deriving DecidableEq, Repr

namespace Cidr

/-- How many addresses the range has. -/
def size (range : Cidr) : Nat := Nat.pow 2 (32 - range.length)

/-- The number of the first address of the range. -/
def networkNumber (range : Cidr) : Nat := range.base.toNat / range.size * range.size

/-- The number of the last address of the range. -/
def broadcastNumber (range : Cidr) : Nat := range.networkNumber + range.size - 1

def text (range : Cidr) : String := range.base.text ++ "/" ++ toString range.length

/-- An octet of one to three digits. -/
def octet : Address.Reader UInt8 := fun chars =>
  (Address.numeral 10 256 (some 3) true chars).map fun (value, rest) => (UInt8.ofNat value, rest)

def reader : Address.Reader Cidr := fun chars => do
  let (a, rest) ← octet chars
  let (_, rest) ← Address.given '.' rest
  let (b, rest) ← octet rest
  let (_, rest) ← Address.given '.' rest
  let (c, rest) ← octet rest
  let (_, rest) ← Address.given '.' rest
  let (d, rest) ← octet rest
  let (_, rest) ← Address.given '/' rest
  let (length, rest) ← Address.numeral 10 33 (some 2) true rest
  if bound : length ≤ 32 then return (⟨⟨a, b, c, d⟩, length, bound⟩, rest) else none

def parse? (text : String) : Option Cidr := Address.whole? reader text

end Cidr

end SocksGateway
