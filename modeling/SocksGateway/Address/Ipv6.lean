import SocksGateway.Address.Ipv4
import SocksGateway.Text.Hex

/-!
IPv6 addresses: eight 16-bit groups and their text. The longest run of two or more zero groups,
the first of equal ones, is written `::`; an IPv4-mapped address ends in dotted notation.
-/

set_option autoImplicit false

namespace SocksGateway

/-- An IPv6 address `g0:g1:g2:g3:g4:g5:g6:g7`. -/
structure Ipv6 where
  g0 : UInt16
  g1 : UInt16
  g2 : UInt16
  g3 : UInt16
  g4 : UInt16
  g5 : UInt16
  g6 : UInt16
  g7 : UInt16
deriving DecidableEq, Repr, Inhabited

namespace Ipv6

def unspecified : Ipv6 := ⟨0, 0, 0, 0, 0, 0, 0, 0⟩

def groups (ip : Ipv6) : List UInt16 :=
  [ip.g0, ip.g1, ip.g2, ip.g3, ip.g4, ip.g5, ip.g6, ip.g7]

/-- The address with the given groups; missing ones count as zero. -/
def ofGroups (groups : List UInt16) : Ipv6 :=
  ⟨groups.getD 0 0, groups.getD 1 0, groups.getD 2 0, groups.getD 3 0,
    groups.getD 4 0, groups.getD 5 0, groups.getD 6 0, groups.getD 7 0⟩

def octets (ip : Ipv6) : Bytes := ip.groups.flatMap Bytes.ofWord

/-- The IPv4-mapped form `::ffff:a.b.c.d` of an IPv4 address. -/
def ofIpv4 (ip : Ipv4) : Ipv6 :=
  ⟨0, 0, 0, 0, 0, 0xffff, Bytes.word ip.a ip.b, Bytes.word ip.c ip.d⟩

/-- The IPv4 address of which this is the mapped form. -/
def toIpv4? (ip : Ipv6) : Option Ipv4 :=
  if ip.g0 = 0 ∧ ip.g1 = 0 ∧ ip.g2 = 0 ∧ ip.g3 = 0 ∧ ip.g4 = 0 ∧ ip.g5 = 0xffff then
    match Bytes.ofWord ip.g6 ++ Bytes.ofWord ip.g7 with
    | [a, b, c, d] => some ⟨a, b, c, d⟩
    | _ => none
  else none

theorem toIpv4?_ofIpv4 (ip : Ipv4) : (ofIpv4 ip).toIpv4? = some ip := by
  simp [toIpv4?, ofIpv4, Bytes.ofWord_word]

/-- How many groups are zero from the head on. -/
def zeroRun (groups : List UInt16) : Nat := (groups.takeWhile (· == 0)).length

/-- Start and length of the longest run of zeros among the groups, counted from `start`;
the first of equally long ones, and length zero if there is none. -/
def longestZeroRun (start : Nat) : List UInt16 → Nat × Nat
  | [] => (0, 0)
  | group :: rest =>
    let here := zeroRun (group :: rest)
    let later := longestZeroRun (start + 1) rest
    if later.2 ≤ here then (start, here) else later

/-- Hexadecimal groups with colons between them. -/
def joined (groups : List UInt16) : String :=
  ":".intercalate (groups.map fun group => String.ofList (Hex.digits group.toNat))

def text (ip : Ipv6) : String :=
  match ip.toIpv4? with
  | some mapped => "::ffff:" ++ mapped.text
  | none =>
    let (start, length) := longestZeroRun 0 ip.groups
    if 1 < length then
      joined (ip.groups.take start) ++ "::" ++ joined (ip.groups.drop (start + length))
    else joined ip.groups

end Ipv6

end SocksGateway
