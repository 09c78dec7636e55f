import SocksGateway.Failure
import SocksGateway.Target.Basic
import SocksGateway.Text.Utf8

/-!
Destinations on the wire: an address type, an address and a port. A host name is preceded by its
length in one octet.
-/

set_option autoImplicit false

namespace SocksGateway

namespace AddressType

def ipv4 : UInt8 := 1
def domain : UInt8 := 3
def ipv6 : UInt8 := 4

end AddressType

namespace Ip

def addressType : Ip → UInt8
  | v4 _ => AddressType.ipv4
  | v6 _ => AddressType.ipv6

def octets : Ip → Bytes
  | v4 ip => ip.octets
  | v6 ip => ip.octets

end Ip

namespace Endpoint

/-- Address type, address and port. -/
def encode (endpoint : Endpoint) : Bytes :=
  endpoint.ip.addressType :: endpoint.ip.octets ++ Bytes.ofWord endpoint.port

end Endpoint

namespace Target

/-- The wire form. The length octet of a name counts modulo 256. -/
def encode : Target → Bytes
  | ip endpoint => endpoint.encode
  | domain name port =>
    let octets := Bytes.ofText name
    AddressType.domain :: UInt8.ofNat octets.length :: octets ++ Bytes.ofWord port

/-- The length of the wire form. -/
def encodedLength : Target → Nat
  | ip ⟨.v4 _, _⟩ => 7
  | ip ⟨.v6 _, _⟩ => 19
  | domain name _ => name.utf8ByteSize + 4

def truncated (missing : Nat) : Failure :=
  { cause := .protocol ("truncated address: need " ++ toString missing ++ " more bytes") }

def invalidDomain (name : String) : Failure := .ofNegotiation (.invalidDomain name)

/-- Reads a port. -/
def decodePort : Bytes → Except Failure (UInt16 × Bytes)
  | high :: low :: rest => .ok (Bytes.word high low, rest)
  | _ => .error (truncated 2)

/-- Reads an IPv4 address and a port. -/
def decodeIpv4 : Bytes → Except Failure (Target × Bytes)
  | a :: b :: c :: d :: rest => do
    let (port, rest) ← decodePort rest
    return (ip ⟨.v4 ⟨a, b, c, d⟩, port⟩, rest)
  | _ => .error (truncated 4)

/-- The IPv6 address of sixteen octets. -/
def ipv6OfOctets? : Bytes → Option Ipv6
  | [a, b, c, d, e, f, g, h, i, j, k, l, m, n, o, p] =>
    some ⟨Bytes.word a b, Bytes.word c d, Bytes.word e f, Bytes.word g h,
      Bytes.word i j, Bytes.word k l, Bytes.word m n, Bytes.word o p⟩
  | _ => none

/-- Reads an IPv6 address and a port. -/
def decodeIpv6 (bytes : Bytes) : Except Failure (Target × Bytes) :=
  match ipv6OfOctets? (bytes.take 16) with
  | some address => do
    let (port, rest) ← decodePort (bytes.drop 16)
    return (ip ⟨.v6 address, port⟩, rest)
  | none => .error (truncated 16)

/-- Reads a length, a name of that length and a port. -/
def decodeDomain : Bytes → Except Failure (Target × Bytes)
  | [] => .error (truncated 1)
  | length :: rest =>
    let size := length.toNat
    if size = 0 ∨ rest.length < size then .error (invalidDomain "")
    else
      let octets := rest.take size
      match Bytes.text? octets with
      | none => .error (invalidDomain (Utf8.lossy octets))
      | some name => do
        let (port, rest) ← decodePort (rest.drop size)
        return (domain name port, rest)

/-- Reads a destination and returns it with the octets after it. -/
def decode : Bytes → Except Failure (Target × Bytes)
  | [] => .error (truncated 1)
  | kind :: rest =>
    if kind = AddressType.ipv4 then decodeIpv4 rest
    else if kind = AddressType.ipv6 then decodeIpv6 rest
    else if kind = AddressType.domain then decodeDomain rest
    else .error (.ofNegotiation (.addressTypeNotSupported kind))

end Target

end SocksGateway
