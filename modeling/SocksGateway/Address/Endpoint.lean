import SocksGateway.Address.Reader

/-!
Endpoints: an IP address with a port.
-/

set_option autoImplicit false

namespace SocksGateway

/-- A socket address. -/
structure Endpoint where
  ip : Ip
  port : UInt16
deriving DecidableEq, Repr, Inhabited

namespace Endpoint

/-- The endpoint `0.0.0.0:0`. -/
def unspecified : Endpoint := ⟨.unspecified, 0⟩

/-- The address and the port with a colon between them; an IPv6 address stands in brackets. -/
def text (endpoint : Endpoint) : String :=
  match endpoint.ip with
  | .v4 ip => ip.text ++ ":" ++ toString endpoint.port.toNat
  | .v6 ip => "[" ++ ip.text ++ "]:" ++ toString endpoint.port.toNat

/-- The canonical IP address with the same port. -/
def canonical (endpoint : Endpoint) : Endpoint := ⟨endpoint.ip.canonical, endpoint.port⟩

def reader : Address.Reader Endpoint := fun chars =>
  match Address.given '[' chars with
  | some (_, rest) => do
    let (ip, rest) ← Address.ipv6 rest
    let (_, rest) ← Address.given ']' rest
    let (_, rest) ← Address.given ':' rest
    let (port, rest) ← Address.port rest
    return (⟨.v6 ip, port⟩, rest)
  | none => do
    let (ip, rest) ← Address.ipv4 chars
    let (_, rest) ← Address.given ':' rest
    let (port, rest) ← Address.port rest
    return (⟨.v4 ip, port⟩, rest)

def parse? (text : String) : Option Endpoint := Address.whole? reader text

end Endpoint

end SocksGateway
