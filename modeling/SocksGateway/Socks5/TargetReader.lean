import SocksGateway.Session.Basic
import SocksGateway.Target.Codec

/-!
The destination in a request of version 5, read from the client. Its type comes with the command.
-/

set_option autoImplicit false

namespace SocksGateway.Socks5

open Handler

/-- Reads the address and the port of a destination of the given type. -/
def readAddress (kind : UInt8) : Handler Target := do
  if kind = AddressType.ipv4 then
    let octets ← readExactly 4
    let port ← readWord
    match octets with
    | [a, b, c, d] => return .ip ⟨.v4 ⟨a, b, c, d⟩, port⟩
    | _ => fail (.io .unexpectedEnd)
  else if kind = AddressType.domain then
    let length ← readOctet
    let octets ← readExactly length.toNat
    let port ← readWord
    if length = 0 then fail (.negotiation (.invalidDomain ""))
    match Bytes.text? octets with
    | some name => return .domain name port
    | none => fail (.negotiation (.invalidDomain (Utf8.lossy octets)))
  else if kind = AddressType.ipv6 then
    let octets ← readExactly 16
    let port ← readWord
    match Target.ipv6OfOctets? octets with
    | some address => return .ip ⟨.v6 address, port⟩
    | none => fail (.io .unexpectedEnd)
  else fail (.negotiation (.addressTypeNotSupported kind))

/-- Reads a destination; there is none if the client ends before it is complete. -/
def readTarget (kind : UInt8) : Handler (Option Target) := do
  match ← outcome (readAddress kind) with
  | .ok target => return some target
  | .error failure =>
    if failure = .ofIo .unexpectedEnd then return none
    throw failure

end SocksGateway.Socks5
