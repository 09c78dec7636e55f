import SocksGateway.Target.Codec

/-!
Datagrams between a client and a relay: two reserved octets, a fragment number, a destination and
the payload.
-/

set_option autoImplicit false

namespace SocksGateway

/-- A datagram as a client sends and receives it. -/
structure UdpPacket where
  fragment : UInt8 := 0
  address : Target
  payload : Bytes
deriving DecidableEq, Repr

namespace UdpPacket

/-- One part of a larger payload; such parts are not put together. -/
def isFragment (packet : UdpPacket) : Bool := packet.fragment != 0

def encode (packet : UdpPacket) : Bytes :=
  0 :: 0 :: packet.fragment :: packet.address.encode ++ packet.payload

def decode (datagram : Bytes) : Except Failure UdpPacket :=
  match datagram with
  | high :: low :: fragment :: rest =>
    let reserved := Bytes.word high low
    if reserved ≠ 0 then
      .error { cause := .protocol ("UDP RSV must be zero, got " ++ Hex.ofWord reserved) }
    else do
      let (address, payload) ← withRemark "Bad UDP destination" (Target.decode rest)
      return { fragment, address, payload }
  | _ => .error { cause := .protocol (toString datagram.length ++ "-byte UDP datagram") }

end UdpPacket

end SocksGateway
