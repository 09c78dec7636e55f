import SocksGateway.Address.Endpoint
import SocksGateway.Stream.Link

/-!
Channels: the gateway's hold on a link. A channel has the link until it is closed or the link is
taken from it, and it can put octets back in front of what the link gives.
-/

set_option autoImplicit false

namespace SocksGateway

structure Channel where
  /-- Whether the channel has its link. -/
  isOpen : Bool := true
  remote : Endpoint
  /-- The gateway's own endpoint, where the link has one. -/
  own : Option Endpoint := none
  /-- What was put back and is to be read again first. -/
  returned : Bytes := []
deriving DecidableEq, Repr, Inhabited

/-- A channel with its link. -/
structure Wire where
  channel : Channel
  link : Link
deriving DecidableEq, Repr, Inhabited

namespace Wire

/-- Puts octets back in front; a channel without a link has no use for them. -/
def unread (octets : Bytes) (wire : Wire) : Wire :=
  if wire.channel.isOpen then
    { wire with channel := { wire.channel with returned := octets ++ wire.channel.returned } }
  else wire

/-- Gives octets that were put back, else octets of the link. -/
def read (limit : Nat) (wire : Wire) : Poll (Except IoError Bytes) × Wire :=
  if wire.channel.returned ≠ [] then
    (.ready (.ok (wire.channel.returned.take limit)),
      { wire with channel :=
          { wire.channel with returned := wire.channel.returned.drop limit } })
  else if wire.channel.isOpen then
    match wire.link.inbound.read limit with
    | (.ready octets, inbound) =>
      (.ready (.ok octets), { wire with link := { wire.link with inbound } })
    | (.pending, inbound) => (.pending, { wire with link := { wire.link with inbound } })
  else (.ready (.error .notConnected), wire)

def write (octets : Bytes) (wire : Wire) : Poll (Except IoError Nat) × Wire :=
  if wire.channel.isOpen then
    let (answer, outbound) := wire.link.outbound.write octets
    (answer, { wire with link := { wire.link with outbound } })
  else (.ready (.error .notConnected), wire)

/-- Writes never stay in a channel, so that flushing only fails without a link. -/
def flush (wire : Wire) : Except IoError Unit :=
  if wire.channel.isOpen then .ok () else .error .notConnected

/-- Ends what the gateway writes. -/
def shutdown (wire : Wire) : Wire :=
  if wire.channel.isOpen then { wire with link := wire.link.shutdown } else wire

/-- Gives the link up. -/
def close (wire : Wire) : Wire :=
  if wire.channel.isOpen then
    { channel := { wire.channel with isOpen := false, returned := [] }, link := wire.link.abandon }
  else { wire with channel := { wire.channel with returned := [] } }

/-- What was put back, and then what the link holds. -/
def input (wire : Wire) : Bytes := wire.channel.returned ++ wire.link.inbound.held

end Wire

/-- The channel that is left when the link, with all that was put back, moves to a new channel. -/
def Channel.emptied (channel : Channel) : Channel :=
  { channel with isOpen := false, returned := [] }

end SocksGateway
