import SocksGateway.Routing.Policy
import SocksGateway.Udp.Client
import SocksGateway.Udp.Packet

/-!
Associations: datagrams of a client go out unwrapped to their destinations, and datagrams from where
the client has sent to come back wrapped. Everything else is dropped.
-/

set_option autoImplicit false

namespace SocksGateway

/-- What an association for datagrams needs to know. -/
structure AssociationTerms where
  client : UdpClient
  policy : RoutePolicy
  user : Option String
deriving Repr, Inhabited

structure Association where
  terms : AssociationTerms
  /-- Destinations that the client has sent to, and the endpoint from which it last did. -/
  clients : List (Endpoint × Endpoint) := []
  /-- Names that were routed, and where to. -/
  routes : List (Target × Endpoint) := []
deriving Repr, Inhabited

/-- What an association does with a datagram. -/
inductive Forwarding where
  | dropped
  /-- The payload goes to a destination, on behalf of the client at `client`. -/
  | outward (destination client : Endpoint) (payload : Bytes)
  /-- The datagram goes to the client. -/
  | inward (client : Endpoint) (datagram : Bytes)
deriving DecidableEq, Repr, Inhabited

namespace Association

def start (terms : AssociationTerms) : Association := { terms }

/-- Where a target is routed, and the association that remembers it. Only names are remembered, and
only where they lead somewhere. -/
def route (resolver : Resolver) (target : Target) (association : Association) :
    Option Endpoint × Association :=
  match association.routes.lookup target with
  | some endpoint => (some endpoint, association)
  | none =>
    match association.terms.policy.route resolver target association.terms.user with
    | .error _ => (none, association)
    | .ok endpoint =>
      match target with
      | .ip _ => (some endpoint, association)
      | .domain .. =>
        (some endpoint, { association with routes := (target, endpoint) :: association.routes })

/-- A datagram of the client. -/
def outward (resolver : Resolver) (source : Endpoint) (datagram : Bytes)
    (association : Association) : Forwarding × Association :=
  match UdpPacket.decode datagram with
  | .error _ => (.dropped, association)
  | .ok packet =>
    if packet.isFragment then (.dropped, association)
    else
      match association.route resolver packet.address with
      | (none, association) => (.dropped, association)
      | (some destination, association) =>
        (.outward destination source packet.payload, association)

/-- A datagram of another source. -/
def inward (source : Endpoint) (datagram : Bytes) (association : Association) : Forwarding :=
  match association.clients.lookup source with
  | none => .dropped
  | some client =>
    let packet : UdpPacket := { address := .ip source, payload := datagram }
    .inward client packet.encode

/-- What becomes of a datagram. The first of the client tells its port. -/
def receive (resolver : Resolver) (source : Endpoint) (datagram : Bytes)
    (association : Association) : Forwarding × Association :=
  match association.terms.client.accept? source with
  | some client =>
    let terms := { association.terms with client }
    { association with terms }.outward resolver source datagram
  | none => (association.inward source datagram, association)

/-- The association after a datagram was sent; only those of the client leave a trace. -/
def sent (forwarding : Forwarding) (association : Association) : Association :=
  match forwarding with
  | .outward destination client _ =>
    let others := association.clients.filter fun entry => entry.1 != destination
    { association with clients := (destination, client) :: others }
  | _ => association

/-- A datagram as it comes in, and whether what it leads to can be sent. -/
structure Arrival where
  source : Endpoint
  datagram : Bytes
  isSent : Bool := true
deriving DecidableEq, Repr, Inhabited

/-- What becomes of a datagram, and what it leaves behind. -/
def react (resolver : Resolver) (arrival : Arrival) (association : Association) :
    Forwarding × Association :=
  let (forwarding, after) := association.receive resolver arrival.source arrival.datagram
  (forwarding, if arrival.isSent then after.sent forwarding else after)

/-- What becomes of datagrams one after another. -/
def run (resolver : Resolver) : List Arrival → Association → List Forwarding × Association
  | [], association => ([], association)
  | arrival :: arrivals, association =>
    let (forwarding, association) := association.react resolver arrival
    let (forwardings, association) := run resolver arrivals association
    (forwarding :: forwardings, association)

end Association

end SocksGateway
