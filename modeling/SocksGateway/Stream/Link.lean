import SocksGateway.Stream.Pipe

/-!
Links: the two directions between the gateway's end of a connection and the far end.
-/

set_option autoImplicit false

namespace SocksGateway

structure Link where
  /-- From the far end to the gateway. -/
  inbound : Pipe
  /-- From the gateway to the far end. -/
  outbound : Pipe
  /-- Whether the far end is still there. -/
  hasFarEnd : Bool := true
deriving DecidableEq, Repr, Inhabited

namespace Link

/-- An open link with the same room in each direction. -/
def fresh (capacity : Nat) : Link := { inbound := { capacity }, outbound := { capacity } }

/-- The gateway gives its end up. -/
def abandon (link : Link) : Link :=
  { link with inbound := link.inbound.close, outbound := link.outbound.close }

/-- The gateway ends what it writes. -/
def shutdown (link : Link) : Link := { link with outbound := link.outbound.close }

def farSend (octets : Bytes) (link : Link) : Poll (Except IoError Nat) × Link :=
  let (answer, inbound) := link.inbound.write octets
  (answer, { link with inbound })

def farRead (limit : Nat) (link : Link) : Poll Bytes × Link :=
  let (answer, outbound) := link.outbound.read limit
  (answer, { link with outbound })

/-- The far end ends what it writes. -/
def farShutdown (link : Link) : Link := { link with inbound := link.inbound.close }

/-- The far end goes away. -/
def farDrop (link : Link) : Link := { link.abandon with hasFarEnd := false }

end Link

/-- What the far end of a link can do. -/
inductive FarAct where
  | send (octets : Bytes)
  | read (limit : Nat)
  /-- Ends what it writes. -/
  | shutdown
  /-- Goes away. -/
  | drop
deriving DecidableEq, Repr, Inhabited

/-- How it fares. -/
inductive FarAnswer where
  | sent (answer : Poll (Except IoError Nat))
  | read (answer : Poll Bytes)
  | done
  /-- There is no far end any more. -/
  | gone
deriving Repr, Inhabited

/-- The far end does something, if it is still there. Going away once more changes nothing. -/
def Link.far (act : FarAct) (link : Link) : FarAnswer × Link :=
  match act, link.hasFarEnd with
  | .drop, _ => (.done, link.farDrop)
  | _, false => (.gone, link)
  | .send octets, true =>
    let (answer, link) := link.farSend octets
    (.sent answer, link)
  | .read limit, true =>
    let (answer, link) := link.farRead limit
    (.read answer, link)
  | .shutdown, true => (.done, link.farShutdown)

end SocksGateway
