import SocksGateway.Relay.Basic

/-!
Runs of a relay: what happens around it, and how the far ends fare. After each event both pumps run
until they have to wait.
-/

set_option autoImplicit false

namespace SocksGateway

inductive RelayEvent where
  /-- Something at the far end of the client's or the target's link. -/
  | far (side : Side) (act : FarAct)
  | elapse (milliseconds : Nat)
  | cancel
deriving DecidableEq, Repr, Inhabited

namespace Relay

def react (event : RelayEvent) (relay : Relay) : FarAnswer × Relay :=
  match event with
  | .far side act =>
    let wire := relay.wire side
    let (answer, link) := wire.link.far act
    (answer, (relay.setWire side { wire with link }).settle)
  | .elapse milliseconds => (.done, relay.elapse milliseconds)
  | .cancel => (.done, relay.cancel)

/-- How the far ends fare one event after another, and what the events leave. -/
def run : List RelayEvent → Relay → List FarAnswer × Relay
  | [], relay => ([], relay)
  | event :: events, relay =>
    let (answer, relay) := relay.react event
    let (answers, relay) := run events relay
    (answer :: answers, relay)

end Relay

end SocksGateway
