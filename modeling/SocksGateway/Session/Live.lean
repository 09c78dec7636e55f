import SocksGateway.Gss.Layer
import SocksGateway.Relay.Basic
import SocksGateway.Session.Basic

/-!
Live sessions: a session at work on a connection. It runs until it has to wait for its client, for
the time or for another connection, and goes on when one of them has something for it.
-/

set_option autoImplicit false

namespace SocksGateway

/-- The connection to a client, as a session holds it. -/
inductive Front where
  | bare (wire : Wire)
  | covered (layer : Gss.Layer)

namespace Front

/-- What the session reads and writes. -/
def wire : Front → Wire
  | bare wire => wire
  | covered layer => layer.plain

def setWire (wire : Wire) : Front → Front
  | bare _ => bare wire
  | covered layer => covered { layer with plain := wire }

/-- The connection with its far end at the client. -/
def link : Front → Link
  | bare wire => wire.link
  | covered layer => layer.wire.link

def setLink (link : Link) : Front → Front
  | bare wire => bare { wire with link }
  | covered layer => covered { layer with wire := { layer.wire with link } }

/-- Goes on under a protection. -/
def cover (protection : Gss.Protection) (front : Front) : Front :=
  covered (.cover protection front.wire)

/-- Lets a layer do what it can. -/
def settle : Front → Front
  | bare wire => bare wire
  | covered layer => covered layer.settle

/-- Whether a layer has something to do. -/
def isBusy : Front → Bool
  | bare _ => false
  | covered layer => layer.step?.isSome

/-- A bound on the turns that a layer and a session take before both have to wait. -/
def turnBound : Front → Nat
  | bare wire => 4 * wire.input.length + 16
  | covered layer => layer.stepBound

end Front

/-- How the network answers. -/
structure Network where
  resolver : Resolver
  dial : Endpoint → Dialled

namespace Network

/-- No host has an address and no endpoint can be reached. -/
def unreachable : Network := { resolver := fun _ => none, dial := fun _ => .failed }

end Network

/-- What a session has to do with at a moment. -/
structure Scene where
  front : Front
  network : Network
  /-- The time, in milliseconds. -/
  clock : Nat := 0
  /-- The port that the system chooses next. -/
  nextPort : UInt16 := 40000
  isCancelled : Bool := false
  /-- When the wait for a connection ends. -/
  deadline : Option Nat := none
  /-- A connection that has come in, and the endpoint that it comes from. -/
  caller : Option (Endpoint × Link) := none
  /-- The connection that was dialled or accepted. -/
  target : Option Wire := none
  relay : Option Relay := none
  association : Option Association := none

namespace Scene

def setFront (scene : Scene) (wire : Wire) : Scene :=
  { scene with front := scene.front.setWire wire }

/-- An endpoint at a port of the system's choice, and the scene in which that is taken. -/
def openPort (ip : Ip) (scene : Scene) : Endpoint × Scene :=
  (⟨ip, scene.nextPort⟩, { scene with nextPort := scene.nextPort + 1 })

/-- The room in each direction of a connection to another host. -/
def targetCapacity : Nat := 65536

/-- A new connection to another host. -/
def connectedTo (endpoint : Endpoint) (link : Link) (scene : Scene) : Scene :=
  { scene with target := some { channel := { remote := endpoint }, link } }

/-- The relay under way, or a new one, with what has become of the connection and the time. -/
def relaying (window : Duration) (scene : Scene) : Option Relay :=
  match scene.relay with
  | some relay => some { relay with client := scene.front.wire, clock := scene.clock }
  | none => scene.target.map (Relay.start window scene.clock scene.front.wire)

/-- Attempts a wait for a connection. -/
def attemptAccept (window : Duration) (scene : Scene) : Option Called × Scene :=
  let deadline := scene.deadline.getD (scene.clock + window.milliseconds)
  if scene.isCancelled then (some .cancelled, { scene with deadline := none })
  else
    match scene.caller with
    | some (endpoint, link) =>
      (some (.peer endpoint),
        { scene.connectedTo endpoint link with deadline := none, caller := none })
    | none =>
      if deadline ≤ scene.clock then (some .timedOut, { scene with deadline := none })
      else (none, { scene with deadline := some deadline })

/-- Lets the relay under way do what it can. -/
def attemptRelay (window : Duration) (scene : Scene) : Option (Except Failure Unit) × Scene :=
  match scene.relaying window with
  | none => (some (.error (.ofIo .notConnected)), scene)
  | some relay =>
    let relay := (if scene.isCancelled then relay.cancel else relay).settle
    let scene := scene.setFront relay.client
    match relay.result with
    | some result => (some result, { scene with relay := none, target := none })
    | none => (none, { scene with relay := some relay })

/-- Drops what the client has sent; says whether it has ended. -/
def attemptAttend (scene : Scene) : Bool × Scene :=
  let wire := scene.front.wire
  let drained : Wire := {
    channel := { wire.channel with returned := [] }
    link := { wire.link with inbound := { wire.link.inbound with held := [] } } }
  (scene.isCancelled || !wire.channel.isOpen || wire.link.inbound.closed, scene.setFront drained)

end Scene

namespace Session

/-- Runs a session until it has to wait. -/
def poll {α : Type} : Session α → Scene → Session α × Scene
  | done result, scene => (done result, scene)
  | read limit next, scene =>
    match scene.front.wire.read limit with
    | (.pending, _) => (read limit next, scene)
    | (.ready answer, wire) => (next answer).poll (scene.setFront wire)
  | unread octets next, scene => next.poll (scene.setFront (scene.front.wire.unread octets))
  | write octets next, scene =>
    match scene.front.wire.write octets with
    | (.pending, _) => (write octets next, scene)
    | (.ready (.error error), _) => (next (.error error)).poll scene
    | (.ready (.ok accepted), wire) =>
      if accepted < octets.length then
        (write (octets.drop accepted) next, scene.setFront wire)
      else (next (.ok ())).poll (scene.setFront wire)
  | whetherOpen next, scene => (next scene.front.wire.channel.isOpen).poll scene
  | resolve name next, scene => (next (scene.network.resolver name)).poll scene
  | dial endpoint next, scene =>
    if scene.isCancelled then (next .cancelled).poll scene
    else
      let answer := scene.network.dial endpoint
      let scene := match answer with
        | .connected _ => scene.connectedTo endpoint (.fresh Scene.targetCapacity)
        | _ => scene
      (next answer).poll scene
  | listen ip next, scene =>
    let (bound, scene) := scene.openPort ip
    (next (.ok bound)).poll scene
  | accept window next, scene =>
    match scene.attemptAccept window with
    | (none, scene) => (accept window next, scene)
    | (some answer, scene) => (next answer).poll scene
  | takeUp next, scene =>
    (next (if scene.target.isSome then .ok () else .error .notConnected)).poll scene
  | relay window next, scene =>
    match scene.attemptRelay window with
    | (none, scene) => (relay window next, scene)
    | (some answer, scene) => (next answer).poll scene
  | associate ip terms next, scene =>
    let (bound, scene) := scene.openPort ip
    (next (.ok bound)).poll { scene with association := some (.start terms) }
  | attend next, scene =>
    match scene.attemptAttend with
    | (false, scene) => (attend next, scene)
    | (true, scene) => next.poll { scene with association := none }
  | protect protection next, scene =>
    next.poll { scene with front := scene.front.cover protection }
  | close next, scene => next.poll (scene.setFront scene.front.wire.close)

theorem poll_done {α : Type} (result : α) (scene : Scene) :
    (done result).poll scene = (done result, scene) := by
  rw [poll]

end Session

/-- A session with where it stands. -/
structure Live (α : Type) where
  session : Session α
  scene : Scene
  /-- What a cancellation makes of the session, wherever it stands. Without it, only the waits for
  others than the client end. -/
  whenCancelled : Option α

namespace Live

variable {α : Type}

/-- The result, once the session has one. -/
def result (live : Live α) : Option α :=
  match live.session with
  | .done result => some result
  | _ => none

/-- One turn of a layer, if there is one, and of the session. -/
def turn (live : Live α) : Live α :=
  let (session, scene) :=
    live.session.poll { live.scene with front := live.scene.front.settle }
  { live with session, scene }

/-- Turns until both have to wait, but no more than `fuel`. -/
def turns : (fuel : Nat) → Live α → Live α
  | 0, live => live
  | fuel + 1, live =>
    let next := live.turn
    if next.scene.front.isBusy then turns fuel next else next

/-- Runs the session until it has to wait. -/
def settle (live : Live α) : Live α := live.turns live.scene.front.turnBound

/-- A session on a connection of its own, which has not yet run. -/
def start (session : Session α) (wire : Wire) (network : Network) (whenCancelled : Option α) :
    Live α :=
  { session, scene := { front := .bare wire, network }, whenCancelled }

def link (live : Live α) : Link := live.scene.front.link

/-- The client has done something at its end. The session comes to know of it when it runs. -/
def withLink (link : Link) (live : Live α) : Live α :=
  { live with scene := { live.scene with front := live.scene.front.setLink link } }

/-- Some time passes, and the session runs. -/
def elapse (milliseconds : Nat) (live : Live α) : Live α :=
  { live with scene := { live.scene with clock := live.scene.clock + milliseconds } }.settle

/-- Cancels the session. Where that ends it, it gives up the connection to the client when it runs. -/
def cancel (live : Live α) : Live α :=
  let scene := { live.scene with isCancelled := true }
  match live.result, live.whenCancelled with
  | none, some result =>
    { live with
      session := .close (.done result)
      scene := { scene with relay := none, target := none, association := none } }
  | _, _ => { live with scene }

/-- When the session has to be looked at again, if only the time passes. -/
def nextDeadline (live : Live α) : Option Nat :=
  match live.session with
  | .accept .. => live.scene.deadline
  | .relay window _ => live.scene.relay.map fun relay => relay.lastRead + window.milliseconds
  | _ => none

end Live

end SocksGateway
