import SocksGateway.Stream.Channel

/-!
Relays: two pumps carry octets between a client and a target until one side ends, something fails,
nothing is read for the whole of an idle window, or the relay is cancelled. Then both channels are
closed.

A pump looks at the window before each wait for octets. What is there to be read goes before the
window when both are due during a wait; a write waits for room without a limit.
-/

set_option autoImplicit false

namespace SocksGateway

/-- The two sides of a relay. -/
inductive Side where
  | client
  | target
deriving DecidableEq, Repr, Inhabited

def Side.other : Side → Side
  | client => target
  | target => client

/-- What the pump that reads from one side is doing. -/
inductive Pumping where
  /-- It is about to look at the window. -/
  | checking
  /-- It waits for octets. -/
  | waiting
  /-- It has read these octets and is writing them to the other side. -/
  | delivering (octets : Bytes)
deriving DecidableEq, Repr, Inhabited

structure Relay where
  window : Duration
  /-- The time, in milliseconds. -/
  clock : Nat
  /-- When octets were last read, in milliseconds. -/
  lastRead : Nat
  client : Wire
  target : Wire
  fromClient : Pumping := .checking
  fromTarget : Pumping := .checking
  result : Option (Except Failure Unit) := none

namespace Relay

/-- The most octets that a pump reads at once. -/
def bufferSize : Nat := 8192

def start (window : Duration) (clock : Nat) (client target : Wire) : Relay :=
  { window, clock, lastRead := clock, client, target }

def isRunning (relay : Relay) : Bool := relay.result.isNone

def wire (relay : Relay) : Side → Wire
  | .client => relay.client
  | .target => relay.target

def setWire (relay : Relay) (side : Side) (wire : Wire) : Relay :=
  match side with
  | .client => { relay with client := wire }
  | .target => { relay with target := wire }

/-- What the pump that reads from `side` is doing. -/
def pumping (relay : Relay) : Side → Pumping
  | .client => relay.fromClient
  | .target => relay.fromTarget

def setPumping (relay : Relay) (side : Side) (pumping : Pumping) : Relay :=
  match side with
  | .client => { relay with fromClient := pumping }
  | .target => { relay with fromTarget := pumping }

/-- Whether nothing was read for the whole of the window. -/
def isIdle (relay : Relay) : Bool :=
  relay.window.nanoseconds ≤ (Duration.ofMilliseconds (relay.clock - relay.lastRead)).nanoseconds

/-- Ends the relay: both channels are closed. -/
def finish (result : Except Failure Unit) (relay : Relay) : Relay :=
  { relay with
    client := relay.client.close, target := relay.target.close, result := some result }

/-- One step of the pump that reads from `side`, unless it has to wait. -/
def step? (relay : Relay) (side : Side) : Option Relay :=
  if relay.isRunning then
    match relay.pumping side with
    | .checking =>
      if relay.isIdle then some (relay.finish (.error { cause := .idle relay.window }))
      else some (relay.setPumping side .waiting)
    | .waiting =>
      match (relay.wire side).read bufferSize with
      | (.pending, _) => if relay.isIdle then some (relay.setPumping side .checking) else none
      | (.ready (.error error), _) => some (relay.finish (.error (.ofIo error)))
      | (.ready (.ok []), wire) =>
        let drained := relay.setWire side wire
        some ((drained.setWire side.other (drained.wire side.other).shutdown).finish (.ok ()))
      | (.ready (.ok octets), wire) =>
        some { (relay.setWire side wire).setPumping side (.delivering octets) with
          lastRead := relay.clock }
    | .delivering octets =>
      match (relay.wire side.other).write octets with
      | (.pending, _) => none
      | (.ready (.error error), _) => some (relay.finish (.error (.ofIo error)))
      | (.ready (.ok accepted), wire) =>
        let rest := octets.drop accepted
        some ((relay.setWire side.other wire).setPumping side
          (if rest = [] then .checking else .delivering rest))
  else none

/-- The octets that the pump that reads from `side` has read and not yet written. -/
def carried (relay : Relay) (side : Side) : Bytes :=
  match relay.pumping side with
  | .delivering octets => octets
  | _ => []

/-- Steps of either pump, as long as one of them has one, but no more than `fuel`. -/
def advance : (fuel : Nat) → Relay → Relay
  | 0, relay => relay
  | fuel + 1, relay =>
    match relay.step? .client with
    | some next => advance fuel next
    | none =>
      match relay.step? .target with
      | some next => advance fuel next
      | none => relay

/-- A bound on the steps before both pumps have to wait: each octet is read once and written once,
and a pump looks at the window and at its wire once more for each time that it reads. -/
def stepBound (relay : Relay) : Nat :=
  4 * (relay.client.input.length + relay.target.input.length +
    (relay.carried .client).length + (relay.carried .target).length) + 16

/-- Runs both pumps until they have to wait. -/
def settle (relay : Relay) : Relay := relay.advance relay.stepBound

/-- The time passes, and the pumps see where they stand. -/
def elapse (milliseconds : Nat) (relay : Relay) : Relay :=
  { relay with clock := relay.clock + milliseconds }.settle

/-- Cancels the relay unless it has ended. -/
def cancel (relay : Relay) : Relay :=
  if relay.isRunning then relay.finish (.error { cause := .cancelled }) else relay

end Relay

end SocksGateway
