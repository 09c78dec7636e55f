import SocksGateway.Gss.Context
import SocksGateway.Gss.Frame
import SocksGateway.Stream.Channel

/-!
Layers: between the connection to a client and a session, frames are unwrapped on their way in and
what the session writes is wrapped on its way out. A layer ends with the first end or failure on
either way, and then both sides are closed.
-/

set_option autoImplicit false

namespace SocksGateway.Gss

/-- What a layer is doing for octets on their way in. -/
inductive Inward where
  /-- It has these octets of a frame. -/
  | collecting (octets : Bytes)
  /-- It has these unwrapped octets, which are still to be given to the session. -/
  | delivering (octets : Bytes)
deriving DecidableEq, Repr, Inhabited

/-- What a layer is doing for octets on their way out. -/
inductive Outward where
  | waiting
  /-- It has these octets of frames, which are still to be written to the client. -/
  | delivering (octets : Bytes)
deriving DecidableEq, Repr, Inhabited

structure Layer where
  protection : Protection
  /-- The connection to the client. -/
  wire : Wire
  /-- What the session holds; the layer is at the far end of it. -/
  plain : Wire
  inward : Inward := .collecting []
  outward : Outward := .waiting
  isRunning : Bool := true

namespace Layer

/-- The room in each direction between a layer and its session. -/
def capacity : Nat := 16384

/-- The most octets of the session that go into one frame. -/
def chunkSize : Nat := 8192

/-- A layer on a connection. -/
def cover (protection : Protection) (wire : Wire) : Layer :=
  { protection, wire, plain := {
      channel := { remote := wire.channel.remote }, link := .fresh capacity } }

/-- Ends the layer: the connection to the client is closed, and the session has no far end. -/
def finish (layer : Layer) : Layer :=
  { layer with
    wire := layer.wire.close
    plain := { layer.plain with link := layer.plain.link.farDrop }
    isRunning := false }

/-- What is known from the first octets of a frame. -/
inductive Progress where
  /-- So many octets are needed next. -/
  | missing (count : Nat)
  | complete (payload : Bytes)
  | malformed
deriving DecidableEq, Repr, Inhabited

def progress : Bytes → Progress
  | [] => .missing 2
  | [_] => .missing 1
  | version :: kind :: rest =>
    match Frame.checkHead .data version kind with
    | .error _ => .malformed
    | .ok () =>
      match rest with
      | [] => .missing 2
      | [_] => .missing 1
      | high :: low :: payload =>
        let length := (Bytes.word high low).toNat
        if payload.length < length then .missing (length - payload.length) else .complete payload

/-- One step on the way in, unless the layer has to wait. -/
def stepInward? (layer : Layer) : Option Layer :=
  match layer.inward with
  | .collecting octets =>
    match progress octets with
    | .malformed => some layer.finish
    | .complete payload =>
      match layer.protection.unwrap payload with
      | none => some layer.finish
      | some plain => some { layer with inward := .delivering plain }
    | .missing count =>
      match layer.wire.read count with
      | (.pending, _) => none
      | (.ready (.error _), _) => some layer.finish
      | (.ready (.ok []), _) => some layer.finish
      | (.ready (.ok more), wire) =>
        some { layer with wire, inward := .collecting (octets ++ more) }
  | .delivering [] => some { layer with inward := .collecting [] }
  | .delivering octets =>
    match layer.plain.link.farSend octets with
    | (.pending, _) => none
    | (.ready (.error _), _) => some layer.finish
    | (.ready (.ok accepted), link) =>
      some { layer with
        plain := { layer.plain with link }, inward := .delivering (octets.drop accepted) }

/-- One step on the way out, unless the layer has to wait. -/
def stepOutward? (layer : Layer) : Option Layer :=
  match layer.outward with
  | .waiting =>
    match layer.plain.link.farRead chunkSize with
    | (.pending, _) => none
    | (.ready [], _) => some layer.finish
    | (.ready octets, link) =>
      match (layer.protection.wrap octets).map (Frame.encode .data) with
      | some (.ok frame) =>
        some { layer with plain := { layer.plain with link }, outward := .delivering frame }
      | _ => some layer.finish
  | .delivering [] => some { layer with outward := .waiting }
  | .delivering octets =>
    match layer.wire.write octets with
    | (.pending, _) => none
    | (.ready (.error _), _) => some layer.finish
    | (.ready (.ok accepted), wire) =>
      some { layer with wire, outward := .delivering (octets.drop accepted) }

/-- One step of the layer, unless it has to wait or has ended. -/
def step? (layer : Layer) : Option Layer :=
  if layer.isRunning then layer.stepInward?.or layer.stepOutward? else none

/-- Steps as long as there is one, but no more than `fuel`. -/
def advance : (fuel : Nat) → Layer → Layer
  | 0, layer => layer
  | fuel + 1, layer =>
    match layer.step? with
    | some next => advance fuel next
    | none => layer

/-- A bound on the steps before the layer has to wait: each octet is read once, and what it is
wrapped or unwrapped to is written at most in two parts. -/
def stepBound (layer : Layer) : Nat :=
  4 * (layer.wire.input.length + layer.plain.link.outbound.held.length) + 16

/-- Runs the layer until it has to wait. -/
def settle (layer : Layer) : Layer := layer.advance layer.stepBound

end Layer

end SocksGateway.Gss
