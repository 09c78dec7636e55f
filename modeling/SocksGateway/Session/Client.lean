import SocksGateway.Session.Live

/-!
The client's side of a live session: it sends, and it waits for octets, for the end of what it is
sent and for the end of the session, but not for ever.
-/

set_option autoImplicit false

namespace SocksGateway.Live

variable {α : Type}

/-- How long a client waits, in milliseconds. -/
def patience : Nat := 5000

/-- Sends octets; all of them are taken or none. To send none always succeeds. -/
def send (octets : Bytes) (live : Live α) : Except IoError Unit × Live α :=
  if octets = [] then (.ok (), live)
  else
    match live.link.farSend octets with
    | (.ready (.error error), _) => (.error error, live)
    | (_, link) => (.ok (), live.withLink link)

/-- Sends nothing more. -/
def hangUp (live : Live α) : Live α := live.withLink live.link.farShutdown

/-- Gives the connection up. -/
def leave (live : Live α) : Live α := live.withLink live.link.farDrop

/-- What a wait for octets comes to. -/
structure Received where
  octets : Bytes
  /-- Whether the wait was given up. -/
  isTimeout : Bool := false
deriving DecidableEq, Repr, Inhabited

/-- The time may pass until `latest`: the session at its next deadline, if that comes before. -/
def passTime (latest : Nat) (live : Live α) : Option (Live α) :=
  match live.nextDeadline with
  | some deadline =>
    if deadline ≤ latest then some (live.elapse (deadline - live.scene.clock)) else none
  | none => none

/-- Reads until `enough` octets or the end have come, in no more than `fuel` turns. -/
def receiveUntil (latest : Nat) (enough : Option Nat) :
    (fuel : Nat) → Bytes → Live α → Received × Live α
  | 0, octets, live => ({ octets, isTimeout := true }, live)
  | fuel + 1, octets, live =>
    let missing := match enough with
      | some count => count - octets.length
      | none => live.link.outbound.held.length + 1
    if missing = 0 then ({ octets }, live)
    else
      match live.link.farRead missing with
      | (.ready [], _) => ({ octets }, live)
      | (.ready more, link) =>
        receiveUntil latest enough fuel (octets ++ more) (live.withLink link)
      | (.pending, _) =>
        let settled := live.settle
        match settled.link.farRead missing with
        | (.ready _, _) => receiveUntil latest enough fuel octets settled
        | (.pending, _) =>
          match settled.passTime latest with
          | some later => receiveUntil latest enough fuel octets later
          | none =>
            ({ octets, isTimeout := true }, settled.elapse (latest - settled.scene.clock))

/-- A bound on the turns of a wait. -/
def turnLimit (live : Live α) : Nat := live.link.outbound.held.length + patience

/-- Waits for `count` octets or the end. -/
def receive (count : Nat) (live : Live α) : Received × Live α :=
  receiveUntil (live.scene.clock + patience) (some count) live.turnLimit [] live

/-- Waits for the end and gives all octets before it. -/
def receiveAll (live : Live α) : Received × Live α :=
  receiveUntil (live.scene.clock + patience) none live.turnLimit [] live

/-- Waits for the end of the session, in no more than `fuel` turns. -/
def awaitUntil (latest : Nat) : (fuel : Nat) → Live α → Live α
  | 0, live => live
  | fuel + 1, live =>
    if live.result.isSome then live
    else
      match live.passTime latest with
      | some later => awaitUntil latest fuel later
      | none => live

/-- The session after its client has left and has waited for its end. -/
def conclude (live : Live α) : Live α :=
  let left := live.leave.settle
  left.awaitUntil (left.scene.clock + patience) left.turnLimit

end SocksGateway.Live
