import SocksGateway.Session.Client

/-!
Scripts: what a client, and hosts that cannot reach the gateway, do step by step with a live session.
-/

set_option autoImplicit false

namespace SocksGateway.Script

/-- One step of the client of a session. -/
inductive ClientStep where
  | send (octets : Bytes)
  /-- Sends nothing more. -/
  | hangUp
  | leave
  | receive (count : Nat)
  | receiveAll
  /-- Receives a reply of version 4. -/
  | reply4
  /-- Receives a reply of version 5. -/
  | reply5
deriving DecidableEq, Repr, Inhabited

inductive Step where
  /-- A step on the connection of that name. -/
  | on (connection : String) (step : ClientStep)
  | cancel
  /-- Another host connects to the port of the last reply. -/
  | call
  /-- A socket sends a datagram to the port of the last reply. -/
  | sendDatagram (socket : String)
  | receiveDatagram (socket : String)
deriving DecidableEq, Repr, Inhabited

/-- What a port in a reply is to the client. -/
inductive SeenPort where
  | zero
  /-- The port of the reply before. -/
  | known
  | fresh
deriving DecidableEq, Repr, Inhabited

inductive Answer where
  | done
  | nothing
  | failed (error : IoError)
  | unreachable
  | timedOut
  | octets (octets : Bytes) (isFull : Bool)
  | rest (octets : Bytes)
  | reply (head host : Bytes) (port : SeenPort)
  /-- What was received is not a whole reply: the end came within it, or its head is not one. -/
  | cut (octets : Bytes)
deriving DecidableEq, Repr, Inhabited

/-- A live session and what its client knows. -/
structure Stage (α : Type) where
  live : Live α
  /-- The port of the last reply, zero without one. -/
  port : UInt16 := 0
  hasLeft : Bool := false
  sockets : List String

namespace Stage

variable {α : Type}

/-- What a port is to the client, which remembers it. -/
def see (port : UInt16) (stage : Stage α) : SeenPort × Stage α :=
  if port = 0 then (.zero, stage)
  else if port = stage.port then (.known, stage)
  else (.fresh, { stage with port })

/-- Receives a head, and then as many octets as that calls for, if it is one; `parts` takes them
apart into a host and a port. -/
def receiveReply (size : Nat) (following : Bytes → Option Nat) (parts : Bytes → Bytes × Bytes)
    (stage : Stage α) : Answer × Stage α :=
  let (head, live) := stage.live.receive size
  let stage := { stage with live }
  if head.isTimeout then (.timedOut, stage)
  else if head.octets.length < size then (.cut head.octets, stage)
  else
    match following head.octets with
    | none => (.cut head.octets, stage)
    | some count =>
      let (tail, live) := live.receive count
      let stage := { stage with live }
      if tail.isTimeout then (.timedOut, stage)
      else if tail.octets.length < count then (.cut (head.octets ++ tail.octets), stage)
      else
        let (host, port) := parts tail.octets
        let (seen, stage) := stage.see (Bytes.word (port.headD 0) (port[1]?.getD 0))
        (.reply head.octets host seen, stage)

/-- The length of the host in a reply of version 5 with this head, whose last octet is the kind of
the address. -/
def hostLength (head : Bytes) : Option Nat :=
  match head with
  | [_, _, _, 1] => some 4
  | [_, _, _, 4] => some 16
  | _ => none

def perform (stage : Stage α) : ClientStep → Answer × Stage α
  | .send octets =>
    let (answer, live) := stage.live.send octets
    (match answer with
      | .ok () => .done
      | .error error => .failed error, { stage with live })
  | .hangUp => (.done, { stage with live := stage.live.hangUp })
  | .leave => (.done, { stage with live := stage.live.leave, hasLeft := true })
  | .receive count =>
    let (received, live) := stage.live.receive count
    (if received.isTimeout then .timedOut
      else .octets received.octets (received.octets.length == count), { stage with live })
  | .receiveAll =>
    let (received, live) := stage.live.receiveAll
    (if received.isTimeout then .timedOut else .rest received.octets, { stage with live })
  | .reply4 => stage.receiveReply 2 (fun _ => some 6) fun tail => (tail.drop 2, tail.take 2)
  | .reply5 =>
    stage.receiveReply 4 (fun head => (hostLength head).map (· + 2)) fun tail =>
      (tail.take (tail.length - 2), tail.drop (tail.length - 2))

/-- One step; there is none on connections and sockets that do not exist. -/
def step (stage : Stage α) : Step → Option (Answer × Stage α)
  | .on connection step =>
    if connection = "c" ∧ !stage.hasLeft then some (stage.perform step) else none
  | .cancel => some (.done, { stage with live := stage.live.cancel })
  | .call => some (.unreachable, { stage with live := stage.live.settle })
  | .sendDatagram socket =>
    if stage.sockets.contains socket then
      some (.failed (if stage.port = 0 then .invalidInput else .networkUnreachable), stage)
    else none
  | .receiveDatagram socket =>
    if stage.sockets.contains socket then
      some (.nothing, { stage with live := stage.live.settle })
    else none

/-- All steps of a script. -/
def play (stage : Stage α) : List Step → Option (List Answer × Stage α)
  | [] => some ([], stage)
  | step :: steps => do
    let (answer, stage) ← stage.step step
    let (answers, stage) ← stage.play steps
    return (answer :: answers, stage)

end Stage

end SocksGateway.Script
