import SocksGateway.Proofs.Gss.Frames
import SocksGateway.Proofs.Stream.Far

/-!
What passes through a layer. Each way of a layer makes its steps by itself, in any order with those of
the other, with what the client does at its end and with what the session does at the other side. An
observer who has no influence on them notes what goes in and what comes out.
-/

set_option autoImplicit false

namespace SocksGateway.Gss

namespace Layer

variable {layer next : Layer}

/-! ## Single steps -/

/-- Why a layer ends on the way in. -/
inductive InwardFailure (layer : Layer) : Prop where
  | malformed {octets : Bytes} (doing : layer.inward = .collecting octets)
      (known : progress octets = .malformed) : InwardFailure layer
  | refused {octets payload : Bytes} (doing : layer.inward = .collecting octets)
      (known : progress octets = .complete payload)
      (refused : layer.protection.unwrap payload = none) : InwardFailure layer
  | lost {octets : Bytes} {count : Nat} {error : IoError} {wire : Wire}
      (doing : layer.inward = .collecting octets) (known : progress octets = .missing count)
      (given : layer.wire.read count = (.ready (.error error), wire)) : InwardFailure layer
  | ended {octets : Bytes} {count : Nat} {wire : Wire}
      (doing : layer.inward = .collecting octets) (known : progress octets = .missing count)
      (given : layer.wire.read count = (.ready (.ok []), wire)) : InwardFailure layer
  | unread {octets : Bytes} {error : IoError} {inbound : Pipe}
      (doing : layer.inward = .delivering octets)
      (failed : layer.plain.link.inbound.write octets = (.ready (.error error), inbound)) :
      InwardFailure layer

/-- A step on the way in. -/
inductive InwardStep (layer : Layer) : Layer → Prop where
  | collect {octets more : Bytes} {count : Nat} {wire : Wire}
      (doing : layer.inward = .collecting octets) (known : progress octets = .missing count)
      (present : more ≠ []) (given : layer.wire.read count = (.ready (.ok more), wire)) :
      InwardStep layer { layer with wire, inward := .collecting (octets ++ more) }
  | unwrap {octets payload plain : Bytes} (doing : layer.inward = .collecting octets)
      (known : progress octets = .complete payload)
      (unwrapped : layer.protection.unwrap payload = some plain) :
      InwardStep layer { layer with inward := .delivering plain }
  | next (doing : layer.inward = .delivering []) :
      InwardStep layer { layer with inward := .collecting [] }
  | deliver {octets : Bytes} {accepted : Nat} {inbound : Pipe}
      (doing : layer.inward = .delivering octets) (present : octets ≠ [])
      (taken : layer.plain.link.inbound.write octets = (.ready (.ok accepted), inbound)) :
      InwardStep layer
        { layer with
          plain := { layer.plain with link := { layer.plain.link with inbound } }
          inward := .delivering (octets.drop accepted) }
  | finish (fails : layer.InwardFailure) : InwardStep layer layer.finish

/-- What the way in waits for: octets of a frame, or room at the side of the session. -/
inductive InwardWaits (layer : Layer) : Prop where
  | frame {octets : Bytes} {count : Nat} (doing : layer.inward = .collecting octets)
      (known : progress octets = .missing count) (empty : layer.wire.input = []) : InwardWaits layer
  | room {octets : Bytes} (doing : layer.inward = .delivering octets)
      (full : layer.plain.link.inbound.free = 0) : InwardWaits layer

theorem inwardStep_of_eq (stepped : layer.stepInward? = some next) : layer.InwardStep next := by
  unfold stepInward? at stepped
  cases doing : layer.inward with
  | collecting octets =>
    rw [doing] at stepped
    dsimp only at stepped
    cases known : progress octets with
    | malformed =>
      rw [known] at stepped
      cases stepped
      exact .finish (.malformed doing known)
    | complete payload =>
      rw [known] at stepped
      dsimp only at stepped
      cases unwrapped : layer.protection.unwrap payload with
      | none =>
        rw [unwrapped] at stepped
        cases stepped
        exact .finish (.refused doing known unwrapped)
      | some plain =>
        rw [unwrapped] at stepped
        cases stepped
        exact .unwrap doing known unwrapped
    | missing count =>
      rw [known] at stepped
      dsimp only at stepped
      split at stepped
      · cases stepped
      · rename_i given
        cases stepped
        exact .finish (.lost doing known given)
      · rename_i given
        cases stepped
        exact .finish (.ended doing known given)
      · rename_i more wire nonempty given
        cases stepped
        refine .collect doing known ?_ given
        rintro rfl
        exact nonempty rfl
  | delivering octets =>
    rw [doing] at stepped
    cases octets with
    | nil =>
      cases stepped
      exact .next doing
    | cons first others =>
      dsimp only [Link.farSend] at stepped
      cases written : layer.plain.link.inbound.write (first :: others) with
      | mk answer inbound =>
        rw [written] at stepped
        dsimp only at stepped
        split at stepped
        · cases stepped
        · rename_i same
          cases same
          cases stepped
          exact .finish (.unread doing written)
        · rename_i same
          cases same
          cases stepped
          exact .deliver doing (List.cons_ne_nil _ _) written

theorem inwardWaits_of_none (waits : layer.stepInward? = none) : layer.InwardWaits := by
  unfold stepInward? at waits
  cases doing : layer.inward with
  | collecting octets =>
    rw [doing] at waits
    dsimp only at waits
    cases known : progress octets with
    | malformed =>
      rw [known] at waits
      cases waits
    | complete payload =>
      rw [known] at waits
      dsimp only at waits
      split at waits <;> cases waits
    | missing count =>
      rw [known] at waits
      dsimp only at waits
      split at waits
      · rename_i given
        exact .frame doing known (Wire.read_pending given).1
      all_goals cases waits
  | delivering octets =>
    rw [doing] at waits
    cases octets with
    | nil => cases waits
    | cons first others =>
      dsimp only [Link.farSend] at waits
      cases written : layer.plain.link.inbound.write (first :: others) with
      | mk answer inbound =>
        rw [written] at waits
        dsimp only at waits
        split at waits
        · rename_i same
          cases same
          exact .room doing (Pipe.write_pending written).2.2.1
        all_goals cases waits

/-- Why a layer ends on the way out. -/
inductive OutwardFailure (layer : Layer) : Prop where
  | ended {outbound : Pipe} (doing : layer.outward = .waiting)
      (given : layer.plain.link.outbound.read chunkSize = (.ready [], outbound)) :
      OutwardFailure layer
  | refused {octets : Bytes} {outbound : Pipe} (doing : layer.outward = .waiting)
      (present : octets ≠ [])
      (given : layer.plain.link.outbound.read chunkSize = (.ready octets, outbound))
      (refused : ∀ message, layer.protection.wrap octets = some message →
        65536 ≤ message.length) : OutwardFailure layer
  | unread {octets : Bytes} {error : IoError} {wire : Wire}
      (doing : layer.outward = .delivering octets)
      (failed : layer.wire.write octets = (.ready (.error error), wire)) : OutwardFailure layer

/-- A step on the way out. -/
inductive OutwardStep (layer : Layer) : Layer → Prop where
  | wrap {octets message : Bytes} {outbound : Pipe} (doing : layer.outward = .waiting)
      (present : octets ≠ [])
      (given : layer.plain.link.outbound.read chunkSize = (.ready octets, outbound))
      (wrapped : layer.protection.wrap octets = some message) (short : message.length < 65536) :
      OutwardStep layer
        { layer with
          plain := { layer.plain with link := { layer.plain.link with outbound } }
          outward := .delivering (frame message) }
  | next (doing : layer.outward = .delivering []) :
      OutwardStep layer { layer with outward := .waiting }
  | deliver {octets : Bytes} {accepted : Nat} {wire : Wire}
      (doing : layer.outward = .delivering octets) (present : octets ≠ [])
      (taken : layer.wire.write octets = (.ready (.ok accepted), wire)) :
      OutwardStep layer { layer with wire, outward := .delivering (octets.drop accepted) }
  | finish (fails : layer.OutwardFailure) : OutwardStep layer layer.finish

/-- What the way out waits for: octets of the session, or room at the side of the client. -/
inductive OutwardWaits (layer : Layer) : Prop where
  | octets (doing : layer.outward = .waiting) (empty : layer.plain.link.outbound.held = []) :
      OutwardWaits layer
  | room {octets : Bytes} (doing : layer.outward = .delivering octets)
      (full : layer.wire.link.outbound.free = 0) : OutwardWaits layer

theorem outwardStep_of_eq (stepped : layer.stepOutward? = some next) : layer.OutwardStep next := by
  unfold stepOutward? at stepped
  cases doing : layer.outward with
  | waiting =>
    rw [doing] at stepped
    dsimp only [Link.farRead] at stepped
    cases given : layer.plain.link.outbound.read chunkSize with
    | mk answer outbound =>
      rw [given] at stepped
      dsimp only at stepped
      split at stepped
      · cases stepped
      · rename_i same
        cases same
        cases stepped
        exact .finish (.ended doing given)
      · rename_i octets link nonempty same
        cases same
        have present : octets ≠ [] := by
          rintro rfl
          exact nonempty rfl
        split at stepped
        · rename_i encoded framed
          cases stepped
          obtain ⟨message, wrapped, encoded⟩ := Option.map_eq_some_iff.mp framed
          obtain ⟨short, rfl⟩ := encode_data_eq_ok_iff.mp encoded
          exact .wrap doing present given wrapped short
        · rename_i unframed
          cases stepped
          refine .finish (.refused doing present given fun message wrapped => ?_)
          refine Nat.le_of_not_lt fun short => unframed (frame message) ?_
          rw [wrapped, Option.map_some, encode_data_eq_ok_iff.mpr ⟨short, rfl⟩]
  | delivering octets =>
    rw [doing] at stepped
    cases octets with
    | nil =>
      cases stepped
      exact .next doing
    | cons first others =>
      dsimp only at stepped
      split at stepped
      · cases stepped
      · rename_i failed
        cases stepped
        exact .finish (.unread doing failed)
      · rename_i taken
        cases stepped
        exact .deliver doing (List.cons_ne_nil _ _) taken

theorem outwardWaits_of_none (waits : layer.stepOutward? = none) : layer.OutwardWaits := by
  unfold stepOutward? at waits
  cases doing : layer.outward with
  | waiting =>
    rw [doing] at waits
    dsimp only [Link.farRead] at waits
    cases given : layer.plain.link.outbound.read chunkSize with
    | mk answer outbound =>
      rw [given] at waits
      dsimp only at waits
      split at waits
      · rename_i same
        cases same
        exact .octets doing (Pipe.read_pending given).1
      · cases waits
      · split at waits <;> cases waits
  | delivering octets =>
    rw [doing] at waits
    cases octets with
    | nil => cases waits
    | cons first others =>
      dsimp only at waits
      split at waits
      · rename_i given
        exact .room doing (Wire.write_pending_iff.mp (congrArg Prod.fst given)).2.2.2
      all_goals cases waits

end Layer

/-! ## Runs -/

/-- What happens to a layer, or at one of its sides. -/
inductive LayerEvent where
  | client (act : FarAct)
  /-- The session reads. -/
  | read (limit : Nat)
  /-- The session writes. -/
  | write (octets : Bytes)
  /-- The session ends what it writes. -/
  | shutdown
  /-- The session gives its side up. -/
  | close
  /-- A step on the way in, unless the layer waits there. -/
  | inward
  /-- A step on the way out, unless the layer waits there. -/
  | outward
deriving DecidableEq, Repr

/-- What a read has given. -/
def gave : Poll (Except IoError Bytes) → Bytes
  | .ready (.ok octets) => octets
  | _ => []

/-- How many octets a write has taken. -/
def took : Poll (Except IoError Nat) → Nat
  | .ready (.ok accepted) => accepted
  | _ => 0

/-- A layer, with what has passed at its sides. -/
structure Transit where
  layer : Layer
  /-- What the client has sent. -/
  sent : Bytes
  /-- What the client has read. -/
  received : Bytes := []
  /-- What the session has written. -/
  written : Bytes := []
  /-- What the session has read. -/
  read : Bytes := []

namespace Transit

/-- A new layer on a connection. What is to be read of that was sent already. -/
def start (protection : Protection) (wire : Wire) : Transit :=
  { layer := .cover protection wire, sent := wire.input }

/-- The layer makes a step that it can make, if it has not ended. -/
def attempt (step? : Layer → Option Layer) (transit : Transit) : Transit :=
  if transit.layer.isRunning then
    { transit with layer := (step? transit.layer).getD transit.layer }
  else transit

def react (transit : Transit) : LayerEvent → Transit
  | .client act =>
    let (answer, link) := transit.layer.wire.link.far act
    { transit with
      layer := { transit.layer with wire := { transit.layer.wire with link } }
      sent := transit.sent ++ Relay.sent act answer
      received := transit.received ++ Relay.got answer }
  | .read limit =>
    let (answer, plain) := transit.layer.plain.read limit
    { transit with layer := { transit.layer with plain }, read := transit.read ++ gave answer }
  | .write octets =>
    let (answer, plain) := transit.layer.plain.write octets
    { transit with
      layer := { transit.layer with plain }
      written := transit.written ++ octets.take (took answer) }
  | .shutdown =>
    { transit with layer := { transit.layer with plain := transit.layer.plain.shutdown } }
  | .close => { transit with layer := { transit.layer with plain := transit.layer.plain.close } }
  | .inward => transit.attempt Layer.stepInward?
  | .outward => transit.attempt Layer.stepOutward?

/-- What comes of events one after another. -/
def run (events : List LayerEvent) (transit : Transit) : Transit := events.foldl react transit

@[simp] theorem run_nil (transit : Transit) : run [] transit = transit := rfl

@[simp] theorem run_cons (event : LayerEvent) (events : List LayerEvent) (transit : Transit) :
    run (event :: events) transit = run events (transit.react event) := rfl

theorem run_append (events others : List LayerEvent) (transit : Transit) :
    run (events ++ others) transit = run others (run events transit) := List.foldl_append

end Transit

end SocksGateway.Gss
