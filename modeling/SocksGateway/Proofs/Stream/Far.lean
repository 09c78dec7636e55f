import SocksGateway.Proofs.Stream.Wire

/-!
What the far ends of links do: what they send goes behind what is still to be read, what they read comes
off the front of what was written for them, and nothing that they do opens a pipe again.
-/

set_option autoImplicit false

namespace SocksGateway.Relay

/-- What of an act of a far end has gone into the pipe. -/
def sent (act : FarAct) (answer : FarAnswer) : Bytes :=
  match act, answer with
  | .send octets, .sent (.ready (.ok accepted)) => octets.take accepted
  | _, _ => []

/-- What a far end has got for an act. -/
def got : FarAnswer → Bytes
  | .read (.ready octets) => octets
  | _ => []

/-- Whether a far end sends nothing more after an act. -/
def hangsUp : FarAct → Bool
  | .shutdown => true
  | .drop => true
  | _ => false

theorem sent_gone (act : FarAct) : sent act .gone = [] := by
  cases act <;> rfl

/-- What a far end does to a link, the answer that it gets, and what it leaves. -/
inductive Fares (link : Link) : FarAct → FarAnswer → Link → Prop where
  | gone (act : FarAct) : Fares link act .gone link
  | send {octets : Bytes} {answer : Poll (Except IoError Nat)} {inbound : Pipe}
      (written : link.inbound.write octets = (answer, inbound)) :
      Fares link (.send octets) (.sent answer) { link with inbound }
  | read {limit : Nat} {answer : Poll Bytes} {outbound : Pipe}
      (given : link.outbound.read limit = (answer, outbound)) :
      Fares link (.read limit) (.read answer) { link with outbound }
  | shutdown : Fares link .shutdown .done link.farShutdown
  | drop : Fares link .drop .done link.farDrop

theorem fares_far (act : FarAct) (link : Link) :
    Fares link act (link.far act).1 (link.far act).2 := by
  unfold Link.far
  split
  · exact .drop
  · exact .gone _
  · exact .send rfl
  · exact .read rfl
  · exact .shutdown

namespace Fares

variable {act : FarAct} {answer : FarAnswer} {link after : Link}

theorem inbound (fares : Fares link act answer after) :
    after.inbound.held = link.inbound.held ++ sent act answer := by
  cases fares with
  | gone => rw [sent_gone, List.append_nil]
  | @send octets answer rest written =>
    cases answer with
    | pending =>
      obtain ⟨-, -, -, rfl⟩ := Pipe.write_pending written
      exact (List.append_nil _).symm
    | ready outcome =>
      cases outcome with
      | error error =>
        have refused : rest = link.inbound := Pipe.write_refused written nofun
        rw [refused]
        exact (List.append_nil _).symm
      | ok accepted => exact Pipe.held_write written
  | read | shutdown | drop => exact (List.append_nil _).symm

theorem outbound (fares : Fares link act answer after) :
    got answer ++ after.outbound.held = link.outbound.held := by
  cases fares with
  | @read limit answer rest given =>
    cases answer with
    | pending =>
      obtain ⟨-, rfl⟩ := Pipe.read_pending given
      rfl
    | ready octets => exact Pipe.read_append given
  | gone | send | shutdown | drop => rfl

theorem inbound_closed (fares : Fares link act answer after)
    (closed : after.inbound.closed = true) :
    link.inbound.closed = true ∨ hangsUp act = true := by
  cases fares with
  | send written => exact .inl ((Pipe.closed_of_write written).symm.trans closed)
  | gone | read => exact .inl closed
  | shutdown | drop => exact .inr rfl

theorem outbound_of_stays (fares : Fares link act answer after) (stays : hangsUp act = false) :
    after.outbound.closed = link.outbound.closed ∧
      after.outbound.capacity = link.outbound.capacity ∧ after.hasFarEnd = link.hasFarEnd := by
  cases fares with
  | gone | send => exact ⟨rfl, rfl, rfl⟩
  | @read limit answer rest given =>
    have room := Pipe.capacity_read limit link.outbound
    rw [given] at room
    exact ⟨Pipe.closed_read given, room, rfl⟩
  | shutdown | drop => cases stays

theorem sent_of_closed (fares : Fares link act answer after)
    (closed : link.inbound.closed = true) : sent act answer = [] := by
  cases fares with
  | gone => exact sent_gone act
  | @send octets answer rest written =>
    rw [Pipe.write_of_closed octets closed] at written
    cases written
    rfl
  | read | shutdown | drop => rfl

theorem inbound_stays_closed (fares : Fares link act answer after)
    (closed : link.inbound.closed = true) : after.inbound.closed = true := by
  cases fares with
  | send written => exact (Pipe.closed_of_write written).trans closed
  | gone | read => exact closed
  | shutdown | drop => rfl

theorem outbound_stays_closed (fares : Fares link act answer after)
    (closed : link.outbound.closed = true) : after.outbound.closed = true := by
  cases fares with
  | read given => exact (Pipe.closed_read given).trans closed
  | gone | send | shutdown => exact closed
  | drop => rfl

end Fares

theorem inbound_far (act : FarAct) (link : Link) :
    (link.far act).2.inbound.held = link.inbound.held ++ sent act (link.far act).1 :=
  (fares_far act link).inbound

theorem outbound_far (act : FarAct) (link : Link) :
    got (link.far act).1 ++ (link.far act).2.outbound.held = link.outbound.held :=
  (fares_far act link).outbound

/-- A far end that cannot send any more has ended what it sends, now or earlier. -/
theorem inbound_closed_far {act : FarAct} {link : Link}
    (closed : (link.far act).2.inbound.closed = true) :
    link.inbound.closed = true ∨ hangsUp act = true :=
  (fares_far act link).inbound_closed closed

/-- A far end that does not hang up stays, and leaves what is written to it as it was but for what it
reads. -/
theorem outbound_far_of_stays {act : FarAct} (stays : hangsUp act = false) (link : Link) :
    (link.far act).2.outbound.closed = link.outbound.closed ∧
      (link.far act).2.outbound.capacity = link.outbound.capacity ∧
      (link.far act).2.hasFarEnd = link.hasFarEnd :=
  (fares_far act link).outbound_of_stays stays

theorem sent_of_closed (act : FarAct) {link : Link} (closed : link.inbound.closed = true) :
    sent act (link.far act).1 = [] :=
  (fares_far act link).sent_of_closed closed

theorem inbound_stays_closed (act : FarAct) {link : Link} (closed : link.inbound.closed = true) :
    (link.far act).2.inbound.closed = true :=
  (fares_far act link).inbound_stays_closed closed

theorem outbound_stays_closed (act : FarAct) {link : Link} (closed : link.outbound.closed = true) :
    (link.far act).2.outbound.closed = true :=
  (fares_far act link).outbound_stays_closed closed

/-- Nothing that a far end does opens a wire again. -/
theorem isShut_far (act : FarAct) {wire : Wire} (shut : wire.IsShut) :
    Wire.IsShut { wire with link := (wire.link.far act).2 } :=
  ⟨shut.released, inbound_stays_closed act shut.inbound, outbound_stays_closed act shut.outbound⟩

end SocksGateway.Relay
