import SocksGateway.Proofs.Gss.Departure

/-!
What an event makes of what passes through a layer: everything stays on its way, whoever acts, and
neither side acting badly the layer goes on until one of them ends.
-/

set_option autoImplicit false

namespace SocksGateway.Gss

open Handler

/-- An event after which one side sends nothing more. -/
def LayerEvent.ends : LayerEvent → Bool
  | .client act => Relay.hangsUp act
  | .shutdown => true
  | .close => true
  | _ => false

/-- What the session does itself. -/
def LayerEvent.isOfSession : LayerEvent → Bool
  | .read _ => true
  | .write _ => true
  | .shutdown => true
  | .close => true
  | _ => false

namespace Transit

variable {transit : Transit}

/-- What has come to the session, read or not. -/
def passed (transit : Transit) : Bytes := transit.read ++ transit.layer.plain.input

/-- What has gone to the client, read or not. -/
def delivered (transit : Transit) : Bytes :=
  transit.received ++ transit.layer.wire.link.outbound.held

/-! ## What the two sides do -/

/-- The side of the session before and after something that the session does: it takes octets off the
front of what has come to it, and puts others behind what it has written. -/
structure SessionSide (event : LayerEvent) (before after : Wire) (octets more : Bytes) : Prop where
  front : octets ++ after.input = before.input
  behind : after.link.outbound.held = before.link.outbound.held ++ more
  fresh : after.channel.returned = []
  capacity : after.link.inbound.capacity = before.link.inbound.capacity
  stays : event.ends = false → after.channel.isOpen = before.channel.isOpen ∧
    after.link.inbound.closed = before.link.inbound.closed ∧
    after.link.outbound.closed = before.link.outbound.closed

theorem SessionSide.idle {event : LayerEvent} {plain : Wire}
    (fresh : plain.channel.returned = []) : SessionSide event plain plain [] [] :=
  ⟨rfl, (List.append_nil _).symm, fresh, rfl, fun _ => ⟨rfl, rfl, rfl⟩⟩

theorem SessionSide.read {limit : Nat} {plain after : Wire} {answer : Poll (Except IoError Bytes)}
    (fresh : plain.channel.returned = []) (given : plain.read limit = (answer, after)) :
    SessionSide (.read limit) plain after (gave answer) [] := by
  by_cases refused : ∀ octets, answer ≠ .ready (.ok octets)
  · obtain rfl := Wire.read_refused given refused
    have nothing : gave answer = [] := by
      unfold gave
      split
      · exact absurd rfl (refused _)
      · rfl
    rw [nothing]
    exact .idle fresh
  · obtain ⟨octets, same⟩ := not_forall.mp refused
    obtain rfl := Classical.not_not.mp same
    obtain ⟨channel, capacity⟩ := Wire.read_fresh fresh given
    obtain ⟨whole, outbound, isOpen, closed⟩ := Wire.read_octets given
    exact ⟨whole, by rw [outbound, List.append_nil], channel ▸ fresh, capacity,
      fun _ => ⟨isOpen, closed, congrArg _ outbound⟩⟩

theorem SessionSide.write {octets : Bytes} {plain after : Wire} {answer : Poll (Except IoError Nat)}
    (fresh : plain.channel.returned = []) (given : plain.write octets = (answer, after)) :
    SessionSide (.write octets) plain after [] (octets.take (took answer)) := by
  by_cases refused : ∀ accepted, answer ≠ .ready (.ok accepted)
  · obtain rfl := Wire.write_refused given refused
    have nothing : took answer = 0 := by
      unfold took
      split
      · exact absurd rfl (refused _)
      · rfl
    rw [nothing]
    exact .idle fresh
  · obtain ⟨accepted, same⟩ := not_forall.mp refused
    obtain rfl := Classical.not_not.mp same
    obtain ⟨held, channel, inbound, -⟩ := Wire.write_octets given
    exact ⟨Wire.input_of_write given, held, channel ▸ fresh, by rw [inbound], fun _ =>
      ⟨by rw [channel], by rw [inbound], (Wire.outbound_write given).1⟩⟩

theorem SessionSide.shutdown {plain : Wire} (fresh : plain.channel.returned = []) :
    SessionSide .shutdown plain plain.shutdown [] [] := by
  unfold Wire.shutdown
  split
  · exact ⟨rfl, (List.append_nil _).symm, fresh, rfl, fun lasts => by cases lasts⟩
  · exact .idle fresh

theorem SessionSide.close {plain : Wire} (fresh : plain.channel.returned = []) :
    SessionSide .close plain plain.close [] [] := by
  have input : plain.close.input = plain.input := by
    unfold Wire.close Wire.input
    split <;> simp only [fresh, List.nil_append, Link.abandon, Pipe.held_close]
  have kept : plain.close.channel.returned = [] := by
    unfold Wire.close
    split <;> rfl
  have capacity : plain.close.link.inbound.capacity = plain.link.inbound.capacity := by
    unfold Wire.close
    split <;> rfl
  refine ⟨input, ?_, kept, capacity, fun lasts => by cases lasts⟩
  rw [Wire.outbound_held_close, List.append_nil]

theorem exists_session {event : LayerEvent} (ofSession : event.isOfSession = true)
    (fresh : transit.layer.plain.channel.returned = []) : ∃ plain octets more,
      transit.react event =
        { transit with
          layer := { transit.layer with plain }
          read := transit.read ++ octets, written := transit.written ++ more } ∧
      SessionSide event transit.layer.plain plain octets more := by
  cases event with
  | read limit =>
    refine ⟨(transit.layer.plain.read limit).2, gave (transit.layer.plain.read limit).1, [], ?_,
      .read fresh rfl⟩
    simp only [react, List.append_nil]
  | write octets =>
    refine ⟨(transit.layer.plain.write octets).2, [],
      octets.take (took (transit.layer.plain.write octets).1), ?_, .write fresh rfl⟩
    simp only [react, List.append_nil]
  | shutdown =>
    refine ⟨transit.layer.plain.shutdown, [], [], ?_, .shutdown fresh⟩
    simp only [react, List.append_nil]
  | close =>
    refine ⟨transit.layer.plain.close, [], [], ?_, .close fresh⟩
    simp only [react, List.append_nil]
  | client act => cases ofSession
  | inward => cases ofSession
  | outward => cases ofSession

theorem attempt_cases (step? : Layer → Option Layer) (transit : Transit) :
    transit.attempt step? = transit ∨ transit.layer.isRunning = true ∧ ∃ next,
      step? transit.layer = some next ∧ transit.attempt step? = { transit with layer := next } := by
  unfold attempt
  split
  · rename_i running
    cases stepped : step? transit.layer with
    | none => exact .inl rfl
    | some next => exact .inr ⟨running, next, rfl, rfl⟩
  · exact .inl rfl

/-- What an event is, and what it makes of what passes. -/
inductive Reacts (transit : Transit) (event : LayerEvent) : Transit → Prop where
  | client {act : FarAct} (same : event = .client act) :
      Reacts transit event
        { transit with
          layer :=
            { transit.layer with
              wire := { transit.layer.wire with link := (transit.layer.wire.link.far act).2 } }
          sent := transit.sent ++ Relay.sent act (transit.layer.wire.link.far act).1
          received := transit.received ++ Relay.got (transit.layer.wire.link.far act).1 }
  | session {plain : Wire} {octets more : Bytes}
      (side : SessionSide event transit.layer.plain plain octets more) :
      Reacts transit event
        { transit with
          layer := { transit.layer with plain }
          read := transit.read ++ octets, written := transit.written ++ more }
  | idle (ofLayer : event = .inward ∨ event = .outward) : Reacts transit event transit
  | inward {next : Layer} (running : transit.layer.isRunning = true)
      (step : transit.layer.InwardStep next) : Reacts transit event { transit with layer := next }
  | outward {next : Layer} (running : transit.layer.isRunning = true)
      (step : transit.layer.OutwardStep next) : Reacts transit event { transit with layer := next }

theorem reacts (event : LayerEvent) (fresh : transit.layer.plain.channel.returned = []) :
    transit.Reacts event (transit.react event) := by
  cases ofSession : event.isOfSession with
  | true =>
    obtain ⟨plain, octets, more, same, side⟩ := exists_session ofSession fresh
    rw [same]
    exact .session side
  | false =>
    cases event with
    | client act => exact .client rfl
    | inward =>
      rcases attempt_cases Layer.stepInward? transit with same | ⟨running, next, stepped, same⟩
      · rw [react, same]
        exact .idle (.inl rfl)
      · rw [react, same]
        exact .inward running (Layer.inwardStep_of_eq stepped)
    | outward =>
      rcases attempt_cases Layer.stepOutward? transit with same | ⟨running, next, stepped, same⟩
      · rw [react, same]
        exact .idle (.inr rfl)
      · rw [react, same]
        exact .outward running (Layer.outwardStep_of_eq stepped)
    | _ => cases ofSession

variable {event : LayerEvent} {later : Transit}

theorem Reacts.fresh (reacts : transit.Reacts event later)
    (fresh : transit.layer.plain.channel.returned = []) :
    later.layer.plain.channel.returned = [] := by
  cases reacts with
  | session side => exact side.fresh
  | inward running step => cases step <;> exact fresh
  | outward running step => cases step <;> exact fresh
  | client | idle => exact fresh

theorem Reacts.protection (reacts : transit.Reacts event later) :
    later.layer.protection = transit.layer.protection := by
  cases reacts with
  | inward running step => cases step <;> rfl
  | outward running step => cases step <;> rfl
  | client | session | idle => rfl

theorem Reacts.sent_grows (reacts : transit.Reacts event later) : transit.sent <+: later.sent := by
  cases reacts with
  | client => exact List.prefix_append _ _
  | session | idle | inward | outward => exact List.prefix_rfl

/-! ## What holds of a run -/

/-- What a client that sends the frames of these messages has sent is on its way to the session. -/
def IsArriving (messages plains : List Bytes) (transit : Transit) : Prop :=
  Arrives transit.layer.protection messages plains transit.layer.isRunning transit.layer.inward
    transit.layer.wire.input transit.sent transit.passed

/-- What the session has written is on its way to the client, behind other octets. -/
def IsDeparting (before : Bytes) (transit : Transit) : Prop :=
  Departs transit.layer.protection before transit.layer.isRunning transit.layer.outward
    transit.layer.plain.link.outbound.held transit.written transit.delivered

theorem IsArriving.reacts {messages plains : List Bytes} (reacts : transit.Reacts event later)
    (wellFormed : later.sent <+: frames messages) (arriving : transit.IsArriving messages plains) :
    later.IsArriving messages plains := by
  have wellFormedBefore := reacts.sent_grows.trans wellFormed
  unfold IsArriving at arriving ⊢
  rw [reacts.protection]
  cases reacts with
  | @client act =>
    have grown := arriving.send (Relay.sent act (transit.layer.wire.link.far act).1)
    have input : Wire.input { transit.layer.wire with link := (transit.layer.wire.link.far act).2 } =
        transit.layer.wire.input ++ Relay.sent act (transit.layer.wire.link.far act).1 := by
      simp only [Wire.input, Relay.inbound_far, List.append_assoc]
    dsimp only
    rw [input]
    exact grown
  | session side =>
    simpa only [passed, List.append_assoc, side.front] using arriving
  | idle => exact arriving
  | inward running step =>
    rw [running] at arriving
    exact arriving.inward wellFormedBefore step running
  | outward running step =>
    rw [running] at arriving
    exact arriving.outward step running

theorem IsDeparting.reacts {before : Bytes} (reacts : transit.Reacts event later)
    (faithful : transit.layer.protection.IsFaithful) (departing : transit.IsDeparting before) :
    later.IsDeparting before := by
  unfold IsDeparting at departing ⊢
  rw [reacts.protection]
  cases reacts with
  | @client act =>
    simpa only [delivered, List.append_assoc, Relay.outbound_far] using departing
  | session side =>
    simpa only [delivered, side.behind] using departing.write _
  | idle => exact departing
  | inward running step =>
    rw [running] at departing
    exact departing.inward step running
  | outward running step =>
    rw [running] at departing
    exact departing.outward faithful step running

/-! ## For as long as neither side ends -/

end Transit

/-- A layer that has not ended, with both of its ends there and room for what goes to them. -/
structure Layer.IsLasting (layer : Layer) : Prop where
  running : layer.isRunning = true
  hasFarEnd : layer.wire.link.hasFarEnd = true
  wireOpen : layer.wire.channel.isOpen = true
  wireInbound : layer.wire.link.inbound.closed = false
  wireOutbound : layer.wire.link.outbound.closed = false
  wireRoom : 0 < layer.wire.link.outbound.capacity
  plainOpen : layer.plain.channel.isOpen = true
  plainInbound : layer.plain.link.inbound.closed = false
  plainOutbound : layer.plain.link.outbound.closed = false
  plainRoom : 0 < layer.plain.link.inbound.capacity

variable {layer next : Layer} {messages plains : List Bytes} {sent passed : Bytes}

theorem Layer.IsLasting.not_inwardFailure (lasting : layer.IsLasting)
    (arrives : Arrives layer.protection messages plains true layer.inward layer.wire.input sent
      passed) : ¬ layer.InwardFailure := by
  -- The front of a frame is neither malformed nor, when it is complete, refused.
  have known {octets : Bytes} (doing : layer.inward = .collecting octets) :
      (∃ payload plain, progress octets = .complete payload ∧
        layer.protection.unwrap payload = some plain) ∨
      ∃ count, progress octets = .missing count ∧ 0 < count := by
    rw [doing] at arrives
    cases arrives with
    | collecting sending carrying carry front taken given =>
      rcases known_of_front carry front with
        ⟨_, _, _, _, -, -, carries, -, -, complete⟩ | ⟨count, missing, positive, -⟩
      · exact .inl ⟨_, _, complete, carries.2⟩
      · exact .inr ⟨count, missing, positive⟩
  intro fails
  cases fails with
  | malformed doing malformed =>
    rcases known doing with ⟨_, _, complete, -⟩ | ⟨_, missing, -⟩
    · rw [malformed] at complete
      cases complete
    · rw [malformed] at missing
      cases missing
  | refused doing whole refused =>
    rcases known doing with ⟨_, _, complete, unwrapped⟩ | ⟨_, missing, -⟩
    · rw [whole] at complete
      cases complete
      rw [refused] at unwrapped
      cases unwrapped
    · rw [whole] at missing
      cases missing
  | lost doing part given =>
    have closed := Wire.read_error given
    rw [lasting.wireOpen] at closed
    cases closed
  | ended doing part given =>
    rcases known doing with ⟨_, _, complete, -⟩ | ⟨_, missing, positive⟩
    · rw [part] at complete
      cases complete
    · rw [part] at missing
      cases missing
      have closed := (Wire.read_end positive given).2.1
      rw [lasting.wireInbound] at closed
      cases closed
  | unread doing failed =>
    have closed := Pipe.write_error failed
    rw [lasting.plainInbound] at closed
    cases closed

theorem Layer.IsLasting.inward (lasting : layer.IsLasting) (step : layer.InwardStep next)
    (goesOn : ¬ layer.InwardFailure) : next.IsLasting := by
  cases step with
  | finish fails => exact absurd fails goesOn
  | unwrap => exact { lasting with }
  | next => exact { lasting with }
  | @collect _ _ count wire _ _ _ given =>
    obtain ⟨-, outbound, isOpen, closed⟩ := Wire.read_octets given
    have farEnd := Wire.hasFarEnd_read count layer.wire
    rw [given] at farEnd
    exact { lasting with
      hasFarEnd := farEnd.trans lasting.hasFarEnd
      wireOpen := isOpen.trans lasting.wireOpen
      wireInbound := closed.trans lasting.wireInbound
      wireOutbound := (congrArg Pipe.closed outbound).trans lasting.wireOutbound
      wireRoom := outbound ▸ lasting.wireRoom }
  | @deliver octets _ inbound _ _ taken =>
    have capacity := Pipe.capacity_write octets layer.plain.link.inbound
    rw [taken] at capacity
    exact { lasting with
      plainInbound := (Pipe.closed_of_write taken).trans lasting.plainInbound
      plainRoom := capacity ▸ lasting.plainRoom }

theorem Layer.IsLasting.not_outwardFailure (lasting : layer.IsLasting)
    (faithful : layer.protection.IsFaithful) : ¬ layer.OutwardFailure := by
  intro fails
  cases fails with
  | ended doing given =>
    have closed := (Pipe.read_end (by decide) given).2.1
    rw [lasting.plainOutbound] at closed
    cases closed
  | refused doing present given refused =>
    obtain ⟨message, wrapped, short, -⟩ := faithful _ present (Pipe.length_read_le given)
    exact Nat.not_lt.mpr (refused message wrapped) short
  | unread doing failed =>
    rcases Wire.write_error failed with closed | closed
    · rw [lasting.wireOpen] at closed
      cases closed
    · rw [lasting.wireOutbound] at closed
      cases closed

theorem Layer.IsLasting.outward (lasting : layer.IsLasting) (step : layer.OutwardStep next)
    (goesOn : ¬ layer.OutwardFailure) : next.IsLasting := by
  cases step with
  | finish fails => exact absurd fails goesOn
  | next => exact { lasting with }
  | wrap _ _ given =>
    exact { lasting with plainOutbound := (Pipe.closed_read given).trans lasting.plainOutbound }
  | deliver _ _ taken =>
    obtain ⟨-, channel, inbound, -⟩ := Wire.write_octets taken
    obtain ⟨closed, capacity, farEnd⟩ := Wire.outbound_write taken
    exact { lasting with
      hasFarEnd := farEnd.trans lasting.hasFarEnd
      wireOpen := (congrArg Channel.isOpen channel).trans lasting.wireOpen
      wireInbound := (congrArg Pipe.closed inbound).trans lasting.wireInbound
      wireOutbound := closed.trans lasting.wireOutbound
      wireRoom := capacity ▸ lasting.wireRoom }

namespace Transit

variable {transit later : Transit} {event : LayerEvent}

theorem Reacts.isLasting (reacts : transit.Reacts event later) (goesOn : event.ends = false)
    (faithful : transit.layer.protection.IsFaithful) (arriving : transit.IsArriving messages plains)
    (lasting : transit.layer.IsLasting) : later.layer.IsLasting := by
  unfold IsArriving at arriving
  rw [lasting.running] at arriving
  cases reacts with
  | @client act same =>
    rw [same] at goesOn
    obtain ⟨closed, capacity, farEnd⟩ := Relay.outbound_far_of_stays goesOn transit.layer.wire.link
    refine { lasting with
      hasFarEnd := farEnd.trans lasting.hasFarEnd
      wireInbound := Bool.eq_false_iff.mpr fun closed => ?_
      wireOutbound := closed.trans lasting.wireOutbound
      wireRoom := capacity ▸ lasting.wireRoom }
    rcases Relay.inbound_closed_far closed with earlier | hangsUp
    · rw [lasting.wireInbound] at earlier
      cases earlier
    · rw [show Relay.hangsUp act = false from goesOn] at hangsUp
      cases hangsUp
  | session side =>
    obtain ⟨isOpen, inbound, outbound⟩ := side.stays goesOn
    exact { lasting with
      plainOpen := isOpen.trans lasting.plainOpen
      plainInbound := inbound.trans lasting.plainInbound
      plainOutbound := outbound.trans lasting.plainOutbound
      plainRoom := side.capacity ▸ lasting.plainRoom }
  | idle => exact lasting
  | inward running step => exact lasting.inward step (lasting.not_inwardFailure arriving)
  | outward running step => exact lasting.outward step (lasting.not_outwardFailure faithful)

end Transit

end SocksGateway.Gss
