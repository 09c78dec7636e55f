import SocksGateway.Proofs.Relay.History

/-!
A relay neither loses, repeats, reorders nor makes up octets. While it runs, what a side has offered
is what the other side was handed, what a pump holds and what is still to be read, in this order.
-/

set_option autoImplicit false

namespace SocksGateway.Relay

namespace History

/-- What the far end of a side was handed: what it has read and what waits for it in its pipe. -/
def handed (history : History) (side : Side) : Bytes :=
  history.received side ++ (history.relay.wire side).link.outbound.held

/-- Between two histories the far ends have done nothing. -/
structure Undisturbed (history after : History) : Prop where
  offered : after.offered = history.offered
  received : after.received = history.received
  hungUp : after.hungUp = history.hungUp

theorem undisturbed_pump (history : History) (side : Side) :
    history.Undisturbed (history.react (.pump side)) := by
  simp only [react, note]
  split <;> exact ⟨rfl, rfl, rfl⟩

/-- Nothing that a far end does changes what the far ends were handed. -/
theorem handed_react_far (history : History) (side : Side) (act : FarAct) (each : Side) :
    (history.react (.event (.far side act))).handed each = history.handed each := by
  rcases Side.eq_or_eq_other side each with rfl | rfl
  · simp only [react, note, happen, handed, Function.update_self, wire_setWire_self,
      List.append_assoc, outbound_far]
  · simp only [react, note, happen, handed, wire_setWire_other,
      Function.update_of_ne (Side.other_ne side)]

/-- While a relay runs nothing is lost on its way. -/
structure Conserved (history : History) : Prop where
  complete : ∀ side, history.offered side =
    history.handed side.other ++ history.relay.carried side ++ (history.relay.wire side).input
  isOpen : ∀ side, (history.relay.wire side).channel.isOpen = true
  hungUp : ∀ side, (history.relay.wire side).link.inbound.closed = true →
    history.hungUp side = true

/-- After its end a relay has handed on a part of what was offered, and moves nothing more. -/
structure Concluded (history : History) : Prop where
  incomplete : ∀ side, history.handed side.other <+: history.offered side
  whole : history.relay.result = some (.ok ()) →
    ∃ side, history.hungUp side = true ∧ history.handed side.other = history.offered side
  shut : ∀ side, (history.relay.wire side).IsShut

/-- What holds of every relay, running or not. -/
inductive Accounted (history : History) : Prop
  | running (running : history.relay.isRunning = true) (conserved : history.Conserved)
  | stopped (stopped : history.relay.isRunning = false) (concluded : history.Concluded)

/-- A step that keeps the account of either side, and neither gives up nor ends anything. -/
theorem Conserved.of_undisturbed {history after : History} (conserved : history.Conserved)
    (undisturbed : history.Undisturbed after)
    (complete : ∀ side, history.offered side = history.handed side.other ++
      history.relay.carried side ++ (history.relay.wire side).input →
      history.offered side = after.handed side.other ++
        after.relay.carried side ++ (after.relay.wire side).input)
    (channel : ∀ side, (after.relay.wire side).channel.isOpen =
      (history.relay.wire side).channel.isOpen)
    (closed : ∀ side, (after.relay.wire side).link.inbound.closed =
      (history.relay.wire side).link.inbound.closed) : after.Conserved := by
  refine ⟨?_, ?_, ?_⟩
  · intro side
    rw [undisturbed.offered]
    exact complete side (conserved.complete side)
  · intro side
    rw [channel]
    exact conserved.isOpen side
  · intro side ended
    rw [undisturbed.hungUp]
    exact conserved.hungUp side (closed side ▸ ended)

/-- A relay whose pumps hold what they held and whose wires are what they were. -/
theorem Conserved.of_same {history after : History} (conserved : history.Conserved)
    (undisturbed : history.Undisturbed after)
    (wire : ∀ side, after.relay.wire side = history.relay.wire side)
    (carried : ∀ side, after.relay.carried side = history.relay.carried side) :
    after.Conserved := by
  apply conserved.of_undisturbed undisturbed
  · intro side complete
    simpa only [handed, undisturbed.received, wire, carried] using complete
  · intro side
    rw [wire]
  · intro side
    rw [wire]

/-- A pump that turns to something else and goes on holding what it held. -/
theorem Conserved.turn {history after : History} (conserved : history.Conserved)
    (undisturbed : history.Undisturbed after) {side : Side} {pumping : Pumping}
    (relay : after.relay = history.relay.setPumping side pumping)
    (held : (history.relay.setPumping side pumping).carried side = history.relay.carried side) :
    after.Conserved := by
  apply conserved.of_same undisturbed
  · intro each
    rw [relay, wire_setPumping]
  · intro each
    rcases Side.eq_or_eq_other side each with rfl | rfl
    · rw [relay, held]
    · simp only [relay, carried, pumping_setPumping_other]

theorem Conserved.take {history after : History} (conserved : history.Conserved)
    (undisturbed : history.Undisturbed after) {side : Side} {octets : Bytes} {wire : Wire}
    (waiting : history.relay.pumping side = .waiting)
    (given : (history.relay.wire side).read bufferSize = (.ready (.ok octets), wire))
    (relay : after.relay = history.relay.take side octets wire) : after.Conserved := by
  obtain ⟨split, outbound, isOpen, closed⟩ := Wire.read_octets given
  apply conserved.of_undisturbed undisturbed
  · intro each complete
    rcases Side.eq_or_eq_other side each with rfl | rfl
    · simp only [handed, carried, waiting, List.append_nil] at complete
      simp only [handed, carried, undisturbed.received, relay, wire_take_self, wire_take_other,
        pumping_take_self, complete, ← split, List.append_assoc]
    · simpa only [handed, carried, undisturbed.received, relay, wire_take_self, wire_take_other,
        pumping_take_other, Side.other_other, outbound] using complete
  · intro each
    rcases Side.eq_or_eq_other side each with rfl | rfl
    · rw [relay, wire_take_self, isOpen]
    · rw [relay, wire_take_other]
  · intro each
    rcases Side.eq_or_eq_other side each with rfl | rfl
    · rw [relay, wire_take_self, closed]
    · rw [relay, wire_take_other]

theorem Conserved.give {history after : History} (conserved : history.Conserved)
    (undisturbed : history.Undisturbed after) {side : Side} {octets : Bytes} {accepted : Nat}
    {wire : Wire} (delivering : history.relay.pumping side = .delivering octets)
    (written : (history.relay.wire side.other).write octets = (.ready (.ok accepted), wire))
    (relay : after.relay = history.relay.give side (octets.drop accepted) wire) :
    after.Conserved := by
  obtain ⟨behind, channel, inbound, -, -⟩ := Wire.write_octets written
  have input := Wire.input_of_write written
  apply conserved.of_undisturbed undisturbed
  · intro each complete
    rcases Side.eq_or_eq_other side each with rfl | rfl
    · have whole : octets = octets.take accepted ++ octets.drop accepted :=
        (List.take_append_drop accepted octets).symm
      simp only [handed, carried, delivering] at complete
      rw [whole] at complete
      simpa only [handed, undisturbed.received, relay, wire_give_self, wire_give_other,
        carried_give_self, behind, List.append_assoc] using complete
    · simpa only [handed, carried, undisturbed.received, relay, wire_give_self, wire_give_other,
        pumping_give_other, Side.other_other, input] using complete
  · intro each
    rcases Side.eq_or_eq_other side each with rfl | rfl
    · rw [relay, wire_give_self]
    · rw [relay, wire_give_other, channel]
  · intro each
    rcases Side.eq_or_eq_other side each with rfl | rfl
    · rw [relay, wire_give_self]
    · rw [relay, wire_give_other, inbound]

/-- However a relay ends: both channels are closed, and what was handed on is left to the far ends. -/
theorem Conserved.conclude {history after : History} (conserved : history.Conserved)
    (undisturbed : history.Undisturbed after)
    (closed : ∀ side, ∃ wire : Wire, after.relay.wire side = wire.close ∧
      wire.channel.isOpen = true ∧
      wire.link.outbound.held = (history.relay.wire side).link.outbound.held)
    (whole : after.relay.result = some (.ok ()) → ∃ side, history.hungUp side = true ∧
      history.relay.carried side = [] ∧ (history.relay.wire side).input = []) :
    after.Concluded := by
  have handed : ∀ side, after.handed side = history.handed side := by
    intro side
    obtain ⟨wire, same, -, held⟩ := closed side
    simp only [History.handed, same, undisturbed.received, Wire.outbound_held_close, held]
  refine ⟨?_, ?_, ?_⟩
  · intro side
    rw [undisturbed.offered, handed, conserved.complete side, List.append_assoc]
    exact List.prefix_append _ _
  · intro orderly
    obtain ⟨side, stopped, carried, input⟩ := whole orderly
    refine ⟨side, by rw [undisturbed.hungUp, stopped], ?_⟩
    rw [undisturbed.offered, handed, conserved.complete side, carried, input, List.append_nil,
      List.append_nil]
  · intro side
    obtain ⟨wire, same, isOpen, -⟩ := closed side
    rw [same]
    exact Wire.isShut_close isOpen

/-- A relay that is ended where it stands, and not because a side has ended. -/
theorem Conserved.conclude_failed {history after : History} (conserved : history.Conserved)
    (undisturbed : history.Undisturbed after) {failure : Failure}
    (ended : after.relay = history.relay.finish (.error failure)) : after.Concluded := by
  apply conserved.conclude undisturbed
  · intro side
    exact ⟨history.relay.wire side, by rw [ended, wire_finish], conserved.isOpen side, rfl⟩
  · intro orderly
    rw [ended] at orderly
    cases orderly

/-- A step of a pump moves octets from the input to the pump, or from the pump to the far end. -/
theorem Conserved.pump {history : History} (running : history.relay.isRunning = true)
    (conserved : history.Conserved) {side : Side} {next : Relay}
    (turn : Turn history.relay side next) {after : History} (relay : after.relay = next)
    (undisturbed : history.Undisturbed after) : after.Accounted := by
  cases turn with
  | expired checking idle =>
    exact .stopped (by rw [relay, isRunning_finish]) (conserved.conclude_failed undisturbed relay)
  | armed checking lively =>
    refine .running (by rw [relay, isRunning_setPumping, running])
      (conserved.turn undisturbed relay ?_)
    simp only [carried, pumping_setPumping_self, checking]
  | rechecked waiting idle pending =>
    refine .running (by rw [relay, isRunning_setPumping, running])
      (conserved.turn undisturbed relay ?_)
    simp only [carried, pumping_setPumping_self, waiting]
  | readFailed waiting error failed =>
    exact .stopped (by rw [relay, isRunning_finish]) (conserved.conclude_failed undisturbed relay)
  | ended waiting wire stopped =>
    obtain ⟨input, closed, rfl⟩ := Wire.read_end (by decide) stopped
    refine .stopped (by rw [relay, isRunning_finish]) (conserved.conclude undisturbed ?_ ?_)
    · intro each
      rcases Side.eq_or_eq_other side each with rfl | rfl
      · refine ⟨history.relay.wire each, ?_, conserved.isOpen each, rfl⟩
        rw [relay, wire_finish, wire_setWire_of_other, wire_setWire_self]
      · refine ⟨(history.relay.wire side.other).shutdown, ?_, ?_, Wire.outbound_held_shutdown _⟩
        · rw [relay, wire_finish, wire_setWire_self, wire_setWire_other]
        · rw [Wire.channel_shutdown, conserved.isOpen]
    · intro _
      exact ⟨side, conserved.hungUp side closed, by simp only [carried, waiting], input⟩
  | taken waiting octets wire given nonempty =>
    exact .running (by rw [relay, isRunning_take, running])
      (conserved.take undisturbed waiting given relay)
  | writeFailed octets delivering error failed =>
    exact .stopped (by rw [relay, isRunning_finish]) (conserved.conclude_failed undisturbed relay)
  | given octets delivering accepted wire written =>
    exact .running (by rw [relay, isRunning_give, running])
      (conserved.give undisturbed delivering written relay)

/-- What a far end does adds to the input what it adds to what was offered. -/
theorem Conserved.far {history : History} (conserved : history.Conserved) (side : Side)
    (act : FarAct) : (history.react (.event (.far side act))).Conserved := by
  refine ⟨?_, ?_, ?_⟩
  · intro each
    rw [handed_react_far]
    have held := conserved.complete each
    rcases Side.eq_or_eq_other side each with rfl | rfl
    · simp only [react, note, happen, carried, Wire.input, pumping_setWire, wire_setWire_self,
        inbound_far, Function.update_self, ← List.append_assoc] at held ⊢
      rw [held]
    · simpa only [react, note, happen, carried, pumping_setWire, wire_setWire_other,
        Function.update_of_ne (Side.other_ne side)] using held
  · intro each
    rcases Side.eq_or_eq_other side each with rfl | rfl
    · simpa only [react, happen, wire_setWire_self] using conserved.isOpen each
    · simpa only [react, happen, wire_setWire_other] using conserved.isOpen side.other
  · intro each stopped
    rcases Side.eq_or_eq_other side each with rfl | rfl
    · simp only [react, happen, wire_setWire_self] at stopped
      simp only [react, note, Function.update_self, Bool.or_eq_true]
      exact (inbound_closed_far stopped).imp_left (conserved.hungUp each)
    · simp only [react, happen, wire_setWire_other] at stopped
      simpa only [react, note, Function.update_of_ne (Side.other_ne side)] using
        conserved.hungUp side.other stopped

/-- A far end that does something after the end has nothing more to offer. -/
theorem Concluded.far {history : History} (concluded : history.Concluded) (side : Side)
    (act : FarAct) : (history.react (.event (.far side act))).offered = history.offered := by
  simp only [react, note, sent_of_closed act (concluded.shut side).inbound, List.append_nil,
    Function.update_eq_self]

/-- What no happening after the end changes any more. -/
structure Frozen (before after : History) : Prop where
  stopped : after.relay.isRunning = false
  result : after.relay.result = before.relay.result
  movements : after.movements = before.movements
  offered : after.offered = before.offered
  handed : ∀ side, after.handed side = before.handed side
  hungUp : ∀ side, before.hungUp side = true → after.hungUp side = true
  shut : ∀ side, (after.relay.wire side).IsShut

theorem Concluded.frozen {history : History} (stopped : history.relay.isRunning = false)
    (concluded : history.Concluded) : Frozen history history :=
  ⟨stopped, rfl, rfl, rfl, fun _ => rfl, fun _ hungUp => hungUp, concluded.shut⟩

theorem react_cancel_of_ended {history : History} (stopped : history.relay.isRunning = false) :
    history.react (.event .cancel) = history := by
  simp only [react, note, happen, cancel, stopped, Bool.false_eq_true, ↓reduceIte, Bool.false_and]

theorem react_pump_of_ended {history : History} (stopped : history.relay.isRunning = false)
    (side : Side) : history.react (.pump side) = history := by
  simp only [react, note, happen, movement?, step?_of_ended stopped, Option.getD_none, stopped,
    Bool.false_eq_true, ↓reduceIte, Bool.false_and]

theorem Concluded.react {history : History} (stopped : history.relay.isRunning = false)
    (concluded : history.Concluded) (happening : Happening) :
    Frozen history (history.react happening) := by
  cases happening with
  | event event =>
    cases event with
    | far side act =>
      refine ⟨?_, ?_, rfl, concluded.far side act, handed_react_far history side act, ?_, ?_⟩
      · simpa only [History.react, happen, isRunning_setWire] using stopped
      · simp only [History.react, happen, result_setWire]
      · intro each hungUp
        rcases Side.eq_or_eq_other side each with rfl | rfl
        · simp only [History.react, note, Function.update_self, hungUp, Bool.true_or]
        · simpa only [History.react, note, Function.update_of_ne (Side.other_ne side)] using hungUp
      · intro each
        rcases Side.eq_or_eq_other side each with rfl | rfl
        · simpa only [History.react, happen, wire_setWire_self] using
            isShut_far act (concluded.shut each)
        · simpa only [History.react, happen, wire_setWire_other] using concluded.shut side.other
    | elapse milliseconds =>
      exact ⟨stopped, rfl, rfl, rfl, fun _ => rfl, fun _ hungUp => hungUp, concluded.shut⟩
    | cancel =>
      rw [react_cancel_of_ended stopped]
      exact concluded.frozen stopped
  | pump side =>
    rw [react_pump_of_ended stopped]
    exact concluded.frozen stopped

/-- Whatever part of what was offered was handed on at the end stays handed on. -/
theorem Concluded.of_frozen {before after : History} (concluded : before.Concluded)
    (frozen : Frozen before after) : after.Concluded := by
  refine ⟨?_, ?_, frozen.shut⟩
  · intro side
    rw [frozen.handed, frozen.offered]
    exact concluded.incomplete side
  · intro orderly
    obtain ⟨side, ended, whole⟩ := concluded.whole (frozen.result ▸ orderly)
    exact ⟨side, frozen.hungUp side ended, by rw [frozen.handed, frozen.offered, whole]⟩

theorem Frozen.trans {first second third : History} (before : Frozen first second)
    (after : Frozen second third) : Frozen first third where
  stopped := after.stopped
  result := after.result.trans before.result
  movements := after.movements.trans before.movements
  offered := after.offered.trans before.offered
  handed side := (after.handed side).trans (before.handed side)
  hungUp side ended := after.hungUp side (before.hungUp side ended)
  shut := after.shut

/-- Nothing that happens after the end moves an octet. -/
theorem Concluded.run {history : History} (stopped : history.relay.isRunning = false)
    (concluded : history.Concluded) (happenings : List Happening) :
    Frozen history (history.run happenings) := by
  apply run_induction (concluded.frozen stopped)
  intro current happening frozen
  exact frozen.trans ((concluded.of_frozen frozen).react frozen.stopped happening)

theorem Accounted.react {history : History} (accounted : history.Accounted)
    (happening : Happening) : (history.react happening).Accounted := by
  cases accounted with
  | stopped stopped concluded =>
    have frozen := concluded.react stopped happening
    exact .stopped frozen.stopped (concluded.of_frozen frozen)
  | running running conserved =>
    cases happening with
    | event event =>
      cases event with
      | far side act =>
        refine .running ?_ (conserved.far side act)
        simpa only [History.react, happen, isRunning_setWire] using running
      | elapse milliseconds =>
        refine .running running (conserved.of_same ⟨rfl, rfl, rfl⟩ ?_ ?_)
        · intro side
          cases side <;> rfl
        · intro side
          cases side <;> rfl
      | cancel =>
        have ended : history.relay.cancel = history.relay.finish (.error { cause := .cancelled }) := by
          simp only [cancel, running, ↓reduceIte]
        have relay : (history.react (.event .cancel)).relay =
            history.relay.finish (.error { cause := .cancelled }) := ended
        exact .stopped (by rw [relay, isRunning_finish])
          (conserved.conclude_failed ⟨rfl, rfl, rfl⟩ relay)
    | pump side =>
      cases stepped : history.relay.step? side with
      | none =>
        have same : (history.react (.pump side)).relay = history.relay := by
          simp only [History.react, happen, stepped, Option.getD_none]
        refine .running (by rw [same, running])
          (conserved.of_same (history.undisturbed_pump side) ?_ ?_)
        · intro each
          rw [same]
        · intro each
          rw [same]
      | some next =>
        have relay : (history.react (.pump side)).relay = next := by
          simp only [History.react, happen, stepped, Option.getD_some]
        exact conserved.pump running (turn_of_step? stepped).2 relay
          (history.undisturbed_pump side)

theorem Accounted.run {history : History} (accounted : history.Accounted)
    (happenings : List Happening) : (history.run happenings).Accounted :=
  run_induction accounted (fun _ happening now => now.react happening)
    happenings

/-- A relay between two new connections, with octets put back in front of those of the client. -/
def between (window : Duration) (clock : Nat) (clientEnd targetEnd : Endpoint)
    (clientRoom targetRoom : Nat) (putBack : Bytes) : History :=
  start window clock
    (Wire.unread putBack { channel := { remote := clientEnd }, link := .fresh clientRoom })
    { channel := { remote := targetEnd }, link := .fresh targetRoom }

theorem accounted_between (window : Duration) (clock : Nat) (clientEnd targetEnd : Endpoint)
    (clientRoom targetRoom : Nat) (putBack : Bytes) :
    (between window clock clientEnd targetEnd clientRoom targetRoom putBack).Accounted := by
  refine .running rfl ⟨?_, ?_, ?_⟩
  · intro side
    cases side <;> rfl
  · intro side
    cases side <;> rfl
  · intro side stopped
    cases side <;> cases stopped

end History

/-- At every moment of every history, what either far end was handed is the front of what the other
side has offered, and nothing of the rest is lost while the relay runs. A relay that ends in order has
handed on all that one side offered, and that side had ended. However a relay ends, both channels are
closed then, and nothing moves any more. -/
theorem octets_conserved (window : Duration) (clock : Nat) (clientEnd targetEnd : Endpoint)
    (clientRoom targetRoom : Nat) (putBack : Bytes) (happenings later : List Happening) :
    let history := (History.between window clock clientEnd targetEnd clientRoom targetRoom
      putBack).run happenings
    (∀ side, history.handed side.other <+: history.offered side) ∧
      (history.relay.isRunning = true → ∀ side, history.offered side =
        history.handed side.other ++ history.relay.carried side ++
          (history.relay.wire side).input) ∧
      (history.relay.result = some (.ok ()) → ∃ side,
        history.hungUp side = true ∧ history.handed side.other = history.offered side) ∧
      (history.relay.isRunning = false →
        (∀ side, (history.relay.wire side).IsShut) ∧
          (history.run later).movements = history.movements ∧
          ∀ side, (history.run later).handed side = history.handed side) := by
  intro history
  have accounted : history.Accounted :=
    (History.accounted_between window clock clientEnd targetEnd clientRoom targetRoom putBack).run
      happenings
  cases accounted with
  | running running conserved =>
    refine ⟨?_, fun _ => conserved.complete, ?_, ?_⟩
    · intro side
      rw [conserved.complete side, List.append_assoc]
      exact List.prefix_append _ _
    · intro orderly
      simp only [isRunning, orderly, Option.isNone_some, Bool.false_eq_true] at running
    · intro stopped
      rw [running] at stopped
      cases stopped
  | stopped stopped concluded =>
    have frozen := concluded.run stopped later
    refine ⟨concluded.incomplete, ?_, concluded.whole, fun _ => ?_⟩
    · intro running
      rw [running] at stopped
      cases stopped
    · exact ⟨concluded.shut, frozen.movements, frozen.handed⟩

end SocksGateway.Relay
