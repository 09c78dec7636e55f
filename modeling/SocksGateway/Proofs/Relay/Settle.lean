import SocksGateway.Proofs.Relay.Turn
import SocksGateway.Relay.Run

/-!
Settling: the bound on the steps of a relay is large enough, so that a relay that was left to itself
has come to rest, with both pumps waiting or the relay at its end.
-/

set_option autoImplicit false

namespace SocksGateway.Relay

/-- How many steps the state of a pump is away from a wait, its octets counted once each. -/
def weight (idle : Bool) : Pumping → Nat
  | .checking => 1
  | .waiting => if idle then 2 else 0
  | .delivering octets => octets.length + 2

/-- A measure that each step makes smaller: octets still to be read weigh more than those held. -/
def work (relay : Relay) : Nat :=
  4 * ((relay.wire .client).input.length + (relay.wire .target).input.length) +
    weight relay.isIdle (relay.pumping .client) + weight relay.isIdle (relay.pumping .target)

theorem work_eq (relay : Relay) (side : Side) :
    relay.work = 4 * ((relay.wire side).input.length + (relay.wire side.other).input.length) +
      weight relay.isIdle (relay.pumping side) + weight relay.isIdle (relay.pumping side.other) := by
  cases side
  · rfl
  · simp only [work, Side.other]
    omega

theorem weight_mono {before after : Bool} (implied : after = true → before = true)
    (pumping : Pumping) : weight after pumping ≤ weight before pumping := by
  cases pumping with
  | checking => exact Nat.le_refl 1
  | waiting =>
    cases after with
    | false => exact Nat.zero_le _
    | true => exact Nat.le_of_eq (by rw [implied rfl])
  | delivering octets => exact Nat.le_refl _

theorem isIdle_setPumping (relay : Relay) (side : Side) (pumping : Pumping) :
    (relay.setPumping side pumping).isIdle = relay.isIdle := by
  cases side <;> rfl

/-- A relay that is idle although octets were read just now has no window at all. -/
theorem isIdle_of_take {relay : Relay} {side : Side} {octets : Bytes} {wire : Wire}
    (idle : (relay.take side octets wire).isIdle = true) : relay.isIdle = true := by
  rw [isIdle_iff, window_take, clock_take, lastRead_take, Nat.sub_self, Nat.zero_mul] at idle
  rw [isIdle_iff]
  exact Nat.le_trans idle (Nat.zero_le _)

theorem work_lt {relay next : Relay} {side : Side} (turn : Turn relay side next)
    (running : next.isRunning = true) : next.work < relay.work := by
  rw [work_eq relay side, work_eq next side]
  cases turn with
  | expired => cases running
  | armed checking lively =>
    simp only [wire_setPumping, pumping_setPumping_self, pumping_setPumping_other,
      isIdle_setPumping, lively, checking, weight, Bool.false_eq_true, ↓reduceIte]
    omega
  | rechecked waiting idle pending =>
    simp only [wire_setPumping, pumping_setPumping_self, pumping_setPumping_other,
      isIdle_setPumping, idle, waiting, weight, ↓reduceIte]
    omega
  | readFailed => cases running
  | ended => cases running
  | taken waiting octets wire given nonempty =>
    -- Octets weigh 4 before they are taken and 1 after, which pays for the new state.
    have taken := congrArg List.length (Wire.read_octets given).1
    rw [List.length_append] at taken
    have present := List.length_pos_iff.mpr nonempty
    have implied : (relay.take side octets wire).isIdle = true → relay.isIdle = true :=
      isIdle_of_take
    have other := weight_mono implied (relay.pumping side.other)
    simp only [wire_take_self, wire_take_other, pumping_take_self, pumping_take_other]
    simp only [weight] at other ⊢
    omega
  | writeFailed => cases running
  | given octets delivering accepted wire written =>
    obtain ⟨-, -, -, within, positive⟩ := Wire.write_octets written
    have kept := Wire.input_of_write written
    simp only [wire_give_self, wire_give_other, kept, pumping_give_self, pumping_give_other,
      isIdle_give, delivering]
    split
    · simp only [weight]
      omega
    · rename_i rest
      have nonempty : octets ≠ [] := fun empty => rest (by rw [empty, List.drop_nil])
      have present := positive nonempty
      simp only [weight, List.length_drop]
      omega

/-- No pump has a step. -/
def IsSettled (relay : Relay) : Prop := ∀ side, relay.step? side = none

theorem isSettled_of_ended {relay : Relay} (stopped : relay.isRunning = false) : relay.IsSettled :=
  step?_of_ended stopped

theorem advance_of_isSettled {relay : Relay} (settled : relay.IsSettled) (fuel : Nat) :
    relay.advance fuel = relay := by
  cases fuel with
  | zero => rfl
  | succ fuel => simp only [advance, settled .client, settled .target]

/-- As many steps as a relay has work bring it to rest. -/
theorem isSettled_advance (fuel : Nat) (relay : Relay) (enough : relay.work < fuel) :
    (relay.advance fuel).IsSettled := by
  induction fuel generalizing relay with
  | zero => omega
  | succ fuel ih =>
    have onward : ∀ side next, relay.step? side = some next → (next.advance fuel).IsSettled := by
      intro side next stepped
      cases running : next.isRunning with
      | true =>
        have less := work_lt (turn_of_step? stepped).2 running
        exact ih next (by omega)
      | false =>
        have settled := isSettled_of_ended running
        rw [advance_of_isSettled settled]
        exact settled
    unfold advance
    split
    · rename_i next stepped
      exact onward .client next stepped
    · rename_i client
      split
      · rename_i next stepped
        exact onward .target next stepped
      · rename_i target
        intro side
        cases side
        · exact client
        · exact target

theorem work_lt_stepBound (relay : Relay) : relay.work < relay.stepBound := by
  have bounded : ∀ side, weight relay.isIdle (relay.pumping side) ≤
      (relay.carried side).length + 2 := by
    intro side
    unfold carried
    cases relay.pumping side with
    | checking => exact Nat.le_succ_of_le (Nat.le_refl 1)
    | waiting =>
      simp only [weight, List.length_nil, Nat.zero_add]
      split <;> omega
    | delivering octets => exact Nat.le_refl _
  have client := bounded .client
  have target := bounded .target
  simp only [work, stepBound, wire]
  omega

/-- A relay that was left to itself has come to rest. -/
theorem isSettled_settle (relay : Relay) : relay.settle.IsSettled :=
  isSettled_advance _ _ relay.work_lt_stepBound

theorem isSettled_react {relay : Relay} (settled : relay.IsSettled) (event : RelayEvent) :
    (relay.react event).2.IsSettled := by
  cases event with
  | far side act => exact isSettled_settle _
  | elapse milliseconds => exact isSettled_settle _
  | cancel =>
    simp only [react, cancel]
    split
    · exact isSettled_of_ended (isRunning_finish relay _)
    · exact settled

/-- Between two events a relay is at rest. -/
theorem isSettled_run (events : List RelayEvent) {relay : Relay} (settled : relay.IsSettled) :
    (run events relay).2.IsSettled := by
  induction events generalizing relay with
  | nil => exact settled
  | cons event events ih => exact ih (isSettled_react settled event)

end SocksGateway.Relay
