import SocksGateway.Proofs.Stream.Wire
import SocksGateway.Relay.Basic

/-!
What one step of a pump can do, said once: it looks at the window, waits, takes octets from one side,
gives octets to the other, or ends the relay.
-/

set_option autoImplicit false

namespace SocksGateway

@[simp] theorem Side.other_other (side : Side) : side.other.other = side := by
  cases side <;> rfl

@[simp] theorem Side.other_ne (side : Side) : side.other ≠ side := by
  cases side <;> decide

theorem Side.eq_or_eq_other (side other : Side) : other = side ∨ other = side.other := by
  cases side <;> cases other <;> decide

namespace Relay

section Accessors

variable (relay : Relay) (side : Side) (wire : Wire) (pumping : Pumping)
  (result : Except Failure Unit)

@[simp] theorem wire_setWire_self : (relay.setWire side wire).wire side = wire := by
  cases side <;> rfl

@[simp] theorem wire_setWire_other :
    (relay.setWire side wire).wire side.other = relay.wire side.other := by
  cases side <;> rfl

@[simp] theorem wire_setWire_of_other :
    (relay.setWire side.other wire).wire side = relay.wire side := by
  cases side <;> rfl

@[simp] theorem wire_setPumping (other : Side) :
    (relay.setPumping side pumping).wire other = relay.wire other := by
  cases side <;> rfl

@[simp] theorem pumping_setWire (other : Side) :
    (relay.setWire side wire).pumping other = relay.pumping other := by
  cases side <;> rfl

@[simp] theorem pumping_setPumping_self : (relay.setPumping side pumping).pumping side = pumping := by
  cases side <;> rfl

@[simp] theorem pumping_setPumping_other :
    (relay.setPumping side pumping).pumping side.other = relay.pumping side.other := by
  cases side <;> rfl

@[simp] theorem window_setWire : (relay.setWire side wire).window = relay.window := by
  cases side <;> rfl

@[simp] theorem clock_setWire : (relay.setWire side wire).clock = relay.clock := by
  cases side <;> rfl

@[simp] theorem lastRead_setWire : (relay.setWire side wire).lastRead = relay.lastRead := by
  cases side <;> rfl

@[simp] theorem lastRead_setPumping :
    (relay.setPumping side pumping).lastRead = relay.lastRead := by
  cases side <;> rfl

@[simp] theorem result_setWire : (relay.setWire side wire).result = relay.result := by
  cases side <;> rfl

@[simp] theorem isRunning_setWire : (relay.setWire side wire).isRunning = relay.isRunning := by
  cases side <;> rfl

@[simp] theorem isRunning_setPumping :
    (relay.setPumping side pumping).isRunning = relay.isRunning := by
  cases side <;> rfl

@[simp] theorem wire_finish : (relay.finish result).wire side = (relay.wire side).close := by
  cases side <;> rfl

@[simp] theorem isRunning_finish : (relay.finish result).isRunning = false := rfl

end Accessors

theorem isIdle_iff (relay : Relay) : relay.isIdle = true ↔
    relay.window.nanoseconds ≤ (relay.clock - relay.lastRead) * 1000000 := by
  unfold isIdle Duration.ofMilliseconds
  exact decide_eq_true_iff

/-- The relay after the pump that reads from `side` has taken octets, which leaves `wire`. -/
def take (relay : Relay) (side : Side) (octets : Bytes) (wire : Wire) : Relay :=
  { (relay.setWire side wire).setPumping side (.delivering octets) with lastRead := relay.clock }

section Take

variable (relay : Relay) (side : Side) (octets : Bytes) (wire : Wire)

@[simp] theorem wire_take_self : (relay.take side octets wire).wire side = wire := by
  cases side <;> rfl

@[simp] theorem wire_take_other :
    (relay.take side octets wire).wire side.other = relay.wire side.other := by
  cases side <;> rfl

@[simp] theorem pumping_take_self :
    (relay.take side octets wire).pumping side = .delivering octets := by
  cases side <;> rfl

@[simp] theorem pumping_take_other :
    (relay.take side octets wire).pumping side.other = relay.pumping side.other := by
  cases side <;> rfl

@[simp] theorem window_take : (relay.take side octets wire).window = relay.window := by
  cases side <;> rfl

@[simp] theorem clock_take : (relay.take side octets wire).clock = relay.clock := by
  cases side <;> rfl

@[simp] theorem lastRead_take : (relay.take side octets wire).lastRead = relay.clock := rfl

@[simp] theorem isRunning_take : (relay.take side octets wire).isRunning = relay.isRunning := by
  cases side <;> rfl

end Take

/-- The relay after the pump that reads from `side` has given octets to the other side, whose wire
becomes `wire`, and has kept the rest. -/
def give (relay : Relay) (side : Side) (rest : Bytes) (wire : Wire) : Relay :=
  (relay.setWire side.other wire).setPumping side (if rest = [] then .checking else .delivering rest)

section Give

variable (relay : Relay) (side : Side) (rest : Bytes) (wire : Wire)

@[simp] theorem wire_give_self : (relay.give side rest wire).wire side = relay.wire side := by
  cases side <;> rfl

@[simp] theorem wire_give_other : (relay.give side rest wire).wire side.other = wire := by
  cases side <;> rfl

@[simp] theorem pumping_give_other :
    (relay.give side rest wire).pumping side.other = relay.pumping side.other := by
  cases side <;> rfl

theorem pumping_give_self : (relay.give side rest wire).pumping side =
    if rest = [] then .checking else .delivering rest := by
  cases side <;> rfl

@[simp] theorem carried_give_self : (relay.give side rest wire).carried side = rest := by
  unfold carried
  rw [pumping_give_self]
  by_cases empty : rest = []
  · simp only [empty, ↓reduceIte]
  · simp only [empty, ↓reduceIte]

@[simp] theorem isIdle_give : (relay.give side rest wire).isIdle = relay.isIdle := by
  cases side <;> rfl

@[simp] theorem lastRead_give : (relay.give side rest wire).lastRead = relay.lastRead := by
  cases side <;> rfl

@[simp] theorem isRunning_give : (relay.give side rest wire).isRunning = relay.isRunning := by
  cases side <;> rfl

end Give

/-- What a step of the pump that reads from `side` makes of a relay. -/
inductive Turn (relay : Relay) (side : Side) : Relay → Prop
  /-- The window has passed. -/
  | expired (checking : relay.pumping side = .checking) (idle : relay.isIdle = true) :
      Turn relay side (relay.finish (.error { cause := .idle relay.window }))
  /-- The window has not passed, and the pump goes to wait. -/
  | armed (checking : relay.pumping side = .checking) (lively : relay.isIdle = false) :
      Turn relay side (relay.setPumping side .waiting)
  /-- The window has passed during the wait. -/
  | rechecked (waiting : relay.pumping side = .waiting) (idle : relay.isIdle = true)
      (pending : ((relay.wire side).read bufferSize).1 = .pending) :
      Turn relay side (relay.setPumping side .checking)
  | readFailed (waiting : relay.pumping side = .waiting) (error : IoError)
      (failed : ((relay.wire side).read bufferSize).1 = .ready (.error error)) :
      Turn relay side (relay.finish (.error (.ofIo error)))
  /-- The side has ended what it writes. -/
  | ended (waiting : relay.pumping side = .waiting) (wire : Wire)
      (stopped : (relay.wire side).read bufferSize = (.ready (.ok []), wire)) :
      Turn relay side (((relay.setWire side wire).setWire side.other
        ((relay.setWire side wire).wire side.other).shutdown).finish (.ok ()))
  | taken (waiting : relay.pumping side = .waiting) (octets : Bytes) (wire : Wire)
      (given : (relay.wire side).read bufferSize = (.ready (.ok octets), wire))
      (nonempty : octets ≠ []) :
      Turn relay side (relay.take side octets wire)
  | writeFailed (octets : Bytes) (delivering : relay.pumping side = .delivering octets)
      (error : IoError)
      (failed : ((relay.wire side.other).write octets).1 = .ready (.error error)) :
      Turn relay side (relay.finish (.error (.ofIo error)))
  | given (octets : Bytes) (delivering : relay.pumping side = .delivering octets)
      (accepted : Nat) (wire : Wire)
      (written : (relay.wire side.other).write octets = (.ready (.ok accepted), wire)) :
      Turn relay side (relay.give side (octets.drop accepted) wire)

/-- Only a relay that has not ended takes a step, and each step is one of the turns. -/
theorem turn_of_step? {relay next : Relay} {side : Side} (stepped : relay.step? side = some next) :
    relay.isRunning = true ∧ Turn relay side next := by
  unfold step? at stepped
  split at stepped
  · rename_i running
    refine ⟨running, ?_⟩
    split at stepped
    · rename_i checking
      split at stepped <;> cases stepped
      · rename_i idle
        exact .expired checking idle
      · rename_i lively
        exact .armed checking (Bool.eq_false_iff.mpr lively)
    · rename_i waiting
      split at stepped
      · rename_i read
        split at stepped <;> cases stepped
        rename_i idle
        exact .rechecked waiting idle (congrArg Prod.fst read)
      · rename_i read
        cases stepped
        exact .readFailed waiting _ (congrArg Prod.fst read)
      · rename_i read
        cases stepped
        exact .ended waiting _ read
      · rename_i nonempty read
        cases stepped
        exact .taken waiting _ _ read nonempty
    · rename_i octets delivering
      split at stepped
      · cases stepped
      · rename_i written
        cases stepped
        exact .writeFailed octets delivering _ (congrArg Prod.fst written)
      · rename_i written
        cases stepped
        exact .given octets delivering _ _ written
  · cases stepped

theorem step?_of_ended {relay : Relay} (stopped : relay.isRunning = false) (side : Side) :
    relay.step? side = none := by
  simp only [step?, stopped, Bool.false_eq_true, ↓reduceIte]

/-- What it is for the pump that reads from `side` to be held up: it has octets for the other side,
whose pipe is open and has no room for them. -/
def HeldUp (relay : Relay) (side : Side) : Prop :=
  (relay.wire side.other).channel.isOpen = true ∧
    (relay.wire side.other).link.outbound.closed = false ∧
    (relay.wire side.other).link.outbound.free = 0 ∧
    ∃ octets, octets ≠ [] ∧ relay.pumping side = .delivering octets

theorem step?_of_heldUp {relay : Relay} {side : Side} (heldUp : relay.HeldUp side) :
    relay.step? side = none := by
  obtain ⟨isOpen, unclosed, full, octets, nonempty, delivering⟩ := heldUp
  have pending := Wire.write_pending_iff.mpr ⟨isOpen, unclosed, nonempty, full⟩
  unfold step?
  split
  · simp only [delivering]
    split
    · rfl
    · rename_i written
      rw [written] at pending
      cases pending
    · rename_i written
      rw [written] at pending
      cases pending
  · rfl

/-- Once the window has passed, a pump of a running relay has nothing to do only if it is held up. -/
theorem heldUp_of_idle {relay : Relay} {side : Side} (running : relay.isRunning = true)
    (idle : relay.isIdle = true) (still : relay.step? side = none) : relay.HeldUp side := by
  simp only [step?, running, ↓reduceIte, idle] at still
  split at still
  · cases still
  · split at still <;> cases still
  · rename_i octets delivering
    split at still
    · rename_i written
      obtain ⟨isOpen, unclosed, nonempty, full⟩ :=
        Wire.write_pending_iff.mp (congrArg Prod.fst written)
      exact ⟨isOpen, unclosed, full, octets, nonempty, delivering⟩
    · cases still
    · cases still

end Relay

end SocksGateway
