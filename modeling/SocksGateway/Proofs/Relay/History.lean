import SocksGateway.Proofs.Relay.Turn
import SocksGateway.Proofs.Stream.Far
import SocksGateway.Relay.Run
import Mathlib.Logic.Function.Basic

/-!
Histories of a relay: single steps of the pumps, acts of the far ends, the time and a cancellation, in
any order, and what an observer notes of them. The observer has no influence on the relay.
-/

set_option autoImplicit false

namespace SocksGateway

/-- What can happen next. Nothing else happens at the same time. -/
inductive Happening where
  /-- Something around the relay, to which no pump has yet reacted. -/
  | event (event : RelayEvent)
  /-- One step of the pump that reads from a side, if it has one. -/
  | pump (side : Side)
deriving DecidableEq, Repr, Inhabited

/-- Octets that a pump moved, from a channel or into a pipe. -/
structure Movement where
  /-- When they were read from the channel. -/
  readAt : Nat
  /-- When they moved: when they were read, or when the pipe took them. -/
  time : Nat
  octets : Bytes
deriving DecidableEq, Repr

namespace Relay

def happen (relay : Relay) : Happening → Relay
  | .event (.far side act) =>
    relay.setWire side
      { relay.wire side with link := ((relay.wire side).link.far act).2 }
  | .event (.elapse milliseconds) => { relay with clock := relay.clock + milliseconds }
  | .event .cancel => relay.cancel
  | .pump side => (relay.step? side).getD relay

/-- What the next step of the pump that reads from `side` moves, if it moves anything; `readAt` tells
when that pump last read. -/
def movement? (relay : Relay) (side : Side) (readAt : Nat) : Option Movement :=
  if relay.isRunning then
    match relay.pumping side with
    | .checking => none
    | .waiting =>
      match ((relay.wire side).read bufferSize).1 with
      | .ready (.ok octets) =>
        if octets = [] then none else some ⟨relay.clock, relay.clock, octets⟩
      | _ => none
    | .delivering octets =>
      match ((relay.wire side.other).write octets).1 with
      | .ready (.ok accepted) => some ⟨readAt, relay.clock, octets.take accepted⟩
      | _ => none
  else none

/-- A relay and what an observer knows of its past. -/
structure History where
  relay : Relay
  /-- What the far end of a side has sent, behind what was put back in front of it at the start. -/
  offered : Side → Bytes
  /-- What the far end of a side has read. -/
  received : Side → Bytes := fun _ => []
  /-- Whether the far end of a side has ended what it sends. -/
  hungUp : Side → Bool := fun _ => false
  /-- When the pump that reads from a side last read. -/
  readAt : Side → Nat
  /-- What the pumps have moved, the latest first. -/
  movements : List Movement := []
  /-- When the relay ended. -/
  endedAt : Option Nat := none

namespace History

/-- A relay that starts with these two channels. -/
def start (window : Duration) (clock : Nat) (client target : Wire) : History :=
  let relay := Relay.start window clock client target
  { relay, offered := fun side => (relay.wire side).input, readAt := fun _ => clock }

/-- What the observer notes, apart from the end. -/
def note (history : History) : Happening → History
  | .event (.far side act) =>
    let answer := ((history.relay.wire side).link.far act).1
    { history with
      offered := Function.update history.offered side (history.offered side ++ sent act answer)
      received := Function.update history.received side (history.received side ++ got answer)
      hungUp := Function.update history.hungUp side (history.hungUp side || hangsUp act) }
  | .event _ => history
  | .pump side =>
    match history.relay.movement? side (history.readAt side) with
    | none => history
    | some movement =>
      { history with
        movements := movement :: history.movements
        readAt := Function.update history.readAt side movement.readAt }

def react (history : History) (happening : Happening) : History :=
  let next := history.relay.happen happening
  { history.note happening with
    relay := next
    endedAt :=
      if history.relay.isRunning && !next.isRunning then some next.clock else history.endedAt }

def run (history : History) (happenings : List Happening) : History :=
  happenings.foldl react history

/-- What every happening preserves holds after every run. -/
theorem run_induction {holds : History → Prop} {history : History}
    (start : holds history)
    (react : ∀ current happening, holds current → holds (current.react happening))
    (happenings : List Happening) : holds (history.run happenings) := by
  induction happenings generalizing history with
  | nil => exact start
  | cons happening rest ih => exact ih (react history happening start)

/-- The relay goes its way whether or not anybody observes it. -/
theorem relay_run (history : History) (happenings : List Happening) :
    (history.run happenings).relay = happenings.foldl happen history.relay := by
  induction happenings generalizing history with
  | nil => rfl
  | cons happening rest ih => exact ih (history.react happening)

end History

/-- Steps that a relay takes when it is left to itself are steps of its pumps. -/
theorem exists_pumps_advance (fuel : Nat) (relay : Relay) :
    ∃ sides : List Side, relay.advance fuel = (sides.map .pump).foldl happen relay := by
  induction fuel generalizing relay with
  | zero => exact ⟨[], rfl⟩
  | succ fuel ih =>
    have onward : ∀ side next, relay.step? side = some next →
        ∃ sides : List Side, next.advance fuel = (sides.map .pump).foldl happen relay := by
      intro side next stepped
      obtain ⟨sides, same⟩ := ih next
      refine ⟨side :: sides, ?_⟩
      simp only [List.map_cons, List.foldl_cons, happen, stepped, Option.getD_some, same]
    unfold advance
    split
    · rename_i next stepped
      exact onward .client next stepped
    · split
      · rename_i next stepped
        exact onward .target next stepped
      · exact ⟨[], rfl⟩

/-- What a relay makes of an event is one of the histories that start with it. -/
theorem exists_happenings_react (event : RelayEvent) (relay : Relay) :
    ∃ happenings : List Happening,
      (relay.react event).2 = (Happening.event event :: happenings).foldl happen relay := by
  cases event with
  | far side act =>
    obtain ⟨sides, same⟩ := exists_pumps_advance
      (relay.happen (.event (.far side act))).stepBound (relay.happen (.event (.far side act)))
    exact ⟨sides.map .pump, same⟩
  | elapse milliseconds =>
    obtain ⟨sides, same⟩ := exists_pumps_advance
      (relay.happen (.event (.elapse milliseconds))).stepBound
      (relay.happen (.event (.elapse milliseconds)))
    exact ⟨sides.map .pump, same⟩
  | cancel => exact ⟨[], rfl⟩

/-- A run in which both pumps go on to a wait after each event is one of the histories. -/
theorem exists_happenings_run (events : List RelayEvent) (relay : Relay) :
    ∃ happenings : List Happening, (run events relay).2 = happenings.foldl happen relay := by
  induction events generalizing relay with
  | nil => exact ⟨[], rfl⟩
  | cons event events ih =>
    obtain ⟨first, reacted⟩ := exists_happenings_react event relay
    obtain ⟨rest, onward⟩ := ih (relay.react event).2
    refine ⟨Happening.event event :: first ++ rest, ?_⟩
    rw [List.foldl_append, ← reacted, ← onward]
    rfl

end Relay

end SocksGateway
