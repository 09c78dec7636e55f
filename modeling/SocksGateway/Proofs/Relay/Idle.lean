import SocksGateway.Proofs.Relay.Conservation
import SocksGateway.Proofs.Relay.Settle

/-!
The idle window of a relay. What counts is when octets were last read: a pipe that takes octets long
after they were read does not keep a relay alive, and while both pumps wait for room in a pipe nobody
looks at the window.
-/

set_option autoImplicit false

namespace SocksGateway

/-- Whether the whole of a window lies between two moments, which are given in milliseconds. -/
def Duration.Passed (window : Duration) (since now : Nat) : Prop :=
  (ofMilliseconds since).nanoseconds + window.nanoseconds ≤ (ofMilliseconds now).nanoseconds

theorem Duration.Passed.of_le {window : Duration} {earlier since now : Nat}
    (passed : window.Passed since now) (before : earlier ≤ since) : window.Passed earlier now := by
  have scaled := Nat.mul_le_mul_right 1000000 before
  exact Nat.le_trans (Nat.add_le_add_right scaled window.nanoseconds) passed

instance (window : Duration) (since now : Nat) : Decidable (window.Passed since now) :=
  inferInstanceAs (Decidable (_ ≤ _))

namespace Relay

theorem isIdle_iff_passed {relay : Relay} (order : relay.lastRead ≤ relay.clock) :
    relay.isIdle = true ↔ relay.window.Passed relay.lastRead relay.clock := by
  rw [isIdle_iff]
  unfold Duration.Passed Duration.ofMilliseconds
  dsimp only
  omega

/-- Whether a relay has ended because it was idle. -/
def TimedOut (relay : Relay) : Prop :=
  ∃ window, relay.result = some (.error { cause := .idle window })

/-! ## What a step moves, and when -/

theorem movement?_of_still {relay : Relay} {side : Side} (still : relay.step? side = none)
    (readAt : Nat) : relay.movement? side readAt = none := by
  by_cases running : relay.isRunning = true
  · simp only [step?, running, ↓reduceIte] at still
    simp only [movement?, running, ↓reduceIte]
    cases pumping : relay.pumping side with
    | checking => rfl
    | waiting =>
      simp only [pumping] at still
      split at still
      · rename_i pending
        simp only [pending]
      · cases still
      · cases still
      · cases still
    | delivering octets =>
      simp only [pumping] at still
      split at still
      · rename_i pending
        simp only [pending]
      · cases still
      · cases still
  · simp only [movement?, running, Bool.false_eq_true, ↓reduceIte]

/-- Only octets that are read count as a sign of life. -/
theorem movement?_of_turn {relay next : Relay} {side : Side} (running : relay.isRunning = true)
    (turn : Turn relay side next) (readAt : Nat) :
    (relay.movement? side readAt = none ∧ next.lastRead = relay.lastRead) ∨
      (∃ octets, relay.movement? side readAt = some ⟨relay.clock, relay.clock, octets⟩ ∧
        next.lastRead = relay.clock) ∨
      ∃ octets, relay.movement? side readAt = some ⟨readAt, relay.clock, octets⟩ ∧
        next.lastRead = relay.lastRead := by
  unfold movement?
  simp only [running, ↓reduceIte]
  cases turn with
  | expired checking => exact Or.inl ⟨by simp only [checking], rfl⟩
  | armed checking => exact Or.inl ⟨by simp only [checking], lastRead_setPumping _ _ _⟩
  | rechecked waiting idle pending =>
    exact Or.inl ⟨by simp only [waiting, pending], lastRead_setPumping _ _ _⟩
  | readFailed waiting error failed => exact Or.inl ⟨by simp only [waiting, failed], rfl⟩
  | ended waiting wire stopped =>
    refine Or.inl ⟨by simp only [waiting, stopped, ↓reduceIte], ?_⟩
    cases side <;> rfl
  | taken waiting octets wire given nonempty =>
    exact Or.inr (Or.inl ⟨octets, by simp only [waiting, given, nonempty, ↓reduceIte], rfl⟩)
  | writeFailed octets delivering error failed =>
    exact Or.inl ⟨by simp only [delivering, failed], rfl⟩
  | given octets delivering accepted wire written =>
    exact Or.inr (Or.inr ⟨octets.take accepted, by simp only [delivering, written],
      lastRead_give _ _ _ _⟩)

theorem clock_of_turn {relay next : Relay} {side : Side} (turn : Turn relay side next) :
    next.clock = relay.clock := by
  cases turn <;> cases side <;> rfl

theorem window_of_turn {relay next : Relay} {side : Side} (turn : Turn relay side next) :
    next.window = relay.window := by
  cases turn <;> cases side <;> rfl

/-- A step that ends a relay closes both channels, and it ends the relay as idle only if the window has
passed. -/
theorem exists_finish_of_turn {relay next : Relay} {side : Side} (running : relay.isRunning = true)
    (turn : Turn relay side next) (stopped : next.isRunning = false) :
    ∃ last result, next = finish result last ∧ last.lastRead = relay.lastRead ∧
      ∀ window, result = .error { cause := .idle window } → relay.isIdle = true := by
  cases turn with
  | expired checking idle => exact ⟨relay, _, rfl, rfl, fun _ _ => idle⟩
  | armed =>
    rw [isRunning_setPumping, running] at stopped
    cases stopped
  | rechecked =>
    rw [isRunning_setPumping, running] at stopped
    cases stopped
  | readFailed =>
    refine ⟨relay, _, rfl, rfl, ?_⟩
    intro window idle
    cases idle
  | ended =>
    refine ⟨_, _, rfl, ?_, ?_⟩
    · rw [lastRead_setWire, lastRead_setWire]
    · intro window idle
      cases idle
  | taken =>
    rw [isRunning_take, running] at stopped
    cases stopped
  | writeFailed =>
    refine ⟨relay, _, rfl, rfl, ?_⟩
    intro window idle
    cases idle
  | given =>
    rw [isRunning_give, running] at stopped
    cases stopped

theorem TimedOut.ended {relay : Relay} (timedOut : relay.TimedOut) : relay.isRunning = false := by
  obtain ⟨window, result⟩ := timedOut
  simp only [isRunning, result, Option.isNone_some]

namespace History

/-- In which order the times of a history lie: a pump has read when the relay last read, or earlier,
and nothing has moved since that had not been read by then. -/
structure Ordered (started : Nat) (history : History) : Prop where
  lastRead : history.relay.lastRead ≤ history.relay.clock
  readAt : ∀ side, history.readAt side ≤ history.relay.lastRead
  movements : ∀ movement ∈ history.movements, movement.readAt ≤ history.relay.lastRead
  latest : history.relay.lastRead = started ∨
    ∃ movement ∈ history.movements, movement.time = history.relay.lastRead

/-- What an observer can say of the end of a relay besides. -/
structure Timed (window : Duration) (started : Nat) (history : History) : Prop
    extends Ordered started history where
  sameWindow : history.relay.window = window
  timedOut : history.relay.TimedOut → ∀ time, history.endedAt = some time →
    window.Passed history.relay.lastRead time
  released : history.relay.isRunning = false →
    ∀ side, (history.relay.wire side).channel.isOpen = false

theorem timed_start (window : Duration) (clock : Nat) (client target : Wire) :
    Timed window clock (start window clock client target) where
  sameWindow := rfl
  lastRead := Nat.le_refl clock
  readAt _ := Nat.le_refl clock
  movements _ member := by cases member
  latest := Or.inl rfl
  timedOut _ _ ended := by cases ended
  released stopped := by cases stopped

theorem Timed.far {window : Duration} {started : Nat} {history : History}
    (timed : Timed window started history) (side : Side) (act : FarAct) :
    Timed window started (history.react (.event (.far side act))) where
  sameWindow := by simp only [History.react, happen, window_setWire, timed.sameWindow]
  lastRead := by
    simpa only [History.react, happen, lastRead_setWire, clock_setWire] using timed.lastRead
  readAt := by simpa only [History.react, note, happen, lastRead_setWire] using timed.readAt
  movements := by simpa only [History.react, note, happen, lastRead_setWire] using timed.movements
  latest := by simpa only [History.react, note, happen, lastRead_setWire] using timed.latest
  timedOut := by
    simpa only [History.react, note, happen, TimedOut, result_setWire, isRunning_setWire,
      lastRead_setWire, Bool.and_not_self, Bool.false_eq_true, ↓reduceIte] using timed.timedOut
  released := by
    simp only [History.react, happen, isRunning_setWire]
    intro stopped each
    rcases Side.eq_or_eq_other side each with rfl | rfl
    · rw [wire_setWire_self]
      exact timed.released stopped each
    · rw [wire_setWire_other]
      exact timed.released stopped side.other

theorem Timed.elapse {window : Duration} {started : Nat} {history : History}
    (timed : Timed window started history) (milliseconds : Nat) :
    Timed window started (history.react (.event (.elapse milliseconds))) where
  sameWindow := timed.sameWindow
  lastRead := Nat.le_trans timed.lastRead (Nat.le_add_right _ _)
  readAt := timed.readAt
  movements := timed.movements
  latest := timed.latest
  timedOut := by
    intro timedOut time ended
    have same : (history.react (.event (.elapse milliseconds))).endedAt = history.endedAt := by
      simp only [History.react, note, happen, isRunning, Bool.and_not_self, Bool.false_eq_true,
        ↓reduceIte]
    exact timed.timedOut timedOut time (same ▸ ended)
  released stopped side := by
    have closed := timed.released stopped side
    cases side <;> exact closed

theorem Timed.cancel {window : Duration} {started : Nat} {history : History}
    (timed : Timed window started history) :
    Timed window started (history.react (.event .cancel)) := by
  cases running : history.relay.isRunning with
  | false =>
    rw [react_cancel_of_ended running]
    exact timed
  | true =>
    have relay : (history.react (.event .cancel)).relay =
        history.relay.finish (.error { cause := .cancelled }) := by
      simp only [History.react, happen, Relay.cancel, running, ↓reduceIte]
    refine ⟨⟨?_, ?_, ?_, ?_⟩, ?_, ?_, ?_⟩ <;> rw [relay]
    · exact timed.lastRead
    · exact timed.readAt
    · exact timed.movements
    · exact timed.latest
    · exact timed.sameWindow
    · rintro ⟨_, impossible⟩
      cases impossible
    · intro _ side
      rw [wire_finish, Wire.isOpen_close]

/-- A pump that cannot go on leaves no trace. -/
theorem react_pump_of_still {history : History} {side : Side}
    (still : history.relay.step? side = none) : history.react (.pump side) = history := by
  simp only [History.react, note, happen, movement?_of_still still, still, Option.getD_none,
    Bool.and_not_self, Bool.false_eq_true, ↓reduceIte]

/-- Octets that are read are the latest that has moved; octets that are given were read before. -/
theorem Ordered.pump {started : Nat} {history : History} (ordered : Ordered started history)
    {side : Side} {next : Relay} (stepped : history.relay.step? side = some next) :
    Ordered started (history.react (.pump side)) := by
  obtain ⟨running, turn⟩ := turn_of_step? stepped
  have relay : (history.react (.pump side)).relay = next := by
    simp only [History.react, happen, stepped, Option.getD_some]
  have clock : next.clock = history.relay.clock := clock_of_turn turn
  have order := ordered.lastRead
  rcases movement?_of_turn running turn (history.readAt side) with
    ⟨moved, lastRead⟩ | ⟨octets, moved, lastRead⟩ | ⟨octets, moved, lastRead⟩
  · refine ⟨?_, ?_, ?_, ?_⟩ <;> rw [relay, lastRead]
    · rw [clock]
      exact order
    · simpa only [History.react, note, moved] using ordered.readAt
    · simpa only [History.react, note, moved] using ordered.movements
    · simpa only [History.react, note, moved] using ordered.latest
  · refine ⟨?_, ?_, ?_, ?_⟩ <;> rw [relay, lastRead]
    · exact Nat.le_of_eq clock.symm
    · intro each
      simp only [History.react, note, moved]
      rcases Side.eq_or_eq_other side each with rfl | rfl
      · simp only [Function.update_self, Nat.le_refl]
      · rw [Function.update_of_ne (Side.other_ne side)]
        exact Nat.le_trans (ordered.readAt side.other) order
    · simp only [History.react, note, moved, List.mem_cons, forall_eq_or_imp, Nat.le_refl,
        true_and]
      intro movement member
      exact Nat.le_trans (ordered.movements movement member) order
    · right
      simp only [History.react, note, moved]
      exact ⟨_, List.mem_cons_self, rfl⟩
  · refine ⟨?_, ?_, ?_, ?_⟩ <;> rw [relay, lastRead]
    · rw [clock]
      exact order
    · intro each
      simp only [History.react, note, moved, Function.update_eq_self]
      exact ordered.readAt each
    · simp only [History.react, note, moved, List.mem_cons, forall_eq_or_imp]
      exact ⟨ordered.readAt side, ordered.movements⟩
    · simp only [History.react, note, moved]
      rcases ordered.latest with first | ⟨movement, member, time⟩
      · exact Or.inl first
      · exact Or.inr ⟨movement, List.mem_cons_of_mem _ member, time⟩

theorem Timed.pump {window : Duration} {started : Nat} {history : History}
    (timed : Timed window started history) (side : Side) :
    Timed window started (history.react (.pump side)) := by
  cases stepped : history.relay.step? side with
  | none =>
    rw [react_pump_of_still stepped]
    exact timed
  | some next =>
    obtain ⟨running, turn⟩ := turn_of_step? stepped
    have relay : (history.react (.pump side)).relay = next := by
      simp only [History.react, happen, stepped, Option.getD_some]
    refine ⟨timed.toOrdered.pump stepped, ?_, ?_, ?_⟩ <;> rw [relay]
    · rw [window_of_turn turn]
      exact timed.sameWindow
    · intro timedOut time ended
      simp only [History.react, happen, stepped, Option.getD_some, running, timedOut.ended,
        Bool.not_false, Bool.and_self, ↓reduceIte, Option.some.injEq] at ended
      obtain ⟨last, result, rfl, lastRead, idle⟩ := exists_finish_of_turn running turn timedOut.ended
      obtain ⟨reason, same⟩ := timedOut
      have passed := (isIdle_iff_passed timed.lastRead).mp (idle reason (Option.some.inj same))
      rw [← ended, clock_of_turn turn, ← timed.sameWindow]
      exact lastRead ▸ passed
    · intro stopped each
      obtain ⟨last, result, rfl, _, _⟩ := exists_finish_of_turn running turn stopped
      rw [wire_finish, Wire.isOpen_close]

theorem Timed.react {window : Duration} {started : Nat} {history : History}
    (timed : Timed window started history) (happening : Happening) :
    Timed window started (history.react happening) := by
  cases happening with
  | event event =>
    cases event with
    | far side act => exact timed.far side act
    | elapse milliseconds => exact timed.elapse milliseconds
    | cancel => exact timed.cancel
  | pump side => exact timed.pump side

theorem Timed.run {window : Duration} {started : Nat} {history : History}
    (timed : Timed window started history) (happenings : List Happening) :
    Timed window started (history.run happenings) :=
  run_induction timed (fun _ happening now => now.react happening) happenings

/-- When the window has passed since the start and since the last movement, a pump that looks at it
finds it passed. -/
theorem Timed.isIdle {window : Duration} {started : Nat} {history : History}
    (timed : Timed window started history)
    (sinceStart : window.Passed started history.relay.clock)
    (sinceMoved : ∀ movement ∈ history.movements,
      window.Passed movement.time history.relay.clock) : history.relay.isIdle = true := by
  rw [isIdle_iff_passed timed.lastRead, timed.sameWindow]
  rcases timed.latest with first | ⟨movement, member, time⟩
  · rw [first]
    exact sinceStart
  · rw [← time]
    exact sinceMoved movement member

end History

/-- A relay that ends as idle has read nothing within the window. So the octets that a pipe took within
the window, if any, are octets that were read before it, for which there was no room for some time. -/
theorem timedOut_window (window : Duration) (clock : Nat) (client target : Wire)
    (happenings : List Happening) (time : Nat)
    (timedOut : ((History.start window clock client target).run happenings).relay.TimedOut)
    (ended : ((History.start window clock client target).run happenings).endedAt = some time) :
    let movements := ((History.start window clock client target).run happenings).movements
    (∀ movement ∈ movements, window.Passed movement.readAt time) ∧
      ((∀ movement ∈ movements, window.Passed movement.time time) ↔
        ∀ movement ∈ movements, movement.readAt < movement.time →
          window.Passed movement.time time) := by
  intro movements
  have timed := (History.timed_start window clock client target).run happenings
  have passed := timed.timedOut timedOut time ended
  have read : ∀ movement ∈ movements, window.Passed movement.readAt time :=
    fun movement member => passed.of_le (timed.movements movement member)
  refine ⟨read, fun moved movement member _ => moved movement member, ?_⟩
  intro late movement member
  by_cases waited : movement.readAt < movement.time
  · exact late movement member waited
  · exact (read movement member).of_le (Nat.le_of_not_lt waited)

/-- A target with room for one octet makes room for a second one late in the window. -/
def lateRoom : List Happening :=
  [.event (.far .client (.send [97, 98])), .pump .client, .pump .client, .pump .client,
    .event (.elapse 900), .event (.far .target (.read 1)), .pump .client, .pump .client,
    .event (.elapse 100), .pump .client, .pump .client]

/-- One octet moves after 900 milliseconds, and after 1000 the relay ends as idle for a second. -/
theorem timedOut_lateRoom :
    let history := (History.between ⟨1000000000⟩ 0 .unspecified .unspecified 8 1 []).run lateRoom
    history.relay.TimedOut ∧ history.endedAt = some 1000 ∧
      ∃ movement ∈ history.movements,
        ¬ Duration.Passed ⟨1000000000⟩ movement.time 1000 := by
  refine ⟨⟨⟨1000000000⟩, rfl⟩, rfl, ⟨0, 900, [98]⟩, List.mem_cons_self, by decide⟩

/-- The octet that moved late was read in time. -/
theorem timedOut_window_lateRoom :
    let history := (History.between ⟨1000000000⟩ 0 .unspecified .unspecified 8 1 []).run lateRoom
    (history.relay.TimedOut ∧ history.endedAt = some 1000) ∧
      (∀ movement ∈ history.movements, Duration.Passed ⟨1000000000⟩ movement.readAt 1000) ∧
        ((∀ movement ∈ history.movements, Duration.Passed ⟨1000000000⟩ movement.time 1000) ↔
          ∀ movement ∈ history.movements, movement.readAt < movement.time →
            Duration.Passed ⟨1000000000⟩ movement.time 1000) :=
  ⟨⟨⟨⟨1000000000⟩, rfl⟩, rfl⟩,
    timedOut_window ⟨1000000000⟩ 0 _ _ lateRoom 1000 ⟨⟨1000000000⟩, rfl⟩ rfl⟩

theorem isIdle_elapsed {relay : Relay} (milliseconds : Nat) {side : Side}
    (heldUp : relay.HeldUp side) :
    HeldUp { relay with clock := relay.clock + milliseconds } side := by
  cases side <;> exact heldUp

/-- When the window has passed since anything was moved and no pump can go on, the relay has ended,
unless both pumps wait for room in a pipe. Then it goes on, however much time passes. -/
theorem running_iff_heldUp (window : Duration) (clock : Nat) (client target : Wire)
    (happenings : List Happening)
    (settled : ((History.start window clock client target).run happenings).relay.IsSettled)
    (sinceStart : window.Passed clock
      ((History.start window clock client target).run happenings).relay.clock)
    (sinceMoved : ∀ movement ∈ ((History.start window clock client target).run happenings).movements,
      window.Passed movement.time
        ((History.start window clock client target).run happenings).relay.clock) :
    let relay := ((History.start window clock client target).run happenings).relay
    (relay.isRunning = true ↔ ∀ side, relay.HeldUp side) ∧
      ((∀ side, relay.HeldUp side) → ∀ milliseconds,
        relay.elapse milliseconds = { relay with clock := relay.clock + milliseconds }) := by
  intro relay
  have timed := (History.timed_start window clock client target).run happenings
  have idle := timed.isIdle sinceStart sinceMoved
  refine ⟨⟨?_, ?_⟩, ?_⟩
  · intro running side
    exact heldUp_of_idle running idle (settled side)
  · intro heldUp
    cases running : relay.isRunning with
    | true => rfl
    | false =>
      have closed := timed.released running Side.client.other
      have isOpen := (heldUp .client).1
      rw [closed] at isOpen
      cases isOpen
  · intro heldUp milliseconds
    apply advance_of_isSettled
    intro side
    exact step?_of_heldUp (isIdle_elapsed milliseconds (heldUp side))

/-- Either side sends two octets, for the second of which the other side has no room. -/
def noRoom : List Happening :=
  [.event (.far .client (.send [97])), .pump .client, .pump .client, .pump .client,
    .event (.far .client (.send [98])), .pump .client, .pump .client,
    .event (.far .target (.send [99])), .pump .target, .pump .target, .pump .target,
    .event (.far .target (.send [100])), .pump .target, .pump .target, .event (.elapse 1000)]

/-- A relay at rest runs on although nothing has moved for the whole of its window. -/
theorem running_noRoom :
    let history := (History.between ⟨1000000000⟩ 0 .unspecified .unspecified 1 1 []).run noRoom
    history.relay.IsSettled ∧ Duration.Passed ⟨1000000000⟩ 0 history.relay.clock ∧
      (∀ movement ∈ history.movements,
        Duration.Passed ⟨1000000000⟩ movement.time history.relay.clock) ∧
      history.relay.isRunning = true := by
  refine ⟨?_, by decide, by decide, rfl⟩
  intro side
  cases side <;> rfl

/-- Both pumps are held up there. -/
theorem running_iff_heldUp_noRoom :
    let history := (History.between ⟨1000000000⟩ 0 .unspecified .unspecified 1 1 []).run noRoom
    (history.relay.IsSettled ∧ Duration.Passed ⟨1000000000⟩ 0 history.relay.clock ∧
      ∀ movement ∈ history.movements,
        Duration.Passed ⟨1000000000⟩ movement.time history.relay.clock) ∧
      (history.relay.isRunning = true ↔ ∀ side, history.relay.HeldUp side) ∧
        ((∀ side, history.relay.HeldUp side) → ∀ milliseconds,
          history.relay.elapse milliseconds =
            { history.relay with clock := history.relay.clock + milliseconds }) := by
  intro history
  have settled : history.relay.IsSettled := by
    intro side
    cases side <;> rfl
  have sinceStart : Duration.Passed ⟨1000000000⟩ 0 history.relay.clock := by decide
  have sinceMoved : ∀ movement ∈ history.movements,
      Duration.Passed ⟨1000000000⟩ movement.time history.relay.clock := by decide
  exact ⟨⟨settled, sinceStart, sinceMoved⟩,
    running_iff_heldUp ⟨1000000000⟩ 0 _ _ noRoom settled sinceStart sinceMoved⟩

end Relay

end SocksGateway
