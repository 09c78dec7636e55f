import SocksGateway.Proofs.Gss.Transit

/-!
Settling: the bound on the steps of a layer is large enough, so that a layer that was left to itself
has come to rest, with both ways waiting or the layer at its end. What it does until then is a run of
steps on either way.
-/

set_option autoImplicit false

namespace SocksGateway.Gss

namespace Layer

variable {layer next : Layer}

/-- Neither way of a layer has a step. -/
def IsSettled (layer : Layer) : Prop := layer.step? = none

/-- How many steps octets that are to be delivered are away from a wait, with this much room. -/
def deliveryWeight (room : Nat) (octets : Bytes) : Nat :=
  if octets = [] then 1 else if room = 0 then 0 else 2

def inWeight (room : Nat) : Inward → Nat
  | .collecting octets =>
    match progress octets with
    | .missing _ => 0
    | _ => 3
  | .delivering octets => deliveryWeight room octets

def outWeight (room : Nat) : Outward → Nat
  | .waiting => 0
  | .delivering octets => deliveryWeight room octets

/-- A measure that each step makes smaller: an octet that is still to be read pays for a frame. -/
def work (layer : Layer) : Nat :=
  4 * (layer.wire.input.length + layer.plain.link.outbound.held.length) +
    inWeight layer.plain.link.inbound.free layer.inward +
    outWeight layer.wire.link.outbound.free layer.outward

theorem deliveryWeight_le (room : Nat) (octets : Bytes) : deliveryWeight room octets ≤ 2 := by
  unfold deliveryWeight
  split
  · omega
  · split <;> omega

theorem inWeight_le (room : Nat) (inward : Inward) : inWeight room inward ≤ 3 := by
  unfold inWeight
  split
  · split <;> omega
  · exact Nat.le_succ_of_le (deliveryWeight_le _ _)

theorem outWeight_le (room : Nat) (outward : Outward) : outWeight room outward ≤ 2 := by
  unfold outWeight
  split
  · exact Nat.zero_le 2
  · exact deliveryWeight_le _ _

/-- After a write either all is delivered or there is no room left. -/
theorem deliveryWeight_write {octets : Bytes} {pipe rest : Pipe} {accepted : Nat}
    (present : octets ≠ []) (taken : pipe.write octets = (.ready (.ok accepted), rest)) :
    deliveryWeight rest.free (octets.drop accepted) < deliveryWeight pipe.free octets := by
  have room : pipe.free ≠ 0 := by
    intro full
    rw [Pipe.write_of_full (Pipe.write_accepted taken).1 present full] at taken
    cases taken
  have before : deliveryWeight pipe.free octets = 2 := by
    rw [deliveryWeight, if_neg present, if_neg room]
  have after : deliveryWeight rest.free (octets.drop accepted) ≤ 1 := by
    unfold deliveryWeight
    split
    · exact Nat.le_refl 1
    · rename_i some
      rw [if_pos ((Pipe.room_write taken).resolve_left some)]
      exact Nat.zero_le 1
  omega

theorem work_inward (step : layer.InwardStep next) (running : next.isRunning = true) :
    next.work < layer.work := by
  cases step with
  | finish fails => cases running
  | @collect octets more count wire doing known present given =>
    obtain ⟨whole, outbound, -⟩ := Wire.read_octets given
    have length := congrArg List.length whole
    have positive := List.length_pos_iff.mpr present
    have after := inWeight_le layer.plain.link.inbound.free (.collecting (octets ++ more))
    rw [List.length_append] at length
    simp only [work, outbound]
    omega
  | @unwrap octets payload plain doing known unwrapped =>
    have before : inWeight layer.plain.link.inbound.free layer.inward = 3 := by
      simp only [doing, inWeight, known]
    have after := deliveryWeight_le layer.plain.link.inbound.free plain
    simp only [work, before]
    simp only [inWeight]
    omega
  | next doing =>
    have before : inWeight layer.plain.link.inbound.free layer.inward = 1 := by
      simp only [doing, inWeight, deliveryWeight, ↓reduceIte]
    simp only [work, before]
    simp only [inWeight, progress]
    omega
  | deliver doing present taken =>
    have less := deliveryWeight_write present taken
    simp only [work, doing, inWeight]
    omega

theorem work_outward (step : layer.OutwardStep next) (running : next.isRunning = true) :
    next.work < layer.work := by
  cases step with
  | finish fails => cases running
  | @wrap octets message outbound doing present given =>
    have length := congrArg List.length (Pipe.read_append given)
    have positive := List.length_pos_iff.mpr present
    have after := deliveryWeight_le layer.wire.link.outbound.free (frame message)
    rw [List.length_append] at length
    simp only [work, doing, outWeight]
    omega
  | next doing =>
    simp only [work, doing, outWeight, deliveryWeight, ↓reduceIte]
    omega
  | @deliver octets accepted wire doing present taken =>
    have input := Wire.input_of_write taken
    have less := deliveryWeight_write present (Wire.outbound_of_write taken)
    simp only [work, doing, outWeight, input]
    omega

theorem isSettled_of_ended (stopped : layer.isRunning = false) : layer.IsSettled :=
  if_neg (Bool.eq_false_iff.mp stopped)

theorem inward_or_outward_of_step? (stepped : layer.step? = some next) :
    layer.isRunning = true ∧ (layer.stepInward? = some next ∨ layer.stepOutward? = some next) := by
  unfold step? at stepped
  split at stepped
  · rename_i running
    exact ⟨running, (Option.or_eq_some_iff.mp stepped).imp_right And.right⟩
  · cases stepped

theorem waits_of_isSettled (running : layer.isRunning = true) (settled : layer.IsSettled) :
    layer.stepInward? = none ∧ layer.stepOutward? = none := by
  rwa [IsSettled, step?, if_pos running, Option.or_eq_none_iff] at settled

theorem work_lt (stepped : layer.step? = some next) (running : next.isRunning = true) :
    next.work < layer.work := by
  rcases (inward_or_outward_of_step? stepped).2 with inward | outward
  · exact work_inward (inwardStep_of_eq inward) running
  · exact work_outward (outwardStep_of_eq outward) running

theorem advance_of_isSettled (settled : layer.IsSettled) (fuel : Nat) :
    layer.advance fuel = layer := by
  cases fuel with
  | zero => rfl
  | succ fuel =>
    rw [IsSettled] at settled
    simp only [advance, settled]

/-- As many steps as a layer has work bring it to rest. -/
theorem isSettled_advance (fuel : Nat) (layer : Layer) (enough : layer.work < fuel) :
    (layer.advance fuel).IsSettled := by
  induction fuel generalizing layer with
  | zero => omega
  | succ fuel ih =>
    unfold advance
    split
    · rename_i next stepped
      cases running : next.isRunning with
      | true =>
        have less := work_lt stepped running
        exact ih next (by omega)
      | false =>
        have settled := isSettled_of_ended running
        rw [advance_of_isSettled settled]
        exact settled
    · rename_i settled
      exact settled

theorem work_lt_stepBound (layer : Layer) : layer.work < layer.stepBound := by
  have inward := inWeight_le layer.plain.link.inbound.free layer.inward
  have outward := outWeight_le layer.wire.link.outbound.free layer.outward
  simp only [work, stepBound]
  omega

/-- A layer that was left to itself has come to rest. -/
theorem isSettled_settle (layer : Layer) : layer.settle.IsSettled :=
  isSettled_advance _ _ layer.work_lt_stepBound

end Layer

namespace Transit

variable {transit : Transit}

theorem react_inward {next : Layer} (running : transit.layer.isRunning = true)
    (stepped : transit.layer.stepInward? = some next) :
    transit.react .inward = { transit with layer := next } := by
  simp only [react, attempt, running, ↓reduceIte, stepped, Option.getD_some]

theorem react_outward {next : Layer} (running : transit.layer.isRunning = true)
    (stepped : transit.layer.stepOutward? = some next) :
    transit.react .outward = { transit with layer := next } := by
  simp only [react, attempt, running, ↓reduceIte, stepped, Option.getD_some]

theorem exists_run_advance (fuel : Nat) (transit : Transit) : ∃ events : List LayerEvent,
    (∀ event ∈ events, event = .inward ∨ event = .outward) ∧
      run events transit = { transit with layer := transit.layer.advance fuel } := by
  induction fuel generalizing transit with
  | zero => exact ⟨[], nofun, rfl⟩
  | succ fuel ih =>
    unfold Layer.advance
    split
    · rename_i next stepped
      obtain ⟨events, steps, same⟩ := ih { transit with layer := next }
      obtain ⟨running, inward | outward⟩ := Layer.inward_or_outward_of_step? stepped
      · refine ⟨.inward :: events, List.forall_mem_cons.mpr ⟨.inl rfl, steps⟩, ?_⟩
        rw [run_cons, react_inward running inward, same]
      · refine ⟨.outward :: events, List.forall_mem_cons.mpr ⟨.inr rfl, steps⟩, ?_⟩
        rw [run_cons, react_outward running outward, same]
    · exact ⟨[], nofun, rfl⟩

/-- What a layer does when it is left to itself is a run of its steps. -/
theorem exists_run_settle (transit : Transit) : ∃ events : List LayerEvent,
    (∀ event ∈ events, event = .inward ∨ event = .outward) ∧
      run events transit = { transit with layer := transit.layer.settle } :=
  exists_run_advance _ transit

end Transit

end SocksGateway.Gss
