import Mathlib.Data.List.Forall2
import SocksGateway.Proofs.Gss.Transit

/-!
The way in. For as long as a layer runs, what the client has sent is the frames of the messages that
have come through, what the layer has of the next frame, and what it has still to read; and what has
come to the session, with what the layer has still to deliver, is what these messages carry.
-/

set_option autoImplicit false

namespace SocksGateway.Gss

/-- A message that fits into a frame and is unwrapped to these octets. -/
def Protection.Carries (protection : Protection) (message plain : Bytes) : Prop :=
  message.length < 65536 ∧ protection.unwrap message = some plain

/-- Messages with what they are unwrapped to. -/
abbrev Protection.CarryAll (protection : Protection) (messages plains : List Bytes) : Prop :=
  List.Forall₂ protection.Carries messages plains

theorem Protection.CarryAll.areShort {protection : Protection} {messages plains : List Bytes}
    (carry : protection.CarryAll messages plains) : AreShort messages := by
  induction carry with
  | nil => exact fun _ => nofun
  | cons carries _ ih =>
    intro message member
    rcases List.mem_cons.mp member with rfl | member
    · exact carries.1
    · exact ih message member

/-- The octets of the first frame, if there is one. -/
def firstFrame : List Bytes → Bytes
  | [] => []
  | message :: _ => frame message

/-- Where the octets of a client are, which sends the frames of these messages: what it has sent, what
of that is still to be read, and what has come to the session. -/
inductive Arrives (protection : Protection) (messages plains : List Bytes) :
    Bool → Inward → (input sent passed : Bytes) → Prop where
  | collecting {done rest gone left : List Bytes} {octets input sent passed : Bytes}
      (sending : messages = done ++ rest) (carrying : plains = gone ++ left)
      (carry : protection.CarryAll rest left) (front : octets <+: firstFrame rest)
      (taken : frames done ++ (octets ++ input) = sent) (given : passed = gone.flatten) :
      Arrives protection messages plains true (.collecting octets) input sent passed
  | delivering {done rest gone left : List Bytes} {octets input sent passed : Bytes}
      (sending : messages = done ++ rest) (carrying : plains = gone ++ left)
      (carry : protection.CarryAll rest left) (taken : frames done ++ input = sent)
      (given : passed ++ octets = gone.flatten) :
      Arrives protection messages plains true (.delivering octets) input sent passed
  | ended {inward : Inward} {input sent passed : Bytes} (front : passed <+: plains.flatten) :
      Arrives protection messages plains false inward input sent passed

section

variable {protection : Protection} {messages plains : List Bytes} {isRunning : Bool}
  {inward : Inward} {input sent passed : Bytes}

theorem Arrives.delivered (arrives : Arrives protection messages plains isRunning inward input sent
    passed) : passed <+: plains.flatten := by
  cases arrives with
  | collecting sending carrying carry front taken given =>
    rw [given, carrying, List.flatten_append]
    exact List.prefix_append _ _
  | delivering sending carrying carry taken given =>
    rw [carrying, List.flatten_append, ← given, List.append_assoc]
    exact List.prefix_append _ _
  | ended front => exact front

theorem Arrives.ends {other : Bytes} (arrives : Arrives protection messages plains isRunning inward
    input sent passed) : Arrives protection messages plains false inward other sent passed :=
  .ended arrives.delivered

theorem Arrives.send (arrives : Arrives protection messages plains isRunning inward input sent
    passed) (more : Bytes) :
    Arrives protection messages plains isRunning inward (input ++ more) (sent ++ more) passed := by
  cases arrives with
  | collecting sending carrying carry front taken given =>
    refine .collecting sending carrying carry front ?_ given
    rw [← taken]
    simp only [List.append_assoc]
  | delivering sending carrying carry taken given =>
    refine .delivering sending carrying carry ?_ given
    rw [← taken, List.append_assoc]
  | ended front => exact .ended front

/-- What the layer has of a frame, it has of the first that has not come through. -/
theorem known_of_front {rest left : List Bytes} {octets : Bytes}
    (carry : protection.CarryAll rest left) (front : octets <+: firstFrame rest) :
    (∃ message others plain more, rest = message :: others ∧ left = plain :: more ∧
      protection.Carries message plain ∧ protection.CarryAll others more ∧
      octets = frame message ∧ Layer.progress octets = .complete message) ∨
    ∃ count, Layer.progress octets = .missing count ∧ 0 < count ∧
      (rest ≠ [] → octets.length + count ≤ (firstFrame rest).length) := by
  cases carry with
  | nil =>
    rw [List.prefix_nil.mp front]
    exact .inr ⟨2, rfl, by decide, fun present => absurd rfl present⟩
  | cons carries others =>
    rcases progress_of_prefix carries.1 front with ⟨whole, known⟩ | ⟨count, known, positive, within⟩
    · exact .inl ⟨_, _, _, _, rfl, rfl, carries, others, whole, known⟩
    · exact .inr ⟨count, known, positive, fun _ => within⟩

theorem prefix_firstFrame {rest : List Bytes} {octets : Bytes} (front : octets <+: frames rest)
    (within : rest ≠ [] → octets.length ≤ (firstFrame rest).length) : octets <+: firstFrame rest := by
  cases rest with
  | nil => exact front
  | cons message others =>
    exact List.prefix_of_prefix_length_le front (List.prefix_append _ _)
      (within (List.cons_ne_nil _ _))

end

variable {messages plains : List Bytes} {layer next : Layer} {sent read : Bytes}

/-- A step on the way in takes octets of the client further, and loses none for as long as the layer
runs. -/
theorem Arrives.inward (arrives : Arrives layer.protection messages plains true layer.inward
    layer.wire.input sent (read ++ layer.plain.input)) (wellFormed : sent <+: frames messages)
    (step : layer.InwardStep next) (running : layer.isRunning = true) :
    Arrives layer.protection messages plains next.isRunning next.inward next.wire.input sent
      (read ++ next.plain.input) := by
  cases step with
  | finish fails => exact arrives.ends
  | @collect octets more count wire doing known present given =>
    rw [doing] at arrives
    cases arrives with
    | @collecting done rest gone left _ _ _ _ sending carrying carry front taken passed =>
      obtain ⟨whole, -⟩ := Wire.read_octets given
      rw [← whole, ← List.append_assoc octets] at taken
      dsimp only
      rw [running]
      refine .collecting sending carrying carry (prefix_firstFrame ?_ ?_) taken passed
      · rw [← taken, sending, frames_append, List.prefix_append_right_inj] at wellFormed
        exact (List.prefix_append _ _).trans wellFormed
      · intro others
        rcases known_of_front carry front with
          ⟨_, _, _, _, -, -, -, -, -, complete⟩ | ⟨_, missing, -, within⟩
        · rw [known] at complete
          cases complete
        · rw [known] at missing
          cases missing
          have short := Wire.length_read_le given
          rw [List.length_append]
          exact Nat.le_trans (Nat.add_le_add_left short _) (within others)
  | @unwrap octets payload plain doing known unwrapped =>
    rw [doing] at arrives
    cases arrives with
    | @collecting done rest gone left _ _ _ _ sending carrying carry front taken passed =>
      rcases known_of_front carry front with
        ⟨_, _, _, _, rfl, rfl, carries, others, whole, complete⟩ | ⟨_, missing, -⟩
      · rw [known] at complete
        cases complete
        rw [carries.2] at unwrapped
        cases unwrapped
        dsimp only
        rw [running]
        refine @Arrives.delivering _ _ _ (done ++ [payload]) _ (gone ++ [plain]) _ _ _ _ _
          ?_ ?_ others ?_ ?_
        · rw [sending, List.append_assoc, List.singleton_append]
        · rw [carrying, List.append_assoc, List.singleton_append]
        · rw [← taken, whole, frames_append, frames_cons, frames_nil, List.append_nil,
            List.append_assoc]
        · rw [passed, List.flatten_append, List.flatten_singleton]
      · rw [known] at missing
        cases missing
  | next doing =>
    rw [doing] at arrives
    cases arrives with
    | delivering sending carrying carry taken passed =>
      dsimp only
      rw [running]
      rw [List.append_nil] at passed
      exact .collecting sending carrying carry List.nil_prefix taken passed
  | @deliver octets accepted inbound doing present taken =>
    rw [doing] at arrives
    cases arrives with
    | delivering sending carrying carry took passed =>
      dsimp only
      rw [running]
      refine .delivering sending carrying carry took ?_
      rw [← passed]
      simp only [Wire.input, Pipe.held_write taken, List.append_assoc, List.take_append_drop]

/-- A step on the way out has nothing to do with the way in, unless the layer ends. -/
theorem Arrives.outward (arrives : Arrives layer.protection messages plains true layer.inward
    layer.wire.input sent (read ++ layer.plain.input)) (step : layer.OutwardStep next)
    (running : layer.isRunning = true) :
    Arrives layer.protection messages plains next.isRunning next.inward next.wire.input sent
      (read ++ next.plain.input) := by
  cases step with
  | finish fails => exact arrives.ends
  | wrap | next => rwa [← running] at arrives
  | deliver doing present taken =>
    dsimp only
    rw [running, Wire.input_of_write taken]
    exact arrives

end SocksGateway.Gss
