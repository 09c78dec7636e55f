import Mathlib.Data.Prod.Lex
import SocksGateway.Proofs.Gss.Passage
import SocksGateway.Gss.Scripted
import SocksGateway.Proofs.Gss.Settle

/-!
Layers are transparent: whatever the order in which a layer, its client and its session go on, and
however they cut what they send, the session gets the octets that the messages of the client carry, and
the client gets messages that carry the octets of the session. For as long as neither has ended, the
layer goes on, and it comes to rest only when everything has come through.
-/

set_option autoImplicit false

namespace SocksGateway.Gss

open Handler

namespace Layer

variable {layer next : Layer}

/-- Both sides have read all that has come to them. -/
def IsDrained (layer : Layer) : Prop :=
  layer.plain.input = [] ∧ layer.wire.link.outbound.held = []

/-! ## How far a layer is from rest -/

/-- What the layer has for the session, a frame counting for what it is unwrapped to. -/
def inSize (layer : Layer) : Nat :=
  match layer.inward with
  | .collecting octets =>
    match progress octets with
    | .complete payload => (layer.protection.unwrap payload).elim 0 (·.length) + 2
    | _ => 0
  | .delivering octets => octets.length + 1

/-- What the layer has for the client. -/
def outSize (layer : Layer) : Nat :=
  match layer.outward with
  | .waiting => 0
  | .delivering octets => octets.length + 1

/-- How far the octets of each way are from their end, the farthest first: what a frame is wrapped or
unwrapped to can be longer than what it is made of. -/
def rank (layer : Layer) : Nat ×ₗ Nat ×ₗ Nat ×ₗ Nat ×ₗ Nat ×ₗ Nat :=
  toLex (layer.wire.input.length, toLex (layer.inSize, toLex (layer.plain.input.length,
    toLex (layer.plain.link.outbound.held.length,
      toLex (layer.outSize, layer.wire.link.outbound.held.length)))))

theorem inSize_of_delivering {octets : Bytes} (doing : layer.inward = .delivering octets) :
    layer.inSize = octets.length + 1 := by
  rw [inSize, doing]

theorem inSize_of_complete {octets payload plain : Bytes} (doing : layer.inward = .collecting octets)
    (known : progress octets = .complete payload)
    (unwrapped : layer.protection.unwrap payload = some plain) : layer.inSize = plain.length + 2 := by
  rw [inSize, doing]
  simp only [known, unwrapped, Option.elim_some]

theorem outSize_of_delivering {octets : Bytes} (doing : layer.outward = .delivering octets) :
    layer.outSize = octets.length + 1 := by
  rw [outSize, doing]

/-- Each step on the way in brings the layer nearer to its rest. -/
theorem rank_inward (step : layer.InwardStep next) (goesOn : ¬ layer.InwardFailure) :
    next.rank < layer.rank := by
  simp only [rank, Prod.Lex.toLex_lt_toLex]
  cases step with
  | finish fails => exact absurd fails goesOn
  | collect doing known present given =>
    have whole := congrArg List.length (Wire.read_octets given).1
    have some := List.length_pos_iff.mpr present
    rw [List.length_append] at whole
    left
    dsimp only
    omega
  | unwrap doing known unwrapped =>
    refine .inr ⟨rfl, .inl ?_⟩
    rw [inSize_of_complete doing known unwrapped]
    exact Nat.lt_succ_self _
  | next doing =>
    refine .inr ⟨rfl, .inl ?_⟩
    rw [inSize_of_delivering doing]
    exact Nat.zero_lt_succ _
  | @deliver octets accepted inbound doing present taken =>
    have some := (Pipe.write_accepted taken).2.2.2 present
    have length := List.length_pos_iff.mpr present
    refine .inr ⟨rfl, .inl ?_⟩
    rw [inSize_of_delivering doing]
    simp only [inSize, List.length_drop]
    omega

/-- Each step on the way out does, too. -/
theorem rank_outward (step : layer.OutwardStep next) (goesOn : ¬ layer.OutwardFailure) :
    next.rank < layer.rank := by
  simp only [rank, Prod.Lex.toLex_lt_toLex]
  cases step with
  | finish fails => exact absurd fails goesOn
  | wrap doing present given =>
    have whole := congrArg List.length (Pipe.read_append given)
    have some := List.length_pos_iff.mpr present
    rw [List.length_append] at whole
    refine .inr ⟨rfl, .inr ⟨rfl, .inr ⟨rfl, .inl ?_⟩⟩⟩
    dsimp only
    omega
  | next doing =>
    refine .inr ⟨rfl, .inr ⟨rfl, .inr ⟨rfl, .inr ⟨rfl, .inl ?_⟩⟩⟩⟩
    rw [outSize_of_delivering doing]
    exact Nat.zero_lt_succ _
  | @deliver octets accepted wire doing present taken =>
    have input := Wire.input_of_write taken
    have positive := (Wire.write_octets taken).2.2.2.2 present
    have length := List.length_pos_iff.mpr present
    refine .inr ⟨congrArg _ input, .inr ⟨rfl, .inr ⟨rfl, .inr ⟨rfl, .inl ?_⟩⟩⟩⟩
    rw [outSize_of_delivering doing]
    simp only [outSize, List.length_drop]
    omega

theorem rank_of_plain {plain : Wire} (shorter : plain.input.length < layer.plain.input.length) :
    ({ layer with plain } : Layer).rank < layer.rank := by
  simp only [rank, Prod.Lex.toLex_lt_toLex, true_and]
  exact .inr (.inr ⟨rfl, .inl shorter⟩)

theorem rank_of_outbound {outbound : Pipe}
    (shorter : outbound.held.length < layer.wire.link.outbound.held.length) :
    ({ layer with
      wire := { layer.wire with link := { layer.wire.link with outbound } } } : Layer).rank <
        layer.rank := by
  simp only [rank, Prod.Lex.toLex_lt_toLex, true_and]
  exact .inr ⟨rfl, .inr ⟨rfl, .inr (.inr (.inr ⟨rfl, shorter⟩))⟩⟩

end Layer

/-- What only takes octets further. -/
def LayerEvent.isMove : LayerEvent → Bool
  | .client (.read _) => true
  | .read _ => true
  | .inward => true
  | .outward => true
  | _ => false

theorem LayerEvent.ends_of_isMove {event : LayerEvent} (move : event.isMove = true) :
    event.ends = false := by
  cases event with
  | client act =>
    cases act with
    | read limit => rfl
    | _ => cases move
  | read | inward | outward => rfl
  | write | shutdown | close => cases move

namespace Transit

variable {transit later : Transit} {event : LayerEvent} {protection : Protection}
  {messages plains : List Bytes} {before : Bytes}

/-! ## Every run -/

/-- What holds of every run. -/
structure IsSound (protection : Protection) (messages plains : List Bytes) (before : Bytes)
    (transit : Transit) : Prop where
  protection : transit.layer.protection = protection
  fresh : transit.layer.plain.channel.returned = []
  arriving : transit.sent <+: frames messages → transit.IsArriving messages plains
  departing : transit.IsDeparting before

theorem IsSound.start (carry : protection.CarryAll messages plains) (wire : Wire) :
    IsSound protection messages plains wire.link.outbound.held (start protection wire) where
  protection := rfl
  fresh := rfl
  arriving _ := @Arrives.collecting _ _ _ [] messages [] plains _ _ _ _ rfl rfl carry List.nil_prefix
    rfl rfl
  departing := @Departs.waiting _ _ [] [] _ _ _ .nil rfl (List.append_nil _).symm

theorem IsSound.react (faithful : protection.IsFaithful)
    (sound : transit.IsSound protection messages plains before) (event : LayerEvent) :
    (transit.react event).IsSound protection messages plains before := by
  have reacts := reacts event sound.fresh
  refine ⟨reacts.protection.trans sound.protection, reacts.fresh sound.fresh, ?_, ?_⟩
  · intro wellFormed
    exact (sound.arriving (reacts.sent_grows.trans wellFormed)).reacts reacts wellFormed
  · exact sound.departing.reacts reacts (sound.protection ▸ faithful)

theorem IsSound.run (faithful : protection.IsFaithful)
    (sound : transit.IsSound protection messages plains before) (events : List LayerEvent) :
    (transit.run events).IsSound protection messages plains before := by
  induction events generalizing transit with
  | nil => exact sound
  | cons event events ih => exact ih (sound.react faithful event)

theorem IsSound.sent_grows (faithful : protection.IsFaithful)
    (sound : transit.IsSound protection messages plains before) (events : List LayerEvent) :
    transit.sent <+: (transit.run events).sent := by
  induction events generalizing transit with
  | nil => exact List.prefix_rfl
  | cons event events ih =>
    exact (reacts event sound.fresh).sent_grows.trans (ih (sound.react faithful event))

/-- For as long as neither side ends, the layer does not end either. -/
theorem IsSound.isLasting_run (faithful : protection.IsFaithful)
    (sound : transit.IsSound protection messages plains before) (lasting : transit.layer.IsLasting)
    {events : List LayerEvent} (goOn : ∀ event ∈ events, event.ends = false)
    (wellFormed : (transit.run events).sent <+: frames messages) :
    (transit.run events).layer.IsLasting := by
  induction events generalizing transit with
  | nil => exact lasting
  | cons event events ih =>
    have next := sound.react faithful event
    have reacts := reacts event sound.fresh
    have wellFormedBefore :=
      reacts.sent_grows.trans ((next.sent_grows faithful events).trans wellFormed)
    refine ih next ?_ (fun other member => goOn other (List.mem_cons_of_mem event member)) wellFormed
    exact reacts.isLasting (goOn event List.mem_cons_self) (sound.protection ▸ faithful)
      (sound.arriving wellFormedBefore) lasting

/-! ## At rest -/

/-- Everything has come through, on both ways. -/
def IsComplete (protection : Protection) (plains : List Bytes) (before : Bytes) (transit : Transit) :
    Prop :=
  transit.read = plains.flatten ∧ ∃ messages chunks, transit.received = before ++ frames messages ∧
    protection.CarryAll messages chunks ∧ chunks.flatten = transit.written

theorem read_of_waits (lasting : transit.layer.IsLasting)
    (arriving : transit.IsArriving messages plains) (whole : transit.sent = frames messages)
    (waits : transit.layer.InwardWaits) (drained : transit.layer.plain.input = []) :
    transit.read = plains.flatten := by
  unfold IsArriving passed at arriving
  rw [lasting.running, whole, drained, List.append_nil] at arriving
  cases waits with
  | frame doing known empty =>
    rw [doing, empty] at arriving
    cases arriving with
    | @collecting done rest gone left _ _ _ _ sending carrying carry front taken given =>
      -- All that was sent has been read, so that no frame can be missing octets.
      rw [sending, frames_append, List.append_nil, List.append_cancel_left_eq] at taken
      rcases known_of_front carry front with
        ⟨_, _, _, _, -, -, -, -, -, complete⟩ | ⟨count, missing, positive, within⟩
      · rw [known] at complete
        cases complete
      · cases carry with
        | nil => rw [given, carrying, List.append_nil]
        | cons =>
          have length := congrArg List.length taken
          have bound := within (List.cons_ne_nil _ _)
          rw [frames_cons, List.length_append] at length
          simp only [firstFrame] at bound
          omega
  | room doing full =>
    have room := lasting.plainRoom
    have held : transit.layer.plain.link.inbound.held = [] := (List.append_eq_nil_iff.mp drained).2
    rw [Pipe.free, held, List.length_nil] at full
    omega

theorem exists_received_of_waits (lasting : transit.layer.IsLasting)
    (departing : transit.IsDeparting before) (waits : transit.layer.OutwardWaits)
    (drained : transit.layer.wire.link.outbound.held = []) :
    ∃ messages chunks, transit.received = before ++ frames messages ∧
      transit.layer.protection.CarryAll messages chunks ∧ chunks.flatten = transit.written := by
  unfold IsDeparting delivered at departing
  rw [lasting.running, drained, List.append_nil] at departing
  cases waits with
  | octets doing empty =>
    rw [doing, empty] at departing
    cases departing with
    | waiting carry taken given =>
      rw [List.append_nil] at taken
      exact ⟨_, _, given, carry, taken⟩
  | room doing full =>
    have room := lasting.wireRoom
    rw [Pipe.free, drained, List.length_nil] at full
    omega

theorem IsSound.isComplete (sound : transit.IsSound protection messages plains before)
    (lasting : transit.layer.IsLasting) (whole : transit.sent = frames messages)
    (settled : transit.layer.IsSettled) (drained : transit.layer.IsDrained) :
    transit.IsComplete protection plains before := by
  have arriving := sound.arriving (whole ▸ List.prefix_rfl)
  obtain ⟨inward, outward⟩ := Layer.waits_of_isSettled lasting.running settled
  refine ⟨read_of_waits lasting arriving whole (Layer.inwardWaits_of_none inward) drained.1, ?_⟩
  have received := exists_received_of_waits lasting sound.departing
    (Layer.outwardWaits_of_none outward) drained.2
  rwa [sound.protection] at received

/-! ## On the way to rest -/

/-- The session finds what has come to it. -/
theorem rank_read (isOpen : transit.layer.plain.channel.isOpen = true)
    (present : transit.layer.plain.input ≠ []) :
    (transit.react (.read 1)).layer.rank < transit.layer.rank := by
  cases given : transit.layer.plain.read 1 with
  | mk answer plain =>
    simp only [react, given]
    apply Layer.rank_of_plain
    cases answer with
    | pending => exact absurd (Wire.read_pending given).1 present
    | ready result =>
      cases result with
      | error error =>
        rw [Wire.read_error given] at isOpen
        cases isOpen
      | ok octets =>
        have whole := congrArg List.length (Wire.read_octets given).1
        have some : octets ≠ [] := by
          rintro rfl
          exact present (Wire.read_end Nat.one_pos given).1
        have positive := List.length_pos_iff.mpr some
        rw [List.length_append] at whole
        omega

/-- The client finds what has come to it. -/
theorem rank_client (hasFarEnd : transit.layer.wire.link.hasFarEnd = true)
    (present : transit.layer.wire.link.outbound.held ≠ []) :
    (transit.react (.client (.read 1))).layer.rank < transit.layer.rank := by
  have far : transit.layer.wire.link.far (.read 1) =
      (.read (.ready (transit.layer.wire.link.outbound.held.take 1)),
        { transit.layer.wire.link with
          outbound :=
            { transit.layer.wire.link.outbound with
              held := transit.layer.wire.link.outbound.held.drop 1 } }) := by
    simp only [Link.far, hasFarEnd, Link.farRead, Pipe.read, if_pos present]
  have positive := List.length_pos_iff.mpr present
  simp only [react, far]
  apply Layer.rank_of_outbound
  rw [List.length_drop]
  omega

/-- Before the layer is at rest, there is something that brings it nearer. -/
theorem exists_move (lasting : transit.layer.IsLasting) (arriving : transit.IsArriving messages plains)
    (faithful : transit.layer.protection.IsFaithful) :
    transit.layer.IsSettled ∧ transit.layer.IsDrained ∨ ∃ event : LayerEvent,
      event.isMove = true ∧ (transit.react event).layer.rank < transit.layer.rank := by
  unfold IsArriving at arriving
  rw [lasting.running] at arriving
  cases stepped : transit.layer.step? with
  | some next =>
    right
    obtain ⟨-, inward | outward⟩ := Layer.inward_or_outward_of_step? stepped
    · refine ⟨.inward, rfl, ?_⟩
      rw [react_inward lasting.running inward]
      exact Layer.rank_inward (Layer.inwardStep_of_eq inward) (lasting.not_inwardFailure arriving)
    · refine ⟨.outward, rfl, ?_⟩
      rw [react_outward lasting.running outward]
      exact Layer.rank_outward (Layer.outwardStep_of_eq outward) (lasting.not_outwardFailure faithful)
  | none =>
    by_cases read : transit.layer.plain.input = []
    · by_cases received : transit.layer.wire.link.outbound.held = []
      · exact .inl ⟨stepped, read, received⟩
      · exact .inr ⟨.client (.read 1), rfl, rank_client lasting.hasFarEnd received⟩
    · exact .inr ⟨.read 1, rfl, rank_read lasting.plainOpen read⟩

theorem Reacts.sent_of_isMove (reacts : transit.Reacts event later) (move : event.isMove = true) :
    later.sent = transit.sent := by
  cases reacts with
  | @client act same =>
    subst same
    cases act with
    | read limit => exact List.append_nil _
    | _ => cases move
  | session | idle | inward | outward => rfl

theorem IsSound.exists_rest (faithful : protection.IsFaithful)
    (sound : transit.IsSound protection messages plains before) (lasting : transit.layer.IsLasting)
    (wellFormed : transit.sent <+: frames messages) :
    ∃ moves : List LayerEvent, (∀ event ∈ moves, event.isMove = true) ∧
      (transit.run moves).layer.IsSettled ∧ (transit.run moves).layer.IsDrained ∧
      (transit.run moves).sent = transit.sent := by
  induction rank : transit.layer.rank using WellFoundedLT.induction generalizing transit with
  | ind rank ih =>
    have faithful' := sound.protection ▸ faithful
    rcases exists_move lasting (sound.arriving wellFormed) faithful' with
      ⟨settled, drained⟩ | ⟨event, move, nearer⟩
    · exact ⟨[], nofun, settled, drained, rfl⟩
    · have reacts := reacts event sound.fresh
      have sent := reacts.sent_of_isMove move
      have lasting := reacts.isLasting (event.ends_of_isMove move) faithful'
        (sound.arriving wellFormed) lasting
      obtain ⟨moves, others, settled, drained, kept⟩ :=
        ih _ (rank ▸ nearer) (sound.react faithful event) lasting (sent ▸ wellFormed) rfl
      refine ⟨event :: moves, ?_, settled, drained, kept.trans sent⟩
      rintro other (_ | ⟨_, member⟩)
      · exact move
      · exact others other member

/-- A layer is transparent for all that its client and its session do, in any order and in pieces of
any size. At any time the session can have read a front of what the messages of the client carry, and
what has gone to the client is read back as messages that carry a front of what the session has
written. While neither side has ended, everything has come through when the layer has to wait and both
sides have read what has come to them, and the layer always gets there. -/
theorem transparent {protection : Protection} (faithful : protection.IsFaithful) (wire : Wire)
    (events : List LayerEvent) :
    let now := (start protection wire).run events
    let before := wire.link.outbound.held
    (∀ messages plains, protection.CarryAll messages plains → now.sent <+: frames messages →
      now.passed <+: plains.flatten) ∧
    (∃ messages chunks rest, now.delivered = before ++ (frames messages ++ rest) ∧
      (readFrames messages.length).runOn (frames messages ++ rest) = (.ok messages, rest) ∧
      IsPartial rest ∧ protection.CarryAll messages chunks ∧ chunks.flatten <+: now.written) ∧
    ∀ messages plains, protection.CarryAll messages plains → now.sent = frames messages →
      (start protection wire).layer.IsLasting → (∀ event ∈ events, event.ends = false) →
      (now.layer.IsSettled → now.layer.IsDrained → now.IsComplete protection plains before) ∧
      ∃ moves : List LayerEvent, (∀ event ∈ moves, event.isMove = true) ∧
        let later := now.run moves
        later.layer.IsSettled ∧ later.layer.IsDrained ∧ later.IsComplete protection plains before := by
  intro now before
  have sound {messages plains : List Bytes} (carry : protection.CarryAll messages plains) :
      now.IsSound protection messages plains before :=
    (IsSound.start carry wire).run faithful events
  refine ⟨?passing, ?departing, ?resting⟩
  case passing =>
    intro messages plains carry wellFormed
    exact ((sound carry).arriving wellFormed).delivered
  case departing =>
    obtain ⟨messages, chunks, rest, delivered, missing, carry, taken⟩ :=
      (sound .nil).departing.exists_frames
    rw [(sound .nil).protection] at carry
    exact ⟨messages, chunks, rest, delivered, readFrames_reads carry.areShort rest, missing, carry,
      taken⟩
  case resting =>
    intro messages plains carry whole starting goOn
    have wellFormed : now.sent <+: frames messages := whole ▸ List.prefix_rfl
    have lasting := (IsSound.start carry wire).isLasting_run faithful starting goOn wellFormed
    refine ⟨(sound carry).isComplete lasting whole, ?_⟩
    obtain ⟨moves, areMoves, settled, drained, sent⟩ :=
      (sound carry).exists_rest faithful lasting wellFormed
    refine ⟨moves, areMoves, settled, drained, ?_⟩
    have lasts := (sound carry).isLasting_run faithful lasting
      (fun event member => event.ends_of_isMove (areMoves event member)) (sent ▸ wellFormed)
    exact ((sound carry).run faithful moves).isComplete lasts (sent.trans whole) settled drained

end Transit

/-- Octets that are combined with a key are unwrapped by combining them with it once more. -/
theorem Protection.masking_isFaithful (key : UInt8) : (masking key 1).IsFaithful := by
  intro octets present short
  have masked : (List.replicate 1 (octets.map (· ^^^ key))).flatten = octets.map (· ^^^ key) :=
    List.append_nil _
  refine ⟨octets.map (· ^^^ key), congrArg some masked, ?_, ?_⟩
  · rw [List.length_map]
    exact Nat.lt_of_le_of_lt short (by decide)
  · have unmasked : (octets.map (· ^^^ key)).map (· ^^^ key) = octets := by
      rw [List.map_map]
      refine (List.map_congr_left fun octet _ => ?_).trans octets.map_id
      simp only [Function.comp_apply, UInt8.xor_assoc, UInt8.xor_self, UInt8.xor_zero, id_eq]
    simp only [masking, List.map_eq_nil_iff, present, ↓reduceIte, unmasked]

namespace Transit

/-- A message of two octets in two pieces, and an answer of two octets. -/
def exchange : List LayerEvent :=
  [.client (.send [1, 3, 0]), .inward, .inward, .client (.send [2, 50, 51]), .inward, .inward,
    .inward, .inward, .inward, .read 8, .write [111, 107], .outward, .outward, .outward,
    .client (.read 16)]

/-- A connection with little room. -/
def narrow : Wire := { channel := { remote := ⟨.unspecified, 0⟩ }, link := .fresh 64 }

theorem transparent_exchange :
    let now := (start (Protection.masking 90 1) narrow).run exchange
    (Protection.masking 90 1).IsFaithful ∧ now.sent = frames [[50, 51]] ∧
      (Protection.masking 90 1).CarryAll [[50, 51]] [[104, 105]] ∧
      (start (Protection.masking 90 1) narrow).layer.IsLasting ∧
      (∀ event ∈ exchange, event.ends = false) ∧ now.layer.IsSettled ∧ now.layer.IsDrained ∧
      now.IsComplete (Protection.masking 90 1) [[104, 105]] [] := by
  have faithful := Protection.masking_isFaithful 90
  have whole : ((start (Protection.masking 90 1) narrow).run exchange).sent = frames [[50, 51]] := by
    decide +kernel
  have carry : (Protection.masking 90 1).CarryAll [[50, 51]] [[104, 105]] :=
    .cons ⟨by decide, rfl⟩ .nil
  have starting : (start (Protection.masking 90 1) narrow).layer.IsLasting :=
    ⟨rfl, rfl, rfl, rfl, rfl, by decide, rfl, rfl, rfl, by decide⟩
  have goOn : ∀ event ∈ exchange, event.ends = false := by decide
  have settled : ((start (Protection.masking 90 1) narrow).run exchange).layer.IsSettled := rfl
  have drained : ((start (Protection.masking 90 1) narrow).run exchange).layer.IsDrained :=
    ⟨rfl, rfl⟩
  have resting := (transparent faithful narrow exchange).2.2 _ _ carry whole starting goOn
  exact ⟨faithful, whole, carry, starting, goOn, settled, drained, resting.1 settled drained⟩

end Transit

end SocksGateway.Gss
