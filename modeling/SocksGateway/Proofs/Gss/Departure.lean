import Mathlib.Data.List.Infix
import SocksGateway.Proofs.Gss.Arrival

/-!
The way out. For as long as a layer runs, what the session has written is what the layer has wrapped
and what it has still to read; and what has gone to the client, with what the layer has still to
deliver, is the frames of the messages with that.
-/

set_option autoImplicit false

namespace SocksGateway.Gss

open Handler

/-- Whatever the layer wraps at once fits into a frame and is unwrapped to what it was. -/
def Protection.IsFaithful (protection : Protection) : Prop :=
  ∀ octets, octets ≠ [] → octets.length ≤ Layer.chunkSize →
    ∃ message, protection.wrap octets = some message ∧ protection.Carries message octets

/-- Where the octets of a session are, that a client gets behind others: what of them is still to be
read, what was written, and what has gone to the client. -/
inductive Departs (protection : Protection) (before : Bytes) :
    Bool → Outward → (held written delivered : Bytes) → Prop where
  | waiting {messages chunks : List Bytes} {held written delivered : Bytes}
      (carry : protection.CarryAll messages chunks) (taken : chunks.flatten ++ held = written)
      (given : delivered = before ++ frames messages) :
      Departs protection before true .waiting held written delivered
  | delivering {messages chunks : List Bytes} {octets held written delivered : Bytes}
      (carry : protection.CarryAll messages chunks) (taken : chunks.flatten ++ held = written)
      (begun : before <+: delivered) (given : delivered ++ octets = before ++ frames messages) :
      Departs protection before true (.delivering octets) held written delivered
  | ended {messages chunks : List Bytes} {outward : Outward} {held written delivered : Bytes}
      (carry : protection.CarryAll messages chunks) (taken : chunks.flatten <+: written)
      (begun : before <+: delivered) (given : delivered <+: before ++ frames messages) :
      Departs protection before false outward held written delivered

section

variable {protection : Protection} {before : Bytes} {isRunning : Bool} {outward : Outward}
  {held written delivered : Bytes}

theorem Departs.exists_messages (departs : Departs protection before isRunning outward held written
    delivered) : ∃ messages chunks, protection.CarryAll messages chunks ∧
      chunks.flatten <+: written ∧ before <+: delivered ∧
      delivered <+: before ++ frames messages := by
  cases departs with
  | @waiting messages chunks _ _ _ carry taken given =>
    exact ⟨messages, chunks, carry, taken ▸ List.prefix_append _ _, given ▸ List.prefix_append _ _,
      given ▸ List.prefix_rfl⟩
  | @delivering messages chunks _ _ _ _ carry taken begun given =>
    exact ⟨messages, chunks, carry, taken ▸ List.prefix_append _ _, begun,
      given ▸ List.prefix_append _ _⟩
  | @ended messages chunks _ _ _ _ carry taken begun given =>
    exact ⟨messages, chunks, carry, taken, begun, given⟩

theorem Departs.ends {other : Bytes} (departs : Departs protection before isRunning outward held
    written delivered) : Departs protection before false outward other written delivered := by
  obtain ⟨messages, chunks, carry, taken, begun, given⟩ := departs.exists_messages
  exact .ended carry taken begun given

/-- What the session writes goes behind what it has written. -/
theorem Departs.write (departs : Departs protection before isRunning outward held written
    delivered) (more : Bytes) :
    Departs protection before isRunning outward (held ++ more) (written ++ more) delivered := by
  cases departs with
  | waiting carry taken given =>
    exact .waiting carry (by rw [← taken, List.append_assoc]) given
  | delivering carry taken begun given =>
    exact .delivering carry (by rw [← taken, List.append_assoc]) begun given
  | ended carry taken begun given =>
    exact .ended carry (taken.trans (List.prefix_append _ _)) begun given

/-- What has gone to the client are the frames of messages that carry what the session has written
first, and a part of another frame. -/
theorem Departs.exists_frames (departs : Departs protection before isRunning outward held written
    delivered) : ∃ messages chunks rest, delivered = before ++ (frames messages ++ rest) ∧
      IsPartial rest ∧ protection.CarryAll messages chunks ∧ chunks.flatten <+: written := by
  obtain ⟨messages, chunks, carry, taken, ⟨told, rfl⟩, given⟩ := departs.exists_messages
  obtain ⟨count, rest, rfl, missing⟩ :=
    exists_of_prefix_frames carry.areShort ((List.prefix_append_right_inj _).mp given)
  exact ⟨_, _, rest, rfl, missing, List.forall₂_take count carry,
    (List.take_prefix count chunks).flatten.trans taken⟩

end

variable {before : Bytes} {layer next : Layer} {written received : Bytes}

/-- A step on the way out takes octets of the session further, and loses none for as long as the layer
runs. -/
theorem Departs.outward (departs : Departs layer.protection before true layer.outward
    layer.plain.link.outbound.held written (received ++ layer.wire.link.outbound.held))
    (faithful : layer.protection.IsFaithful) (step : layer.OutwardStep next)
    (running : layer.isRunning = true) :
    Departs layer.protection before next.isRunning next.outward next.plain.link.outbound.held written
      (received ++ next.wire.link.outbound.held) := by
  cases step with
  | finish fails =>
    have held : layer.finish.wire.link.outbound.held = layer.wire.link.outbound.held :=
      Wire.outbound_held_close layer.wire
    rw [held]
    exact departs.ends
  | @wrap octets message outbound doing present given wrapped short =>
    rw [doing] at departs
    cases departs with
    | @waiting messages chunks _ _ _ carry taken delivered =>
      obtain ⟨_, same, carries⟩ := faithful octets present (Pipe.length_read_le given)
      rw [wrapped] at same
      cases same
      dsimp only
      rw [running]
      refine @Departs.delivering _ _ (messages ++ [message]) (chunks ++ [octets]) _ _ _ _ ?_ ?_ ?_ ?_
      · exact List.rel_append carry (.cons carries .nil)
      · rw [← taken, ← Pipe.read_append given, List.flatten_append, List.flatten_singleton,
          List.append_assoc]
      · exact delivered ▸ List.prefix_append _ _
      · rw [delivered, frames_append, frames_cons, frames_nil, List.append_nil, List.append_assoc]
  | next doing =>
    rw [doing] at departs
    cases departs with
    | delivering carry taken begun given =>
      dsimp only
      rw [running]
      rw [List.append_nil] at given
      exact .waiting carry taken given
  | @deliver octets accepted wire doing present taken =>
    rw [doing] at departs
    cases departs with
    | delivering carry took begun given =>
      obtain ⟨held, -⟩ := Wire.write_octets taken
      dsimp only
      rw [running, held, ← List.append_assoc]
      refine .delivering carry took (begun.trans (List.prefix_append _ _)) ?_
      rw [← given, List.append_assoc, List.take_append_drop]

/-- A step on the way in has nothing to do with the way out, unless the layer ends. -/
theorem Departs.inward (departs : Departs layer.protection before true layer.outward
    layer.plain.link.outbound.held written (received ++ layer.wire.link.outbound.held))
    (step : layer.InwardStep next) (running : layer.isRunning = true) :
    Departs layer.protection before next.isRunning next.outward next.plain.link.outbound.held written
      (received ++ next.wire.link.outbound.held) := by
  cases step with
  | finish fails =>
    have held : layer.finish.wire.link.outbound.held = layer.wire.link.outbound.held :=
      Wire.outbound_held_close layer.wire
    rw [held]
    exact departs.ends
  | unwrap | next | deliver => rwa [← running] at departs
  | collect doing known present given =>
    obtain ⟨-, outbound, -⟩ := Wire.read_octets given
    dsimp only
    rw [outbound]
    rwa [← running] at departs

end SocksGateway.Gss
