import SocksGateway.Stream.Channel

/-!
What reads and writes do to pipes and wires. Nothing is lost on the way: what a read gives and what
it leaves make up what was there, and a write only adds to what the other end still has to read.
-/

set_option autoImplicit false

namespace SocksGateway

namespace Pipe

theorem closed_read {limit : Nat} {pipe rest : Pipe} {answer : Poll Bytes}
    (given : pipe.read limit = (answer, rest)) : rest.closed = pipe.closed := by
  unfold read at given
  split at given
  · cases given
    rfl
  · split at given <;> cases given <;> rfl

/-- The end is only seen once everything before it was read. -/
theorem read_end {limit : Nat} {pipe rest : Pipe} (positive : 0 < limit)
    (given : pipe.read limit = (.ready [], rest)) :
    pipe.held = [] ∧ pipe.closed = true ∧ rest = pipe := by
  unfold read at given
  split at given
  · rename_i present
    simp only [Prod.mk.injEq, Poll.ready.injEq, List.take_eq_nil_iff] at given
    rcases given.1 with zero | empty
    · omega
    · exact absurd empty present
  · rename_i absent
    split at given
    · rename_i stopped
      cases given
      refine ⟨Classical.not_not.mp absent, ?_, rfl⟩
      rcases stopped with closed | zero
      · exact closed
      · omega
    · cases given

theorem read_pending {limit : Nat} {pipe rest : Pipe}
    (waits : pipe.read limit = (.pending, rest)) : pipe.held = [] ∧ rest = pipe := by
  unfold read at waits
  split at waits
  · cases waits
  · rename_i absent
    split at waits <;> cases waits
    exact ⟨Classical.not_not.mp absent, rfl⟩

theorem length_read_le {limit : Nat} {pipe rest : Pipe} {octets : Bytes}
    (given : pipe.read limit = (.ready octets, rest)) : octets.length ≤ limit := by
  unfold read at given
  split at given
  · cases given
    exact List.length_take_le _ _
  · split at given <;> cases given
    exact Nat.zero_le _

@[simp] theorem capacity_read (limit : Nat) (pipe : Pipe) :
    (pipe.read limit).2.capacity = pipe.capacity := by
  unfold read
  split
  · rfl
  · split <;> rfl

@[simp] theorem capacity_write (octets : Bytes) (pipe : Pipe) :
    (pipe.write octets).2.capacity = pipe.capacity := by
  unfold write
  split
  · rfl
  · split <;> rfl

@[simp] theorem closed_write (octets : Bytes) (pipe : Pipe) :
    (pipe.write octets).2.closed = pipe.closed := by
  unfold write
  split
  · rfl
  · split <;> rfl

theorem closed_of_write {octets : Bytes} {pipe rest : Pipe} {answer : Poll (Except IoError Nat)}
    (given : pipe.write octets = (answer, rest)) : rest.closed = pipe.closed := by
  have kept := closed_write octets pipe
  rwa [given] at kept

/-- A write that takes nothing changes nothing. -/
theorem write_refused {octets : Bytes} {pipe rest : Pipe} {answer : Poll (Except IoError Nat)}
    (given : pipe.write octets = (answer, rest))
    (refused : ∀ accepted, answer ≠ .ready (.ok accepted)) : rest = pipe := by
  unfold write at given
  split at given
  · cases given
    rfl
  · split at given <;> cases given
    · rfl
    · exact absurd rfl (refused _)

/-- Only a closed pipe refuses to be written to. -/
theorem write_error {octets : Bytes} {pipe rest : Pipe} {error : IoError}
    (failed : pipe.write octets = (.ready (.error error), rest)) : pipe.closed = true := by
  unfold write at failed
  split at failed
  · assumption
  · split at failed <;> cases failed

/-- A write that waits has something to write, and the pipe is open and has no room. -/
theorem write_pending {octets : Bytes} {pipe rest : Pipe}
    (waits : pipe.write octets = (.pending, rest)) :
    pipe.closed = false ∧ octets ≠ [] ∧ pipe.free = 0 ∧ rest = pipe := by
  unfold write at waits
  split at waits
  · cases waits
  · rename_i isOpen
    split at waits <;> cases waits
    rename_i full
    exact ⟨Bool.eq_false_iff.mpr isOpen, full.1, full.2, rfl⟩

theorem write_of_full {octets : Bytes} {pipe : Pipe} (isOpen : pipe.closed = false)
    (nonempty : octets ≠ []) (full : pipe.free = 0) : pipe.write octets = (.pending, pipe) := by
  simp only [write, isOpen, Bool.false_eq_true, ↓reduceIte, nonempty, full, ne_eq,
    not_false_eq_true, and_self]

/-- A write that takes anything leaves the pipe as it was but for the octets behind. -/
theorem write_accepted {octets : Bytes} {pipe rest : Pipe} {accepted : Nat}
    (taken : pipe.write octets = (.ready (.ok accepted), rest)) :
    pipe.closed = false ∧ rest.closed = false ∧ accepted ≤ octets.length ∧
      (octets ≠ [] → 0 < accepted) := by
  unfold write at taken
  split at taken
  · cases taken
  · rename_i isOpen
    have closed : pipe.closed = false := Bool.eq_false_iff.mpr isOpen
    split at taken <;> cases taken
    rename_i room
    refine ⟨closed, closed, Nat.min_le_left _ _, ?_⟩
    intro nonempty
    have free : pipe.free ≠ 0 := fun full => room ⟨nonempty, full⟩
    have length := List.length_pos_iff.mpr nonempty
    omega

/-- A write takes all that it is given, or all the room that there is. -/
theorem room_write {octets : Bytes} {pipe rest : Pipe} {accepted : Nat}
    (taken : pipe.write octets = (.ready (.ok accepted), rest)) :
    octets.drop accepted = [] ∨ rest.free = 0 := by
  unfold write at taken
  split at taken
  · cases taken
  · split at taken <;> cases taken
    rcases Nat.le_total octets.length pipe.free with enough | short
    · left
      rw [Nat.min_eq_left enough, List.drop_length]
    · right
      simp only [free, List.length_append, List.length_take] at short ⊢
      omega

theorem write_of_closed {pipe : Pipe} (octets : Bytes) (closed : pipe.closed = true) :
    pipe.write octets = (.ready (.error .brokenPipe), pipe) := by
  simp only [write, closed, ↓reduceIte]

end Pipe

namespace Wire

/-- What is read comes off the front of the input; nothing else of the wire changes. -/
theorem read_octets {limit : Nat} {wire rest : Wire} {octets : Bytes}
    (given : wire.read limit = (.ready (.ok octets), rest)) :
    octets ++ rest.input = wire.input ∧ rest.link.outbound = wire.link.outbound ∧
      rest.channel.isOpen = wire.channel.isOpen ∧
      rest.link.inbound.closed = wire.link.inbound.closed := by
  unfold read at given
  split at given
  · simp only [Prod.mk.injEq, Poll.ready.injEq, Except.ok.injEq] at given
    obtain ⟨rfl, rfl⟩ := given
    refine ⟨?_, rfl, rfl, rfl⟩
    simp only [input, ← List.append_assoc, List.take_append_drop]
  · rename_i absent
    have returned : wire.channel.returned = [] := Classical.not_not.mp absent
    split at given
    · split at given
      · rename_i held inbound taken
        simp only [Prod.mk.injEq, Poll.ready.injEq, Except.ok.injEq] at given
        obtain ⟨rfl, rfl⟩ := given
        refine ⟨?_, rfl, rfl, Pipe.closed_read taken⟩
        simpa only [input, returned, List.nil_append] using Pipe.read_append taken
      · cases given
    · cases given

theorem length_read_le {limit : Nat} {wire rest : Wire} {octets : Bytes}
    (given : wire.read limit = (.ready (.ok octets), rest)) : octets.length ≤ limit := by
  unfold read at given
  split at given
  · cases given
    exact List.length_take_le _ _
  · split at given
    · split at given
      · rename_i taken
        cases given
        exact Pipe.length_read_le taken
      · cases given
    · cases given

/-- A channel has the endpoints that it had before a read. -/
theorem ends_read (limit : Nat) (wire : Wire) :
    (wire.read limit).2.channel.remote = wire.channel.remote ∧
      (wire.read limit).2.channel.own = wire.channel.own := by
  unfold read
  split
  · exact ⟨rfl, rfl⟩
  · split
    · split <;> exact ⟨rfl, rfl⟩
    · exact ⟨rfl, rfl⟩

@[simp] theorem hasFarEnd_read (limit : Nat) (wire : Wire) :
    (wire.read limit).2.link.hasFarEnd = wire.link.hasFarEnd := by
  unfold read
  split
  · rfl
  · split
    · split <;> rfl
    · rfl

/-- A read waits where there is nothing to be read. -/
theorem read_pending {limit : Nat} {wire rest : Wire}
    (waits : wire.read limit = (.pending, rest)) : wire.input = [] ∧ rest = wire := by
  unfold read at waits
  split at waits
  · cases waits
  · rename_i absent
    have returned : wire.channel.returned = [] := Classical.not_not.mp absent
    split at waits
    · split at waits
      · cases waits
      · rename_i inbound nothing
        cases waits
        obtain ⟨empty, rfl⟩ := Pipe.read_pending nothing
        exact ⟨by simp only [input, returned, empty, List.append_nil], rfl⟩
    · cases waits

/-- A read that gives nothing changes nothing. -/
theorem read_refused {limit : Nat} {wire rest : Wire} {answer : Poll (Except IoError Bytes)}
    (given : wire.read limit = (answer, rest))
    (refused : ∀ octets, answer ≠ .ready (.ok octets)) : rest = wire := by
  cases answer with
  | pending => exact (read_pending given).2
  | ready result =>
    cases result with
    | ok octets => exact absurd rfl (refused octets)
    | error error =>
      unfold read at given
      split at given
      · cases given
      · split at given
        · split at given <;> cases given
        · cases given
          rfl

/-- Where nothing was put back, a read is one of the link. -/
theorem read_fresh {limit : Nat} {wire rest : Wire} {answer : Poll (Except IoError Bytes)}
    (fresh : wire.channel.returned = []) (given : wire.read limit = (answer, rest)) :
    rest.channel = wire.channel ∧
      rest.link.inbound.capacity = wire.link.inbound.capacity := by
  unfold read at given
  rw [if_neg (not_not_intro fresh)] at given
  split at given
  · have capacity := Pipe.capacity_read limit wire.link.inbound
    split at given <;> cases given
    all_goals
      rename_i taken
      rw [taken] at capacity
      exact ⟨rfl, capacity⟩
  · cases given
    exact ⟨rfl, rfl⟩

/-- Only a channel without its link fails to read. -/
theorem read_error {limit : Nat} {wire rest : Wire} {error : IoError}
    (failed : wire.read limit = (.ready (.error error), rest)) : wire.channel.isOpen = false := by
  unfold read at failed
  split at failed
  · cases failed
  · split at failed
    · split at failed <;> cases failed
    · rename_i closed
      exact Bool.eq_false_iff.mpr closed

/-- A read that finds the end finds it behind all input. -/
theorem read_end {limit : Nat} {wire rest : Wire} (positive : 0 < limit)
    (given : wire.read limit = (.ready (.ok []), rest)) :
    wire.input = [] ∧ wire.link.inbound.closed = true ∧ rest = wire := by
  unfold read at given
  split at given
  · rename_i present
    simp only [Prod.mk.injEq, Poll.ready.injEq, Except.ok.injEq, List.take_eq_nil_iff] at given
    rcases given.1 with zero | empty
    · omega
    · exact absurd empty present
  · rename_i absent
    have returned : wire.channel.returned = [] := Classical.not_not.mp absent
    split at given
    · split at given
      · rename_i held inbound taken
        simp only [Prod.mk.injEq, Poll.ready.injEq, Except.ok.injEq] at given
        obtain ⟨rfl, rfl⟩ := given
        obtain ⟨empty, closed, rfl⟩ := Pipe.read_end positive taken
        exact ⟨by simp only [input, returned, empty, List.append_nil], closed, rfl⟩
      · cases given
    · cases given

/-- What is written goes behind what the far end has not yet read; the input stays. -/
theorem write_octets {octets : Bytes} {wire rest : Wire} {accepted : Nat}
    (taken : wire.write octets = (.ready (.ok accepted), rest)) :
    rest.link.outbound.held = wire.link.outbound.held ++ octets.take accepted ∧
      rest.channel = wire.channel ∧ rest.link.inbound = wire.link.inbound ∧
      accepted ≤ octets.length ∧ (octets ≠ [] → 0 < accepted) := by
  unfold write at taken
  split at taken
  · cases written : wire.link.outbound.write octets with
    | mk answer outbound =>
      simp only [written, Prod.mk.injEq] at taken
      obtain ⟨rfl, rfl⟩ := taken
      have accounted := Pipe.write_accepted written
      exact ⟨Pipe.held_write written, rfl, rfl, accounted.2.2⟩
  · cases taken

/-- A write leaves what is to be read as it was. -/
theorem input_of_write {octets : Bytes} {wire rest : Wire} {accepted : Nat}
    (taken : wire.write octets = (.ready (.ok accepted), rest)) : rest.input = wire.input := by
  obtain ⟨-, channel, inbound, -⟩ := write_octets taken
  rw [input, input, channel, inbound]

/-- What a channel takes, its link takes. -/
theorem outbound_of_write {octets : Bytes} {wire rest : Wire} {accepted : Nat}
    (taken : wire.write octets = (.ready (.ok accepted), rest)) :
    wire.link.outbound.write octets = (.ready (.ok accepted), rest.link.outbound) := by
  unfold write at taken
  split at taken
  · simp only [Prod.mk.injEq] at taken
    obtain ⟨same, rfl⟩ := taken
    exact Prod.ext same rfl
  · cases taken

/-- A write that takes nothing changes nothing. -/
theorem write_refused {octets : Bytes} {wire rest : Wire} {answer : Poll (Except IoError Nat)}
    (given : wire.write octets = (answer, rest))
    (refused : ∀ accepted, answer ≠ .ready (.ok accepted)) : rest = wire := by
  unfold write at given
  split at given
  · cases written : wire.link.outbound.write octets with
    | mk outcome outbound =>
      rw [written] at given
      cases given
      rw [Pipe.write_refused written refused]
  · cases given
    rfl

/-- A write neither ends what the channel writes nor changes how much room there is for it. -/
theorem outbound_write {octets : Bytes} {wire rest : Wire} {answer : Poll (Except IoError Nat)}
    (given : wire.write octets = (answer, rest)) :
    rest.link.outbound.closed = wire.link.outbound.closed ∧
      rest.link.outbound.capacity = wire.link.outbound.capacity ∧
      rest.link.hasFarEnd = wire.link.hasFarEnd := by
  unfold write at given
  split at given <;> cases given
  · exact ⟨Pipe.closed_write _ _, Pipe.capacity_write _ _, rfl⟩
  · exact ⟨rfl, rfl, rfl⟩

/-- Nothing goes into a pipe that is closed. -/
theorem write_unclosed {octets : Bytes} {wire rest : Wire} {accepted : Nat}
    (taken : wire.write octets = (.ready (.ok accepted), rest)) :
    wire.link.outbound.closed = false := by
  unfold write at taken
  split at taken
  · cases written : wire.link.outbound.write octets with
    | mk answer outbound =>
      simp only [written, Prod.mk.injEq] at taken
      obtain ⟨rfl, -⟩ := taken
      exact (Pipe.write_accepted written).1
  · cases taken

/-- A write fails without the link, or when nobody will read it. -/
theorem write_error {octets : Bytes} {wire rest : Wire} {error : IoError}
    (failed : wire.write octets = (.ready (.error error), rest)) :
    wire.channel.isOpen = false ∨ wire.link.outbound.closed = true := by
  unfold write at failed
  split at failed
  · simp only [Prod.mk.injEq] at failed
    exact .inr (Pipe.write_error (Prod.ext failed.1 rfl))
  · rename_i closed
    exact .inl (Bool.eq_false_iff.mpr closed)

/-- A write waits exactly when the channel has its link, the pipe is open and full, and there is
something to write. -/
theorem write_pending_iff {octets : Bytes} {wire : Wire} :
    (wire.write octets).1 = .pending ↔ wire.channel.isOpen = true ∧
      wire.link.outbound.closed = false ∧ octets ≠ [] ∧ wire.link.outbound.free = 0 := by
  constructor
  · intro waits
    unfold write at waits
    split at waits
    · rename_i isOpen
      have pending : wire.link.outbound.write octets =
          (.pending, (wire.link.outbound.write octets).2) := Prod.ext waits rfl
      obtain ⟨unclosed, nonempty, full, -⟩ := Pipe.write_pending pending
      exact ⟨isOpen, unclosed, nonempty, full⟩
    · cases waits
  · rintro ⟨isOpen, unclosed, nonempty, full⟩
    simp only [write, isOpen, ↓reduceIte, Pipe.write_of_full unclosed nonempty full]

@[simp] theorem outbound_held_close (wire : Wire) :
    wire.close.link.outbound.held = wire.link.outbound.held := by
  unfold close
  split <;> rfl

@[simp] theorem isOpen_close (wire : Wire) : wire.close.channel.isOpen = false := by
  unfold close
  split
  · rfl
  · rename_i closed
    exact Bool.eq_false_iff.mpr closed

@[simp] theorem channel_shutdown (wire : Wire) : wire.shutdown.channel = wire.channel := by
  unfold shutdown
  split <;> rfl

@[simp] theorem outbound_held_shutdown (wire : Wire) :
    wire.shutdown.link.outbound.held = wire.link.outbound.held := by
  unfold shutdown
  split <;> rfl

/-- The channel has given its link up, and neither end can write to the other any more. -/
structure IsShut (wire : Wire) : Prop where
  released : wire.channel.isOpen = false
  inbound : wire.link.inbound.closed = true
  outbound : wire.link.outbound.closed = true

theorem isShut_close {wire : Wire} (isOpen : wire.channel.isOpen = true) : wire.close.IsShut := by
  simp only [close, isOpen, ↓reduceIte]
  exact ⟨rfl, rfl, rfl⟩

theorem IsShut.close {wire : Wire} (shut : wire.IsShut) : wire.close.IsShut := by
  simp only [Wire.close, shut.released, Bool.false_eq_true, ↓reduceIte]
  exact ⟨rfl, shut.inbound, shut.outbound⟩

end Wire

end SocksGateway
