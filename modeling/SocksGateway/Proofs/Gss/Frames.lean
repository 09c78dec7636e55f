import SocksGateway.Gss.Layer
import SocksGateway.Proofs.Gss.Exchange

/-!
Frames of data one after another. No frame is the front of another, so that octets are the frames of
at most one list of messages, and a reader that is given the front of some frames finds the messages
of those that are complete.
-/

set_option autoImplicit false

namespace SocksGateway.Gss

open Handler

/-- The octets of a frame with a message. -/
def frame (message : Bytes) : Bytes :=
  Frame.version :: FrameKind.data.toByte :: Bytes.ofWord (UInt16.ofNat message.length) ++ message

/-- The frames of messages one after another. -/
def frames (messages : List Bytes) : Bytes := messages.flatMap frame

/-- Messages that are not too long for a frame. -/
def AreShort (messages : List Bytes) : Prop := ∀ message ∈ messages, message.length < 65536

@[simp] theorem frames_nil : frames [] = [] := rfl

@[simp] theorem frames_cons (message : Bytes) (messages : List Bytes) :
    frames (message :: messages) = frame message ++ frames messages := rfl

@[simp] theorem frames_append (messages others : List Bytes) :
    frames (messages ++ others) = frames messages ++ frames others := List.flatMap_append

@[simp] theorem length_frame (message : Bytes) : (frame message).length = message.length + 4 := by
  simp only [frame, List.length_cons, List.length_append, Bytes.length_ofWord]
  omega

theorem frame_ne_nil (message : Bytes) : frame message ≠ [] := List.cons_ne_nil _ _

theorem encode_data_eq_ok_iff {message octets : Bytes} :
    Frame.encode .data message = .ok octets ↔ message.length < 65536 ∧ octets = frame message :=
  encode_eq_ok_iff

/-- A frame is read back, whatever comes behind it. -/
theorem readFrame_reads {message : Bytes} (short : message.length < 65536) :
    (readFrame .data).Reads (frame message) message :=
  (readFrame_format .data).reads_iff.mpr (encode_data_eq_ok_iff.mpr ⟨short, rfl⟩)

/-! ## Reading them -/

/-- Reads the messages of so many frames. -/
def readFrames : (count : Nat) → Handler (List Bytes)
  | 0 => pure []
  | count + 1 => do
    let message ← readFrame .data
    return message :: (← readFrames count)

theorem readFrames_isReader (count : Nat) : IsReader (readFrames count) := by
  induction count with
  | zero => exact .pure _
  | succ count ih => exact .bind (readFrame_format .data).reader fun _ => .bind ih fun _ => .pure _

theorem readFrames_reads {messages : List Bytes} (short : AreShort messages) :
    (readFrames messages.length).Reads (frames messages) messages := by
  induction messages with
  | nil => exact reads_pure []
  | cons message messages ih =>
    refine reads_bind (readFrame_format .data).reader
      (fun _ => .bind (readFrames_isReader messages.length) fun _ => .pure _)
      (readFrame_reads (short message List.mem_cons_self)) ?_
    have others := ih fun other member => short other (List.mem_cons_of_mem message member)
    have both := reads_bind (readFrames_isReader messages.length) (fun given => .pure (message :: given))
      others (reads_pure (message :: messages))
    rwa [List.append_nil] at both

/-! ## Fronts of frames -/

/-- The front of a frame, of which the end is missing. -/
def IsPartial (octets : Bytes) : Prop :=
  ∃ message, message.length < 65536 ∧ octets <+: frame message ∧ octets ≠ frame message

theorem isPartial_nil : IsPartial [] :=
  ⟨[], by decide, List.nil_prefix, (frame_ne_nil []).symm⟩

/-- Octets at the front of frames are complete frames, and a front of the next. -/
theorem exists_of_prefix_frames {octets : Bytes} {messages : List Bytes} (short : AreShort messages)
    (front : octets <+: frames messages) : ∃ count rest,
      octets = frames (messages.take count) ++ rest ∧ IsPartial rest := by
  induction messages generalizing octets with
  | nil =>
    rw [List.prefix_nil.mp front]
    exact ⟨0, [], rfl, isPartial_nil⟩
  | cons message messages ih =>
    rw [frames_cons] at front
    rcases Nat.lt_or_ge octets.length (frame message).length with less | enough
    · refine ⟨0, octets, rfl, message, short message List.mem_cons_self, ?_, ?_⟩
      · exact List.prefix_of_prefix_length_le front (List.prefix_append _ _) (Nat.le_of_lt less)
      · rintro rfl
        exact Nat.lt_irrefl _ less
    · obtain ⟨behind, rfl⟩ :=
        List.prefix_of_prefix_length_le (List.prefix_append _ _) front enough
      have others := (List.prefix_append_right_inj _).mp front
      obtain ⟨count, rest, rfl, missing⟩ :=
        ih (fun other member => short other (List.mem_cons_of_mem message member)) others
      refine ⟨count + 1, rest, ?_, missing⟩
      rw [List.take_succ_cons, frames_cons, List.append_assoc]

/-! ## What is known from the front of a frame -/

theorem progress_of_head {length : Nat} (short : length < 65536) (payload : Bytes) :
    Layer.progress (Frame.version :: FrameKind.data.toByte ::
        Bytes.ofWord (UInt16.ofNat length) ++ payload) =
      if payload.length < length then .missing (length - payload.length) else .complete payload := by
  have checked : Frame.checkHead .data Frame.version FrameKind.data.toByte = .ok () := rfl
  have size : (Bytes.word (UInt8.ofNat ((UInt16.ofNat length).toNat / 256))
      (UInt8.ofNat (UInt16.ofNat length).toNat)).toNat = length := by
    rw [Bytes.word_ofNat, UInt16.toNat_ofNat']
    omega
  simp only [Bytes.ofWord, List.cons_append, List.nil_append, Layer.progress, checked]
  rw [size]

/-- The front of a frame tells how many of its octets are needed next, and never asks for octets of
another. -/
theorem progress_of_prefix {octets message : Bytes} (short : message.length < 65536)
    (front : octets <+: frame message) :
    (octets = frame message ∧ Layer.progress octets = .complete message) ∨
      ∃ count, Layer.progress octets = .missing count ∧ 0 < count ∧
        octets.length + count ≤ (frame message).length := by
  rw [length_frame]
  obtain ⟨rest, whole⟩ := front
  have checked : Frame.checkHead .data Frame.version FrameKind.data.toByte = .ok () := rfl
  match octets with
  | [] => exact .inr ⟨2, rfl, by omega, by simp only [List.length_nil]; omega⟩
  | [_] => exact .inr ⟨1, rfl, by omega, by simp only [List.length_singleton]; omega⟩
  | [version, kind] =>
    simp only [frame, List.cons_append, List.nil_append, List.cons.injEq] at whole
    obtain ⟨rfl, rfl, -⟩ := whole
    refine .inr ⟨2, ?_, by omega, by simp only [List.length_cons, List.length_nil]; omega⟩
    simp only [Layer.progress, checked]
  | [version, kind, high] =>
    simp only [frame, List.cons_append, List.nil_append, List.cons.injEq] at whole
    obtain ⟨rfl, rfl, -⟩ := whole
    refine .inr ⟨1, ?_, by omega, by simp only [List.length_cons, List.length_nil]; omega⟩
    simp only [Layer.progress, checked]
  | version :: kind :: high :: low :: payload =>
    simp only [frame, Bytes.ofWord, List.cons_append, List.nil_append, List.cons.injEq] at whole
    obtain ⟨rfl, rfl, rfl, rfl, split⟩ := whole
    have known := progress_of_head short payload
    have length := congrArg List.length split
    rw [List.length_append] at length
    cases rest with
    | nil =>
      rw [List.append_nil] at split
      subst split
      rw [if_neg (Nat.lt_irrefl _)] at known
      exact .inl ⟨rfl, known⟩
    | cons first others =>
      rw [List.length_cons] at length
      rw [if_pos (by omega)] at known
      refine .inr ⟨_, known, by omega, ?_⟩
      simp only [List.length_cons]
      omega

end SocksGateway.Gss
