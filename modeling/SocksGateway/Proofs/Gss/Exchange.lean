import SocksGateway.Gss.Negotiation
import SocksGateway.Proofs.Session.Dialogue

/-!
How a security context is established: which tokens of a client lead to it, what is sent in reply, and
how the level of protection is settled. A handler that succeeds has had one of these exchanges.
-/

set_option autoImplicit false

namespace SocksGateway.Gss

open Handler

/-- What the gateway sends during a negotiation. -/
def IsMessage (octets : Bytes) : Prop :=
  octets = Frame.abort ∨ ∃ kind payload, kind ≠ .data ∧ Frame.encode kind payload = .ok octets

/-- What is sent when a token has led to a context: the reply to it, which may be empty where the
context needs no more tokens. -/
inductive Answers : Context → Bytes → List Bytes → Prop where
  | silence {principal : Option String} {protection : Protection} :
      Answers (.established principal protection) [] []
  | last {principal : Option String} {protection : Protection} {reply message : Bytes}
      (present : reply ≠ []) (framed : Frame.encode .token reply = .ok message) :
      Answers (.established principal protection) reply [message]
  | more {reply : Bytes} {replies : Bytes → Bytes} {next : Bytes → Context} {message : Bytes}
      (framed : Frame.encode .token reply = .ok message) :
      Answers (.awaiting replies next) reply [message]

/-- Tokens that lead a context to its end, with what each side sends. -/
inductive Establishes : Context → Bytes → List Bytes → Option String → Protection → Prop where
  | established (principal : Option String) (protection : Protection) :
      Establishes (.established principal protection) [] [] principal protection
  | token {reply : Bytes → Bytes} {next : Bytes → Context} {token frame heard : Bytes}
      {messages told : List Bytes} {principal : Option String} {protection : Protection}
      (framed : Frame.encode .token token = .ok frame)
      (answered : Answers (next token) (reply token) messages)
      (others : Establishes (next token) heard told principal protection) :
      Establishes (.awaiting reply next) (frame ++ heard) (messages ++ told) principal protection

/-- The exchange about the level of protection: one octet under the protection, which is sent back. -/
inductive Agrees (protection : Protection) : Bytes → List Bytes → Prop where
  | intro {request frame reply message : Bytes} {level : UInt8}
      (framed : Frame.encode .protectionLevel request = .ok frame)
      (unwrapped : protection.unwrap request = some [level])
      (wrapped : protection.wrap [level] = some reply)
      (answered : Frame.encode .protectionLevel reply = .ok message) :
      Agrees protection frame [message]

/-- A whole negotiation: a context is established for a client who has a name, and the level of
protection is settled. -/
inductive Negotiates (context : Context) (name : String) (protection : Protection) :
    Bytes → List Bytes → Prop where
  | intro {tokens level : Bytes} {replies answers : List Bytes} (named : name ≠ "")
      (establishes : Establishes context tokens replies (some name) protection)
      (agrees : Agrees protection level answers) :
      Negotiates context name protection (tokens ++ level) (replies ++ answers)

/-! ## Frames -/

theorem checkHead_eq_ok_iff {expected : FrameKind} {version kind : UInt8} :
    Frame.checkHead expected version kind = .ok () ↔
      version = Frame.version ∧ kind = expected.toByte := by
  unfold Frame.checkHead
  split
  · rename_i other
    simp only [reduceCtorEq, other, false_and]
  · rename_i same
    split
    · rename_i aborted
      have distinct : kind ≠ expected.toByte := by
        rw [aborted]
        cases expected <;> decide
      simp only [reduceCtorEq, distinct, and_false]
    · split
      · rename_i other
        simp only [reduceCtorEq, other, and_false]
      · rename_i expectedKind
        simp only [Classical.not_not.mp same, Classical.not_not.mp expectedKind, and_self]

theorem encode_eq_ok_iff {kind : FrameKind} {payload octets : Bytes} :
    Frame.encode kind payload = .ok octets ↔ payload.length < 65536 ∧
      octets = Frame.version :: kind.toByte ::
        Bytes.ofWord (UInt16.ofNat payload.length) ++ payload := by
  unfold Frame.encode
  split
  · rename_i short
    simp only [Except.ok.injEq, short, true_and, eq_comm]
  · rename_i long
    simp only [reduceCtorEq, long, false_and]

theorem ofResult_format {α : Type} (result : Except Failure α) :
    HasFormat (ofResult result) fun octets value => octets = [] ∧ result = .ok value := by
  cases result with
  | ok given =>
    apply (HasFormat.pure given).of_iff
    intro octets value
    simp only [Except.ok.injEq]
  | error failure =>
    apply (HasFormat.throw failure).of_iff
    intro octets value
    simp only [reduceCtorEq, and_false]

theorem required_format {α : Type} (given : Option α) :
    HasFormat (required given) fun octets value => octets = [] ∧ given = some value := by
  cases given with
  | some present =>
    apply (HasFormat.pure present).of_iff
    intro octets value
    simp only [Option.some.injEq]
  | none =>
    apply (HasFormat.throw _).of_iff
    intro octets value
    simp only [reduceCtorEq, and_false]

theorem readFrame_format (kind : FrameKind) : HasFormat (readFrame kind) fun octets payload =>
    Frame.encode kind payload = .ok octets := by
  apply HasFormat.of_iff (.bind (.within (.readExactly 2)) (?rest : ∀ given,
    HasFormat _ fun octets payload => ∃ length, given = [Frame.version, kind.toByte] ∧
      octets = Bytes.ofWord length ++ payload ∧ payload.length = length.toNat))
  case rest =>
    intro given
    split
    · rename_i version given
      apply HasFormat.of_iff (.bind (ofResult_format _) fun _ => .bind .readWord fun length =>
        .readExactly length.toNat)
      intro octets payload
      constructor
      · rintro ⟨_, _, _, rfl, ⟨rfl, checked⟩, _, _, length, rfl, rfl, size, rfl⟩
        obtain ⟨rfl, rfl⟩ := checkHead_eq_ok_iff.mp checked
        exact ⟨length, rfl, rfl, size⟩
      · rintro ⟨length, same, rfl, size⟩
        simp only [List.cons.injEq, and_true] at same
        exact ⟨[], _, (), rfl, ⟨rfl, checkHead_eq_ok_iff.mpr same⟩, _, _, length, rfl, rfl, size, rfl⟩
    · rename_i other
      apply (HasFormat.fail _).of_iff
      intro octets payload
      refine ⟨False.elim, ?_⟩
      rintro ⟨_, rfl, -⟩
      exact other _ _ rfl
  intro octets payload
  rw [encode_eq_ok_iff]
  constructor
  · rintro ⟨_, _, _, rfl, ⟨-, rfl⟩, length, rfl, rfl, size⟩
    refine ⟨size ▸ length.toNat_lt, ?_⟩
    rw [size, UInt16.ofNat_toNat]
    rfl
  · rintro ⟨short, rfl⟩
    refine ⟨[Frame.version, kind.toByte], _, _, rfl, ⟨rfl, rfl⟩, _, rfl, rfl, ?_⟩
    rw [UInt16.toNat_ofNat']
    omega

/-! ## Negotiations -/

section Negotiations

variable {start dialogue : Dialogue}

theorem writeFrame_converses {kind : FrameKind} {payload : Bytes} (isControl : kind ≠ .data)
    (extended : Dialogue.Extends IsMessage start dialogue) :
    Converses IsMessage start (fun _ after => ∃ message, Frame.encode kind payload = .ok message ∧
      after = dialogue.tell message ∧ Dialogue.Extends IsMessage start after)
      (writeFrame kind payload) dialogue := by
  apply keeps_bind ((ofResult_format (Frame.encode kind payload)).converses extended)
  rintro message _ ⟨octets, rfl, rfl, framed⟩
  rw [Dialogue.hear_nil]
  apply converses_mono (write_converses (Or.inr ⟨kind, payload, isControl, framed⟩) extended)
  rintro _ _ ⟨rfl, sent⟩
  exact ⟨message, framed, rfl, sent⟩

theorem agree_converses {principal : Option String} {protection : Protection}
    (extended : Dialogue.Extends IsMessage start dialogue) :
    Converses IsMessage start
      (fun known after => principal = some known.1 ∧ known.1 ≠ "" ∧ known.2 = protection ∧
        ∃ heard told, Agrees protection heard told ∧ after = dialogue.pass heard told ∧
          Dialogue.Extends IsMessage start after)
      (agree principal protection) dialogue := by
  unfold agree
  split
  · exact keeps_fail extended
  · rename_i name found
    obtain ⟨known, named⟩ := Option.filter_eq_some_iff.mp found
    apply keeps_bind ((readFrame_format .protectionLevel).converses extended)
    rintro request _ ⟨frame, rfl, framed⟩
    apply keeps_bind ((required_format _).converses (extended.hear frame))
    rintro level _ ⟨_, rfl, rfl, unwrapped⟩
    rw [Dialogue.hear_nil]
    apply keeps_unless (fun _ => extended.hear frame)
    intro single
    apply keeps_bind ((required_format _).converses (extended.hear frame))
    rintro reply _ ⟨_, rfl, rfl, wrapped⟩
    rw [Dialogue.hear_nil]
    apply keeps_bind (writeFrame_converses (by decide) (extended.hear frame))
    rintro _ _ ⟨message, answered, rfl, sent⟩
    obtain ⟨octet, rfl⟩ := List.length_eq_one_iff.mp (Classical.not_not.mp single)
    refine keeps_pure ⟨known, ?_, rfl, frame, [message],
      ⟨framed, unwrapped, wrapped, answered⟩, rfl, sent⟩
    rintro rfl
    cases named

/-- A client who becomes known has negotiated, and whatever comes of it, nothing but messages of the
negotiation was sent. -/
theorem establish_converses (context : Context)
    (extended : Dialogue.Extends IsMessage start dialogue) :
    Converses IsMessage start (fun known after => ∃ heard told,
      Negotiates context known.1 known.2 heard told ∧ after = dialogue.pass heard told ∧
        Dialogue.Extends IsMessage start after)
      (establish context) dialogue := by
  induction context generalizing dialogue with
  | refused => exact keeps_throw extended
  | established principal protection =>
    apply converses_mono (agree_converses extended)
    rintro ⟨name, _⟩ _ ⟨rfl, named, rfl, heard, told, agrees, rfl, sent⟩
    exact ⟨heard, told, .intro named (.established _ _) agrees, rfl, sent⟩
  | awaiting reply next ih =>
    unfold establish
    apply keeps_bind ((readFrame_format .token).converses extended)
    rintro token _ ⟨frame, rfl, framed⟩
    have heard := extended.hear frame
    -- What comes of the context to which the token leads comes of this one.
    have continued (messages : List Bytes) (answered : Answers (next token) (reply token) messages)
        (sent : Dialogue.Extends IsMessage start (dialogue.pass frame messages)) :
        Converses IsMessage start (fun known after => ∃ heard told,
          Negotiates (.awaiting reply next) known.1 known.2 heard told ∧
            after = dialogue.pass heard told ∧ Dialogue.Extends IsMessage start after)
          (establish (next token)) (dialogue.pass frame messages) := by
      apply converses_mono (ih token sent)
      rintro known _ ⟨_, _, ⟨named, establishes, agrees⟩, rfl, extended⟩
      refine ⟨_, _, .intro named (.token framed answered establishes) agrees, ?_, extended⟩
      simp only [Dialogue.pass_pass, List.append_assoc]
    have replying (answers : ∀ message, Frame.encode .token (reply token) = .ok message →
        Answers (next token) (reply token) [message]) :
        Converses IsMessage start (fun known after => ∃ heard told,
          Negotiates (.awaiting reply next) known.1 known.2 heard told ∧
            after = dialogue.pass heard told ∧ Dialogue.Extends IsMessage start after)
          (do writeFrame .token (reply token); establish (next token)) (dialogue.hear frame) := by
      apply keeps_bind (writeFrame_converses (by decide) heard)
      rintro _ _ ⟨message, encoded, rfl, sent⟩
      exact continued [message] (answers message encoded) sent
    split
    · exact keeps_throw heard
    · rename_i principal protection reached
      rw [reached] at continued replying ⊢
      split
      · rename_i present
        exact replying fun message encoded => .last present encoded
      · rename_i absent
        have silent := continued [] (by rw [Classical.not_not.mp absent]; exact .silence)
        rw [Dialogue.pass_silent] at silent
        exact silent heard
    · rename_i reached
      rw [reached] at continued replying ⊢
      exact replying fun message encoded => .more encoded

end Negotiations

end SocksGateway.Gss
