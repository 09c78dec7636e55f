import SocksGateway.Proofs.Session.Conversation
import SocksGateway.Proofs.Session.Strides

/-!
The end of a session. Behind the handshake the client gets the replies to its request and what the
other host has sent, and nothing else; once a relay has had the connection the session has nothing more
to say, and when the session is done the connection is closed.
-/

set_option autoImplicit false

namespace SocksGateway

/-- Nothing is done but to ask whether the connection is the session's own, and to close it. -/
def Deed.IsClosing : Deed → Prop
  | .whetherOpen _ | .close => True
  | _ => False

namespace Dialogue

variable {dialogue : Dialogue} {deed : Deed}

theorem isClosing_of_permits (closed : dialogue.isOpen = false) (permits : dialogue.Permits deed) :
    deed.IsClosing := by
  have never (isOpen : dialogue.isOpen = true) : deed.IsClosing := by
    rw [closed] at isOpen
    cases isOpen
  cases deed with
  | whetherOpen | close => trivial
  | protect => exact permits
  | read | unread | dial | accept | takeUp | relay => exact never permits.1
  | _ => exact never permits

/-- Nothing is heard on a connection that is not the session's own, and it does not become so again. -/
theorem after_of_closed (closed : dialogue.isOpen = false) (fits : dialogue.Fits deed) :
    (dialogue.after deed).isOpen = false ∧ (dialogue.after deed).heard <+: dialogue.heard := by
  cases deed with
  | read limit answer =>
    cases answer with
    | error error => exact ⟨closed, List.prefix_rfl⟩
    | ok octets =>
      have isOpen := fits.1
      rw [closed] at isOpen
      cases isOpen
  | unread octets => exact ⟨closed, List.take_prefix _ _⟩
  | write octets answer =>
    cases answer with
    | ok => exact ⟨closed, List.prefix_rfl⟩
    | error error =>
      exact ⟨(isOpen_tellInPart octets dialogue).trans closed,
        heard_tellInPart octets dialogue ▸ List.prefix_rfl⟩
  | dial endpoint answer => cases answer <;> exact ⟨closed, List.prefix_rfl⟩
  | accept window answer => cases answer <;> exact ⟨closed, List.prefix_rfl⟩
  | takeUp answer => cases answer <;> exact ⟨closed, List.prefix_rfl⟩
  | relay | close => exact ⟨rfl, List.prefix_rfl⟩
  | _ => exact ⟨closed, List.prefix_rfl⟩

end Dialogue

/-- What is left to do for a session without its connection. -/
theorem Session.isClosing_of_closed {α : Type} {manners : Manners} {post : α → Dialogue → Prop}
    {session rest : Session α} {dialogue : Dialogue} {deeds : List Deed}
    (keeps : session.Keeps manners.Admits post dialogue) (path : session.Along deeds rest)
    (fits : dialogue.FitsAll deeds) (closed : dialogue.isOpen = false)
    (plain : manners.IsPlain dialogue.heard) : ∀ deed ∈ deeds, deed.IsClosing := by
  induction path generalizing dialogue with
  | here => exact List.forall_mem_nil _
  | step first _ ih =>
    obtain ⟨admits, goesOn⟩ := keeps_step keeps first fits.1
    obtain ⟨stillClosed, heard⟩ := Dialogue.after_of_closed closed fits.1
    have stillPlain := manners.isPlain_of_front heard plain
    exact List.forall_mem_cons.mpr
      ⟨Dialogue.isClosing_of_permits closed (admits stillPlain).permits,
        ih goesOn fits.2 stillClosed stillPlain⟩

namespace Protocol

variable {protocol : Protocol}

/-- At every moment of a session without a security context, the client was handed a front of the
handshake, the replies to its request and what the other host has sent, with no more replies than its
command may get. Once a relay has had the connection nothing is written by the session, and when it is
done the connection is closed. -/
theorem replies_then_hostSent (isSetUp : protocol.IsSetUp) (peer : Peer) :
    (∀ (remote : Endpoint) (room : Nat) (putBack : Bytes) (network : Network)
        (whenCancelled : Option (Except Failure Unit)) (occurrences : List Occurrence),
      let course := (Course.start (protocol.handle peer).run remote room putBack network
        whenCancelled).run occurrences
      protocol.IsPlain course.sent →
        (∃ handshake replies, protocol.IsHandshake handshake ∧
          (∀ octets ∈ replies, protocol.IsReply octets) ∧
          (replies = [] ∨ ∃ user command front, protocol.Asks handshake user command front ∧
            front <+: course.sent ∧ replies.length ≤ Command.allowance command) ∧
          course.handed <+: (handshake ++ replies).flatten ++ course.hostSent) ∧
        (course.live.result.isSome = true →
          ∃ wire, course.live.scene.front = .bare wire ∧ wire.IsShut)) ∧
    ∀ (before after : List Deed) (window : Duration) (answer : Except Failure Unit)
        (rest : Session (Except Failure Unit)),
      (protocol.handle peer).run.Along (before ++ .relay window answer :: after) rest →
        Dialogue.fresh.FitsAll (before ++ .relay window answer :: after) →
        protocol.IsPlain (Dialogue.fresh.run before).heard → ∀ deed ∈ after, deed.IsClosing := by
  have minds : Course.Minds protocol.manners (protocol.handle peer).run .fresh :=
    Session.keeps_mono (isSetUp.handle_keeps peer) (fun _ _ admits => admits) <| by
      rintro (failure | value) after closed <;> exact closed
  have silent : protocol.Speaks .fresh := by
    apply speaks_of_handshake
    cases isSetUp with
    | socks4 => rfl
    | socks5 => exact .inl rfl
  refine ⟨?_, ?_⟩
  · intro remote room putBack network whenCancelled occurrences course plain
    have phase : Course.Phase protocol.manners course :=
      (Course.Phase.start minds silent remote room putBack network whenCancelled).run occurrences
        plain
    obtain ⟨dialogue, ⟨handshake, replies, told, isHandshake, each, few⟩, kept, heard, handed⟩ :=
      (phase.faithful plain).handed
    rw [Counterpart.excess_of_ne kept] at few
    refine ⟨⟨handshake, replies, isHandshake, each, ?_, told ▸ handed⟩, phase.shut⟩
    refine few.imp_right ?_
    rintro ⟨user, command, front, asks, inside, short⟩
    exact ⟨user, command, front, asks, inside.trans heard, short⟩
  · intro before after window answer rest path fits plain
    obtain ⟨fitsBefore, fitsRelay, fitsAfter⟩ := Dialogue.fitsAll_append.mp fits
    obtain ⟨middle, front, back⟩ := Session.exists_along_of_append path
    have goesOn := Session.keeps_along minds front fitsBefore
    cases back with
    | step first others =>
      exact Session.isClosing_of_closed (Session.keeps_step goesOn first fitsRelay).2 others fitsAfter
        rfl plain

/-- Every endpoint is reached. -/
def nearby : Network :=
  { Network.unreachable with dial := fun _ => .connected ⟨.v4 ⟨127, 0, 0, 1⟩, 50000⟩ }

/-- A client asks for a connection, the host greets it, and the client ends. -/
def greeting : List Occurrence :=
  .client (.send [4, 1, 0, 80, 192, 0, 2, 1, 0]) :: List.replicate 5 .stride ++
    [.host (.send [72, 105]), .stride, .client .shutdown, .stride, .stride]

def openService : Protocol := .socks4 { policy := .permissive }

def guest : Peer :=
  { remote := ⟨.unspecified, 40000⟩, own := none, window := .ofSeconds 60 }

/-- The greeting comes behind the one reply, and the connection is closed. -/
theorem replies_then_hostSent_greeting :
    let course := (Course.start (openService.handle guest).run guest.remote 100 [] nearby none).run
      greeting
    course.handed = [0, 90, 0, 80, 0, 0, 0, 0] ++ [72, 105] ∧ course.hostSent = [72, 105] ∧
      course.live.result.isSome = true ∧
      (∃ handshake replies, openService.IsHandshake handshake ∧
        (∀ octets ∈ replies, openService.IsReply octets) ∧
        (replies = [] ∨ ∃ user command front, openService.Asks handshake user command front ∧
          front <+: course.sent ∧ replies.length ≤ Command.allowance command) ∧
        course.handed <+: (handshake ++ replies).flatten ++ course.hostSent) ∧
      ∃ wire, course.live.scene.front = .bare wire ∧ wire.IsShut := by
  intro course
  have ended : course.live.result.isSome = true := rfl
  have holds := (replies_then_hostSent (.socks4 { policy := .permissive }) guest).1 guest.remote 100
    [] nearby none greeting trivial
  exact ⟨rfl, rfl, ended, holds.1, holds.2 ended⟩

end Protocol

end SocksGateway
