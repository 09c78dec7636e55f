import SocksGateway.Proofs.Gss.Exchange
import SocksGateway.Proofs.Session.Conversation
import SocksGateway.Proofs.Socks5.Connect

/-!
Whole sessions and the segments in which their clients send. All but the detection of the version read
by fields, and the detection looks at one octet only, so that every session runs alike however the
octets of its client are cut.
-/

set_option autoImplicit false

namespace SocksGateway

open Handler

variable {world : Surroundings}

namespace Handler

theorem isFieldwise_route (policy : RoutePolicy) (target : Target) (user : Option String) :
    IsFieldwise world (route policy target user) := by
  unfold route
  split
  · exact isFieldwise_pure _
  · exact isFieldwise_bind (isFieldwise_resolve _) fun _ => isFieldwise_pure _

theorem isFieldwise_handOver (window : Duration) :
    IsFieldwise world (do ofResult (← effect (Session.relay window))) :=
  isFieldwise_bind (isFieldwise_relay window) isFieldwise_ofResult

theorem isFieldwise_listening (remark : String) (ip : Ip) :
    IsFieldwise world (within remark do ofIo (← effect (Session.listen ip))) :=
  isFieldwise_within (isFieldwise_bind (isFieldwise_listen ip) isFieldwise_ofIo)

theorem isFieldwise_closing {handler : Handler Unit} (inner : IsFieldwise world handler) :
    IsFieldwise world (closing handler) :=
  isFieldwise_bind (isFieldwise_outcome inner) fun result =>
    isFieldwise_bind isFieldwise_close fun _ => isFieldwise_ofResult result

/-- A failure is answered if the connection is still the session's own; the rest comes either way. -/
theorem isFieldwise_replying {α : Type} {octets : Bytes} {rest : Handler α}
    (others : IsFieldwise world rest) :
    IsFieldwise world (do
      let isOpen ← effect Session.whetherOpen
      if isOpen then do
        let _ ← outcome (write octets)
        rest
      else rest) := by
  apply isFieldwise_bind isFieldwise_whetherOpen
  intro isOpen
  split
  · exact isFieldwise_bind (isFieldwise_outcome (isFieldwise_write octets)) fun _ => others
  · exact others

end Handler

/-! ## Security contexts -/

namespace Gss

theorem isFieldwise_readFrame (kind : FrameKind) : IsFieldwise world (readFrame kind) :=
  (readFrame_format kind).reader.isFieldwise world

theorem isFieldwise_writeFrame (kind : FrameKind) (payload : Bytes) :
    IsFieldwise world (writeFrame kind payload) :=
  isFieldwise_bind (isFieldwise_ofResult _) isFieldwise_write

theorem isFieldwise_required {α : Type} (given : Option α) : IsFieldwise world (required given) :=
  (required_format given).reader.isFieldwise world

theorem isFieldwise_agree (principal : Option String) (protection : Protection) :
    IsFieldwise world (agree principal protection) := by
  unfold agree
  split
  · exact isFieldwise_fail _
  · apply isFieldwise_bind (isFieldwise_readFrame _)
    intro request
    apply isFieldwise_bind (isFieldwise_required _)
    intro level
    apply isFieldwise_when (isFieldwise_fail _)
    apply isFieldwise_bind (isFieldwise_required _)
    intro wrapped
    exact isFieldwise_bind (isFieldwise_writeFrame _ _) fun _ => isFieldwise_pure _

theorem isFieldwise_establish (context : Context) : IsFieldwise world (establish context) := by
  induction context with
  | refused => exact isFieldwise_throw _
  | established principal protection => exact isFieldwise_agree principal protection
  | awaiting reply next ih =>
    unfold establish
    apply isFieldwise_bind (isFieldwise_readFrame _)
    intro token
    have onward := ih token
    split
    · exact isFieldwise_throw _
    · exact isFieldwise_when (isFieldwise_writeFrame _ _) onward
    · exact isFieldwise_bind (isFieldwise_writeFrame _ _) fun _ => onward

end Gss

/-! ## Version 5 -/

namespace Socks5

theorem Password.isFieldwise_negotiate (accepts : String → String → Bool) :
    IsFieldwise world (negotiate accepts) := by
  apply isFieldwise_bind (isFieldwise_outcome (readCredentials_format.reader.isFieldwise world))
  intro result
  split
  · apply isFieldwise_bind (isFieldwise_write _)
    intro _
    split
    · exact isFieldwise_pure _
    · exact isFieldwise_throw _
  · apply isFieldwise_when (isFieldwise_throw _)
    exact isFieldwise_bind (isFieldwise_write _) fun _ => isFieldwise_throw _

theorem Authenticator.isFieldwise_authenticate (own : Option Endpoint)
    (authenticator : Authenticator) : IsFieldwise world (authenticator.authenticate own) := by
  cases authenticator with
  | none => exact isFieldwise_pure _
  | password accepts =>
    exact isFieldwise_bind (Password.isFieldwise_negotiate accepts) fun _ => isFieldwise_pure _
  | gss context =>
    apply isFieldwise_bind (isFieldwise_outcome (Gss.isFieldwise_establish context))
    intro result
    split
    · exact isFieldwise_bind (isFieldwise_protect _) fun _ => isFieldwise_pure _
    · exact isFieldwise_bind (isFieldwise_outcome (isFieldwise_write _)) fun _ =>
        isFieldwise_throw _

namespace Service

variable (service : Service) (peer : Peer)

theorem isFieldwise_selectMethod : IsFieldwise world service.selectMethod := by
  apply isFieldwise_bind (isFieldwise_readExactly 2)
  intro octets
  split
  · apply isFieldwise_bind ((checkVersion_format _).reader.isFieldwise world)
    intro _
    apply isFieldwise_bind (isFieldwise_readExactly _)
    intro offered
    split
    · exact isFieldwise_bind (isFieldwise_write _) fun _ => isFieldwise_pure _
    · exact isFieldwise_bind (isFieldwise_write _) fun _ => isFieldwise_fail _
  · exact isFieldwise_fail _

theorem isFieldwise_authenticate : IsFieldwise world (service.authenticate peer) := by
  apply isFieldwise_bind service.isFieldwise_selectMethod
  intro authenticator
  apply isFieldwise_bind (isFieldwise_outcome (authenticator.isFieldwise_authenticate peer.own))
  intro result
  split
  · exact isFieldwise_pure _
  · exact isFieldwise_fail _

end Service

theorem isFieldwise_readTarget (kind : UInt8) : IsFieldwise world (readTarget kind) := by
  apply isFieldwise_bind
    (isFieldwise_outcome ((readAddress_format kind).reader.isFieldwise world))
  intro result
  split
  · exact isFieldwise_pure _
  · split
    · exact isFieldwise_pure _
    · exact isFieldwise_throw _

namespace Request

variable (settings : CommandSettings) (request : Request)

theorem isFieldwise_connectTo (target : Target) :
    IsFieldwise world (request.connectTo settings target) := by
  apply isFieldwise_bind (isFieldwise_route _ _ _)
  intro result
  split
  · exact isFieldwise_write _
  · exact isFieldwise_write _
  · apply isFieldwise_bind (isFieldwise_dial _)
    intro answer
    split
    · exact isFieldwise_fail _
    · exact isFieldwise_write _
    · apply isFieldwise_bind isFieldwise_takingUp
      intro taken
      split
      · exact isFieldwise_write _
      · exact isFieldwise_bind (isFieldwise_write _) fun _ => isFieldwise_handOver _

/-- Waits for a connection on behalf of a client whose target was read. -/
def awaitPeer : Handler Unit := do
  let bound ← within "Failed to open BIND listener" do
    ofIo (← effect (Session.listen request.listeningIp))
  sendReply .succeeded bound
  match ← effect (Session.accept request.window) with
  | .cancelled => fail .cancelled
  | .timedOut => fail (.idle request.window)
  | .failed error => throw ((Failure.ofIo error).within "BIND accept failed")
  | .peer endpoint =>
    sendReply .succeeded endpoint
    takeUp
    ofResult (← effect (Session.relay request.window))

/-- Relays datagrams for a client that has declared where it sends from. -/
def associateFor (declared : Target) : Handler Unit := do
  let terms : AssociationTerms := {
    client := .declared declared request.peer.ip, policy := settings.policy, user := request.user }
  let ip := request.listeningIp
  let bound ← within ("Failed to bind UDP relay on " ++ (Endpoint.mk ip 0).text) do
    ofIo (← effect (Session.associate ip terms))
  sendReply .succeeded bound
  ExceptT.lift (Session.attend (Session.done ()))

/-- What a link of a chain does for a request of which the target was read, if it has read one. -/
def fulfil (link : ChainLink) (target : Option Target) : Handler Unit :=
  match link, target with
  | .unsupported, _ => sendReply .commandNotSupported .unspecified
  | _, none => return
  | .connect, some target => request.connectTo settings target
  | .bind, some _ => request.awaitPeer
  | .udpAssociate, some target => request.associateFor settings target

theorem perform_eq {link : ChainLink} (served : link ≠ .unsupported) :
    request.perform settings link =
      readTarget request.head.kind >>= request.fulfil settings link := by
  cases link with
  | unsupported => exact absurd rfl served
  | connect | bind | udpAssociate =>
    apply congrArg (readTarget request.head.kind >>= ·)
    funext target
    cases target <;> rfl

theorem isFieldwise_awaitPeer : IsFieldwise world request.awaitPeer := by
  apply isFieldwise_bind (isFieldwise_listening _ _)
  intro bound
  apply isFieldwise_bind (isFieldwise_write _)
  intro _
  apply isFieldwise_bind (isFieldwise_accept _)
  intro called
  split
  · exact isFieldwise_fail _
  · exact isFieldwise_fail _
  · exact isFieldwise_throw _
  · apply isFieldwise_bind (isFieldwise_write _)
    intro _
    exact isFieldwise_bind isFieldwise_takeUp fun _ => isFieldwise_handOver _

theorem isFieldwise_associateFor (declared : Target) :
    IsFieldwise world (request.associateFor settings declared) := by
  apply isFieldwise_bind
    (isFieldwise_within (isFieldwise_bind (isFieldwise_associate _ _) isFieldwise_ofIo))
  intro bound
  exact isFieldwise_bind (isFieldwise_write _) fun _ => isFieldwise_attend

theorem isFieldwise_fulfil (link : ChainLink) (target : Option Target) :
    IsFieldwise world (request.fulfil settings link target) := by
  unfold fulfil
  split
  · exact isFieldwise_write _
  · exact isFieldwise_pure _
  · exact request.isFieldwise_connectTo settings _
  · exact request.isFieldwise_awaitPeer
  · exact request.isFieldwise_associateFor settings _

theorem isFieldwise_perform (link : ChainLink) :
    IsFieldwise world (request.perform settings link) := by
  by_cases served : link = .unsupported
  · subst served
    exact isFieldwise_write _
  · rw [request.perform_eq settings served]
    exact isFieldwise_bind (isFieldwise_readTarget _) (request.isFieldwise_fulfil settings link)

end Request

/-- What is answered to a client, as far as that is possible, for what its request has come to. -/
def Chain.answer : Except Failure Unit → Handler Unit
  | .ok () => return
  | .error failure => do
    if failure.isCancelled then throw failure
    if failure.unsupportedAddressType?.isSome then replyIfOpen .addressTypeNotSupported
    else do
      replyIfOpen .generalFailure
      throw failure

theorem Chain.dispatch_eq (chain : Chain) (request : Request) :
    chain.dispatch request =
      outcome (request.perform chain.settings (chain.linkFor request.head.command)) >>= answer := by
  apply congrArg (outcome _ >>= ·)
  funext result
  rcases result with _ | ⟨⟩ <;> rfl

theorem Chain.isFieldwise_answer (result : Except Failure Unit) :
    IsFieldwise world (answer result) := by
  unfold answer
  split
  · exact isFieldwise_pure _
  · apply isFieldwise_when (isFieldwise_throw _)
    split
    · exact isFieldwise_replying (isFieldwise_pure _)
    · exact isFieldwise_bind (isFieldwise_replying (isFieldwise_pure _)) fun _ =>
        isFieldwise_throw _

theorem Chain.answer_heeds {guard : Deed → Prop}
    (writes : ∀ octets answer, guard (.write octets answer))
    (asks : ∀ answer, guard (.whetherOpen answer)) (result : Except Failure Unit) :
    Heeds guard (fun _ => True) (answer result) := by
  unfold answer
  split
  · exact heeds_pure trivial
  · apply heeds_when heeds_throw
    split
    · exact replying_heeds (writes _) asks (heeds_pure trivial)
    · exact heeds_then (replying_heeds (writes _) asks (heeds_pure trivial)) fun _ => heeds_throw

theorem Chain.isFieldwise_dispatch (chain : Chain) (request : Request) :
    IsFieldwise world (chain.dispatch request) := by
  rw [dispatch_eq]
  exact isFieldwise_bind (isFieldwise_outcome (request.isFieldwise_perform chain.settings _))
    isFieldwise_answer

theorem Service.isFieldwise_serve (service : Service) (peer : Peer) :
    IsFieldwise world (service.serve peer) := by
  apply isFieldwise_bind (service.isFieldwise_authenticate peer)
  intro authenticated
  apply isFieldwise_bind (readHead_format.reader.isFieldwise world)
  intro head
  exact service.chain.isFieldwise_dispatch _

end Socks5

/-! ## Version 4 -/

namespace Socks4.Service

variable (service : Service)

/-- What is done for a request that was read. -/
def fulfil (command : UInt8) (target : Target) (window : Duration) : Handler Unit :=
  match Command.ofByte? command with
  | some .connect => service.connect target window
  | some .bind => bind target window
  | _ => reject

/-- What is answered to a client, as far as that is possible, for what its request has come to. -/
def answer : Except Failure Unit → Handler Unit
  | .ok () => return
  | .error failure => do
    if failure.isCancelled then throw failure
    if ← effect Session.whetherOpen then
      let _ ← outcome reject
    throw failure

theorem serve_eq (window : Duration) : service.serve window = readRequest >>= fun request =>
    outcome (service.fulfil request.command request.target window) >>= answer := by
  apply congrArg (readRequest >>= ·)
  funext request
  apply congrArg (outcome _ >>= ·)
  funext result
  rcases result with _ | ⟨⟩ <;> rfl

theorem isFieldwise_connect (target : Target) (window : Duration) :
    IsFieldwise world (service.connect target window) := by
  apply isFieldwise_bind (isFieldwise_route _ _ _)
  intro result
  split
  · exact isFieldwise_write _
  · apply isFieldwise_bind (isFieldwise_dial _)
    intro answer
    split
    · exact isFieldwise_fail _
    · exact isFieldwise_write _
    · apply isFieldwise_bind isFieldwise_takeUp
      intro _
      exact isFieldwise_bind (isFieldwise_write _) fun _ => isFieldwise_handOver _

theorem isFieldwise_isAnnounced (announced : Target) (peer : Ip) :
    IsFieldwise world (isAnnounced announced peer) := by
  unfold isAnnounced
  split
  · exact isFieldwise_pure _
  · split
    · rename_i answer _
      cases answer <;> exact isFieldwise_pure _
    · apply isFieldwise_bind (isFieldwise_resolve _)
      intro answer
      cases answer <;> exact isFieldwise_pure _

theorem isFieldwise_bind (announced : Target) (window : Duration) :
    IsFieldwise world (bind announced window) := by
  apply Handler.isFieldwise_bind (isFieldwise_listening _ _)
  intro bound
  apply Handler.isFieldwise_bind (isFieldwise_write _)
  intro _
  apply Handler.isFieldwise_bind (isFieldwise_accept _)
  intro called
  split
  · exact isFieldwise_fail _
  · exact isFieldwise_fail _
  · exact isFieldwise_throw _
  · apply Handler.isFieldwise_bind (isFieldwise_isAnnounced _ _)
    intro same
    split
    · apply Handler.isFieldwise_bind (isFieldwise_write _)
      intro _
      exact Handler.isFieldwise_bind isFieldwise_takeUp fun _ => isFieldwise_handOver _
    · exact isFieldwise_write _

theorem isFieldwise_fulfil (command : UInt8) (target : Target) (window : Duration) :
    IsFieldwise world (service.fulfil command target window) := by
  unfold fulfil
  split
  · exact service.isFieldwise_connect _ _
  · exact isFieldwise_bind _ _
  · exact isFieldwise_write _

theorem isFieldwise_answer (result : Except Failure Unit) : IsFieldwise world (answer result) := by
  unfold answer
  split
  · exact isFieldwise_pure _
  · apply isFieldwise_when (isFieldwise_throw _)
    exact isFieldwise_replying (isFieldwise_throw _)

theorem isFieldwise_serve (window : Duration) : IsFieldwise world (service.serve window) := by
  rw [serve_eq]
  exact Handler.isFieldwise_bind (readRequest_format.reader.isFieldwise world) fun request =>
    Handler.isFieldwise_bind (isFieldwise_outcome (service.isFieldwise_fulfil _ _ _))
      isFieldwise_answer

end Socks4.Service

/-! ## Either version -/

namespace Protocol

theorem isFieldwise_handle (protocol : Protocol) (peer : Peer) :
    IsFieldwise world (protocol.handle peer) := by
  cases protocol with
  | socks4 service => exact isFieldwise_closing (service.isFieldwise_serve peer.window)
  | socks5 service => exact isFieldwise_closing (service.isFieldwise_serve peer)

/-- A session under the protocol of its first octet, if there is one for that. -/
def handleBy (protocols : List Protocol) (peer : Peer) (first : Bytes) : Handler Unit :=
  match protocols.find? (·.recognises first) with
  | none => close
  | some protocol => protocol.handle peer

/-- One octet shows the version. -/
theorem handleBy_eq (protocols : List Protocol) (peer : Peer) {first other : Bytes}
    (same : first.head? = other.head?) :
    handleBy protocols peer first = handleBy protocols peer other := by
  rw [handleBy, handleBy, recognises_alike same]

theorem isFieldwise_handleBy (protocols : List Protocol) (peer : Peer) (first : Bytes) :
    IsFieldwise world (handleBy protocols peer first) := by
  unfold handleBy
  split
  · exact isFieldwise_close
  · exact isFieldwise_handle _ peer

theorem peek_run : (outcome (Handler.read peekLength)).run = .read peekLength fun
    | .ok octets => .done (.ok (.ok octets) : Except Failure (Except Failure Bytes))
    | .error error => .done (.ok (.error (.ofIo error))) := by
  apply congrArg (Session.read peekLength)
  funext answer
  cases answer <;> rfl

/-- The octets that were looked at are read again. -/
theorem detect_run_alike (world : Surroundings) (protocols : List Protocol) (peer : Peer)
    {tape : Tape} (isOpen : tape.isOpen = true) :
    ((detect protocols peer).run.run world tape).Alike
      ((handleBy protocols peer tape.input).run.run world tape) := by
  obtain ⟨first, rest, given, whole, -, none, writes, stillOpen⟩ :=
    Tape.read_of_isOpen isOpen (show 0 < peekLength by decide)
  have peeked : (outcome (Handler.read peekLength)).run.run world tape =
      { result := .ok (.ok first), acts := [.read first], tape := rest } := by
    rw [peek_run, Session.run, given]
    rfl
  have head : first.head? = tape.input.head? := by
    cases first with
    | nil => rw [none rfl]
    | cons octet octets => rw [← whole]; rfl
  rw [← handleBy_eq protocols peer head, detect, run_bind_of_eq peeked]
  apply Ran.Alike.after_read
  unfold handleBy
  dsimp only
  cases protocols.find? (·.recognises first) with
  | none => exact .after .closed ⟨rfl, rfl, rfl, writes, rfl⟩
  | some protocol =>
    have returned : (Handler.unread first).run.run world rest =
        { result := .ok (), acts := [], tape := rest.unread first } := rfl
    have restored : (rest.unread first).Alike tape := by
      simp only [Tape.unread, stillOpen, ↓reduceIte]
      exact ⟨whole, writes, isOpen.symm⟩
    dsimp only
    rw [run_bind_of_eq returned]
    exact protocol.isFieldwise_handle peer restored

/-- A session runs alike however the octets of its client are cut, from the very first on. -/
theorem isFieldwise_detect (protocols : List Protocol) (peer : Peer) :
    IsFieldwise world (detect protocols peer) := by
  intro tape other alike
  cases isOpen : tape.isOpen with
  | true =>
    refine (detect_run_alike world protocols peer isOpen).trans ?_
    rw [alike.input]
    exact (isFieldwise_handleBy protocols peer other.input alike).trans
      (.symm (detect_run_alike world protocols peer (alike.isOpen.symm.trans isOpen)))
  | false =>
    have failed {tape : Tape} (closed : tape.isOpen = false) :
        (detect protocols peer).run.run world tape =
          { result := .error (.ofIo .notConnected), acts := [.closed], tape := tape.close } := by
      have peeked : (outcome (Handler.read peekLength)).run.run world tape =
          { result := .ok (.error (.ofIo .notConnected)), acts := [], tape } := by
        rw [peek_run, Session.run]
        simp only [Tape.read, closed, Bool.false_eq_true, ↓reduceIte, Session.run]
      rw [detect, run_bind_of_eq peeked]
      rfl
    rw [failed isOpen, failed (alike.isOpen.symm.trans isOpen)]
    exact ⟨rfl, rfl, rfl, alike.writes, rfl⟩

end Protocol

end SocksGateway
