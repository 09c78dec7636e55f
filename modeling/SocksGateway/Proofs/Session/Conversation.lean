import SocksGateway.Proofs.Session.Serving
import SocksGateway.Proofs.Socks4.Formats
import SocksGateway.Proofs.Socks5.Gate
import SocksGateway.Session.Detection

/-!
What a session says to its client from the first octet to the last, for either version. After the
handshake come the replies to one request: one at most, and two at most where the client has asked to
bind. The client is handed over when its request was heard to its end, and in the end its connection
is closed.
-/

set_option autoImplicit false

namespace SocksGateway

open Handler

/-- How many replies a command may get. -/
def Command.allowance (command : UInt8) : Nat := if command = Command.bind.toByte then 2 else 1

theorem Command.allowance_pos (command : UInt8) : 0 < Command.allowance command := by
  unfold Command.allowance
  split <;> decide

theorem Command.allowance_bind : Command.allowance Command.bind.toByte = 2 := if_pos rfl

variable {dialogue : Dialogue}

/-! ## Version 5 -/

namespace Socks5

/-- How a request is served of which the head was heard, by a link of a chain. -/
def RequestHead.terms (head : RequestHead) (link : ChainLink) (handshake : List Bytes)
    (heard : Bytes) : Terms where
  IsReply octets := ∃ code bound, octets = reply code bound
  handshake
  request := heard
  allowance := Command.allowance head.command
  IsWhole whole := link ≠ .unsupported ∧ ∃ (octets : Bytes) (target : Target),
    whole = heard ++ octets ∧ target.IsWritable ∧ head.kind :: octets = target.encode

variable {handshake : List Bytes} {heard : Bytes}

theorem readTarget_serves {head : RequestHead} {link : ChainLink}
    (ready : (head.terms link handshake heard).Ready 0 dialogue) :
    ServesBy (head.terms link handshake heard) (fun
        | none => (head.terms link handshake heard).Stranded
        | some target => fun after => ∃ octets, after = dialogue.hear octets ∧
          target.IsWritable ∧ head.kind :: octets = target.encode)
      (readTarget head.kind) dialogue := by
  apply keeps_bind (keeps_outcome
    ((readAddress_format head.kind).serves ready (Command.allowance_pos head.command)))
  rintro (failure | target) between reached
  · dsimp only
    split
    · exact reached
    · exact reached
  · exact reached

namespace Request

variable {request : Request}

theorem connect_serves (settings : CommandSettings)
    (ready : (request.head.terms .connect handshake heard).Ready 0 dialogue)
    (exact : dialogue.heard = heard) (unsought : dialogue.counterpart = .unsought) :
    ServesBy (request.head.terms .connect handshake heard)
      (fun _ => (request.head.terms .connect handshake heard).Settled) (request.connect settings)
      dialogue := by
  have room := Command.allowance_pos request.head.command
  apply keeps_bind (readTarget_serves ready)
  rintro (_ | target) between reached
  · exact reached.toSettled
  · obtain ⟨octets, rfl, named⟩ := reached
    have ready := ready.hear octets
    apply keeps_bind (route_serves settings.policy target request.user ready (Nat.le_of_lt room))
    rintro result _ rfl
    split
    · exact refusal_serves ready room ⟨_, _, rfl⟩
    · exact refusal_serves ready room ⟨_, _, rfl⟩
    · rename_i endpoint
      apply keeps_bind (dial_serves endpoint ready (Nat.le_of_lt room) unsought)
      rintro answer between ⟨ready, same, found⟩
      split
      · exact keeps_fail (ready.stranded room)
      · exact refusal_serves ready room ⟨_, _, rfl⟩
      · rename_i own
        apply keeps_bind (takingUp_serves ready (Nat.le_of_lt room) (found own rfl))
        rintro taken between ⟨ready, still, stands⟩
        split
        · exact refusal_serves ready room ⟨_, _, rfl⟩
        · apply keeps_bind (reply_serves ready room ⟨_, _, rfl⟩)
          rintro _ _ ⟨rfl, ready⟩
          refine relay_serves request.window ready room (stands rfl)
            ⟨by rintro ⟨⟩, octets, target, ?_, named⟩
          rw [Dialogue.heard_tell, still, same, Dialogue.heard_hear, exact]

theorem bind_serves (binds : request.head.command = Command.bind.toByte)
    (ready : (request.head.terms .bind handshake heard).Ready 0 dialogue)
    (exact : dialogue.heard = heard) (unsought : dialogue.counterpart = .unsought) :
    ServesBy (request.head.terms .bind handshake heard)
      (fun _ => (request.head.terms .bind handshake heard).Settled) request.bind dialogue := by
  have two : (request.head.terms .bind handshake heard).allowance = 2 :=
    (congrArg Command.allowance binds).trans Command.allowance_bind
  have room : 0 < (request.head.terms .bind handshake heard).allowance := two ▸ Nat.zero_lt_two
  have more : 1 < (request.head.terms .bind handshake heard).allowance := two ▸ Nat.one_lt_two
  apply keeps_bind (readTarget_serves ready)
  rintro (_ | target) between reached
  · exact reached.toSettled
  · obtain ⟨octets, rfl, named⟩ := reached
    have ready := ready.hear octets
    have listened : ServesBy (request.head.terms .bind handshake heard)
        (fun _ after => after = dialogue.hear octets)
        (within "Failed to open BIND listener" do
          ofIo (← effect (Session.listen request.listeningIp))) (dialogue.hear octets) := by
      apply keeps_within
      apply keeps_bind (listen_serves _ ready (Nat.le_of_lt room))
      rintro answer _ rfl
      exact keeps_ofIo (fun _ _ => ready.stranded room) fun _ _ => rfl
    apply keeps_bind listened
    rintro bound _ rfl
    apply keeps_bind (reply_serves ready room ⟨_, _, rfl⟩)
    rintro _ _ ⟨rfl, ready⟩
    apply keeps_bind (accept_serves request.window ready (Nat.le_of_lt more) unsought)
    rintro called between ⟨ready, same, found⟩
    split
    · exact keeps_fail (ready.stranded more)
    · exact keeps_fail (ready.stranded more)
    · exact keeps_throw (ready.stranded more)
    · rename_i endpoint
      apply keeps_bind (reply_serves ready more ⟨_, _, rfl⟩)
      rintro _ _ ⟨rfl, ready⟩
      apply keeps_bind (takeUp_serves ready more (found endpoint rfl))
      rintro _ _ rfl
      refine relay_serves request.window ready more (found endpoint rfl)
        ⟨by rintro ⟨⟩, octets, target, ?_, named⟩
      rw [Dialogue.heard_tell, same, Dialogue.heard_tell, Dialogue.heard_hear, exact]

theorem associate_serves (settings : CommandSettings)
    (ready : (request.head.terms .udpAssociate handshake heard).Ready 0 dialogue) :
    ServesBy (request.head.terms .udpAssociate handshake heard)
      (fun _ => (request.head.terms .udpAssociate handshake heard).Settled)
      (request.associate settings) dialogue := by
  have room := Command.allowance_pos request.head.command
  apply keeps_bind (readTarget_serves ready)
  rintro (_ | target) between reached
  · exact reached.toSettled
  · obtain ⟨octets, rfl, -⟩ := reached
    have ready := ready.hear octets
    have associated (terms : AssociationTerms) :
        ServesBy (request.head.terms .udpAssociate handshake heard)
          (fun _ after => after = dialogue.hear octets)
          (within ("Failed to bind UDP relay on " ++ (Endpoint.mk request.listeningIp 0).text) do
            ofIo (← effect (Session.associate request.listeningIp terms)))
          (dialogue.hear octets) := by
      apply keeps_within
      apply keeps_bind (Handler.associate_serves _ terms ready (Nat.le_of_lt room))
      rintro answer _ rfl
      exact keeps_ofIo (fun _ _ => ready.stranded room) fun _ _ => rfl
    apply keeps_bind (associated _)
    rintro bound _ rfl
    apply keeps_bind (reply_serves ready room ⟨_, _, rfl⟩)
    rintro _ _ ⟨rfl, ready⟩
    exact attend_serves ready room

theorem perform_serves (settings : CommandSettings) {link : ChainLink}
    (handles : link.handles request.head.command = true)
    (ready : (request.head.terms link handshake heard).Ready 0 dialogue)
    (exact : dialogue.heard = heard) (unsought : dialogue.counterpart = .unsought) :
    ServesBy (request.head.terms link handshake heard)
      (fun _ => (request.head.terms link handshake heard).Settled) (request.perform settings link)
      dialogue := by
  cases link with
  | connect => exact connect_serves settings ready exact unsought
  | bind => exact bind_serves (eq_of_beq handles) ready exact unsought
  | udpAssociate => exact associate_serves settings ready
  | unsupported =>
    have room := Command.allowance_pos request.head.command
    exact refusal_serves ready room ⟨_, _, rfl⟩

end Request

theorem Chain.handles_linkFor (chain : Chain) (command : UInt8) :
    (chain.linkFor command).handles command = true := by
  unfold linkFor
  cases found : chain.links.find? (·.handles command) with
  | none => rfl
  | some link => exact (List.find?_eq_some_iff_append.mp found).1

theorem replyIfOpen_serves {head : RequestHead} {link : ChainLink}
    {failing : Failure → Dialogue → Prop}
    (code : ReplyCode) (stranded : (head.terms link handshake heard).Stranded dialogue) :
    Keeps (head.terms link handshake heard).Serves failing
      (fun _ => (head.terms link handshake heard).Settled) (replyIfOpen code) dialogue :=
  answer_serves stranded (Command.allowance_pos head.command) ⟨_, _, rfl⟩ fun _ settled =>
    keeps_pure settled

/-- Whether it succeeds or fails, a command stays within its allowance. -/
theorem Chain.dispatch_serves (chain : Chain) {request : Request}
    (ready : (request.head.terms (chain.linkFor request.head.command) handshake heard).Ready 0
      dialogue)
    (exact : dialogue.heard = heard) (unsought : dialogue.counterpart = .unsought) :
    let terms := request.head.terms (chain.linkFor request.head.command) handshake heard
    Keeps terms.Serves (fun _ => terms.Settled) (fun _ => terms.Settled) (chain.dispatch request)
      dialogue := by
  apply keeps_bind (keeps_outcome (request.perform_serves chain.settings
    (chain.handles_linkFor request.head.command) ready exact unsought))
  rintro (failure | _) between reached
  · dsimp only at reached ⊢
    apply keeps_unless (fun _ => reached.toSettled)
    intro _
    split
    · exact replyIfOpen_serves _ reached
    · apply keeps_bind (replyIfOpen_serves _ reached)
      exact fun _ _ settled => keeps_throw settled
  · exact reached

end Socks5

/-! ## Version 4 -/

namespace Socks4

/-- How a request is served that was heard. -/
def Request.terms (request : Request) (heard : Bytes) : Terms where
  IsReply octets := ∃ code bound, octets = reply code bound
  handshake := []
  request := heard
  allowance := Command.allowance request.command
  IsWhole whole := whole = heard

variable {request : Request} {heard : Bytes}

theorem reject_serves {count : Nat} (ready : (request.terms heard).Ready count dialogue)
    (room : count < (request.terms heard).allowance) :
    ServesBy (request.terms heard) (fun _ => (request.terms heard).Settled) reject dialogue :=
  refusal_serves ready room ⟨_, _, rfl⟩

namespace Service

theorem connect_serves (service : Service) (target : Target) (window : Duration)
    (ready : (request.terms heard).Ready 0 dialogue) (exact : dialogue.heard = heard)
    (unsought : dialogue.counterpart = .unsought) :
    ServesBy (request.terms heard) (fun _ => (request.terms heard).Settled)
      (service.connect target window) dialogue := by
  have room := Command.allowance_pos request.command
  apply keeps_bind (route_serves service.policy target none ready (Nat.le_of_lt room))
  rintro result _ rfl
  split
  · exact reject_serves ready room
  · rename_i endpoint
    apply keeps_bind (dial_serves endpoint ready (Nat.le_of_lt room) unsought)
    rintro answer between ⟨ready, same, found⟩
    split
    · exact keeps_fail (ready.stranded room)
    · exact reject_serves ready room
    · rename_i own
      apply keeps_bind (takeUp_serves ready (Nat.le_of_lt room) (found own rfl))
      rintro _ _ rfl
      apply keeps_bind (reply_serves ready room ⟨_, _, rfl⟩)
      rintro _ _ ⟨rfl, ready⟩
      exact relay_serves window ready room (found own rfl) (same.trans exact)

theorem isAnnounced_serves (announced : Target) (peer : Ip) {count : Nat}
    (ready : (request.terms heard).Ready count dialogue)
    (room : count ≤ (request.terms heard).allowance) :
    ServesBy (request.terms heard) (fun _ after => after = dialogue) (isAnnounced announced peer)
      dialogue := by
  unfold isAnnounced
  split
  · exact keeps_pure rfl
  · split
    · rename_i answer _
      cases answer <;> exact keeps_pure rfl
    · apply keeps_bind (resolve_serves _ ready room)
      rintro answer _ rfl
      cases answer <;> exact keeps_pure rfl

theorem bind_serves (binds : request.command = Command.bind.toByte) (announced : Target)
    (window : Duration) (ready : (request.terms heard).Ready 0 dialogue)
    (exact : dialogue.heard = heard) (unsought : dialogue.counterpart = .unsought) :
    ServesBy (request.terms heard) (fun _ => (request.terms heard).Settled)
      (bind announced window) dialogue := by
  have two : (request.terms heard).allowance = 2 :=
    (congrArg Command.allowance binds).trans Command.allowance_bind
  have room : 0 < (request.terms heard).allowance := two ▸ Nat.zero_lt_two
  have more : 1 < (request.terms heard).allowance := two ▸ Nat.one_lt_two
  have listened : ServesBy (request.terms heard) (fun _ after => after = dialogue)
      (within "Failed to open BIND listener" do ofIo (← effect (Session.listen .unspecified)))
      dialogue := by
    apply keeps_within
    apply keeps_bind (listen_serves _ ready (Nat.le_of_lt room))
    rintro answer _ rfl
    exact keeps_ofIo (fun _ _ => ready.stranded room) fun _ _ => rfl
  apply keeps_bind listened
  rintro bound _ rfl
  apply keeps_bind (reply_serves ready room ⟨_, _, rfl⟩)
  rintro _ _ ⟨rfl, ready⟩
  apply keeps_bind (accept_serves window ready (Nat.le_of_lt more) unsought)
  rintro called between ⟨ready, same, found⟩
  split
  · exact keeps_fail (ready.stranded more)
  · exact keeps_fail (ready.stranded more)
  · exact keeps_throw (ready.stranded more)
  · rename_i endpoint
    apply keeps_bind (isAnnounced_serves announced endpoint.ip ready (Nat.le_of_lt more))
    rintro _ _ rfl
    split
    · apply keeps_bind (reply_serves ready more ⟨_, _, rfl⟩)
      rintro _ _ ⟨rfl, ready⟩
      apply keeps_bind (takeUp_serves ready more (found endpoint rfl))
      rintro _ _ rfl
      exact relay_serves window ready more (found endpoint rfl) (same.trans exact)
    · exact reject_serves ready more

theorem perform_serves (service : Service) (window : Duration)
    (ready : (request.terms heard).Ready 0 dialogue) (exact : dialogue.heard = heard)
    (unsought : dialogue.counterpart = .unsought) :
    ServesBy (request.terms heard) (fun _ => (request.terms heard).Settled)
      (service.perform request window) dialogue := by
  unfold perform
  split
  · exact service.connect_serves _ window ready exact unsought
  · rename_i binds
    exact bind_serves (Command.ofByte?_eq_some_iff.mp binds) _ window ready exact unsought
  · exact reject_serves ready (Command.allowance_pos request.command)

end Service

end Socks4

/-! ## Either version -/

namespace Protocol

def IsReply : Protocol → Bytes → Prop
  | socks4 _, octets => ∃ code bound, octets = Socks4.reply code bound
  | socks5 _, octets => ∃ code bound, octets = Socks5.reply code bound

/-- What may be sent before there is a request: in version 5, the answer to the methods that the
client offers, and what becomes of its credentials. -/
def IsHandshake : Protocol → List Bytes → Prop
  | socks4 _, told => told = []
  | socks5 _, told => told = [] ∨ ∃ method statuses, told = [Socks5.version, method] :: statuses ∧
    ∀ octets ∈ statuses, ∃ accepted, octets = Socks5.Password.status accepted

/-- The octets by which a client comes to ask for a command, with what it is told before and the user
that it is known as by then. -/
inductive Asks : Protocol → List Bytes → Option String → UInt8 → Bytes → Prop
  | socks4 {service : Socks4.Service} {request : Socks4.Request} {octets : Bytes}
      (written : request.IsWritten octets) :
      Asks (.socks4 service) [] none request.command octets
  | socks5 {service : Socks5.Service} {offered exchange : Bytes} {told : List Bytes}
      {authenticator : Socks5.Authenticator} {user : Option String}
      {cover : Option Gss.Protection} {head : Socks5.RequestHead}
      (short : offered.length < 256)
      (selected : Socks5.Authenticator.select service.authenticators offered = some authenticator)
      (accepts : authenticator.Accepts exchange told user cover)
      (current : head.version = Socks5.version) :
      Asks (.socks5 service) ([Socks5.version, authenticator.method] :: told) user head.command
        (Socks5.greeting offered ++ exchange ++ head.octets)

/-- The octets of everything that a client sends up to the end of its request, with what it is told
before, the user that it is known as by then, and what it asks for. A command that is not served is
answered behind the head of its request, which then ends there. -/
inductive Requests : Protocol → Bytes → List Bytes → Option String → UInt8 → Option Target → Prop
  | socks4 {service : Socks4.Service} {request : Socks4.Request} {octets : Bytes}
      (written : request.IsWritten octets) :
      Requests (.socks4 service) octets [] none request.command (some request.target)
  | socks5 {service : Socks5.Service} {offered exchange address : Bytes} {told : List Bytes}
      {authenticator : Socks5.Authenticator} {user : Option String}
      {cover : Option Gss.Protection} {head : Socks5.RequestHead} {target : Target}
      (short : offered.length < 256)
      (selected : Socks5.Authenticator.select service.authenticators offered = some authenticator)
      (accepts : authenticator.Accepts exchange told user cover)
      (current : head.version = Socks5.version)
      (served : service.chain.linkFor head.command ≠ .unsupported) (writable : target.IsWritable)
      (named : head.kind :: address = target.encode) :
      Requests (.socks5 service) (Socks5.greeting offered ++ exchange ++ head.octets ++ address)
        ([Socks5.version, authenticator.method] :: told) user head.command (some target)
  | unserved {service : Socks5.Service} {offered exchange : Bytes} {told : List Bytes}
      {authenticator : Socks5.Authenticator} {user : Option String}
      {cover : Option Gss.Protection} {head : Socks5.RequestHead}
      (short : offered.length < 256)
      (selected : Socks5.Authenticator.select service.authenticators offered = some authenticator)
      (accepts : authenticator.Accepts exchange told user cover)
      (current : head.version = Socks5.version)
      (unserved : service.chain.linkFor head.command = .unsupported) :
      Requests (.socks5 service) (Socks5.greeting offered ++ exchange ++ head.octets)
        ([Socks5.version, authenticator.method] :: told) user head.command none

/-- What was sent is a handshake with replies behind it, none before the client has asked for a
command, and then no more than that command may get, with one more for another host that is lost. -/
def Speaks (protocol : Protocol) (dialogue : Dialogue) : Prop :=
  ∃ handshake replies, dialogue.told = handshake ++ replies ∧ protocol.IsHandshake handshake ∧
    (∀ octets ∈ replies, protocol.IsReply octets) ∧
    (replies = [] ∨ ∃ user command front, protocol.Asks handshake user command front ∧
      front <+: dialogue.heard ∧
      replies.length ≤ Command.allowance command + dialogue.counterpart.excess)

/-- A client is handed over behind its request. -/
def HandsOver (protocol : Protocol) (heard : Bytes) : Prop :=
  ∃ handshake user command target, protocol.Requests heard handshake user command (some target)

/-- No security context is selected for a client that sends these octets. -/
def IsPlain : Protocol → Bytes → Prop
  | socks4 _, _ => True
  | socks5 service, octets => ∀ offered context, offered.length < 256 →
    Socks5.greeting offered <+: octets →
    Socks5.Authenticator.select service.authenticators offered ≠ some (.gss context)

/-- A protocol with a service that was set up from what is registered and allowed. -/
inductive IsSetUp : Protocol → Prop
  | socks4 (service : Socks4.Service) : IsSetUp (.socks4 service)
  | socks5 (registered : List Socks5.Authenticator) (allowed : Bytes) (chain : Socks5.Chain) :
      IsSetUp (.socks5 (.ofRegistered registered allowed chain))

variable {protocol : Protocol}

theorem isPlain_of_front {front whole : Bytes} (before : front <+: whole)
    (plain : protocol.IsPlain whole) : protocol.IsPlain front := by
  cases protocol with
  | socks4 => trivial
  | socks5 =>
    exact fun offered context short inside => plain offered context short (inside.trans before)

/-- How a session behaves under a protocol. -/
def manners (protocol : Protocol) : Manners where
  IsPlain := protocol.IsPlain
  isPlain_of_front := isPlain_of_front
  Speaks := protocol.Speaks
  HandsOver := protocol.HandsOver

theorem speaks_of_handshake (handshake : protocol.IsHandshake dialogue.told) :
    protocol.Speaks dialogue :=
  ⟨dialogue.told, [], (List.append_nil _).symm, handshake, List.forall_mem_nil _, .inl rfl⟩

/-- Terms that a protocol sets for a command. -/
structure Sets (protocol : Protocol) (user : Option String) (command : UInt8) (terms : Terms) :
    Prop where
  handshake : protocol.IsPlain terms.request → protocol.IsHandshake terms.handshake
  reply : ∀ octets, terms.IsReply octets → protocol.IsReply octets
  asks : protocol.Asks terms.handshake user command terms.request
  allowance : terms.allowance = Command.allowance command
  whole : ∀ heard, terms.IsWhole heard → protocol.HandsOver heard

variable {user : Option String} {command : UInt8} {terms : Terms}

theorem speaks_of_settled (sets : protocol.Sets user command terms)
    (settled : terms.Settled dialogue) (plain : protocol.IsPlain dialogue.heard) :
    protocol.Speaks dialogue := by
  obtain ⟨heard, replies, told, few, each⟩ := settled
  exact ⟨terms.handshake, replies, told, sets.handshake (isPlain_of_front heard plain),
    fun octets member => sets.reply octets (each octets member),
    .inr ⟨user, command, terms.request, sets.asks, heard, sets.allowance ▸ few⟩⟩

theorem admits_of_serves (sets : protocol.Sets user command terms) {deed : Deed}
    (serves : terms.Serves dialogue deed) : protocol.manners.Admits dialogue deed := fun plain =>
  ⟨serves.permits, speaks_of_settled sets serves.settled plain,
    fun window answer same => sets.whole _ (serves.whole window answer same)⟩

/-- What a handler does under a protocol, whatever it comes to. -/
abbrev Conducts {α : Type} (protocol : Protocol) (post : α → Dialogue → Prop) (handler : Handler α)
    (dialogue : Dialogue) : Prop :=
  Keeps protocol.manners.Admits
    (fun _ after => protocol.IsPlain after.heard → protocol.Speaks after) post handler dialogue

/-- A connection is closed whatever a session has come to. -/
theorem closing_keeps {handler : Handler Unit}
    (conducts : protocol.Conducts
      (fun _ after => protocol.IsPlain after.heard → protocol.Speaks after) handler dialogue) :
    Keeps protocol.manners.Admits (fun _ after => after.isOpen = false)
      (fun _ after => after.isOpen = false) (closing handler) dialogue := by
  apply keeps_bind (keeps_outcome conducts)
  intro result between reached
  have speaks : protocol.IsPlain between.heard → protocol.Speaks between := by
    cases result <;> exact reached
  have closed : Keeps protocol.manners.Admits (fun _ after => after.isOpen = false)
      (fun _ after => after.isOpen = false) Handler.close between :=
    ⟨fun plain => ⟨trivial, speaks plain, by rintro _ _ ⟨⟩⟩, rfl⟩
  apply keeps_bind closed
  intro _ after isClosed
  exact keeps_ofResult (fun _ _ => isClosed) fun _ _ => isClosed

end Protocol

/-- The octets of a part of a request to which there is no answer yet. -/
theorem Handler.HasFormat.conducts {α : Type} {protocol : Protocol} {handler : Handler α}
    {format : Bytes → α → Prop} (has : HasFormat handler format)
    (handshake : protocol.IsPlain dialogue.heard → protocol.IsHandshake dialogue.told)
    (isOpen : dialogue.isOpen = true) (isAttentive : dialogue.isAttentive = true) :
    protocol.Conducts
      (fun value after => ∃ octets, after = dialogue.hear octets ∧ format octets value)
      handler dialogue := by
  have speaks (octets : Bytes) (plain : protocol.IsPlain (dialogue.hear octets).heard) :
      protocol.Speaks (dialogue.hear octets) :=
    Protocol.speaks_of_handshake
      (handshake (Protocol.isPlain_of_front (List.prefix_append _ _) plain))
  apply has.keeps
  · intro octets limit answer plain
    refine ⟨⟨isOpen, isAttentive⟩, ?_, by rintro _ _ ⟨⟩⟩
    cases answer with
    | error error => exact speaks octets plain
    | ok more =>
      simp only [Dialogue.after, Dialogue.hear_hear] at plain ⊢
      exact speaks _ plain
  · exact fun octets _ => speaks octets

namespace Socks4.Service

theorem sets_terms (service : Service) {request : Request} {heard : Bytes}
    (written : request.IsWritten heard) :
    (Protocol.socks4 service).Sets none request.command (request.terms heard) where
  handshake _ := rfl
  reply _ reply := reply
  asks := .socks4 written
  allowance := rfl
  whole := by
    rintro _ rfl
    exact ⟨[], none, request.command, request.target, .socks4 written⟩

theorem serve_conducts (service : Service) (window : Duration) :
    let protocol := Protocol.socks4 service
    protocol.Conducts (fun _ after => protocol.IsPlain after.heard → protocol.Speaks after)
      (service.serve window) Dialogue.fresh := by
  intro protocol
  have heard : protocol.Conducts _ readRequest Dialogue.fresh :=
    readRequest_format.conducts (fun _ => rfl) rfl rfl
  apply keeps_bind heard
  rintro request _ ⟨octets, rfl, written⟩
  have sets := service.sets_terms written
  have room := Command.allowance_pos request.command
  have ready : (request.terms octets).Ready 0 (Dialogue.fresh.hear octets) :=
    ⟨List.prefix_rfl, ⟨[], rfl, Nat.le_refl 0, List.forall_mem_nil _⟩, rfl, rfl, rfl⟩
  refine keeps_mono (?served : Keeps (request.terms octets).Serves
      (fun _ => (request.terms octets).Settled) (fun _ => (request.terms octets).Settled) _
      (Dialogue.fresh.hear octets)) (fun _ _ => Protocol.admits_of_serves sets)
    (fun _ _ => Protocol.speaks_of_settled sets) fun _ _ => Protocol.speaks_of_settled sets
  case served =>
    apply keeps_bind (keeps_outcome (service.perform_serves window ready rfl rfl))
    rintro (failure | _) between reached
    · dsimp only at reached ⊢
      apply keeps_unless (fun _ => reached.toSettled)
      intro _
      exact answer_serves reached room ⟨_, _, rfl⟩ fun _ settled => keeps_throw settled
    · exact reached

end Socks4.Service

namespace Socks5

variable {registered : List Authenticator} {allowed : Bytes} {chain : Chain}

/-- No security context is selected where what is heard is plain. -/
theorem not_selected_of_isPlain {heard offered : Bytes} {context : Gss.Context}
    (short : offered.length < 256)
    (plain : (Protocol.socks5 (.ofRegistered registered allowed chain)).IsPlain heard)
    (inside : greeting offered <+: heard) : ¬ Selected registered allowed offered (.gss context) := by
  intro selected
  obtain ⟨found, given, method⟩ := exists_select_of_selected selected
  cases found with
  | gss other => exact plain offered other short inside given
  | none | password => exact absurd method (by simp [Authenticator.method])

theorem isHandshake_of_standing
    (plain : (Protocol.socks5 (.ofRegistered registered allowed chain)).IsPlain dialogue.heard)
    (standing : Standing registered allowed dialogue) :
    (Protocol.socks5 (.ofRegistered registered allowed chain)).IsHandshake dialogue.told := by
  cases standing with
  | choosing silent => exact .inl silent
  | refused short heard told unacceptable =>
    exact .inr ⟨noMethod, [], told, List.forall_mem_nil _⟩
  | @engaged offered authenticator short selected extended =>
    obtain ⟨messages, told, each⟩ := extended.told
    rw [authenticator.choice_eq] at told
    refine .inr ⟨authenticator.method, messages, told, ?_⟩
    intro octets member
    have message := each octets member
    cases authenticator with
    | none => exact False.elim message
    | password accepts => exact Password.isMessage_iff.mp message
    | gss context => exact absurd selected (not_selected_of_isPlain short plain extended.heard)

theorem admits_of_authenticating {deed : Deed}
    (authenticating : Authenticating registered allowed dialogue deed) :
    (Protocol.socks5 (.ofRegistered registered allowed chain)).manners.Admits dialogue deed := by
  intro plain
  have speaks : (Protocol.socks5 (.ofRegistered registered allowed chain)).Speaks
      (dialogue.after deed) :=
    Protocol.speaks_of_handshake (isHandshake_of_standing plain authenticating.standing)
  rcases authenticating.exchanges with
    exchange | ⟨offered, context, protection, short, inside, selected, rfl⟩
  · refine ⟨?_, speaks, ?_⟩
    · cases deed with
      | read limit answer => exact ⟨authenticating.isOpen, authenticating.isAttentive⟩
      | write octets answer => exact authenticating.isOpen
      | _ => exact False.elim exchange
    · rintro window answer rfl
      exact False.elim exchange
  · exact absurd selected (not_selected_of_isPlain short plain inside)

section

variable {offered exchange : Bytes} {told : List Bytes} {authenticator : Authenticator}
  {user : Option String} {cover : Option Gss.Protection}

theorem isHandshake_of_accepts {service : Service} (short : offered.length < 256)
    (selected : Authenticator.select service.authenticators offered = some authenticator)
    (accepts : authenticator.Accepts exchange told user cover) {heard : Bytes}
    (plain : (Protocol.socks5 service).IsPlain heard) (inside : greeting offered <+: heard) :
    (Protocol.socks5 service).IsHandshake ([version, authenticator.method] :: told) := by
  refine .inr ⟨authenticator.method, told, rfl, ?_⟩
  cases accepts with
  | none => exact List.forall_mem_nil _
  | password => exact List.forall_mem_singleton.mpr ⟨true, rfl⟩
  | @gss context => exact absurd selected (plain offered context short inside)

theorem Service.sets_terms {service : Service} {head : RequestHead} (short : offered.length < 256)
    (selected : Authenticator.select service.authenticators offered = some authenticator)
    (accepts : authenticator.Accepts exchange told user cover) (current : head.version = version) :
    (Protocol.socks5 service).Sets user head.command
      (head.terms (service.chain.linkFor head.command) ([version, authenticator.method] :: told)
        (greeting offered ++ exchange ++ head.octets)) where
  handshake plain := by
    refine isHandshake_of_accepts short selected accepts plain ?_
    exact (List.append_assoc ..).symm ▸ List.prefix_append _ _
  reply _ reply := reply
  asks := .socks5 short selected accepts current
  allowance := rfl
  whole := by
    rintro _ ⟨served, address, target, rfl, writable, named⟩
    exact ⟨_, user, head.command, target,
      .socks5 short selected accepts current served writable named⟩

end

theorem Service.serve_conducts (registered : List Authenticator) (allowed : Bytes) (chain : Chain)
    (peer : Peer) :
    let service := ofRegistered registered allowed chain
    let protocol := Protocol.socks5 service
    protocol.Conducts (fun _ after => protocol.IsPlain after.heard → protocol.Speaks after)
      (service.serve peer) Dialogue.fresh := by
  intro service protocol
  have authenticated : protocol.Conducts _ (service.authenticate peer) Dialogue.fresh :=
    keeps_mono (authenticate_keeps registered allowed chain peer)
      (fun _ _ => admits_of_authenticating)
      (fun _ _ standing plain =>
        Protocol.speaks_of_handshake (isHandshake_of_standing plain standing))
      fun _ _ held => held
  apply keeps_bind authenticated
  rintro known _ ⟨short, selected, accepts⟩
  rename_i offered exchange told authenticator cover
  have handshake (plain : protocol.IsPlain (greeting offered ++ exchange)) :
      protocol.IsHandshake ([version, authenticator.method] :: told) :=
    isHandshake_of_accepts short selected accepts plain (List.prefix_append _ _)
  refine keeps_bind (readHead_format.conducts handshake ?_ ?_) ?_
  · rfl
  · rfl
  rintro head _ ⟨_, rfl, current, rfl⟩
  have sets := sets_terms short selected accepts current
  apply keeps_mono (service.chain.dispatch_serves ?_ ?_ rfl)
    (fun _ _ => Protocol.admits_of_serves sets) (fun _ _ => Protocol.speaks_of_settled sets)
    fun _ _ => Protocol.speaks_of_settled sets
  · exact ⟨List.prefix_rfl, ⟨[], (List.append_nil _).symm, Nat.le_refl 0, List.forall_mem_nil _⟩,
      rfl, rfl, rfl⟩
  · rfl

end Socks5

namespace Protocol

/-- A session under a protocol behaves as the protocol has it, and closes the connection. -/
theorem IsSetUp.handle_keeps {protocol : Protocol} (isSetUp : protocol.IsSetUp) (peer : Peer) :
    Keeps protocol.manners.Admits (fun _ after => after.isOpen = false)
      (fun _ after => after.isOpen = false) (protocol.handle peer) Dialogue.fresh := by
  cases isSetUp with
  | socks4 service => exact closing_keeps (service.serve_conducts peer.window)
  | socks5 registered allowed chain =>
    exact closing_keeps (Socks5.Service.serve_conducts registered allowed chain peer)

/-- The octets of a request to one of these protocols, which the first octet shows. -/
structure Opens (protocols : List Protocol) (protocol : Protocol) (octets : Bytes)
    (handshake : List Bytes) (user : Option String) (command : UInt8) (target : Option Target) :
    Prop where
  found : protocols.find? (·.recognises octets) = some protocol
  requests : protocol.Requests octets handshake user command target

/-- How a session behaves that is under one of these protocols. -/
def mannersOf (protocols : List Protocol) : Manners where
  IsPlain octets := ∀ protocol ∈ protocols, protocol.IsPlain octets
  isPlain_of_front before plain protocol member :=
    isPlain_of_front before (plain protocol member)
  Speaks dialogue := dialogue.told = [] ∨ ∃ protocol ∈ protocols, protocol.Speaks dialogue
  HandsOver heard := ∃ protocol handshake user command target,
    Opens protocols protocol heard handshake user command (some target)

/-- The octets of a request show its version first. -/
theorem Requests.head {protocol : Protocol} {octets : Bytes} {handshake : List Bytes}
    {user : Option String} {command : UInt8} {target : Option Target}
    (requests : protocol.Requests octets handshake user command target) :
    octets.head? = some protocol.version := by
  cases requests with
  | socks4 written =>
    cases written
    rfl
  | socks5 | unserved => rfl

theorem Requests.head_append {protocol : Protocol} {octets : Bytes} {handshake : List Bytes}
    {user : Option String} {command : UInt8} {target : Option Target}
    (requests : protocol.Requests octets handshake user command target) (rest : Bytes) :
    (octets ++ rest).head? = some protocol.version := by
  rw [List.head?_append, requests.head, Option.some_or]

/-- Octets of the same version are recognised alike. -/
theorem recognises_alike {first other : Bytes} (same : first.head? = other.head?) :
    (fun protocol : Protocol => protocol.recognises first) =
      fun protocol => protocol.recognises other := by
  funext protocol
  rw [recognises, recognises, same]

theorem head_of_recognises {protocol : Protocol} {first : Bytes}
    (recognised : protocol.recognises first = true) : first.head? = some protocol.version :=
  eq_of_beq recognised

variable {protocols : List Protocol} {protocol : Protocol}

/-- What is done under the protocol that is found is done under the protocols. -/
theorem admits_of_found {first : Bytes} {deed : Deed}
    (found : protocols.find? (·.recognises first) = some protocol)
    (admits : protocol.manners.Admits dialogue deed) :
    (mannersOf protocols).Admits dialogue deed := by
  intro plain
  have member := List.mem_of_find?_eq_some found
  obtain ⟨permits, speaks, handsOver⟩ := admits (plain protocol member)
  refine ⟨permits, .inr ⟨protocol, member, speaks⟩, ?_⟩
  intro window answer same
  obtain ⟨handshake, user, command, target, requests⟩ := handsOver window answer same
  have recognised := List.find?_some found
  have head : dialogue.heard.head? = first.head? :=
    requests.head.trans (head_of_recognises recognised).symm
  exact ⟨protocol, handshake, user, command, target, by rw [recognises_alike head, found], requests⟩

/-- The look at the first octets leaves no trace, so that the session is one of the protocol that they
show; without one the connection is closed at once. -/
theorem detect_keeps (areSetUp : ∀ protocol ∈ protocols, protocol.IsSetUp) (peer : Peer) :
    Keeps (mannersOf protocols).Admits (fun _ after => after.isOpen = false)
      (fun _ after => after.isOpen = false) (detect protocols peer) Dialogue.fresh := by
  have peeked : Keeps (mannersOf protocols).Admits (fun _ after => after.isOpen = false)
      (fun
        | .ok octets => fun after => after = Dialogue.fresh.hear octets
        | .error _ => fun after => after.told = [])
      (outcome (Handler.read peekLength)) Dialogue.fresh := by
    rintro (error | octets) fits
    · exact ⟨fun _ => ⟨⟨rfl, rfl⟩, .inl rfl, by rintro _ _ ⟨⟩⟩, rfl⟩
    · exact ⟨fun _ => ⟨⟨rfl, rfl⟩, .inl rfl, by rintro _ _ ⟨⟩⟩, rfl⟩
  have closed {dialogue : Dialogue} (silent : dialogue.told = []) :
      Keeps (mannersOf protocols).Admits (fun _ after => after.isOpen = false)
        (fun _ after => after.isOpen = false) Handler.close dialogue :=
    ⟨fun _ => ⟨trivial, .inl silent, by rintro _ _ ⟨⟩⟩, rfl⟩
  apply keeps_bind peeked
  rintro (failure | first) between reached
  · exact keeps_bind (closed reached) fun _ _ isClosed => keeps_throw isClosed
  · dsimp only at reached ⊢
    subst reached
    split
    · exact closed rfl
    · rename_i protocol found
      have returned : Keeps (mannersOf protocols).Admits (fun _ after => after.isOpen = false)
          (fun _ after => after = Dialogue.fresh) (Handler.unread first)
          (Dialogue.fresh.hear first) := by
        refine ⟨fun _ => ⟨⟨rfl, rfl, List.suffix_rfl⟩, .inl rfl, by rintro _ _ ⟨⟩⟩, ?_⟩
        exact Dialogue.unread_hear first Dialogue.fresh
      apply keeps_bind returned
      rintro _ _ rfl
      exact keeps_mono ((areSetUp protocol (List.mem_of_find?_eq_some found)).handle_keeps peer)
        (fun _ _ => admits_of_found found) (fun _ _ held => held) fun _ _ held => held

end Protocol

end SocksGateway
