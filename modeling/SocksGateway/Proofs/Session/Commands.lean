import SocksGateway.Proofs.Socks5.Authentication
import SocksGateway.Proofs.Udp.Admission
import SocksGateway.Socks4.Service

/-!
What the commands ask of the network. An endpoint is dialled only after it was routed under the policy
for the name that the client is known by, and an association takes that policy and that name with it.
Version 4 knows no names.
-/

set_option autoImplicit false

namespace SocksGateway

open Handler

/-- Nothing is asked of the network that the policy does not admit the user to. An association takes
the policy and the user with it. -/
def Deed.IsAdmitted (policy : RoutePolicy) (user : Option String) : Deed → Prop
  | .dial endpoint _ => policy.Admits user endpoint.ip
  | .associate _ terms _ => terms.policy = policy ∧ terms.user = user
  | _ => True

namespace Handler

variable {α : Type} {post : α → Prop} {policy : RoutePolicy} {user : Option String}

theorem heeds_of_talks {handler : Handler α} (talks : Talks post handler) :
    Heeds (Deed.IsAdmitted policy user) post handler := by
  apply heeds_mono talks _ fun _ held => held
  intro deed talk
  cases deed <;> first | exact trivial | exact False.elim talk

theorem route_heeds (policy : RoutePolicy) (target : Target) (user : Option String) :
    Heeds (Deed.IsAdmitted policy user)
      (fun result => ∀ endpoint, result = .ok endpoint → policy.Admits user endpoint.ip)
      (route policy target user) := by
  unfold route
  split
  · rename_i result settled
    apply heeds_pure
    intro endpoint same
    subst same
    exact RoutePolicy.admits_of_plan settled
  · rename_i name port _
    apply heeds_then (resolve_heeds fun _ => trivial)
    intro answer
    apply heeds_pure
    intro endpoint found
    exact RoutePolicy.admits_of_conclude found

end Handler

namespace Socks4

theorem sendReply_talks (code : ReplyCode) (bound : Endpoint) :
    Talks (fun _ => True) (sendReply code bound) := write_talks _

theorem readToNul_talks (what : String) (room : Nat) :
    Talks (fun _ => True) (readToNul what room) := by
  have octet : Talks (fun _ => True) (readToNul.octet what) := heeds_within readOctet_talks
  induction room with
  | zero =>
    apply heeds_then octet
    intro first
    exact heeds_when heeds_fail (heeds_pure trivial)
  | succ room ih =>
    apply heeds_then octet
    intro first
    split
    · exact heeds_pure trivial
    · exact heeds_then ih fun _ => heeds_pure trivial

theorem readText_talks (what : String) : Talks (fun _ => True) (readText what) := by
  apply heeds_then (readToNul_talks what fieldLimit)
  intro octets
  split
  · exact heeds_pure trivial
  · exact heeds_fail

theorem readRequest_talks : Talks (fun _ => True) readRequest := by
  apply heeds_then (heeds_within (readExactly_talks 8))
  intro head
  split
  · apply heeds_when heeds_fail
    apply heeds_then (readText_talks _)
    intro name
    split
    · apply heeds_then (readText_talks _)
      intro host
      exact heeds_when heeds_fail (heeds_pure trivial)
    · exact heeds_pure trivial
  · exact heeds_fail

/-- The name that a client announces is looked up where that is needed. -/
theorem isAnnounced_heeds {guard : Deed → Prop}
    (admitted : ∀ name answer, guard (.resolve name answer)) (announced : Target) (peer : Ip) :
    Heeds guard (fun _ => True) (isAnnounced announced peer) := by
  unfold isAnnounced
  split
  · exact heeds_pure trivial
  · rename_i name _
    cases RoutePolicy.settledName? name with
    | some answer => cases answer <;> exact heeds_pure trivial
    | none =>
      apply heeds_then (resolve_heeds (admitted name))
      intro answer
      cases answer <;> exact heeds_pure trivial

variable {policy : RoutePolicy} {user : Option String}

theorem bind_heeds (announced : Target) (window : Duration) :
    Heeds (Deed.IsAdmitted policy user) (fun _ => True) (Service.bind announced window) := by
  apply heeds_then (heeds_within (listen_heeds fun _ => trivial))
  intro bound
  apply heeds_then (heeds_of_talks (sendReply_talks _ _))
  intro _
  apply heeds_then (accept_heeds fun _ => trivial)
  intro called
  split
  · exact heeds_fail
  · exact heeds_fail
  · exact heeds_throw
  · rename_i endpoint
    apply heeds_then (isAnnounced_heeds (fun _ _ => trivial) announced endpoint.ip)
    intro announced
    split
    · apply heeds_then (heeds_of_talks (sendReply_talks _ _))
      intro _
      exact heeds_then (takeUp_heeds fun _ => trivial) fun _ => relay_heeds fun _ => trivial
    · exact heeds_of_talks (sendReply_talks _ _)

namespace Service

theorem connect_heeds (service : Service) (target : Target) (window : Duration) :
    Heeds (Deed.IsAdmitted service.policy none) (fun _ => True) (service.connect target window) := by
  apply heeds_bind (route_heeds service.policy target none)
  intro result admitted
  split
  · exact heeds_of_talks (sendReply_talks _ _)
  · rename_i endpoint
    apply heeds_then (dial_heeds fun _ => admitted endpoint rfl)
    intro answer
    split
    · exact heeds_fail
    · exact heeds_of_talks (sendReply_talks _ _)
    · apply heeds_then (takeUp_heeds fun _ => trivial)
      intro _
      exact heeds_then (heeds_of_talks (sendReply_talks _ _)) fun _ => relay_heeds fun _ => trivial

theorem perform_heeds (service : Service) (request : Request) (window : Duration) :
    Heeds (Deed.IsAdmitted service.policy none) (fun _ => True)
      (service.perform request window) := by
  unfold perform
  split
  · exact service.connect_heeds request.target window
  · exact bind_heeds request.target window
  · exact heeds_of_talks (sendReply_talks _ _)

theorem serve_heeds (service : Service) (window : Duration) :
    Heeds (Deed.IsAdmitted service.policy none) (fun _ => True) (service.serve window) := by
  apply heeds_then (heeds_of_talks readRequest_talks)
  intro request
  apply heeds_then (heeds_any (heeds_outcome (service.perform_heeds request window)))
  intro result
  split
  · exact heeds_pure trivial
  · apply heeds_when heeds_throw
    apply heeds_then (heeds_of_talks whetherOpen_talks)
    intro isOpen
    exact heeds_when (heeds_of_talks (heeds_any (heeds_outcome (sendReply_talks _ _)))) heeds_throw

/-- Version 4 has no names, so that its commands are those of a user without one. -/
theorem handle_heeds (service : Service) (window : Duration) :
    Heeds (Deed.IsAdmitted service.policy none) (fun _ => True) (service.handle window) := by
  apply heeds_then (heeds_any (heeds_outcome (service.serve_heeds window)))
  intro result
  exact heeds_then (heeds_of_talks close_talks) fun _ => heeds_ofResult fun _ _ => trivial

end Service

end Socks4

namespace Socks5

theorem readAddress_talks (kind : UInt8) : Talks (fun _ => True) (readAddress kind) := by
  unfold readAddress
  split
  · apply heeds_then (readExactly_talks 4)
    intro octets
    apply heeds_then readWord_talks
    intro port
    split
    · exact heeds_pure trivial
    · exact heeds_fail
  · split
    · apply heeds_then readOctet_talks
      intro length
      apply heeds_then (readExactly_talks _)
      intro octets
      apply heeds_then readWord_talks
      intro port
      apply heeds_when heeds_fail
      split
      · exact heeds_pure trivial
      · exact heeds_fail
    · split
      · apply heeds_then (readExactly_talks 16)
        intro octets
        apply heeds_then readWord_talks
        intro port
        split
        · exact heeds_pure trivial
        · exact heeds_fail
      · exact heeds_fail

theorem readTarget_talks (kind : UInt8) : Talks (fun _ => True) (readTarget kind) := by
  apply heeds_then (heeds_any (heeds_outcome (readAddress_talks kind)))
  intro result
  split
  · exact heeds_pure trivial
  · split
    · exact heeds_pure trivial
    · exact heeds_throw

theorem sendReply_talks (code : ReplyCode) (bound : Endpoint) :
    Talks (fun _ => True) (sendReply code bound) := write_talks _

theorem replyIfOpen_talks (code : ReplyCode) : Talks (fun _ => True) (replyIfOpen code) := by
  apply heeds_then whetherOpen_talks
  intro isOpen
  split
  · exact heeds_then (heeds_any (heeds_outcome (sendReply_talks code _))) fun _ => heeds_pure trivial
  · exact heeds_pure trivial

namespace Request

theorem connect_heeds (settings : CommandSettings) (request : Request) :
    Heeds (Deed.IsAdmitted settings.policy request.user) (fun _ => True)
      (request.connect settings) := by
  apply heeds_then (heeds_of_talks (readTarget_talks _))
  intro found
  split
  · exact heeds_pure trivial
  · rename_i target
    apply heeds_bind (route_heeds settings.policy target request.user)
    intro result admitted
    split
    · exact heeds_of_talks (sendReply_talks _ _)
    · exact heeds_of_talks (sendReply_talks _ _)
    · rename_i endpoint
      apply heeds_then (dial_heeds fun _ => admitted endpoint rfl)
      intro answer
      split
      · exact heeds_fail
      · exact heeds_of_talks (sendReply_talks _ _)
      · apply heeds_then (takingUp_heeds fun _ => trivial)
        intro taken
        split
        · exact heeds_of_talks (sendReply_talks _ _)
        · exact heeds_then (heeds_of_talks (sendReply_talks _ _)) fun _ =>
            relay_heeds fun _ => trivial

theorem bind_heeds {policy : RoutePolicy} {user : Option String} (request : Request) :
    Heeds (Deed.IsAdmitted policy user) (fun _ => True) request.bind := by
  apply heeds_then (heeds_of_talks (readTarget_talks _))
  intro found
  split
  · exact heeds_pure trivial
  · apply heeds_then (heeds_within (listen_heeds fun _ => trivial))
    intro bound
    apply heeds_then (heeds_of_talks (sendReply_talks _ _))
    intro _
    apply heeds_then (accept_heeds fun _ => trivial)
    intro called
    split
    · exact heeds_fail
    · exact heeds_fail
    · exact heeds_throw
    · apply heeds_then (heeds_of_talks (sendReply_talks _ _))
      intro _
      exact heeds_then (takeUp_heeds fun _ => trivial) fun _ => relay_heeds fun _ => trivial

theorem associate_heeds (settings : CommandSettings) (request : Request) :
    Heeds (Deed.IsAdmitted settings.policy request.user) (fun _ => True)
      (request.associate settings) := by
  apply heeds_then (heeds_of_talks (readTarget_talks _))
  intro found
  split
  · exact heeds_pure trivial
  · apply heeds_then
    · exact heeds_within (Handler.associate_heeds fun _ => ⟨rfl, rfl⟩)
    · intro bound
      apply heeds_then (heeds_of_talks (sendReply_talks _ _))
      intro _
      exact ⟨trivial, fun _ _ => trivial⟩

theorem perform_heeds (settings : CommandSettings) (request : Request) (link : ChainLink) :
    Heeds (Deed.IsAdmitted settings.policy request.user) (fun _ => True)
      (request.perform settings link) := by
  cases link with
  | connect => exact request.connect_heeds settings
  | bind => exact request.bind_heeds
  | udpAssociate => exact request.associate_heeds settings
  | unsupported => exact heeds_of_talks (sendReply_talks _ _)

end Request

theorem Chain.dispatch_heeds (chain : Chain) (request : Request) :
    Heeds (Deed.IsAdmitted chain.settings.policy request.user) (fun _ => True)
      (chain.dispatch request) := by
  apply heeds_then (heeds_any (heeds_outcome (request.perform_heeds chain.settings _)))
  intro result
  split
  · exact heeds_pure trivial
  · apply heeds_when heeds_throw
    split
    · exact heeds_of_talks (replyIfOpen_talks _)
    · exact heeds_then (heeds_of_talks (replyIfOpen_talks _)) fun _ => heeds_throw

end Socks5

end SocksGateway
