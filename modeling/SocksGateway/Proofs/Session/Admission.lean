import SocksGateway.Proofs.Session.Commands
import SocksGateway.Session.Detection

/-!
Which addresses a connection reaches. The octets of the client, the answers of resolvers and of the
network, and the datagrams of an association are arbitrary. Without an authentication there is no
name that a client is known by, and a private address is only for those with a name.
-/

set_option autoImplicit false

namespace SocksGateway

open Handler

/-- An address that is reached by a deed: it is dialled, or a payload of the client goes there from
an association, whatever datagrams come in and whatever resolvers answer to them. -/
inductive Deed.Reaches : Deed → Ip → Prop where
  | dial {endpoint : Endpoint} {answer : Dialled} : Reaches (.dial endpoint answer) endpoint.ip
  | associate {ip : Ip} {terms : AssociationTerms} {answer : Except IoError Endpoint}
      {arrivals : List (Resolver × Association.Arrival)} {destination client : Endpoint}
      {payload : Bytes}
      (sent : .outward destination client payload ∈
        ((Association.start terms).runWith arrivals).1) :
      Reaches (.associate ip terms answer) destination.ip

namespace Deed

variable {deed : Deed} {ip : Ip}

theorem not_reaches_of_isTalk (talk : deed.IsTalk) : ¬ deed.Reaches ip := by
  intro reaches
  cases reaches <;> exact talk

theorem admits_of_reaches {policy : RoutePolicy} {user : Option String}
    (admitted : deed.IsAdmitted policy user) (reaches : deed.Reaches ip) :
    policy.Admits user ip := by
  cases reaches with
  | dial => exact admitted
  | associate sent =>
    have sound := Association.isAdmitted_start admitted.1 admitted.2
    exact (Association.isAdmitted_runWith _ sound).1 _ sent

end Deed

theorem Session.not_reaches_of_heeds {α : Type} {session rest : Session α} {deeds : List Deed}
    {deed : Deed} {ip : Ip} {post : α → Prop} (heeds : session.Heeds Deed.IsTalk post)
    (path : session.Along deeds rest) (member : deed ∈ deeds) : ¬ deed.Reaches ip :=
  Deed.not_reaches_of_isTalk ((heeds_along heeds path).1 deed member)

namespace Handler

variable {α : Type} {handler : Handler α} {deeds : List Deed}
  {rest : Session (Except Failure α)} {deed : Deed} {ip : Ip}

theorem admits_of_heeds {policy : RoutePolicy} {user : Option String} {post : α → Prop}
    (heeds : Heeds (Deed.IsAdmitted policy user) post handler)
    (path : handler.run.Along deeds rest) (member : deed ∈ deeds) (reaches : deed.Reaches ip) :
    policy.Admits user ip :=
  Deed.admits_of_reaches ((Session.heeds_along heeds path).1 deed member) reaches

end Handler

/-- A client of version 4 has no name, and reaches no private address. -/
theorem Socks4.Service.isPrivate_of_reaches (service : Service) (window : Duration)
    {deeds : List Deed} {rest : Session (Except Failure Unit)} {deed : Deed} {ip : Ip}
    (path : (service.handle window).run.Along deeds rest) (member : deed ∈ deeds)
    (reaches : deed.Reaches ip) : ip.isPrivate = false := by
  apply RoutePolicy.admits_none_iff.mp
  exact admits_of_heeds (service.handle_heeds window) path member reaches

namespace Socks5.Service

theorem request_heeds (service : Service) (peer : Peer) (authenticated : Authenticated) :
    Heeds (Deed.IsAdmitted service.chain.settings.policy authenticated.user) (fun _ => True) (do
      let head ← readHead
      service.chain.dispatch {
        head, user := authenticated.user, peer := peer.remote, own := authenticated.own,
        window := peer.window }) := by
  apply heeds_then (heeds_of_talks readHead_talks)
  intro head
  exact service.chain.dispatch_heeds ⟨head, authenticated.user, peer.remote, authenticated.own, _⟩

/-- An address is reached after an authentication only, and only if the policy admits the user whom
this makes known. -/
theorem admits_serve (service : Service) (peer : Peer) {deeds : List Deed}
    {rest : Session (Except Failure Unit)} {deed : Deed} {ip : Ip}
    (path : (service.serve peer).run.Along deeds rest) (member : deed ∈ deeds)
    (reaches : deed.Reaches ip) :
    ∃ exchange others authenticated, deeds = exchange ++ others ∧ deed ∈ others ∧
      (service.authenticate peer).run.Along exchange (.done (.ok authenticated)) ∧
      service.chain.settings.policy.Admits authenticated.user ip := by
  -- Nothing is reached during the authentication itself, so that the deed lies behind it.
  have silent := service.authenticate_talks peer
  rcases along_bind path with ⟨_, own⟩ | ⟨exchange, others, authenticated, rfl, own, left⟩
  · exact absurd reaches (Session.not_reaches_of_heeds silent own member)
  · rcases List.mem_append.mp member with early | late
    · exact absurd reaches (Session.not_reaches_of_heeds silent own early)
    · have heeds := service.request_heeds peer authenticated
      exact ⟨exchange, others, authenticated, rfl, late, own, admits_of_heeds heeds left late reaches⟩

theorem admits_handle (service : Service) (peer : Peer) {deeds : List Deed}
    {rest : Session (Except Failure Unit)} {deed : Deed} {ip : Ip}
    (path : (service.handle peer).run.Along deeds rest) (member : deed ∈ deeds)
    (reaches : deed.Reaches ip) :
    ∃ exchange others authenticated, deeds = exchange ++ others ∧ deed ∈ others ∧
      (service.authenticate peer).run.Along exchange (.done (.ok authenticated)) ∧
      service.chain.settings.policy.Admits authenticated.user ip := by
  rcases along_bind path with ⟨_, served⟩ | ⟨before, after, result, rfl, served, left⟩
  · obtain ⟨_, own⟩ := along_outcome served
    exact service.admits_serve peer own member reaches
  · have ending : Talks (fun _ => True) (do close; ofResult result) :=
      heeds_then close_talks fun _ => heeds_ofResult fun _ _ => trivial
    rcases List.mem_append.mp member with early | late
    · obtain ⟨_, own⟩ := along_outcome served
      obtain ⟨exchange, others, authenticated, rfl, inside, rest⟩ :=
        service.admits_serve peer own early reaches
      exact ⟨exchange, others ++ after, authenticated, List.append_assoc ..,
        List.mem_append_left _ inside, rest⟩
    · exact absurd reaches (Session.not_reaches_of_heeds ending left late)

end Socks5.Service

/-- What a connection has done when its client is known by a name: version 5 was detected, the client
has authenticated itself, and an authenticator of the service vouches for the name. -/
inductive ConnectionService.Identified (service : ConnectionService) (peer : Peer) :
    List Deed → Socks5.Service → String → Prop where
  | intro {first : Bytes} {exchange : List Deed} {socks5 : Socks5.Service}
      {authenticator : Socks5.Authenticator} {authenticated : Socks5.Authenticated} {name : String}
      (detected : service.protocols.find? (·.recognises first) = some (.socks5 socks5))
      (authentication :
        (socks5.authenticate peer).run.Along exchange (.done (.ok authenticated)))
      (known : authenticated.user = some name)
      (member : authenticator ∈ socks5.authenticators) (vouched : authenticator.Vouches name) :
      Identified service peer
        (.read Protocol.peekLength (.ok first) :: .unread first :: exchange) socks5 name

theorem Protocol.detect_run (protocols : List Protocol) (peer : Peer) :
    (Protocol.detect protocols peer).run = .read peekLength fun
      | .error error => .close (.done (.error (.ofIo error)))
      | .ok first =>
        match protocols.find? (·.recognises first) with
        | none => .close (.done (.ok ()))
        | some protocol => .unread first (protocol.handle peer).run := by
  apply congrArg (Session.read peekLength)
  funext answer
  cases answer with
  | error error => rfl
  | ok first =>
    cases protocols.find? (·.recognises first) <;> rfl

/-- Nothing is reached before a version is detected. -/
theorem Protocol.exists_handle_of_detect (protocols : List Protocol) (peer : Peer)
    {deeds : List Deed} {rest : Session (Except Failure Unit)} {deed : Deed} {ip : Ip}
    (path : (Protocol.detect protocols peer).run.Along deeds rest) (member : deed ∈ deeds)
    (reaches : deed.Reaches ip) :
    ∃ first protocol served, protocols.find? (·.recognises first) = some protocol ∧
      deeds = .read peekLength (.ok first) :: .unread first :: served ∧ deed ∈ served ∧
      (protocol.handle peer).run.Along served rest := by
  have ending (result : Except Failure Unit) :
      (Session.close (.done result)).Heeds Deed.IsTalk (fun _ => True) := ⟨trivial, trivial⟩
  rw [detect_run] at path
  cases path with
  | here => cases member
  | step look others =>
    cases look with
    | read answer =>
      have later := (List.mem_cons.mp member).resolve_left (by rintro rfl; cases reaches)
      cases answer with
      | error error => exact absurd reaches (Session.not_reaches_of_heeds (ending _) others later)
      | ok first =>
        dsimp only at others
        split at others
        · exact absurd reaches (Session.not_reaches_of_heeds (ending _) others later)
        · rename_i protocol found
          cases others with
          | here => cases later
          | step putBack served =>
            cases putBack
            have inside := (List.mem_cons.mp later).resolve_left (by rintro rfl; cases reaches)
            exact ⟨first, protocol, _, found, rfl, inside, served⟩

/-- A private address is reached on behalf of a user only whom an authentication has made known and
who is a member of one of its networks. The octets of the client, the answers of resolvers and of the
network, and the datagrams of an association are arbitrary. -/
theorem ConnectionService.joins_of_reaches_private (service : ConnectionService) (peer : Peer)
    {deeds : List Deed} {rest : Session (Except Failure Unit)} {deed : Deed} {ip : Ip}
    (path : (service.handle peer).run.Along deeds rest) (member : deed ∈ deeds)
    (reaches : deed.Reaches ip) (isPrivate : ip.isPrivate = true) :
    ∃ before after socks5 name, deeds = before ++ after ∧ deed ∈ after ∧
      service.Identified peer before socks5 name ∧ name ≠ "" ∧
      PrivateNetwork.anyJoins socks5.chain.settings.policy.networks name ip = true := by
  unfold handle at path
  split at path
  · obtain ⟨first, protocol, served, detected, rfl, inside, path⟩ :=
      Protocol.exists_handle_of_detect service.protocols peer path member reaches
    cases protocol with
    | socks4 socks4 =>
      have isPublic := socks4.isPrivate_of_reaches peer.window path inside reaches
      rw [isPublic] at isPrivate
      cases isPrivate
    | socks5 socks5 =>
      obtain ⟨exchange, others, authenticated, rfl, late, authentication, admitted⟩ :=
        socks5.admits_handle peer path inside reaches
      obtain ⟨name, known, nonempty, joins⟩ := admitted isPrivate
      have silent := Session.heeds_along (socks5.authenticate_talks peer) authentication
      obtain ⟨authenticator, offered, vouched⟩ := silent.2 authenticated rfl name known
      exact ⟨_, others, socks5, name, rfl, late,
        .intro detected authentication known offered vouched, nonempty, joins⟩
  · exact absurd reaches (Session.not_reaches_of_heeds close_talks path member)

/-- A gateway that believes every name, with one private network of which `ann` is the only member. -/
def homeService : ConnectionService :=
  let policy : RoutePolicy := {
    rules := .empty, hosts := [],
    networks := [⟨"1", "home", "10.0.0.0/8", [⟨"ann", ⟨10, 0, 0, 7⟩⟩]⟩] }
  { sources := .empty,
    protocols := [.socks5 {
      authenticators := [.password fun _ _ => true],
      chain := .standard { policy, reportsBound := false } }] }

def homePeer : Peer := { remote := ⟨.unspecified, 40000⟩, own := none, window := default }

def homeServer : Endpoint := ⟨.v4 ⟨10, 0, 0, 7⟩, 80⟩

/-- `ann` gives her name and an empty password, and connects to the server. -/
def homeTape : Tape := .ofBytes [5, 1, 2, 1, 3, 97, 110, 110, 0, 5, 1, 0, 1, 10, 0, 0, 7, 0, 80]

theorem exists_dial_home : ∃ deeds rest answer,
    (homeService.handle homePeer).run.Along deeds rest ∧ .dial homeServer answer ∈ deeds := by
  obtain ⟨deeds, path, same⟩ :=
    Session.exists_along_run (homeService.handle homePeer).run .isolated homeTape
  have dialled : Contact.dial homeServer ∈ deeds.filterMap Deed.contact? := by
    rw [same]
    exact List.mem_singleton.mpr rfl
  obtain ⟨deed, member, contact⟩ := List.mem_filterMap.mp dialled
  cases deed with
  | dial endpoint answer =>
    cases contact
    exact ⟨deeds, _, answer, path, member⟩
  | _ => cases contact

/-- The server of the network is a private address that is reached, and `ann` is allowed there. -/
theorem joins_of_reaches_private_home : ∃ deeds rest deed,
    (homeService.handle homePeer).run.Along deeds rest ∧ deed ∈ deeds ∧
      deed.Reaches homeServer.ip ∧ homeServer.ip.isPrivate = true ∧
      ∃ before after socks5 name, deeds = before ++ after ∧ deed ∈ after ∧
        homeService.Identified homePeer before socks5 name ∧ name ≠ "" ∧
        PrivateNetwork.anyJoins socks5.chain.settings.policy.networks name homeServer.ip = true := by
  obtain ⟨deeds, rest, answer, path, member⟩ := exists_dial_home
  exact ⟨deeds, rest, _, path, member, .dial, rfl,
    homeService.joins_of_reaches_private homePeer path member .dial rfl⟩

end SocksGateway
