import SocksGateway.Proofs.Session.Closing
import SocksGateway.Proofs.Session.Commands
import SocksGateway.Proofs.Session.Handshake

/-!
What comes behind a request. A session reads up to the last octet of a request and no further,
whichever segments the octets come in, and the other host gets what the client sends from the next
octet on.
-/

set_option autoImplicit false

namespace SocksGateway

open Handler

/-- What the client sends stays where it is. A relay takes it over as it is, and an association drops
it. -/
def Deed.LeavesInput : Deed → Prop
  | .read .. | .unread _ | .protect _ => False
  | _ => True

namespace Handler

variable {α : Type}

/-- Whatever the answers are, nothing that the client sends is read. -/
abbrev LeavesInput (handler : Handler α) : Prop := Heeds Deed.LeavesInput (fun _ => True) handler

theorem write_leaves (octets : Bytes) : LeavesInput (write octets) := write_heeds fun _ => trivial

theorem handOver_leaves (window : Duration) :
    LeavesInput (do ofResult (← effect (Session.relay window))) := relay_heeds fun _ => trivial

theorem route_leaves (policy : RoutePolicy) (target : Target) (user : Option String) :
    LeavesInput (route policy target user) := by
  unfold route
  split
  · exact heeds_pure trivial
  · exact heeds_then (resolve_heeds fun _ => trivial) fun _ => heeds_pure trivial

end Handler

namespace Socks5

namespace Request

variable (settings : CommandSettings) (request : Request)

theorem connectTo_leaves (target : Target) : LeavesInput (request.connectTo settings target) := by
  apply heeds_then (route_leaves _ _ _)
  intro result
  split
  · exact write_leaves _
  · exact write_leaves _
  · apply heeds_then (dial_heeds fun _ => trivial)
    intro answer
    split
    · exact heeds_fail
    · exact write_leaves _
    · apply heeds_then (takingUp_heeds fun _ => trivial)
      intro taken
      split
      · exact write_leaves _
      · exact heeds_then (write_leaves _) fun _ => handOver_leaves _

theorem awaitPeer_leaves : LeavesInput request.awaitPeer := by
  apply heeds_then (heeds_within (listen_heeds fun _ => trivial))
  intro bound
  apply heeds_then (write_leaves _)
  intro _
  apply heeds_then (accept_heeds fun _ => trivial)
  intro called
  split
  · exact heeds_fail
  · exact heeds_fail
  · exact heeds_throw
  · apply heeds_then (write_leaves _)
    intro _
    exact heeds_then (takeUp_heeds fun _ => trivial) fun _ => handOver_leaves _

theorem associateFor_leaves (declared : Target) :
    LeavesInput (request.associateFor settings declared) := by
  apply heeds_then (heeds_within (Handler.associate_heeds fun _ => trivial))
  intro bound
  exact heeds_then (write_leaves _) fun _ => ⟨trivial, fun _ _ => trivial⟩

theorem fulfil_leaves (link : ChainLink) (target : Option Target) :
    LeavesInput (request.fulfil settings link target) := by
  unfold fulfil
  split
  · exact write_leaves _
  · exact heeds_pure trivial
  · exact request.connectTo_leaves settings _
  · exact request.awaitPeer_leaves
  · exact request.associateFor_leaves settings _

end Request

theorem Chain.answer_leaves (result : Except Failure Unit) : LeavesInput (answer result) :=
  answer_heeds (fun _ _ => trivial) (fun _ => trivial) result

end Socks5

namespace Socks4.Service

variable (service : Service)

theorem connect_leaves (target : Target) (window : Duration) :
    LeavesInput (service.connect target window) := by
  apply heeds_then (route_leaves _ _ _)
  intro result
  split
  · exact write_leaves _
  · apply heeds_then (dial_heeds fun _ => trivial)
    intro answer
    split
    · exact heeds_fail
    · exact write_leaves _
    · apply heeds_then (takeUp_heeds fun _ => trivial)
      intro _
      exact heeds_then (write_leaves _) fun _ => handOver_leaves _

theorem bind_leaves (announced : Target) (window : Duration) :
    LeavesInput (bind announced window) := by
  apply heeds_then (heeds_within (listen_heeds fun _ => trivial))
  intro bound
  apply heeds_then (write_leaves _)
  intro _
  apply heeds_then (accept_heeds fun _ => trivial)
  intro called
  split
  · exact heeds_fail
  · exact heeds_fail
  · exact heeds_throw
  · apply heeds_then (isAnnounced_heeds (fun _ _ => trivial) _ _)
    intro same
    split
    · apply heeds_then (write_leaves _)
      intro _
      exact heeds_then (takeUp_heeds fun _ => trivial) fun _ => handOver_leaves _
    · exact write_leaves _

theorem fulfil_leaves (command : UInt8) (target : Target) (window : Duration) :
    LeavesInput (service.fulfil command target window) := by
  unfold fulfil
  split
  · exact service.connect_leaves _ _
  · exact bind_leaves _ _
  · exact write_leaves _

theorem answer_leaves (result : Except Failure Unit) : LeavesInput (answer result) := by
  unfold answer
  split
  · exact heeds_pure trivial
  · apply heeds_when heeds_throw
    exact replying_heeds (fun _ => trivial) (fun _ => trivial) heeds_throw

end Socks4.Service

namespace Protocol

/-- What is done for a client that has asked for a command reads nothing behind the request. -/
theorem fulfil_leaves (protocol : Protocol) (peer : Peer) (user : Option String) (command : UInt8)
    (target : Option Target) : LeavesInput (protocol.fulfil peer user command target) := by
  have closing {handler : Handler Unit} (inner : LeavesInput handler) :
      LeavesInput (Handler.closing handler) := by
    apply heeds_then (heeds_any (heeds_outcome inner))
    intro result
    exact heeds_then (close_heeds trivial) fun _ => heeds_ofResult fun _ _ => trivial
  apply closing
  cases protocol with
  | socks4 service =>
    refine heeds_then (heeds_any (heeds_outcome (?_ : LeavesInput _))) Socks4.Service.answer_leaves
    cases target with
    | none => exact heeds_pure trivial
    | some target => exact service.fulfil_leaves command target peer.window
  | socks5 service =>
    exact heeds_then (heeds_any (heeds_outcome (Socks5.Request.fulfil_leaves _ _ _ _)))
      Socks5.Chain.answer_leaves

variable {protocols : List Protocol}

/-- From the first octet of a stream to the last of a request, and to what was asked for behind it. -/
theorem Opens.continues {world : Surroundings} {tape : Tape} {protocol : Protocol}
    {octets rest : Bytes} {handshake : List Bytes} {user : Option String} {command : UInt8}
    {target : Option Target} (opens : Opens protocols protocol octets handshake user command target)
    (plain : protocol.IsPlain octets) (peer : Peer) (isOpen : tape.isOpen = true)
    (writable : tape.writes = []) (split : tape.input = octets ++ rest) :
    Continues world (detect protocols peer) tape (handshake.map .wrote)
      (protocol.fulfil peer user command target) (tape.holding rest) := by
  have head : tape.input.head? = octets.head? := by
    rw [split, opens.requests.head_append, opens.requests.head]
  have chosen : handleBy protocols peer tape.input = protocol.handle peer := by
    rw [handleBy_eq protocols peer head, handleBy, opens.found]
  have detected : Continues world (detect protocols peer) tape [] (protocol.handle peer) tape := by
    intro cut alike
    have shown := detect_run_alike world protocols peer isOpen
    rw [chosen] at shown
    exact (isFieldwise_detect protocols peer alike).trans shown
  exact detected.trans (opens.requests.continues plain peer isOpen writable split)

/-- A stream opens with one request at most. -/
theorem Opens.unique {protocol second : Protocol} {octets others rest behind : Bytes}
    {handshake messages : List Bytes} {user name : Option String} {command other : UInt8}
    {target place : Option Target}
    (opens : Opens protocols protocol octets handshake user command target)
    (also : Opens protocols second others messages name other place)
    (plain : protocol.IsPlain octets) (same : octets ++ rest = others ++ behind) :
    rest = behind := by
  have head : octets.head? = others.head? := by
    rw [opens.requests.head, ← opens.requests.head_append rest, same, also.requests.head_append,
      also.requests.head]
  have found := also.found
  rw [← recognises_alike head, opens.found] at found
  cases found
  exact (opens.requests.unique also.requests plain same).2.2.2.2.2

/-- However the octets of a client are cut, a session does the same, under the protocol that the first
octet shows. It takes the octets up to the end of a request, answers with the handshake, and goes on to
what was asked for with the octets behind the request, of which it reads none. What another host gets
of a client that is handed over is a front of these. -/
theorem detect_takes_request (areSetUp : ∀ protocol ∈ protocols, protocol.IsSetUp) (peer : Peer) :
    (∀ (world : Surroundings) ⦃tape cut : Tape⦄, cut.Alike tape →
      ((detect protocols peer).run.run world cut).Alike
          ((detect protocols peer).run.run world tape) ∧
        (tape.isOpen = true → ((detect protocols peer).run.run world cut).Alike
          ((handleBy protocols peer tape.input).run.run world tape))) ∧
    (∀ {protocol : Protocol} {octets : Bytes} {handshake : List Bytes} {user : Option String}
        {command : UInt8} {target : Option Target},
      Opens protocols protocol octets handshake user command target → protocol.IsPlain octets →
        let sequel := protocol.fulfil peer user command target
        (∀ (world : Surroundings) (tape : Tape) (rest : Bytes), tape.isOpen = true →
          tape.writes = [] → tape.input = octets ++ rest →
            Continues world (detect protocols peer) tape (handshake.map .wrote) sequel
              (tape.holding rest)) ∧
          ∀ (deeds : List Deed) (left : Session (Except Failure Unit)),
            sequel.run.Along deeds left → ∀ deed ∈ deeds, deed.LeavesInput) ∧
    ∀ (remote : Endpoint) (room : Nat) (putBack : Bytes) (network : Network)
        (whenCancelled : Option (Except Failure Unit)) (occurrences : List Occurrence),
      let course := (Course.start (detect protocols peer).run remote room putBack network
        whenCancelled).run occurrences
      (∀ protocol ∈ protocols, protocol.IsPlain course.sent) →
        (course.delivered ≠ [] → ∃ protocol octets handshake user command target rest,
          Opens protocols protocol octets handshake user command (some target) ∧
            course.sent = octets ++ rest) ∧
          ∀ {protocol : Protocol} {octets rest : Bytes} {handshake : List Bytes}
            {user : Option String} {command : UInt8} {target : Option Target},
            Opens protocols protocol octets handshake user command target →
              course.sent = octets ++ rest → course.delivered <+: rest := by
  have minds : Course.Minds (mannersOf protocols) (detect protocols peer).run .fresh :=
    Session.keeps_mono (detect_keeps areSetUp peer) (fun _ _ admits => admits) <| by
      rintro (failure | value) after closed <;> exact closed
  refine ⟨?_, ?_, ?_⟩
  · intro world tape cut alike
    refine ⟨isFieldwise_detect protocols peer alike, fun isOpen => ?_⟩
    exact (isFieldwise_detect protocols peer alike).trans
      (detect_run_alike world protocols peer isOpen)
  · intro protocol octets handshake user command target opens plain sequel
    refine ⟨fun world tape rest isOpen writable split => ?_, fun deeds left path => ?_⟩
    · exact opens.continues plain peer isOpen writable split
    · exact (Session.heeds_along (protocol.fulfil_leaves peer user command target) path).1
  · intro remote room putBack network whenCancelled occurrences course plain
    have phase : Course.Phase (mannersOf protocols) course :=
      (Course.Phase.start minds (.inl rfl) remote room putBack network whenCancelled).run
        occurrences plain
    rcases (phase.faithful plain).delivered with nothing | ⟨heard, rest, handed, sent, delivered⟩
    · refine ⟨fun something => absurd nothing something, fun _ _ => ?_⟩
      rw [nothing]
      exact List.nil_prefix
    · obtain ⟨protocol, handshake, user, command, target, opens⟩ := handed
      refine ⟨fun _ => ⟨protocol, heard, handshake, user, command, target, rest, opens, sent⟩, ?_⟩
      intro second octets behind _ _ _ _ also split
      have plainly : second.IsPlain octets := isPlain_of_front (split ▸ List.prefix_append _ _)
        (plain second (List.mem_of_find?_eq_some also.found))
      exact also.unique opens plainly (split.symm.trans sent) ▸ delivered

/-- Version 5 with the doorkeepers. -/
def guarded : Protocol :=
  .socks5 { authenticators := Socks5.Service.doorkeepers, chain := Socks5.Service.openChain }

theorem guarded_isSetUp : guarded.IsSetUp := by
  have isSetUp := IsSetUp.socks5 Socks5.Service.doorkeepers [0, 2] Socks5.Service.openChain
  rwa [Socks5.Service.ofRegistered_doorkeepers] at isSetUp

/-- The octets of a visit with some more behind them, in two segments, of which the first ends within
the name and the second holds what is meant for the host outside. -/
def eagerVisit : List Occurrence :=
  .client (.send [5, 1, 2, 1, 3, 97, 110]) :: List.replicate 10 .stride ++
    .client (.send [110, 1, 120, 5, 1, 0, 1, 192, 0, 2, 1, 0, 80, 71, 69]) ::
      List.replicate 14 .stride

theorem guarded_isPlain (octets : Bytes) : guarded.IsPlain octets := by
  rintro offered context - - selected
  have member := List.mem_of_find?_eq_some selected
  rcases List.mem_cons.mp member with none | others
  · cases none
  · cases List.mem_singleton.mp others

theorem opens_visit : Opens [openService, guarded] guarded Socks5.Service.visit.input
    [[5, 2], [1, 0]] (some "ann") 1 (some (.ip Socks5.Service.outside)) where
  found := rfl
  requests := by
    have credentials : Socks5.Password.AreWritable "ann" "x" :=
      ⟨by decide, by decide, by decide⟩
    have selected : Socks5.Authenticator.select Socks5.Service.doorkeepers [2] =
        some (.password fun user password => user == "ann" && password == "x") := rfl
    have served : Socks5.Service.openChain.linkFor 1 ≠ .unsupported := by decide
    exact @Requests.socks5 _ [2] _ [192, 0, 2, 1, 0, 80] _ _ _ _ ⟨5, 1, 0, 1⟩ _ (by decide) selected
      (.password credentials rfl) rfl served trivial rfl

/-- What `ann` sends behind her request, and nothing else, gets to the host outside. -/
theorem detect_takes_request_visit :
    let course := (Course.start (detect [openService, guarded] guest).run guest.remote 100 [] nearby
      none).run eagerVisit
    course.sent = Socks5.Service.visit.input ++ [71, 69] ∧ course.delivered = [71, 69] ∧
      course.delivered <+: [71, 69] ∧
      ∀ world, Continues world (detect [openService, guarded] guest)
        (.ofBytes (Socks5.Service.visit.input ++ [71, 69])) [.wrote [5, 2], .wrote [1, 0]]
        (guarded.fulfil guest (some "ann") 1 (some (.ip Socks5.Service.outside)))
        (.ofBytes [71, 69]) := by
  intro course
  have areSetUp : ∀ protocol ∈ [openService, guarded], protocol.IsSetUp :=
    List.forall_mem_cons.mpr ⟨.socks4 _, List.forall_mem_singleton.mpr guarded_isSetUp⟩
  have arePlain : ∀ protocol ∈ [openService, guarded], protocol.IsPlain course.sent :=
    List.forall_mem_cons.mpr ⟨trivial, List.forall_mem_singleton.mpr (guarded_isPlain _)⟩
  have sent : course.sent = Socks5.Service.visit.input ++ [71, 69] := rfl
  have delivered : course.delivered = [71, 69] := rfl
  obtain ⟨-, takes, hands⟩ := detect_takes_request areSetUp guest
  refine ⟨sent, delivered, ?_, fun world => ?_⟩
  · exact (hands guest.remote 100 [] nearby none eagerVisit arePlain).2 opens_visit sent
  · exact (takes opens_visit (guarded_isPlain _)).1 world _ [71, 69] rfl rfl rfl

end Protocol

end SocksGateway
