import SocksGateway.Proofs.Udp.Forwarding

/-!
An association that remembers its routes beside one that asks its policy about every datagram. As long as
names lead to the same addresses nobody can tell them apart: what is remembered of a name is what the
policy says of it.
-/

set_option autoImplicit false

namespace SocksGateway.Association

/-! ## An association without a memory -/

/-- A datagram of the client, for which the policy is asked. -/
def outwardAfresh (resolver : Resolver) (source : Endpoint) (datagram : Bytes)
    (association : Association) : Forwarding :=
  match UdpPacket.decode datagram with
  | .error _ => .dropped
  | .ok packet =>
    if packet.isFragment then .dropped
    else
      match association.terms.policy.route resolver packet.address association.terms.user with
      | .error _ => .dropped
      | .ok destination => .outward destination source packet.payload

def receiveAfresh (resolver : Resolver) (source : Endpoint) (datagram : Bytes)
    (association : Association) : Forwarding × Association :=
  match association.terms.client.accept? source with
  | some client =>
    let known := { association with terms := { association.terms with client } }
    (known.outwardAfresh resolver source datagram, known)
  | none => (association.inward source datagram, association)

def reactAfresh (resolver : Resolver) (arrival : Arrival) (association : Association) :
    Forwarding × Association :=
  let (forwarding, after) := association.receiveAfresh resolver arrival.source arrival.datagram
  (forwarding, if arrival.isSent then after.sent forwarding else after)

/-- What becomes of datagrams one after another if the policy is asked about each. -/
def runAfresh (resolver : Resolver) : List Arrival → Association → List Forwarding × Association
  | [], association => ([], association)
  | arrival :: arrivals, association =>
    let (forwarding, association) := association.reactAfresh resolver arrival
    let (forwardings, association) := runAfresh resolver arrivals association
    (forwarding :: forwardings, association)

/-! ## What is remembered -/

/-- What is remembered is of names, and the policy still says the same of them. -/
def IsFaithful (resolver : Resolver) (association : Association) : Prop :=
  ∀ entry ∈ association.routes, (∃ name port, entry.1 = .domain name port) ∧
    association.terms.policy.route resolver entry.1 association.terms.user = .ok entry.2

variable {resolver : Resolver} {association : Association}

theorem IsFaithful.of_lookup (faithful : association.IsFaithful resolver) {target : Target}
    {endpoint : Endpoint} (found : association.routes.lookup target = some endpoint) :
    association.terms.policy.route resolver target association.terms.user = .ok endpoint := by
  obtain ⟨before, after, parts, _⟩ := List.lookup_eq_some_iff.mp found
  have member : (target, endpoint) ∈ association.routes := by
    rw [parts]
    exact List.mem_append_right before List.mem_cons_self
  exact (faithful _ member).2

/-! ## Both side by side -/

/-- The associations differ at most in what they remember, and that is faithful. -/
structure Agrees (resolver : Resolver) (association fresh : Association) : Prop where
  terms : association.terms = fresh.terms
  clients : association.clients = fresh.clients
  faithful : association.IsFaithful resolver

namespace Agrees

variable {fresh : Association}

/-- A target leads where the policy says, remembered or not. -/
theorem route (agrees : Agrees resolver association fresh) (target : Target) :
    (association.route resolver target).1 =
        (fresh.terms.policy.route resolver target fresh.terms.user).toOption ∧
      Agrees resolver (association.route resolver target).2 fresh := by
  obtain ⟨terms, clients, faithful⟩ := agrees
  rw [← terms]
  unfold Association.route
  split
  · rename_i endpoint found
    rw [faithful.of_lookup found]
    exact ⟨rfl, terms, clients, faithful⟩
  · split
    · rename_i failure refused
      rw [refused]
      exact ⟨rfl, terms, clients, faithful⟩
    · rename_i endpoint routed
      rw [routed]
      split
      · exact ⟨rfl, terms, clients, faithful⟩
      · exact ⟨rfl, terms, clients, List.forall_mem_cons.mpr ⟨⟨⟨_, _, rfl⟩, routed⟩, faithful⟩⟩

theorem outward (agrees : Agrees resolver association fresh) (source : Endpoint)
    (datagram : Bytes) :
    (association.outward resolver source datagram).1 =
        fresh.outwardAfresh resolver source datagram ∧
      Agrees resolver (association.outward resolver source datagram).2 fresh := by
  unfold Association.outward outwardAfresh
  cases UdpPacket.decode datagram with
  | error failure => exact ⟨rfl, agrees⟩
  | ok packet =>
    dsimp only
    split
    · exact ⟨rfl, agrees⟩
    · have routed := agrees.route packet.address
      generalize association.route resolver packet.address = result at routed ⊢
      obtain ⟨found, after⟩ := result
      obtain ⟨leads, stillAgrees⟩ := routed
      dsimp only at leads
      rw [leads]
      cases fresh.terms.policy.route resolver packet.address fresh.terms.user with
      | error failure => exact ⟨rfl, stillAgrees⟩
      | ok destination => exact ⟨rfl, stillAgrees⟩

theorem inward (agrees : Agrees resolver association fresh) (source : Endpoint) (datagram : Bytes) :
    association.inward source datagram = fresh.inward source datagram := by
  unfold Association.inward
  rw [agrees.clients]

theorem receive (agrees : Agrees resolver association fresh) (source : Endpoint) (datagram : Bytes) :
    (association.receive resolver source datagram).1 =
        (fresh.receiveAfresh resolver source datagram).1 ∧
      Agrees resolver (association.receive resolver source datagram).2
        (fresh.receiveAfresh resolver source datagram).2 := by
  unfold Association.receive receiveAfresh
  rw [← agrees.terms]
  cases association.terms.client.accept? source with
  | some client =>
    -- The port of the client has no part in what the policy says.
    have known : Agrees resolver { association with terms := { association.terms with client } }
        { fresh with terms := { association.terms with client } } :=
      ⟨rfl, agrees.clients, agrees.faithful⟩
    exact known.outward source datagram
  | none => exact ⟨agrees.inward source datagram, agrees⟩

theorem sent (agrees : Agrees resolver association fresh) (forwarding : Forwarding) :
    Agrees resolver (association.sent forwarding) (fresh.sent forwarding) := by
  cases forwarding with
  | dropped => exact agrees
  | inward client datagram => exact agrees
  | outward destination client payload =>
    refine ⟨agrees.terms, ?_, agrees.faithful⟩
    unfold Association.sent
    rw [agrees.clients]

theorem react (agrees : Agrees resolver association fresh) (arrival : Arrival) :
    (association.react resolver arrival).1 = (fresh.reactAfresh resolver arrival).1 ∧
      Agrees resolver (association.react resolver arrival).2
        (fresh.reactAfresh resolver arrival).2 := by
  obtain ⟨same, after⟩ := agrees.receive arrival.source arrival.datagram
  refine ⟨same, ?_⟩
  unfold Association.react reactAfresh
  dsimp only
  rw [same]
  split
  · exact after.sent _
  · exact after

theorem run (agrees : Agrees resolver association fresh) (arrivals : List Arrival) :
    (association.run resolver arrivals).1 = (fresh.runAfresh resolver arrivals).1 ∧
      Agrees resolver (association.run resolver arrivals).2
        (fresh.runAfresh resolver arrivals).2 := by
  induction arrivals generalizing association fresh with
  | nil => exact ⟨rfl, agrees⟩
  | cons arrival arrivals ih =>
    obtain ⟨same, after⟩ := agrees.react arrival
    obtain ⟨others, last⟩ := ih after
    exact ⟨List.cons_eq_cons.mpr ⟨same, others⟩, last⟩

end Agrees

theorem agrees_start (resolver : Resolver) (terms : AssociationTerms) :
    Agrees resolver (start terms) (start terms) := by
  refine ⟨rfl, rfl, ?_⟩
  intro entry member
  cases member

/-- Remembering routes shows neither in what becomes of the datagrams nor in the destinations that the
client has sent to. Only names are remembered, each with the endpoint to which the policy routes it, and
nothing that the policy refuses or that cannot be resolved. -/
theorem run_eq_runAfresh (terms : AssociationTerms) (resolver : Resolver) (arrivals : List Arrival) :
    ((start terms).run resolver arrivals).1 = ((start terms).runAfresh resolver arrivals).1 ∧
      ((start terms).run resolver arrivals).2.clients =
        ((start terms).runAfresh resolver arrivals).2.clients ∧
      (∀ entry ∈ ((start terms).run resolver arrivals).2.routes,
        (∃ name port, entry.1 = .domain name port) ∧
          terms.policy.route resolver entry.1 terms.user = .ok entry.2) ∧
      ∀ target failure, terms.policy.route resolver target terms.user = .error failure →
        ((start terms).run resolver arrivals).2.routes.lookup target = none := by
  obtain ⟨same, last⟩ := (agrees_start resolver terms).run arrivals
  have begun : (start terms).IsAdmitted terms.policy terms.user := isAdmitted_start rfl rfl
  have admitted := (isAdmitted_runWith (arrivals.map (resolver, ·)) begun).2
  rw [← run_eq_runWith] at admitted
  have faithful := last.faithful
  rw [IsFaithful, admitted.policy_eq, admitted.user_eq] at faithful
  refine ⟨same, last.clients, faithful, ?_⟩
  intro target failure refused
  cases found : ((start terms).run resolver arrivals).2.routes.lookup target with
  | none => rfl
  | some endpoint =>
    have routed := last.faithful.of_lookup found
    rw [admitted.policy_eq, admitted.user_eq, refused] at routed
    cases routed

/-- A resolver that knows one name. -/
def echoes : Resolver := fun name =>
  if name = "echo.test" then some (.v4 ⟨203, 0, 113, 9⟩) else none

/-- The client sends one octet to a port of a name. -/
def hail (name : String) (octet : UInt8) : Arrival where
  source := ⟨.v4 ⟨127, 0, 0, 1⟩, 4000⟩
  datagram := UdpPacket.encode { address := .domain name 7, payload := [octet] }

theorem route_hail_nowhere : questioner.policy.route echoes (.domain "nowhere.test" 7) questioner.user =
    .error (RoutePolicy.unresolved "nowhere.test") := by
  have same : questioner.policy.resolvePrivate (.domain "nowhere.test" 7) =
      .domain "nowhere.test" 7 := by decide +kernel
  have allowed : questioner.policy.authorize (.domain "nowhere.test" 7) questioner.user =
      .allowed := by decide +kernel
  have unsettled : RoutePolicy.settledName? "nowhere.test" = none := by decide +kernel
  have unknown : echoes "nowhere.test" = none := by decide +kernel
  simp only [RoutePolicy.route, RoutePolicy.plan, same, allowed, unsettled, RoutePolicy.conclude,
    unknown]

/-- A name that is asked for twice is remembered, and one that leads nowhere is not. -/
theorem run_eq_runAfresh_twice :
    let arrivals := [hail "echo.test" 1, hail "nowhere.test" 2, hail "echo.test" 3]
    let place : Endpoint := ⟨.v4 ⟨203, 0, 113, 9⟩, 7⟩
    let after := (start questioner).run echoes arrivals
    after.2.routes = [(.domain "echo.test" 7, place)] ∧
      questioner.policy.route echoes (.domain "echo.test" 7) questioner.user = .ok place ∧
      ((start questioner).runAfresh echoes arrivals).1 =
        [.outward place (hail "echo.test" 1).source [1], .dropped,
          .outward place (hail "echo.test" 3).source [3]] ∧
      after.2.routes.lookup (.domain "nowhere.test" 7) = none := by
  intro arrivals place after
  obtain ⟨same, _, faithful, refused⟩ := run_eq_runAfresh questioner echoes arrivals
  have remembered : after.2.routes = [(.domain "echo.test" 7, place)] := by decide +kernel
  have member : (Target.domain "echo.test" 7, place) ∈ after.2.routes := by
    rw [remembered]
    exact List.mem_singleton_self _
  refine ⟨remembered, (faithful _ member).2, ?_, ?_⟩
  · rw [← same]
    decide +kernel
  · exact refused _ _ route_hail_nowhere

end SocksGateway.Association
