import SocksGateway.Proofs.Udp.Packet
import SocksGateway.Proofs.Udp.History

/-!
What becomes of every datagram of a run, told by the datagrams before it. The client's go where their
targets lead, unwrapped; those from where the client has sent to come back to it, wrapped; all others
are dropped and leave no trace among the destinations.
-/

set_option autoImplicit false

namespace SocksGateway.Association

section

variable (terms : AssociationTerms) (earlier : List Passage)

/-- The datagram is a whole packet for a target that leads to the destination. -/
structure Directs (passage : Passage) (packet : UdpPacket) (destination : Endpoint) : Prop where
  decoded : UdpPacket.decode passage.datagram = .ok packet
  whole : packet.fragment = 0
  leads : leads? terms earlier passage.resolver packet.address = some destination

/-- Datagrams of which nothing becomes: the client's without a packet, with a fragment or with a target
that leads nowhere, and those from where the client has not sent to. -/
inductive Unfit (passage : Passage) : Prop where
  | malformed (failure : Failure) (client : IsClient terms earlier passage.source)
    (undecoded : UdpPacket.decode passage.datagram = .error failure)
  | fragment (packet : UdpPacket) (client : IsClient terms earlier passage.source)
    (decoded : UdpPacket.decode passage.datagram = .ok packet) (isFragment : packet.fragment ≠ 0)
  | denied (packet : UdpPacket) (client : IsClient terms earlier passage.source)
    (decoded : UdpPacket.decode passage.datagram = .ok packet)
    (nowhere : leads? terms earlier passage.resolver packet.address = none)
  | unsolicited (foreign : ¬ IsClient terms earlier passage.source)
    (unknown : lastClient? earlier passage.source = none)

/-- What one datagram of a run leads to after the earlier ones. -/
structure Handled (passage : Passage) : Prop where
  /-- Others are answered for exactly if the client has sent to them. -/
  returned_iff : ¬ IsClient terms earlier passage.source →
    (passage.forwarding ≠ .dropped ↔ ∃ client, lastClient? earlier passage.source = some client)
  /-- The client then gets the datagram wrapped, with its source. -/
  returned : ¬ IsClient terms earlier passage.source →
    ∀ client, lastClient? earlier passage.source = some client →
      client.ip.canonical = terms.client.ip ∧ knownPort terms earlier = some client.port ∧
        ∃ datagram, passage.forwarding = .inward client datagram ∧
          UdpPacket.decode datagram =
            .ok { fragment := 0, address := .ip passage.source, payload := passage.datagram }
  /-- A datagram of the client goes out exactly if it directs its payload somewhere. -/
  directed_iff : IsClient terms earlier passage.source →
    (passage.forwarding ≠ .dropped ↔
      ∃ packet destination, Directs terms earlier passage packet destination)
  /-- Exactly the payload goes exactly there. -/
  directed : IsClient terms earlier passage.source → ∀ packet destination,
    Directs terms earlier passage packet destination →
      passage.forwarding = .outward destination passage.source packet.payload
  /-- As long as the resolver answers the same, a target leads to where the policy routes it. -/
  steady : (∀ each ∈ earlier, each.resolver = passage.resolver) → ∀ target,
    leads? terms earlier passage.resolver target =
      (terms.policy.route passage.resolver target terms.user).toOption
  unfit : Unfit terms earlier passage →
    passage.forwarding = .dropped ∧ passage.after.clients = passage.before.clients
  /-- What cannot be sent leaves no trace either. -/
  unsent : passage.arrival.isSent = false → passage.after.clients = passage.before.clients
  /-- The destinations that are known are those that the client has sent to. -/
  clients : ∀ destination,
    passage.after.clients.lookup destination = lastClient? (earlier ++ [passage]) destination
  /-- All that ever changes of the terms is the client's port, which the first datagram from its
  address tells if it was not given. -/
  terms_before : passage.before.terms = { terms with client := knownClient terms earlier }
  terms_after : passage.after.terms =
    { terms with client := knownClient terms (earlier ++ [passage]) }

end

variable {terms : AssociationTerms} {earlier : List Passage} {passage : Passage}
  {association : Association}

section

variable {asked : Association} {resolver : Resolver} {target : Target}

theorem route_fst (policy : asked.terms.policy = terms.policy) (user : asked.terms.user = terms.user)
    (routes : ∀ target, asked.routes.lookup target = remembered? earlier target) :
    (asked.route resolver target).1 = leads? terms earlier resolver target := by
  unfold route leads?
  rw [← routes, policy, user]
  cases asked.routes.lookup target with
  | some endpoint => rfl
  | none =>
    cases terms.policy.route resolver target terms.user with
    | error failure => rfl
    | ok endpoint =>
      cases target with
      | ip given => rfl
      | domain name port => rfl

/-- Only names are remembered. -/
theorem lookup_route (other : Target) :
    (asked.route resolver target).2.routes.lookup other =
      (asked.routes.lookup other).or (match other with
        | .domain .. => if target = other then (asked.route resolver target).1 else none
        | .ip _ => none) := by
  unfold route
  cases remembered : asked.routes.lookup target with
  | some endpoint =>
    cases other with
    | ip given => exact Option.or_none.symm
    | domain name port =>
      dsimp only
      split
      · rename_i same
        rw [← same, remembered]
        rfl
      · exact Option.or_none.symm
  | none =>
    cases asked.terms.policy.route resolver target asked.terms.user with
    | error failure =>
      cases other with
      | ip given => exact Option.or_none.symm
      | domain name port =>
        dsimp only
        rw [ite_self, Option.or_none]
    | ok endpoint =>
      cases target with
      | ip given =>
        cases other with
        | ip given => exact Option.or_none.symm
        | domain name port =>
          dsimp only
          rw [if_neg nofun, Option.or_none]
      | domain wanted wantedPort =>
        dsimp only
        rw [List.lookup_cons]
        split
        · rename_i same
          cases eq_of_beq same
          rw [remembered]
          exact (if_pos rfl).symm
        · rename_i differs
          cases other with
          | ip given => exact Option.or_none.symm
          | domain name port =>
            dsimp only
            rw [if_neg (Ne.symm (ne_of_beq_false differs)), Option.or_none]

/-- Routing changes nothing but the routes, and these only when a target leads somewhere. -/
theorem route_snd : (asked.route resolver target).2 =
    { asked with routes := (asked.route resolver target).2.routes } := by
  unfold route
  split
  · rfl
  · split
    · rfl
    · split <;> rfl

theorem route_of_none (nowhere : (asked.route resolver target).1 = none) :
    (asked.route resolver target).2 = asked := by
  unfold route at nowhere ⊢
  split
  · rfl
  · split
    · rfl
    · rename_i missing _ endpoint routed
      rw [missing] at nowhere
      dsimp only at nowhere
      rw [routed] at nowhere
      dsimp only at nowhere
      split at nowhere <;> cases nowhere

theorem outward_of_some {source destination : Endpoint} {datagram : Bytes} {packet : UdpPacket}
    (decoded : UdpPacket.decode datagram = .ok packet) (whole : packet.fragment = 0)
    (found : (asked.route resolver packet.address).1 = some destination) :
    asked.outward resolver source datagram =
      (.outward destination source packet.payload, (asked.route resolver packet.address).2) := by
  have unbroken : ¬ packet.isFragment = true := by
    rw [UdpPacket.isFragment, whole]
    decide
  have routed : asked.route resolver packet.address =
      (some destination, (asked.route resolver packet.address).2) := Prod.ext found rfl
  unfold outward
  rw [decoded]
  dsimp only
  rw [if_neg unbroken, routed]

theorem outward_of_none {source : Endpoint} {datagram : Bytes}
    (nowhere : ∀ packet destination, UdpPacket.decode datagram = .ok packet →
      packet.fragment = 0 → (asked.route resolver packet.address).1 ≠ some destination) :
    asked.outward resolver source datagram = (.dropped, asked) := by
  unfold outward
  cases decoded : UdpPacket.decode datagram with
  | error failure => rfl
  | ok packet =>
    dsimp only
    by_cases whole : packet.fragment = 0
    · have unbroken : ¬ packet.isFragment = true := by
        rw [UdpPacket.isFragment, whole]
        decide
      have lost : (asked.route resolver packet.address).1 = none :=
        Option.eq_none_iff_forall_ne_some.mpr fun destination =>
          nowhere packet destination decoded whole
      have routed : asked.route resolver packet.address = (none, asked) :=
        Prod.ext lost (route_of_none lost)
      rw [if_neg unbroken, routed]
    · have broken : packet.isFragment = true := bne_iff_ne.mpr whole
      rw [if_pos broken]

end

/-- What was made of a datagram, in three cases. -/
inductive Treated (terms : AssociationTerms) (earlier : List Passage) (passage : Passage) : Prop where
  | foreign (foreign : ¬ IsClient terms earlier passage.source)
    (made : passage.forwarding = passage.before.inward passage.source passage.datagram)
    (kept : passage.after = passage.before)
  | undirected (client : IsClient terms earlier passage.source)
    (nowhere : ∀ packet destination, ¬ Directs terms earlier passage packet destination)
    (made : passage.forwarding = .dropped)
    (kept : passage.after = { passage.before with
      terms := { terms with client := knownClient terms (earlier ++ [passage]) } })
  | directed (packet : UdpPacket) (destination : Endpoint)
    (client : IsClient terms earlier passage.source)
    (directs : Directs terms earlier passage packet destination)
    (made : passage.forwarding = .outward destination passage.source packet.payload)
    (terms_after : passage.after.terms =
      { terms with client := knownClient terms (earlier ++ [passage]) })
    (clients : passage.after.clients =
      if passage.arrival.isSent then (destination, passage.source) ::
        passage.before.clients.filter fun entry => entry.1 != destination
      else passage.before.clients)
    (routes : ∀ target, passage.after.routes.lookup target =
      (passage.before.routes.lookup target).or (passage.ledTo? target))

theorem receive_of_isClient (reflects : Reflects terms earlier association)
    (client : IsClient terms earlier passage.source) (resolver : Resolver) (datagram : Bytes) :
    association.receive resolver passage.source datagram =
      { association with
        terms := { terms with client := knownClient terms (earlier ++ [passage]) } }.outward
          resolver passage.source datagram := by
  unfold receive
  rw [reflects.terms_eq]
  dsimp only
  rw [accept?_of_isClient client]
  dsimp only
  rw [knownClient, knownPort_of_isClient client]

theorem receive_of_foreign (reflects : Reflects terms earlier association) {source : Endpoint}
    (foreign : ¬ IsClient terms earlier source) (resolver : Resolver) (datagram : Bytes) :
    association.receive resolver source datagram =
      (association.inward source datagram, association) := by
  unfold receive
  rw [reflects.terms_eq]
  dsimp only
  rw [accept?_of_foreign foreign]

theorem sent_inward (source : Endpoint) (datagram : Bytes) :
    association.sent (association.inward source datagram) = association := by
  unfold inward
  split <;> rfl

theorem react_of_receive {resolver : Resolver} {arrival : Arrival} {forwarding : Forwarding}
    {after : Association} (received : association.receive resolver arrival.source arrival.datagram =
      (forwarding, after)) :
    association.react resolver arrival =
      (forwarding, if arrival.isSent then after.sent forwarding else after) := by
  unfold react
  rw [received]

/-- A datagram of the client is routed with its port known. -/
theorem treated_next_of_isClient (reflects : Reflects terms earlier association)
    (resolver : Resolver) (arrival : Arrival)
    (client : IsClient terms earlier (association.next resolver arrival).source) :
    Treated terms earlier (association.next resolver arrival) := by
  let asked : Association := { association with
    terms := { terms with
      client := knownClient terms (earlier ++ [association.next resolver arrival]) } }
  have received : association.receive resolver arrival.source arrival.datagram =
      asked.outward resolver arrival.source arrival.datagram :=
    receive_of_isClient reflects client resolver arrival.datagram
  have leads (target : Target) :
      (asked.route resolver target).1 = leads? terms earlier resolver target :=
    route_fst rfl rfl reflects.routes
  by_cases directs : ∃ packet destination,
      Directs terms earlier (association.next resolver arrival) packet destination
  · obtain ⟨packet, destination, directs⟩ := directs
    have found : (asked.route resolver packet.address).1 = some destination :=
      (leads packet.address).trans directs.leads
    have reaction := react_of_receive
      (received.trans (outward_of_some directs.decoded directs.whole found))
    have made : (association.next resolver arrival).forwarding =
        .outward destination arrival.source packet.payload := congrArg Prod.fst reaction
    have after : (association.next resolver arrival).after = if arrival.isSent then
        (asked.route resolver packet.address).2.sent
          (.outward destination arrival.source packet.payload)
        else (asked.route resolver packet.address).2 := congrArg Prod.snd reaction
    rw [route_snd] at after
    refine .directed packet destination client directs made ?_ ?_ ?_
    · rw [after]
      split <;> rfl
    · rw [after]
      change _ = if arrival.isSent then _ else _
      split <;> rfl
    · intro target
      have remembered : (association.next resolver arrival).after.routes =
          (asked.route resolver packet.address).2.routes := by
        rw [after]
        split <;> rfl
      rw [remembered, lookup_route, found, Passage.ledTo?_of_outward made directs.decoded target]
      rfl
  · have nowhere (packet : UdpPacket) (destination : Endpoint) :
        ¬ Directs terms earlier (association.next resolver arrival) packet destination :=
      fun found => directs ⟨packet, destination, found⟩
    have dropped : asked.outward resolver arrival.source arrival.datagram = (.dropped, asked) := by
      apply outward_of_none
      intro packet destination decoded whole found
      exact nowhere packet destination ⟨decoded, whole, (leads packet.address).symm.trans found⟩
    have reaction := react_of_receive (received.trans dropped)
    refine .undirected client nowhere (congrArg Prod.fst reaction) ?_
    exact (congrArg Prod.snd reaction).trans (ite_self asked)

theorem treated_next (reflects : Reflects terms earlier association) (resolver : Resolver)
    (arrival : Arrival) : Treated terms earlier (association.next resolver arrival) := by
  by_cases client : IsClient terms earlier (association.next resolver arrival).source
  · exact treated_next_of_isClient reflects resolver arrival client
  · have received : association.receive resolver arrival.source arrival.datagram =
        (association.inward arrival.source arrival.datagram, association) :=
      receive_of_foreign reflects client resolver arrival.datagram
    have reaction := react_of_receive received
    rw [sent_inward, ite_self] at reaction
    exact .foreign client (congrArg Prod.fst reaction) (congrArg Prod.snd reaction)

theorem lookup_filter_ne {entries : List (Endpoint × Endpoint)} {destination other : Endpoint}
    (different : other ≠ destination) :
    (entries.filter fun entry => entry.1 != destination).lookup other = entries.lookup other := by
  induction entries with
  | nil => rfl
  | cons entry rest ih =>
    obtain ⟨first, client⟩ := entry
    by_cases same : first = destination
    · have skipped : ¬ (first != destination) = true := by
        rw [same, bne_self_eq_false]
        exact Bool.false_ne_true
      have unlike : (other == first) = false := by
        rw [same]
        exact beq_eq_false_iff_ne.mpr different
      rw [List.filter_cons, if_neg skipped, ih, List.lookup_cons, unlike]
    · have remains : (first != destination) = true := bne_iff_ne.mpr same
      rw [List.filter_cons, if_pos remains, List.lookup_cons, List.lookup_cons, ih]

/-- The last client of a destination takes the place of the one before. -/
theorem lookup_replaced (entries : List (Endpoint × Endpoint))
    (destination client other : Endpoint) :
    ((destination, client) :: entries.filter fun entry => entry.1 != destination).lookup other =
      (if destination = other then some client else none).or (entries.lookup other) := by
  rw [List.lookup_cons]
  by_cases same : destination = other
  · rw [same, beq_self_eq_true, if_pos rfl]
    rfl
  · rw [beq_eq_false_iff_ne.mpr (Ne.symm same), if_neg same, Option.none_or]
    exact lookup_filter_ne (Ne.symm same)

/-- A name leads first to where the policy routed it then. -/
theorem Directs.route_of_ledTo? {packet : UdpPacket} {destination client place : Endpoint}
    {payload : Bytes} {target : Target} (directs : Directs terms earlier passage packet destination)
    (made : passage.forwarding = .outward destination client payload)
    (missing : remembered? earlier target = none) (now : passage.ledTo? target = some place) :
    (terms.policy.route passage.resolver target terms.user).toOption = some place := by
  obtain ⟨_, _, other, reached, decoded, rfl⟩ := Passage.ledTo?_eq_some now
  cases directs.decoded.symm.trans decoded
  cases made.symm.trans reached
  have leads := directs.leads
  rw [leads?, missing, Option.none_or] at leads
  exact leads

theorem Treated.reflects (treated : Treated terms earlier passage)
    (reflects : Reflects terms earlier passage.before) :
    Reflects terms (earlier ++ [passage]) passage.after := by
  cases treated with
  | foreign foreign made kept =>
    apply reflects.of_kept
    · intro destination client payload
      rw [made]
      unfold inward
      split <;> nofun
    · rw [kept, knownClient, knownPort_of_foreign foreign]
      exact congrArg (fun terms => { passage.before with terms }) reflects.terms_eq
  | undirected client nowhere made kept =>
    refine reflects.of_kept ?_ kept
    intro destination client payload
    rw [made]
    nofun
  | directed packet destination client directs made terms_after clients routes =>
    refine ⟨terms_after, ?_, ?_, ?_, ?_⟩
    · intro other
      rw [clients, lastClient?_append, passage.sender?_of_outward made, ← reflects.clients]
      cases passage.arrival.isSent with
      | true => simp only [↓reduceIte, lookup_replaced, true_and]
      | false => simp only [Bool.false_eq_true, ↓reduceIte, false_and, Option.none_or]
    · intro target
      rw [routes, remembered?_append, reflects.routes]
    · intro other last found
      rw [lastClient?_append, passage.sender?_of_outward made] at found
      obtain now | before := Option.or_eq_some_iff.mp found
      · obtain ⟨_, same⟩ := Option.ite_none_right_eq_some.mp now
        cases same
        exact ⟨client.1, knownPort_of_isClient client⟩
      · obtain ⟨address, port⟩ := reflects.known other last before.2
        exact ⟨address, knownPort_kept port _⟩
    · intro target place found
      rw [remembered?_append] at found
      obtain before | ⟨missing, now⟩ := Option.or_eq_some_iff.mp found
      · obtain ⟨each, member, routed⟩ := reflects.routed target place before
        exact ⟨each, List.mem_append_left _ member, routed⟩
      · refine ⟨passage, List.mem_append_right _ (List.mem_singleton_self passage), ?_⟩
        exact directs.route_of_ledTo? made missing now

theorem Directs.unique {packet other : UdpPacket} {destination reached : Endpoint}
    (first : Directs terms earlier passage packet destination)
    (second : Directs terms earlier passage other reached) :
    packet = other ∧ destination = reached := by
  cases first.decoded.symm.trans second.decoded
  cases first.leads.symm.trans second.leads
  exact ⟨rfl, rfl⟩

theorem Treated.eq_of_foreign (treated : Treated terms earlier passage)
    (foreign : ¬ IsClient terms earlier passage.source) :
    passage.forwarding = passage.before.inward passage.source passage.datagram ∧
      passage.after = passage.before := by
  cases treated with
  | foreign _ made kept => exact ⟨made, kept⟩
  | undirected client => exact absurd client foreign
  | directed _ _ client => exact absurd client foreign

theorem Treated.eq_of_directs {packet : UdpPacket} {destination : Endpoint}
    (treated : Treated terms earlier passage) (client : IsClient terms earlier passage.source)
    (directs : Directs terms earlier passage packet destination) :
    passage.forwarding = .outward destination passage.source packet.payload := by
  cases treated with
  | foreign foreign => exact absurd client foreign
  | undirected _ nowhere => exact absurd directs (nowhere packet destination)
  | directed other reached _ same made =>
    obtain ⟨rfl, rfl⟩ := directs.unique same
    exact made

theorem Treated.eq_of_nowhere (treated : Treated terms earlier passage)
    (client : IsClient terms earlier passage.source)
    (nowhere : ∀ packet destination, ¬ Directs terms earlier passage packet destination) :
    passage.forwarding = .dropped ∧ passage.after.clients = passage.before.clients := by
  cases treated with
  | foreign foreign => exact absurd client foreign
  | undirected _ _ made kept => exact ⟨made, by rw [kept]⟩
  | directed packet destination _ directs => exact absurd directs (nowhere packet destination)

theorem inward_of_some {source client : Endpoint} (datagram : Bytes)
    (found : association.clients.lookup source = some client) :
    association.inward source datagram =
      .inward client (UdpPacket.encode { address := .ip source, payload := datagram }) := by
  unfold inward
  rw [found]

theorem inward_of_none {source : Endpoint} (datagram : Bytes)
    (missing : association.clients.lookup source = none) :
    association.inward source datagram = .dropped := by
  unfold inward
  rw [missing]

theorem Unfit.dropped (unfit : Unfit terms earlier passage)
    (treated : Treated terms earlier passage)
    (reflects : Reflects terms earlier passage.before) :
    passage.forwarding = .dropped ∧ passage.after.clients = passage.before.clients := by
  cases unfit with
  | malformed failure client undecoded =>
    apply treated.eq_of_nowhere client
    intro packet destination directs
    cases undecoded.symm.trans directs.decoded
  | fragment packet client decoded isFragment =>
    apply treated.eq_of_nowhere client
    intro other destination directs
    cases decoded.symm.trans directs.decoded
    exact isFragment directs.whole
  | denied packet client decoded nowhere =>
    apply treated.eq_of_nowhere client
    intro other destination directs
    cases decoded.symm.trans directs.decoded
    cases nowhere.symm.trans directs.leads
  | unsolicited foreign unknown =>
    obtain ⟨made, kept⟩ := treated.eq_of_foreign foreign
    refine ⟨?_, by rw [kept]⟩
    rw [made]
    exact inward_of_none _ ((reflects.clients passage.source).trans unknown)

theorem Treated.eq_of_last {client : Endpoint} (treated : Treated terms earlier passage)
    (reflects : Reflects terms earlier passage.before)
    (foreign : ¬ IsClient terms earlier passage.source)
    (last : lastClient? earlier passage.source = some client) :
    passage.forwarding = .inward client
      (UdpPacket.encode { address := .ip passage.source, payload := passage.datagram }) := by
  rw [(treated.eq_of_foreign foreign).1]
  exact inward_of_some _ ((reflects.clients passage.source).trans last)

theorem Treated.handled (treated : Treated terms earlier passage)
    (reflects : Reflects terms earlier passage.before) : Handled terms earlier passage where
  returned_iff foreign := by
    cases last : lastClient? earlier passage.source with
    | none =>
      have dropped := (Unfit.unsolicited foreign last).dropped treated reflects
      exact iff_of_false (not_not_intro dropped.1) nofun
    | some client =>
      refine iff_of_true ?_ ⟨client, rfl⟩
      rw [treated.eq_of_last reflects foreign last]
      nofun
  returned foreign client last := by
    obtain ⟨address, port⟩ := reflects.known passage.source client last
    have made := treated.eq_of_last reflects foreign last
    exact ⟨address, port, _, made, UdpPacket.decode_encode trivial⟩
  directed_iff client := by
    constructor
    · intro kept
      apply Classical.byContradiction
      intro nowhere
      refine kept (treated.eq_of_nowhere client ?_).1
      intro packet destination directs
      exact nowhere ⟨packet, destination, directs⟩
    · rintro ⟨packet, destination, directs⟩
      rw [treated.eq_of_directs client directs]
      nofun
  directed client packet destination directs := treated.eq_of_directs client directs
  steady same target := by
    unfold leads?
    cases found : remembered? earlier target with
    | none => rfl
    | some destination =>
      obtain ⟨each, member, routed⟩ := reflects.routed target destination found
      rw [same each member] at routed
      exact routed.symm
  unfit unfit := unfit.dropped treated reflects
  unsent failed := by
    cases treated with
    | foreign _ _ kept => rw [kept]
    | undirected _ _ _ kept => rw [kept]
    | directed _ _ _ _ _ _ clients =>
      rw [clients, failed]
      rfl
  clients := (treated.reflects reflects).clients
  terms_before := reflects.terms_eq
  terms_after := (treated.reflects reflects).terms_eq

theorem handled_of_reflects {occasions : List (Resolver × Arrival)} {later rest : List Passage}
    (reflects : Reflects terms earlier association)
    (split : association.passages occasions = rest ++ passage :: later) :
    Handled terms (earlier ++ rest) passage := by
  induction occasions generalizing association earlier rest with
  | nil =>
    have impossible := congrArg List.length split
    simp only [passages, List.length_nil, List.length_append, List.length_cons] at impossible
    omega
  | cons occasion occasions ih =>
    obtain ⟨resolver, arrival⟩ := occasion
    have treated := treated_next reflects resolver arrival
    unfold passages at split
    cases rest with
    | nil =>
      cases (List.cons.inj split).1
      rw [List.append_nil]
      exact treated.handled reflects
    | cons first rest =>
      obtain ⟨same, others⟩ := List.cons.inj split
      cases same
      have handled := ih (treated.reflects reflects) others
      rw [List.append_assoc] at handled
      exact handled

/-- Each datagram of a run is handled as the earlier ones call for, and a port that is known at some
time is the client's port ever after. -/
theorem handled_passages (terms : AssociationTerms) (occasions : List (Resolver × Arrival)) :
    let passages := (start terms).passages occasions
    passages.map (fun passage => (passage.resolver, passage.arrival)) = occasions ∧
      passages.map (·.forwarding) = ((start terms).runWith occasions).1 ∧
      ∀ earlier passage later, passages = earlier ++ passage :: later →
        Handled terms earlier passage ∧
          ∀ port, passage.after.terms.client.port = some port →
            ∀ each ∈ later, each.after.terms.client.port = some port := by
  refine ⟨map_arrival_passages occasions _, map_forwarding_passages occasions _, ?_⟩
  intro earlier passage later split
  have handled {front back : List Passage} {each : Passage}
      (split : (start terms).passages occasions = front ++ each :: back) :
      Handled terms front each := handled_of_reflects (reflects_start terms) split
  refine ⟨handled split, ?_⟩
  intro port known each member
  obtain ⟨front, back, rfl⟩ := List.append_of_mem member
  rw [(handled split).terms_after] at known
  have kept : knownPort terms (earlier ++ [passage] ++ (front ++ [each])) = some port :=
    knownPort_kept known _
  have again : (start terms).passages occasions = earlier ++ passage :: front ++ each :: back := by
    rw [split, List.append_assoc, List.cons_append]
  rw [(handled again).terms_after]
  rw [List.append_assoc, List.singleton_append, ← List.cons_append, ← List.append_assoc] at kept
  exact kept

/-- A client whose port is not given, and who may reach any public host. -/
def questioner : AssociationTerms where
  client := .learning (.v4 ⟨127, 0, 0, 1⟩)
  policy := .permissive
  user := none

/-- The client sends two octets to `203.0.113.9:53`. -/
def question : Arrival where
  source := ⟨.v4 ⟨127, 0, 0, 1⟩, 4000⟩
  datagram := [0, 0, 0, 1, 203, 0, 113, 9, 0, 53, 104, 105]

/-- Two others come back from there. -/
def answer : Arrival where
  source := ⟨.v4 ⟨203, 0, 113, 9⟩, 53⟩
  datagram := [111, 107]

/-- The answer is handled as the question calls for. -/
theorem handled_passages_answer :
    let asked := (start questioner).next (fun _ => none) question
    let answered := asked.after.next (fun _ => none) answer
    (start questioner).passages [(fun _ => none, question), (fun _ => none, answer)] =
        [asked] ++ answered :: [] ∧
      asked.forwarding = .outward answer.source question.source [104, 105] ∧
      answered.forwarding =
        .inward question.source [0, 0, 0, 1, 203, 0, 113, 9, 0, 53, 111, 107] ∧
      Handled questioner [asked] answered := by
  intro asked answered
  refine ⟨rfl, by decide, by decide, ?_⟩
  have course := handled_passages questioner [(fun _ => none, question), (fun _ => none, answer)]
  exact (course.2.2 [asked] answered [] rfl).1

end SocksGateway.Association
