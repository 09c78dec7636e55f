import SocksGateway.Proofs.Udp.Admission
import SocksGateway.Proofs.Udp.Client

/-!
What the datagrams so far tell about an association: the client's port, the destinations that the client
has sent to, and where its names led. An association reflects that history.
-/

set_option autoImplicit false

namespace SocksGateway.Association

/-- A datagram that came in, with what a resolver would answer then, and what was made of it. -/
structure Passage where
  resolver : Resolver
  arrival : Arrival
  before : Association
  forwarding : Forwarding
  after : Association

/-- What an association makes of the next datagram. -/
def next (association : Association) (resolver : Resolver) (arrival : Arrival) : Passage :=
  { resolver, arrival, before := association, forwarding := (association.react resolver arrival).1,
    after := (association.react resolver arrival).2 }

/-- What is made of datagrams one after another. -/
def passages : List (Resolver × Arrival) → Association → List Passage
  | [], _ => []
  | (resolver, arrival) :: occasions, association =>
    let passage := association.next resolver arrival
    passage :: passages occasions passage.after

theorem map_forwarding_passages (occasions : List (Resolver × Arrival)) (association : Association) :
    (association.passages occasions).map (·.forwarding) = (association.runWith occasions).1 := by
  induction occasions generalizing association with
  | nil => rfl
  | cons occasion occasions ih => exact congrArg (List.cons _) (ih _)

theorem map_arrival_passages (occasions : List (Resolver × Arrival)) (association : Association) :
    (association.passages occasions).map (fun passage => (passage.resolver, passage.arrival)) =
      occasions := by
  induction occasions generalizing association with
  | nil => rfl
  | cons occasion occasions ih => exact congrArg (List.cons _) (ih _)

namespace Passage

def source (passage : Passage) : Endpoint := passage.arrival.source

def datagram (passage : Passage) : Bytes := passage.arrival.datagram

/-- The client's endpoint, if a payload of it was sent to this destination. -/
def sender? (destination : Endpoint) (passage : Passage) : Option Endpoint :=
  match passage.forwarding with
  | .outward reached client _ =>
    if passage.arrival.isSent ∧ reached = destination then some client else none
  | _ => none

/-- Where the name in a datagram led, if this is the name. -/
def ledTo? (target : Target) (passage : Passage) : Option Endpoint :=
  match target, passage.forwarding, UdpPacket.decode passage.datagram with
  | .domain .., .outward destination _ _, .ok packet =>
    if packet.address = target then some destination else none
  | _, _, _ => none

end Passage

section

variable (terms : AssociationTerms) (earlier : List Passage)

/-- The client's port: the given one, or that of the first datagram from its address. -/
def knownPort : Option UInt16 :=
  terms.client.port.or
    ((earlier.find? fun passage => passage.source.ip.canonical = terms.client.ip).map
      (·.source.port))

/-- The client as it is known after these datagrams. -/
def knownClient : UdpClient := { terms.client with port := knownPort terms earlier }

/-- The source has the client's address, and its port if that is known. -/
def IsClient (source : Endpoint) : Prop :=
  source.ip.canonical = terms.client.ip ∧
    ∀ port, knownPort terms earlier = some port → port = source.port

/-- Where a name led first. -/
def remembered? (target : Target) : Option Endpoint := earlier.findSome? (·.ledTo? target)

/-- Where a target leads: where its name led first, or to where the policy routes it now. -/
def leads? (resolver : Resolver) (target : Target) : Option Endpoint :=
  (remembered? earlier target).or (terms.policy.route resolver target terms.user).toOption

/-- The endpoint from which the client last sent something to a destination. -/
def lastClient? (destination : Endpoint) : Option Endpoint :=
  earlier.reverse.findSome? (·.sender? destination)

end

variable {terms : AssociationTerms} {earlier : List Passage} {passage : Passage}
  {association : Association}

theorem knownPort_append : knownPort terms (earlier ++ [passage]) =
    (knownPort terms earlier).or
      (if passage.source.ip.canonical = terms.client.ip then some passage.source.port else none) := by
  unfold knownPort
  rw [List.find?_append, Option.or_assoc]
  congr 1
  cases earlier.find? _ with
  | some first => rfl
  | none =>
    rw [Option.none_or, List.find?_singleton]
    split
    · rename_i same
      rw [if_pos (of_decide_eq_true same)]
      rfl
    · rename_i other
      rw [if_neg fun same => other (decide_eq_true same)]
      rfl

theorem lastClient?_append (destination : Endpoint) : lastClient? (earlier ++ [passage]) destination =
    (passage.sender? destination).or (lastClient? earlier destination) := by
  unfold lastClient?
  rw [List.reverse_append, List.reverse_singleton, List.singleton_append, List.findSome?_cons]
  cases passage.sender? destination with
  | some client => rfl
  | none => rfl

/-- Once a datagram of the client has come, its port is known. -/
theorem knownPort_of_isClient (client : IsClient terms earlier passage.source) :
    knownPort terms (earlier ++ [passage]) = some passage.source.port := by
  rw [knownPort_append, if_pos client.1]
  cases known : knownPort terms earlier with
  | none => rfl
  | some port => rw [client.2 port known, Option.some_or]

theorem isClient_iff {source : Endpoint} :
    IsClient terms earlier source ↔ (knownClient terms earlier).IsAt source := Iff.rfl

theorem isClient_of_unknown {source : Endpoint} (same : source.ip.canonical = terms.client.ip)
    (unknown : knownPort terms earlier = none) : IsClient terms earlier source :=
  isClient_iff.mpr (UdpClient.isAt_of_unknown same unknown)

theorem knownPort_of_foreign (foreign : ¬ IsClient terms earlier passage.source) :
    knownPort terms (earlier ++ [passage]) = knownPort terms earlier := by
  rw [knownPort_append]
  cases known : knownPort terms earlier with
  | some port => rfl
  | none =>
    rw [Option.none_or, if_neg]
    intro same
    exact foreign (isClient_of_unknown same known)

theorem accept?_of_isClient {source : Endpoint} (client : IsClient terms earlier source) :
    (knownClient terms earlier).accept? source =
      some { terms.client with port := some source.port } :=
  UdpClient.accept?_of_isAt (isClient_iff.mp client)

theorem accept?_of_foreign {source : Endpoint} (foreign : ¬ IsClient terms earlier source) :
    (knownClient terms earlier).accept? source = none :=
  UdpClient.accept?_of_not_isAt fun isAt => foreign (isClient_iff.mpr isAt)

theorem knownPort_kept {port : UInt16} (known : knownPort terms earlier = some port)
    (later : List Passage) : knownPort terms (earlier ++ later) = some port := by
  induction later generalizing earlier with
  | nil => rwa [List.append_nil]
  | cons passage later ih =>
    have still : knownPort terms (earlier ++ [passage]) = some port := by
      rw [knownPort_append, known, Option.some_or]
    have kept := ih still
    rwa [List.append_assoc] at kept

theorem Passage.ledTo?_of_outward {destination client : Endpoint} {payload : Bytes}
    {packet : UdpPacket} (made : passage.forwarding = .outward destination client payload)
    (decoded : UdpPacket.decode passage.datagram = .ok packet) (target : Target) :
    passage.ledTo? target = match target with
      | .domain .. => if packet.address = target then some destination else none
      | .ip _ => none := by
  unfold ledTo?
  rw [made, decoded]
  cases target with
  | ip endpoint => rfl
  | domain name port => rfl

theorem Passage.sender?_of_outward {destination client : Endpoint} {payload : Bytes}
    (made : passage.forwarding = .outward destination client payload) (other : Endpoint) :
    passage.sender? other =
      if passage.arrival.isSent ∧ destination = other then some client else none := by
  unfold sender?
  rw [made]

theorem Passage.sender?_eq_none
    (kept : ∀ destination client payload, passage.forwarding ≠ .outward destination client payload)
    (destination : Endpoint) : passage.sender? destination = none := by
  unfold sender?
  split
  · rename_i reached client payload made
    exact absurd made (kept reached client payload)
  · rfl

theorem Passage.ledTo?_eq_some {target : Target} {destination : Endpoint}
    (found : passage.ledTo? target = some destination) :
    ∃ client payload packet, passage.forwarding = .outward destination client payload ∧
      UdpPacket.decode passage.datagram = .ok packet ∧ packet.address = target := by
  unfold ledTo? at found
  split at found
  · rename_i reached client payload packet made decoded
    obtain ⟨same, equal⟩ := Option.ite_none_right_eq_some.mp found
    cases equal
    exact ⟨client, payload, packet, made, decoded, same⟩
  · cases found

theorem Passage.ledTo?_eq_none
    (kept : ∀ destination client payload, passage.forwarding ≠ .outward destination client payload)
    (target : Target) : passage.ledTo? target = none := by
  unfold ledTo?
  split
  · rename_i reached client payload _ made _
    exact absurd made (kept reached client payload)
  · rfl

theorem remembered?_append (target : Target) : remembered? (earlier ++ [passage]) target =
    (remembered? earlier target).or (passage.ledTo? target) := by
  unfold remembered?
  rw [List.findSome?_append, List.findSome?_singleton]

/-- An association knows what the datagrams so far told it. -/
structure Reflects (terms : AssociationTerms) (earlier : List Passage)
    (association : Association) : Prop where
  terms_eq : association.terms = { terms with client := knownClient terms earlier }
  clients : ∀ destination,
    association.clients.lookup destination = lastClient? earlier destination
  routes : ∀ target, association.routes.lookup target = remembered? earlier target
  /-- The client has sent from no other endpoint than the one that is known. -/
  known : ∀ destination client, lastClient? earlier destination = some client →
    client.ip.canonical = terms.client.ip ∧ knownPort terms earlier = some client.port
  /-- A name leads to where the policy routed it for one of the datagrams. -/
  routed : ∀ target destination, remembered? earlier target = some destination →
    ∃ each ∈ earlier,
      (terms.policy.route each.resolver target terms.user).toOption = some destination

theorem reflects_start (terms : AssociationTerms) : Reflects terms [] (start terms) where
  terms_eq := by
    have same : knownPort terms [] = terms.client.port := Option.or_none
    rw [knownClient, same]
    rfl
  clients _ := rfl
  routes _ := rfl
  known _ _ found := absurd found nofun
  routed _ _ found := absurd found nofun

/-- What a datagram that does not go out leaves of the history. -/
theorem Reflects.of_kept (reflects : Reflects terms earlier association)
    (kept : ∀ destination client payload, passage.forwarding ≠ .outward destination client payload)
    (after : passage.after = { association with
      terms := { terms with client := knownClient terms (earlier ++ [passage]) } }) :
    Reflects terms (earlier ++ [passage]) passage.after where
  terms_eq := by rw [after]
  clients destination := by
    rw [after, lastClient?_append, Passage.sender?_eq_none kept, Option.none_or]
    exact reflects.clients destination
  routes target := by
    rw [after, remembered?_append, Passage.ledTo?_eq_none kept, Option.or_none]
    exact reflects.routes target
  known destination client found := by
    rw [lastClient?_append, Passage.sender?_eq_none kept, Option.none_or] at found
    obtain ⟨address, port⟩ := reflects.known destination client found
    exact ⟨address, knownPort_kept port _⟩
  routed target destination found := by
    rw [remembered?_append, Passage.ledTo?_eq_none kept, Option.or_none] at found
    obtain ⟨each, member, routed⟩ := reflects.routed target destination found
    exact ⟨each, List.mem_append_left _ member, routed⟩

end SocksGateway.Association
