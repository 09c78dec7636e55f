import SocksGateway.Proofs.Address.Ipv6
import SocksGateway.Proofs.Udp.Forwarding

/-!
The client of an association, as its request declares it: at the declared address, or at that of the
control connection where none is declared. Its first datagram is always taken for its own. Only the
mapped form of `0.0.0.0` is taken for an address although it stands for none.
-/

set_option autoImplicit false

namespace SocksGateway

/-! ## Canonical addresses -/

namespace Ipv6

theorem ofIpv4_ne_unspecified (short : Ipv4) : ofIpv4 short ≠ unspecified := by
  intro same
  have marked : (0xffff : UInt16) = 0 := congrArg Ipv6.g5 same
  exact absurd marked (by decide)

theorem ofIpv4_inj {short other : Ipv4} (same : ofIpv4 short = ofIpv4 other) : short = other := by
  have found := toIpv4?_ofIpv4 short
  rw [same, toIpv4?_ofIpv4] at found
  exact (Option.some.inj found).symm

end Ipv6

/-- Only the mapped form of `0.0.0.0` becomes unspecified in its canonical form. -/
theorem Ip.isUnspecified_canonical_iff {ip : Ip} :
    ip.canonical.isUnspecified = true ↔
      ip.isUnspecified = true ∨ ip = .v6 (.ofIpv4 .unspecified) := by
  cases ip with
  | v4 short => exact ⟨.inl, fun either => either.resolve_right nofun⟩
  | v6 long =>
    cases found : (v6 long).toIpv4? with
    | none =>
      rw [canonical_of_none found, or_iff_left]
      intro mapped
      rw [mapped, toIpv4?, Ipv6.toIpv4?_ofIpv4] at found
      cases found
    | some short =>
      cases Ipv6.eq_ofIpv4_of_toIpv4? found
      have isMarked : ¬ (v6 (.ofIpv4 short)).isUnspecified = true := fun zero =>
        Ipv6.ofIpv4_ne_unspecified short (eq_of_beq zero)
      rw [canonical_ofIpv4, or_iff_right isMarked]
      constructor
      · intro zero
        rw [eq_of_beq zero]
      · intro mapped
        rw [Ipv6.ofIpv4_inj (v6.inj mapped)]
        rfl

/-! ## The first datagram of a client -/

namespace Association

variable {association : Association}

/-- Other sources than the client leave an association as it is. -/
theorem react_of_not_isAt (resolver : Resolver) {arrival : Arrival}
    (isElsewhere : ¬ association.terms.client.IsAt arrival.source) :
    (association.react resolver arrival).2 = association := by
  have received : association.receive resolver arrival.source arrival.datagram =
      (association.inward arrival.source arrival.datagram, association) := by
    unfold receive
    rw [UdpClient.accept?_of_not_isAt isElsewhere]
  rw [react_of_receive received, sent_inward, ite_self]

theorem runWith_of_not_isAt {occasions : List (Resolver × Arrival)}
    (areElsewhere : ∀ occasion ∈ occasions, ¬ association.terms.client.IsAt occasion.2.source) :
    (association.runWith occasions).2 = association := by
  induction occasions with
  | nil => rfl
  | cons occasion occasions ih =>
    obtain ⟨isElsewhere, others⟩ := List.forall_mem_cons.mp areElsewhere
    have kept := react_of_not_isAt occasion.1 isElsewhere
    change ((association.react occasion.1 occasion.2).2.runWith occasions).2 = association
    rw [kept, ih others]

end Association

/-! ## The declared client -/

/-- A target that tells no address: a name, or an address that is unspecified in canonical form. -/
def Target.LeavesOpen : Target → Prop
  | .ip endpoint => endpoint.ip.canonical.isUnspecified = true
  | .domain .. => True

namespace UdpClient

/-- The client is where the target says, or where the peer of the control connection is if the target
does not say it; and that is an address from which datagrams can come. -/
structure StandsFor (target : Target) (peer : Ip) (client : UdpClient) : Prop where
  isSpecified : client.ip.canonical.isUnspecified = false
  of_open : target.LeavesOpen → client.ip = peer.canonical
  of_told : ∀ endpoint, target = .ip endpoint → ¬ target.LeavesOpen →
    client.ip = endpoint.ip.canonical

variable {client : UdpClient} {target : Target} {peer : Ip}

theorem ip_withPort (ip : Ip) (port : UInt16) : (withPort ip port).ip = ip.canonical := by
  unfold withPort
  split <;> rfl

theorem port_withPort (ip : Ip) (port : UInt16) :
    (withPort ip port).port = if port = 0 then none else some port := by
  unfold withPort
  split <;> rfl

theorem port_declared (target : Target) (peer : Ip) :
    (declared target peer).port = if target.port = 0 then none else some target.port := by
  cases target with
  | ip endpoint => exact port_withPort _ _
  | domain name port => exact port_withPort _ _

theorem ip_declared_domain (name : String) (port : UInt16) (peer : Ip) :
    (declared (.domain name port) peer).ip = peer.canonical := ip_withPort _ _

theorem ip_declared_ip (endpoint : Endpoint) (peer : Ip) :
    (declared (.ip endpoint) peer).ip =
      if endpoint.ip.isUnspecified then peer.canonical else endpoint.ip.canonical := by
  rw [declared, ip_withPort]
  split <;> rfl

/-- The mapped form of `0.0.0.0` passes for an address, and only then is it made canonical. -/
theorem ip_declared_mapped (port : UInt16) (peer : Ip) :
    (declared (.ip ⟨.v6 (.ofIpv4 .unspecified), port⟩) peer).ip = .unspecified := by
  rw [ip_declared_ip]
  exact Ip.canonical_ofIpv4 _

theorem standsFor_iff_of_open (isOpen : target.LeavesOpen) (ip_eq : client.ip = peer.canonical) :
    client.StandsFor target peer ↔ peer.canonical.isUnspecified = false := by
  constructor
  · intro stands
    have isSpecified := stands.isSpecified
    rwa [ip_eq, Ip.canonical_canonical] at isSpecified
  · intro isSpecified
    refine ⟨?_, fun _ => ip_eq, fun _ _ isTold => absurd isOpen isTold⟩
    rwa [ip_eq, Ip.canonical_canonical]

theorem standsFor_of_told {endpoint : Endpoint} (isTold : ¬ (Target.ip endpoint).LeavesOpen)
    (ip_eq : client.ip = endpoint.ip.canonical) : client.StandsFor (.ip endpoint) peer := by
  refine ⟨?_, fun isOpen => absurd isOpen isTold, ?_⟩
  · rw [ip_eq, Ip.canonical_canonical]
    exact Bool.eq_false_iff.mpr isTold
  · rintro _ ⟨⟩ _
    exact ip_eq

theorem declared_standsFor_iff (target : Target) (peer : Ip) :
    (declared target peer).StandsFor target peer ↔
      target ≠ .ip ⟨.v6 (.ofIpv4 .unspecified), target.port⟩ ∧
        (target.LeavesOpen → peer.canonical.isUnspecified = false) := by
  cases target with
  | domain name port =>
    have isOpen : (Target.domain name port).LeavesOpen := trivial
    rw [standsFor_iff_of_open isOpen (ip_declared_domain name port peer)]
    exact ⟨fun isSpecified => ⟨nofun, fun _ => isSpecified⟩, fun held => held.2 isOpen⟩
  | ip endpoint =>
    have ip_eq := ip_declared_ip endpoint peer
    by_cases zero : endpoint.ip.isUnspecified = true
    · have isOpen : (Target.ip endpoint).LeavesOpen := Ip.isUnspecified_canonical_iff.mpr (.inl zero)
      rw [if_pos zero] at ip_eq
      rw [standsFor_iff_of_open isOpen ip_eq]
      refine ⟨fun isSpecified => ⟨?_, fun _ => isSpecified⟩, fun held => held.2 isOpen⟩
      intro mapped
      rw [Target.ip.inj mapped] at zero
      change Ip.isUnspecified (.v6 (.ofIpv4 .unspecified)) = true at zero
      exact absurd zero (by decide)
    · rw [if_neg zero] at ip_eq
      by_cases mapped : endpoint.ip = .v6 (.ofIpv4 .unspecified)
      · obtain ⟨_, port⟩ := endpoint
        cases mapped
        apply iff_of_false
        · intro stands
          have isSpecified := stands.isSpecified
          rw [ip_declared_mapped] at isSpecified
          exact absurd isSpecified (by decide)
        · intro held
          exact held.1 rfl
      · have isTold : ¬ (Target.ip endpoint).LeavesOpen := fun isOpen =>
          (Ip.isUnspecified_canonical_iff.mp isOpen).elim zero mapped
        apply iff_of_true (standsFor_of_told isTold ip_eq)
        refine ⟨?_, fun isOpen => absurd isOpen isTold⟩
        intro same
        exact mapped (congrArg Endpoint.ip (Target.ip.inj same))

/-- The client stands for what is declared, unless that is the mapped form of `0.0.0.0` or an address
is wanted from a peer that has none. Its port is the declared one, and its first datagram is taken for
its own, whoever else has sent something before. -/
theorem declared_stands_and_accepts (target : Target) (peer : Ip) :
    ((declared target peer).StandsFor target peer ↔
      target ≠ .ip ⟨.v6 (.ofIpv4 .unspecified), target.port⟩ ∧
        (target.LeavesOpen → peer.canonical.isUnspecified = false)) ∧
      (target = .ip ⟨.v6 (.ofIpv4 .unspecified), target.port⟩ →
        (declared target peer).ip = .unspecified) ∧
      (declared target peer).port = (if target.port = 0 then none else some target.port) ∧
      ∀ (policy : RoutePolicy) (user : Option String) (occasions : List (Resolver × Association.Arrival))
        (source : Endpoint),
        (∀ occasion ∈ occasions, ¬ (declared target peer).IsAt occasion.2.source) →
          (declared target peer).IsAt source →
            let association := (Association.start ⟨declared target peer, policy, user⟩)
            (association.runWith occasions).2.terms.client.accept? source =
              some { declared target peer with port := some source.port } := by
  refine ⟨declared_standsFor_iff target peer, ?_, port_declared target peer, ?_⟩
  · intro mapped
    rw [mapped]
    exact ip_declared_mapped target.port peer
  · intro policy user occasions source areElsewhere isAt association
    have kept : (association.runWith occasions).2 = association :=
      Association.runWith_of_not_isAt areElsewhere
    rw [kept]
    exact accept?_of_isAt isAt

/-- The client of a peer on `::ffff:192.0.2.7`, with nothing declared, is heard after a stranger. -/
theorem declared_stands_and_accepts_undeclared :
    let target : Target := .ip ⟨.v6 .unspecified, 0⟩
    let peer : Ip := .v6 (.ofIpv4 ⟨192, 0, 2, 7⟩)
    let stranger : Association.Arrival := { source := ⟨.v4 ⟨203, 0, 113, 9⟩, 53⟩, datagram := [] }
    let association := (Association.start ⟨declared target peer, .permissive, none⟩)
    (declared target peer).StandsFor target peer ∧
      (association.runWith [(fun _ => none, stranger)]).2.terms.client.accept?
          ⟨.v4 ⟨192, 0, 2, 7⟩, 4000⟩ = some ⟨.v4 ⟨192, 0, 2, 7⟩, some 4000⟩ := by
  intro target peer stranger association
  obtain ⟨stands, _, _, accepts⟩ := declared_stands_and_accepts target peer
  have isNotMapped : target ≠ .ip ⟨.v6 (.ofIpv4 .unspecified), 0⟩ := fun same =>
    Ipv6.ofIpv4_ne_unspecified _ (Ip.v6.inj (congrArg Endpoint.ip (Target.ip.inj same))).symm
  refine ⟨stands.mpr ⟨isNotMapped, fun _ => rfl⟩, ?_⟩
  refine accepts .permissive none [(fun _ => none, stranger)] ⟨.v4 ⟨192, 0, 2, 7⟩, 4000⟩ ?_ ⟨rfl, nofun⟩
  intro occasion member isAt
  cases List.mem_singleton.mp member
  exact absurd isAt.1 (by decide)

/-- A client on `192.0.2.7` that declares the mapped form of `0.0.0.0` cannot be heard. -/
theorem not_standsFor_mapped :
    let target : Target := .ip ⟨.v6 (.ofIpv4 .unspecified), 0⟩
    let peer : Ip := .v4 ⟨192, 0, 2, 7⟩
    peer.isUnspecified = false ∧ target.LeavesOpen ∧
      declared target peer = ⟨.unspecified, none⟩ ∧
      (declared target peer).accept? ⟨peer, 4000⟩ = none ∧
      ¬ (declared target peer).StandsFor target peer := by
  refine ⟨by decide, rfl, by decide, by decide, ?_⟩
  intro stands
  exact absurd stands.isSpecified (by decide)

end UdpClient

end SocksGateway
