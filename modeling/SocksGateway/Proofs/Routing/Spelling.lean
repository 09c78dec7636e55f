import SocksGateway.Proofs.Access.Rule
import SocksGateway.Proofs.Address.Text
import SocksGateway.Routing.Policy

/-!
Targets that are settled without a resolver, and what the policy says of the address that they lead to.
It allows that address too, unless a client wrote an IPv6 address as a name, and not as the rules write
it.
-/

set_option autoImplicit false

namespace SocksGateway.RoutePolicy

/-- A target for which no resolver is asked: an address, the name of a private host, or the text of an
address in the place of a name. -/
def IsSettled (policy : RoutePolicy) (target : Target) : Prop :=
  ∀ name port, policy.resolvePrivate target = .domain name port → (Ip.parse? name).isSome = true

/-- A target whose name is another text than its own for an IPv6 address outside the private ranges,
which the rules let pass where they refuse the address's own text. -/
def Evades (policy : RoutePolicy) (target : Target) (endpoint : Endpoint) : Prop :=
  ∃ name ip, policy.resolvePrivate target = .domain name endpoint.port ∧
    Ipv6.parse? name = some ip ∧ endpoint.ip = .v6 ip ∧ endpoint.ip.isPrivate = false ∧
    Text.sameIgnoringCase name ip.text = false ∧
    policy.rules.allowsDestination name = true ∧ policy.rules.allowsDestination ip.text = false

variable {policy : RoutePolicy} {user : Option String} {endpoint : Endpoint}

theorem authorizeHost_eq_allowed {host : String} :
    policy.authorizeHost host = .allowed ↔ policy.rules.allowsDestination host = true := by
  unfold authorizeHost
  cases policy.rules.allowsDestination host with
  | true => exact iff_of_true rfl rfl
  | false => exact iff_of_false nofun nofun

theorem authorize_of_isPrivate (isPrivate : endpoint.ip.isPrivate = true) :
    policy.authorize (.ip endpoint) user = policy.authorizePrivate endpoint.ip user :=
  if_pos isPrivate

theorem authorize_of_isPublic (isPublic : endpoint.ip.isPrivate = false) :
    policy.authorize (.ip endpoint) user = policy.authorizeHost endpoint.ip.text :=
  if_neg (by rw [isPublic]; exact Bool.false_ne_true)

theorem eq_of_conclude {name : String} {port : UInt16} {ip : Ip}
    (found : policy.conclude name port user (some ip) = .ok endpoint) :
    endpoint = ⟨ip, port⟩ ∧
      (ip.isPrivate = true → policy.authorizePrivate ip user = .allowed) := by
  simp only [conclude] at found
  split at found
  · split at found
    · rename_i allowed
      cases found
      exact ⟨rfl, fun _ => allowed⟩
    · cases found
  · rename_i isPublic
    cases found
    exact ⟨rfl, fun isPrivate => absurd isPrivate isPublic⟩

/-- Either the policy allowed the address itself, or it allowed a name that is a text of the address,
and then membership once more if the address is private. -/
theorem cases_of_route {resolver : Resolver} {target : Target} (settled : policy.IsSettled target)
    (routed : policy.route resolver target user = .ok endpoint) :
    (policy.resolvePrivate target = .ip endpoint ∧
      policy.authorize (.ip endpoint) user = .allowed) ∨
    ∃ name, policy.resolvePrivate target = .domain name endpoint.port ∧
      Ip.parse? name = some endpoint.ip ∧ policy.rules.allowsDestination name = true ∧
      (endpoint.ip.isPrivate = true → policy.authorizePrivate endpoint.ip user = .allowed) := by
  unfold route plan at routed
  dsimp only at routed
  cases resolved : policy.resolvePrivate target with
  | ip given =>
    left
    rw [resolved] at routed
    cases decision : policy.authorize (.ip given) user with
    | denied reason =>
      simp only [decision] at routed
      cases routed
    | allowed =>
      simp only [decision] at routed
      cases routed
      exact ⟨rfl, decision⟩
  | domain name port =>
    right
    obtain ⟨ip, parsed⟩ := Option.isSome_iff_exists.mp (settled name port resolved)
    have known : settledName? name = some (some ip) := by simp only [settledName?, parsed]
    rw [resolved] at routed
    cases decision : policy.authorize (.domain name port) user with
    | denied reason =>
      simp only [decision] at routed
      cases routed
    | allowed =>
      simp only [decision, known] at routed
      obtain ⟨rfl, member⟩ := eq_of_conclude routed
      exact ⟨name, rfl, parsed, authorizeHost_eq_allowed.mp decision, member⟩

/-- A text of an address that reads as it: the address's own, or one of an IPv6 address. -/
theorem cases_of_parse? {name : String} {ip : Ip} (parsed : Ip.parse? name = some ip) :
    name = ip.text ∨ ∃ long, ip = .v6 long ∧ Ipv6.parse? name = some long := by
  unfold Ip.parse? at parsed
  split at parsed
  · rename_i short read
    cases parsed
    exact Or.inl (Ipv4.eq_text_of_parse? read)
  · obtain ⟨long, read, rfl⟩ := Option.map_eq_some_iff.mp parsed
    exact Or.inr ⟨long, rfl, read⟩

/-- When a target is settled without a resolver and routed to an address, the policy allows the address
as it stands, unless the target is another text of it and so evades the rules. -/
theorem authorize_route_iff {resolver : Resolver} {target : Target}
    (settled : policy.IsSettled target)
    (routed : policy.route resolver target user = .ok endpoint) :
    policy.authorize (.ip endpoint) user = .allowed ↔ ¬ policy.Evades target endpoint := by
  constructor
  · intro allowed evades
    obtain ⟨name, ip, -, -, same, isPublic, -, -, refused⟩ := evades
    rw [authorize_of_isPublic isPublic, authorizeHost_eq_allowed, same] at allowed
    rw [Ip.text, refused] at allowed
    cases allowed
  · intro honest
    rcases cases_of_route settled routed with ⟨-, allowed⟩ | ⟨name, resolved, parsed, passed, member⟩
    · exact allowed
    · cases isPrivate : endpoint.ip.isPrivate with
      | true =>
        rw [authorize_of_isPrivate isPrivate]
        exact member isPrivate
      | false =>
        rw [authorize_of_isPublic isPrivate, authorizeHost_eq_allowed]
        rcases cases_of_parse? parsed with own | ⟨ip, same, read⟩
        · rw [← own]
          exact passed
        · -- The rules see no more of a name than its letters up to their case.
          rw [same, Ip.text]
          cases spelled : Text.sameIgnoringCase name ip.text with
          | true => exact (AccessRules.allows_of_sameIgnoringCase spelled).symm.trans passed
          | false =>
            cases refused : policy.rules.allowsDestination ip.text with
            | true => rfl
            | false =>
              exact absurd ⟨name, ip, resolved, read, same, isPrivate, spelled, passed, refused⟩
                honest

/-- A policy whose rules bar the address `2001:db8::1`. -/
def barringAddress : RoutePolicy :=
  { permissive with rules := ⟨[.everything .destination, ⟨.deny, .destination, "2001:db8::1"⟩]⟩ }

/-- That address. -/
def barredAddress : Ipv6 := ⟨0x2001, 0xdb8, 0, 0, 0, 0, 0, 1⟩

theorem text_barredAddress : barredAddress.text = "2001:db8::1" := by
  decide +kernel

theorem authorize_barredAddress :
    barringAddress.authorize (.ip ⟨.v6 barredAddress, 80⟩) none = .denied .rules := by
  rw [authorize_of_isPublic rfl, Ip.text, text_barredAddress]
  decide

/-- Written in full as a name, the barred address is reached. -/
theorem route_barredAddress :
    barringAddress.route (fun _ => none) (.domain "2001:db8:0:0:0:0:0:1" 80) none =
        .ok ⟨.v6 barredAddress, 80⟩ ∧
      barringAddress.authorize (.ip ⟨.v6 barredAddress, 80⟩) none = .denied .rules :=
  ⟨rfl, authorize_barredAddress⟩

/-- It evades the rules there. -/
theorem authorize_route_iff_barredAddress :
    (barringAddress.IsSettled (.domain "2001:db8:0:0:0:0:0:1" 80) ∧
      barringAddress.route (fun _ => none) (.domain "2001:db8:0:0:0:0:0:1" 80) none =
        .ok ⟨.v6 barredAddress, 80⟩) ∧
      (barringAddress.authorize (.ip ⟨.v6 barredAddress, 80⟩) none = .allowed ↔
        ¬ barringAddress.Evades (.domain "2001:db8:0:0:0:0:0:1" 80)
          ⟨.v6 barredAddress, 80⟩) := by
  have settled : barringAddress.IsSettled (.domain "2001:db8:0:0:0:0:0:1" 80) := by
    intro name port same
    cases same
    decide
  have routed : barringAddress.route (fun _ => none) (.domain "2001:db8:0:0:0:0:0:1" 80) none =
      .ok ⟨.v6 barredAddress, 80⟩ := rfl
  exact ⟨⟨settled, routed⟩, authorize_route_iff settled routed⟩

end SocksGateway.RoutePolicy
