import SocksGateway.Proofs.Routing.Spelling
import SocksGateway.Proofs.Routing.Admission
import SocksGateway.Proofs.Store.Networks

/-!
Who reaches the assigned addresses of private networks. Those in the private ranges are for fellow
members only, whatever the rules say; all others are for everybody whom the rules let pass.
-/

set_option autoImplicit false

namespace SocksGateway

namespace RoutePolicy

/-- Whatever the rules and the private hosts are, only fellow members of the address get to it. -/
def Confines (networks : List PrivateNetwork) (address : Ipv4) : Prop :=
  ∀ rules hosts port user,
    authorize { rules, networks, hosts } (.ip ⟨.v4 address, port⟩) user = .allowed →
      ∃ name, user = some name ∧ PrivateNetwork.anyJoins networks name (.v4 address) = true

theorem confines_iff {networks : List PrivateNetwork} {address : Ipv4} :
    Confines networks address ↔ address.isPrivate = true := by
  constructor
  · intro confines
    cases isPrivate : address.isPrivate with
    | true => rfl
    | false =>
      -- Without rules, a nameless user passes.
      have allowed :
          authorize { rules := .empty, networks, hosts := [] } (.ip ⟨.v4 address, 0⟩) none = .allowed :=
        Eq.trans (authorize_of_isPublic isPrivate) rfl
      obtain ⟨name, known, _⟩ := confines _ _ _ _ allowed
      cases known
  · intro isPrivate rules hosts port user allowed
    obtain ⟨name, known, _, joins⟩ := admits_of_authorize allowed rfl isPrivate
    exact ⟨name, known, joins⟩

/-- After any changes, a member's address is one that the range of the network offers. It is confined to
fellow members exactly if it is private, and all that the range offers are confined exactly if the range
lies in a private one. -/
theorem confines_assigned_iff (file : DataFile) (changes : List NetworkStore.Change)
    {network : PrivateNetwork} {member : Member}
    (listed : network ∈ (NetworkStore.after file changes).records)
    (joined : member ∈ network.members) :
    ∃ range, Cidr.parse? network.range = some range ∧ range.Offers member.address ∧
      (Confines (NetworkStore.after file changes).records member.address ↔
        member.address.isPrivate = true) ∧
      ((∀ address, range.Offers address →
        Confines (NetworkStore.after file changes).records address) ↔ range.IsPrivate) := by
  obtain ⟨range, parsed, offers⟩ := NetworkStore.isAssigned_after file changes network listed
  have offered := offers member joined
  refine ⟨range, parsed, offered, confines_iff, ?_⟩
  simp only [confines_iff]
  exact (Cidr.isPrivate_iff_offers offered).symm

/-- One network is created over a range, and a user joins it. -/
def laboratory (range : String) : List NetworkStore.Change :=
  [.create "1f" "lab" range,
    .addMember { records := [⟨"alice", ""⟩], file := default } "alice" "1f"]

/-- An address that was assigned from a private range is confined. -/
theorem confines_assigned_iff_laboratory :
    let networks := (NetworkStore.after default (laboratory "10.20.0.0/24")).records
    networks = [⟨"1f", "lab", "10.20.0.0/24", [⟨"alice", ⟨10, 20, 0, 1⟩⟩]⟩] ∧
      Confines networks ⟨10, 20, 0, 1⟩ := by
  have records : (NetworkStore.after default (laboratory "10.20.0.0/24")).records =
      [⟨"1f", "lab", "10.20.0.0/24", [⟨"alice", ⟨10, 20, 0, 1⟩⟩]⟩] := by
    decide
  obtain ⟨_, _, _, confined, _⟩ := confines_assigned_iff default (laboratory "10.20.0.0/24")
    (by rw [records]; exact List.mem_singleton_self _) (List.mem_singleton_self _)
  exact ⟨records, confined.mpr rfl⟩

/-- A stranger reaches an address that was assigned from a public range. -/
theorem authorize_laboratory :
    let networks := (NetworkStore.after default (laboratory "203.0.113.0/24")).records
    networks = [⟨"1f", "lab", "203.0.113.0/24", [⟨"alice", ⟨203, 0, 113, 1⟩⟩]⟩] ∧
      authorize { permissive with networks } (.ip ⟨.v4 ⟨203, 0, 113, 1⟩, 80⟩) (some "bob") =
        .allowed ∧
      PrivateNetwork.anyJoins networks "bob" (.v4 ⟨203, 0, 113, 1⟩) = false := by
  decide

end RoutePolicy

end SocksGateway
