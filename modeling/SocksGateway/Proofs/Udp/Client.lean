import SocksGateway.Udp.Client

/-!
Which sources a client sends from: those at its address, in any form, and at its port once that is known.
-/

set_option autoImplicit false

namespace SocksGateway.UdpClient

variable {client : UdpClient} {source : Endpoint}

/-- The source has the client's address, and its port if that is known. -/
def IsAt (client : UdpClient) (source : Endpoint) : Prop :=
  source.ip.canonical = client.ip ∧ ∀ port, client.port = some port → port = source.port

theorem isAt_of_unknown (same : source.ip.canonical = client.ip) (unknown : client.port = none) :
    client.IsAt source := by
  refine ⟨same, ?_⟩
  intro port known
  rw [unknown] at known
  cases known

theorem accept?_of_isAt (isAt : client.IsAt source) :
    client.accept? source = some { client with port := some source.port } := by
  unfold accept?
  rw [if_neg (not_not_intro isAt.1)]
  cases known : client.port with
  | none => rfl
  | some port =>
    have same := isAt.2 port known
    dsimp only
    rw [if_pos same, ← same, ← known]

theorem accept?_of_not_isAt (isElsewhere : ¬ client.IsAt source) : client.accept? source = none := by
  unfold accept?
  by_cases same : source.ip.canonical = client.ip
  · rw [if_neg (not_not_intro same)]
    cases known : client.port with
    | none => exact absurd (isAt_of_unknown same known) isElsewhere
    | some port =>
      dsimp only
      rw [if_neg]
      intro equal
      refine isElsewhere ⟨same, ?_⟩
      intro other told
      cases known.symm.trans told
      exact equal
  · rw [if_pos same]

end SocksGateway.UdpClient
