import SocksGateway.Proofs.Session.Guard
import SocksGateway.Socks5.Service

/-!
What an authentication establishes. It has to do with the client alone, and the name under which the
client is known afterwards is one that the selected method vouches for.
-/

set_option autoImplicit false

namespace SocksGateway

/-- The client can turn out to be this principal, by some tokens. -/
inductive Gss.Context.Names : Gss.Context → String → Prop where
  | established {name : String} {protection : Gss.Protection} :
    Names (.established (some name) protection) name
  | awaiting {reply : Bytes → Bytes} {next : Bytes → Gss.Context} {token : Bytes} {name : String}
      (named : Names (next token) name) : Names (.awaiting reply next) name

/-- A client can become known under this name by this method. -/
def Socks5.Authenticator.Vouches : Socks5.Authenticator → String → Prop
  | .none, _ => False
  | .gss context, name => context.Names name
  | .password accepts, name => ∃ password, accepts name password = true

open Handler

namespace Gss

theorem readFrame_talks (kind : FrameKind) : Talks (fun _ => True) (readFrame kind) := by
  apply heeds_then (heeds_within (readExactly_talks 2))
  intro head
  split
  · apply heeds_then (heeds_ofResult fun _ _ => trivial)
    intro _
    exact heeds_then readWord_talks fun length => readExactly_talks length.toNat
  · exact heeds_fail

theorem writeFrame_talks (kind : FrameKind) (payload : Bytes) :
    Talks (fun _ => True) (writeFrame kind payload) :=
  heeds_then (heeds_ofResult fun _ _ => trivial) fun frame => write_talks frame

theorem required_talks {α : Type} (given : Option α) : Talks (fun _ => True) (required given) := by
  cases given with
  | some value => exact heeds_pure trivial
  | none => exact heeds_throw

theorem agree_talks (principal : Option String) (protection : Protection) :
    Talks (fun known => principal = some known.1) (agree principal protection) := by
  unfold agree
  split
  · exact heeds_fail
  · rename_i name found
    apply heeds_then (readFrame_talks .protectionLevel)
    intro request
    apply heeds_then (required_talks _)
    intro level
    apply heeds_when heeds_fail
    apply heeds_then (required_talks _)
    intro reply
    apply heeds_then (writeFrame_talks _ _)
    intro _
    exact heeds_pure (Option.filter_eq_some_iff.mp found).1

theorem establish_talks (context : Context) :
    Talks (fun known => context.Names known.1) (establish context) := by
  induction context with
  | refused => exact heeds_throw
  | established principal protection =>
    apply heeds_mono (agree_talks principal protection) fun _ held => held
    rintro ⟨name, _⟩ rfl
    exact .established
  | awaiting reply next ih =>
    unfold establish
    apply heeds_then (readFrame_talks .token)
    intro token
    have continued : Talks (fun known => Context.Names (.awaiting reply next) known.1)
        (establish (next token)) :=
      heeds_mono (ih token) (fun _ held => held) fun _ named => .awaiting named
    split
    · exact heeds_then heeds_throw fun _ => continued
    · split
      · exact heeds_then (writeFrame_talks _ _) fun _ => continued
      · exact continued
    · exact heeds_then (writeFrame_talks _ _) fun _ => continued

end Gss

namespace Socks5

namespace Password

theorem readField_talks : Talks (fun _ => True) readField :=
  heeds_then readOctet_talks fun length => readExactly_talks length.toNat

theorem readCredentials_talks : Talks (fun _ => True) readCredentials := by
  apply heeds_then readOctet_talks
  intro first
  apply heeds_when heeds_fail
  apply heeds_then readField_talks
  intro name
  apply heeds_then readField_talks
  intro password
  apply heeds_when heeds_throw
  split
  · exact heeds_pure trivial
  · exact heeds_throw

theorem negotiate_talks (accepts : String → String → Bool) :
    Talks (fun name => ∃ password, accepts name password = true) (negotiate accepts) := by
  apply heeds_then (heeds_any (heeds_outcome readCredentials_talks))
  intro result
  split
  · rename_i name password
    apply heeds_then (write_talks _)
    intro _
    split
    · rename_i accepted
      exact heeds_pure ⟨password, accepted⟩
    · exact heeds_throw
  · apply heeds_when heeds_throw
    exact heeds_then (write_talks _) fun _ => heeds_throw

end Password

theorem Authenticator.authenticate_talks (own : Option Endpoint) (authenticator : Authenticator) :
    Talks (fun authenticated => ∀ name, authenticated.user = some name → authenticator.Vouches name)
      (authenticator.authenticate own) := by
  cases authenticator with
  | none =>
    apply heeds_pure
    intro name known
    cases known
  | password accepts =>
    apply heeds_bind (Password.negotiate_talks accepts)
    intro user accepted
    apply heeds_pure
    intro name known
    cases known
    exact accepted
  | gss context =>
    apply heeds_bind (heeds_outcome (Gss.establish_talks context))
    intro result established
    split
    · rename_i principal protection
      apply heeds_then
      · exact ⟨trivial, fun _ _ => trivial⟩
      · intro _
        apply heeds_pure
        intro name known
        cases known
        exact established _ rfl
    · exact heeds_then (heeds_any (heeds_outcome (write_talks _))) fun _ => heeds_throw

namespace Service

theorem checkVersion_talks (given : UInt8) : Talks (fun _ => True) (checkVersion given) := by
  unfold checkVersion
  split
  · exact heeds_pure trivial
  · exact heeds_fail

theorem selectMethod_talks (service : Service) :
    Talks (fun authenticator => authenticator ∈ service.authenticators) service.selectMethod := by
  apply heeds_then (readExactly_talks 2)
  intro head
  split
  · apply heeds_then (checkVersion_talks _)
    intro _
    apply heeds_then (readExactly_talks _)
    intro offered
    split
    · rename_i authenticator selected
      apply heeds_then (write_talks _)
      intro _
      exact heeds_pure (List.mem_of_find?_eq_some selected)
    · exact heeds_then (write_talks _) fun _ => heeds_fail
  · exact heeds_fail

/-- An authentication is a matter between the gateway and the client, and a name that comes of it is
one that an authenticator of the service vouches for. -/
theorem authenticate_talks (service : Service) (peer : Peer) :
    Talks (fun authenticated => ∀ name, authenticated.user = some name →
      ∃ authenticator ∈ service.authenticators, authenticator.Vouches name)
      (service.authenticate peer) := by
  apply heeds_bind service.selectMethod_talks
  intro authenticator member
  apply heeds_bind (heeds_outcome (authenticator.authenticate_talks peer.own))
  intro result vouched
  split
  · apply heeds_pure
    intro name known
    exact ⟨authenticator, member, vouched _ rfl name known⟩
  · exact heeds_fail

theorem readHead_talks : Talks (fun _ => True) readHead := by
  apply heeds_then (readExactly_talks 4)
  intro head
  split
  · exact heeds_then (checkVersion_talks _) fun _ => heeds_pure trivial
  · exact heeds_fail

end Service

end Socks5

end SocksGateway
