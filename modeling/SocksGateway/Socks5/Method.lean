import SocksGateway.Gss.Negotiation
import SocksGateway.Socks5.Password

/-!
The methods by which a client authenticates itself, and how one is selected: the least of those that
are registered, allowed and offered.
-/

set_option autoImplicit false

namespace SocksGateway.Socks5

/-- A way to authenticate a client. -/
inductive Authenticator where
  | none
  | gss (context : Gss.Context)
  | password (accepts : String → String → Bool)

/-- What is known of a client after its authentication. -/
structure Authenticated where
  user : Option String
  /-- The gateway's own endpoint of the connection, where it is known. -/
  own : Option Endpoint

namespace Authenticator

/-- The number of the method. -/
def method : Authenticator → UInt8
  | none => 0
  | gss _ => 1
  | password _ => 2

/-- Those that are allowed, in the order of their methods, the first of each method. -/
def offering (registered : List Authenticator) (allowed : Bytes) : List Authenticator :=
  distinct ((registered.filter (allowed.contains ·.method)).mergeSort
    fun first second => first.method ≤ second.method)
where
  /-- Drops each that has the method of the one before it. -/
  distinct : List Authenticator → List Authenticator
    | [] => []
    | first :: rest =>
      match distinct rest with
      | [] => [first]
      | second :: others =>
        if first.method = second.method then first :: others else first :: second :: others

/-- The first whose method the client offers. -/
def select (registered : List Authenticator) (offered : Bytes) : Option Authenticator :=
  registered.find? (offered.contains ·.method)

/-- Authenticates the client. A security context that is established protects what follows. -/
def authenticate (own : Option Endpoint) : Authenticator → Handler Authenticated
  | none => return { user := .none, own }
  | password accepts => do
    let user ← Password.negotiate accepts
    return { user := some user, own }
  | gss context => do
    match ← Handler.outcome (Gss.establish context) with
    | .ok (principal, protection) =>
      ExceptT.lift (Session.protect protection (Session.done ()))
      return { user := some principal, own := .none }
    | .error failure =>
      let _ ← Handler.outcome (Handler.write Gss.Frame.abort)
      throw failure

end Authenticator

end SocksGateway.Socks5
