import SocksGateway.Bytes

/-!
Security contexts: what a security mechanism makes of the tokens of a client, and how it protects
messages once the client is known.
-/

set_option autoImplicit false

namespace SocksGateway.Gss

/-- How messages are protected. Either way may fail. -/
structure Protection where
  wrap : Bytes → Option Bytes
  unwrap : Bytes → Option Bytes

/-- The server's side of a context. -/
inductive Context where
  /-- The last token was refused. -/
  | refused
  /-- The client is known, by this name if it has one. -/
  | established (principal : Option String) (protection : Protection)
  /-- A token is needed: the reply to it, and the context after it. -/
  | awaiting (reply : Bytes → Bytes) (next : Bytes → Context)

end SocksGateway.Gss
