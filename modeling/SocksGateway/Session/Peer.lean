import SocksGateway.Address.Endpoint
import SocksGateway.Text.Duration

/-!
What a session knows of the connection that it serves.
-/

set_option autoImplicit false

namespace SocksGateway

structure Peer where
  remote : Endpoint
  /-- The gateway's own endpoint, where it is known. -/
  own : Option Endpoint
  /-- How long a relay or a wait for a connection may be idle. -/
  window : Duration
deriving Repr, Inhabited

end SocksGateway
