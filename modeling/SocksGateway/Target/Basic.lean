import SocksGateway.Address.Endpoint

/-!
What a client asks to be connected to: an endpoint, or a host name with a port.
-/

set_option autoImplicit false

namespace SocksGateway

/-- A requested destination. -/
inductive Target where
  | ip (endpoint : Endpoint)
  | domain (name : String) (port : UInt16)
deriving DecidableEq, Repr, Inhabited

namespace Target

def port : Target → UInt16
  | ip endpoint => endpoint.port
  | domain _ port => port

def text : Target → String
  | ip endpoint => endpoint.text
  | domain name port => name ++ ":" ++ toString port.toNat

end Target

end SocksGateway
