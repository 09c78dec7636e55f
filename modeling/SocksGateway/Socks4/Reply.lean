import SocksGateway.Address.Endpoint
import SocksGateway.Bytes

/-!
Replies of version 4: whether a request was granted, a port and an IPv4 address.
-/

set_option autoImplicit false

namespace SocksGateway.Socks4

/-- What became of a request. -/
inductive ReplyCode where
  | granted
  | rejected
deriving DecidableEq, Repr, Inhabited

def ReplyCode.toByte : ReplyCode → UInt8
  | granted => 0x5a
  | rejected => 0x5b

/-- The octets of a reply. An address without an IPv4 form is reported as `0.0.0.0`. -/
def reply (code : ReplyCode) (bound : Endpoint) : Bytes :=
  let ip := bound.ip.toIpv4?.getD .unspecified
  [0, code.toByte] ++ Bytes.ofWord bound.port ++ ip.octets

end SocksGateway.Socks4
