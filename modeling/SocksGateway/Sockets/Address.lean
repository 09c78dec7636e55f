import SocksGateway.Address.Endpoint
import SocksGateway.Failure
import Std.Net.Addr

/-!
Addresses as the sockets of the system take and give them.
-/

set_option autoImplicit false

namespace SocksGateway

open Std.Net

def Ipv4.toSocket (ip : Ipv4) : IPv4Addr := ⟨#v[ip.a, ip.b, ip.c, ip.d]⟩

def Ipv4.ofSocket (ip : IPv4Addr) : Ipv4 :=
  ⟨ip.octets[0], ip.octets[1], ip.octets[2], ip.octets[3]⟩

def Ipv6.toSocket (ip : Ipv6) : IPv6Addr :=
  ⟨#v[ip.g0, ip.g1, ip.g2, ip.g3, ip.g4, ip.g5, ip.g6, ip.g7]⟩

def Ipv6.ofSocket (ip : IPv6Addr) : Ipv6 := .ofGroups ip.segments.toList

def Ip.ofSocket : IPAddr → Ip
  | .v4 ip => .v4 (.ofSocket ip)
  | .v6 ip => .v6 (.ofSocket ip)

def Endpoint.toSocket (endpoint : Endpoint) : SocketAddress :=
  match endpoint.ip with
  | .v4 ip => .v4 ⟨ip.toSocket, endpoint.port⟩
  | .v6 ip => .v6 ⟨ip.toSocket, endpoint.port⟩

def Endpoint.ofSocket : SocketAddress → Endpoint
  | .v4 address => ⟨.v4 (.ofSocket address.addr), address.port⟩
  | .v6 address => ⟨.v6 (.ofSocket address.addr), address.port⟩

/-- The kind of an error of the system. -/
def IoError.ofSystem : IO.Error → IoError
  | .alreadyExists .. => .alreadyExists
  | .noFileOrDirectory .. => .notFound
  | .inappropriateType .. => .notADirectory
  | .timeExpired .. => .timedOut
  | .resourceBusy .. => .addressInUse
  | .resourceVanished .. => .brokenPipe
  | .unexpectedEof => .unexpectedEnd
  | .noSuchThing .. => .addressUnavailable
  | _ => .invalidInput

end SocksGateway
