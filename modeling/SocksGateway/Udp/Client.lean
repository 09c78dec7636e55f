import SocksGateway.Target.Basic

/-!
Which source of datagrams is the client of an association. Its port may be unknown until its first
datagram.
-/

set_option autoImplicit false

namespace SocksGateway

/-- The address of a client, in canonical form, and its port once it is known. -/
structure UdpClient where
  ip : Ip
  port : Option UInt16
deriving DecidableEq, Repr, Inhabited

namespace UdpClient

def known (endpoint : Endpoint) : UdpClient := ⟨endpoint.ip.canonical, some endpoint.port⟩

/-- A client whose port the first datagram tells. -/
def learning (ip : Ip) : UdpClient := ⟨ip.canonical, none⟩

/-- A client with this address; the port zero stands for an unknown one. -/
def withPort (ip : Ip) (port : UInt16) : UdpClient :=
  if port = 0 then learning ip else known ⟨ip, port⟩

/-- The client that a request declares. The peer of the control connection takes the place of a
name and of an unspecified address. -/
def declared (target : Target) (peer : Ip) : UdpClient :=
  match target with
  | .ip endpoint => withPort (if endpoint.ip.isUnspecified then peer else endpoint.ip) endpoint.port
  | .domain _ port => withPort peer port

/-- The endpoint of the client, once its port is known. -/
def endpoint? (client : UdpClient) : Option Endpoint := client.port.map (⟨client.ip, ·⟩)

/-- The client after a datagram from `source`, unless that is not the client. -/
def accept? (client : UdpClient) (source : Endpoint) : Option UdpClient :=
  if source.ip.canonical ≠ client.ip then none
  else
    match client.port with
    | some port => if port = source.port then some client else none
    | none => some { client with port := some source.port }

end UdpClient

end SocksGateway
