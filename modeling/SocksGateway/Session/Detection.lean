import SocksGateway.Socks4.Service
import SocksGateway.Socks5.Service

/-!
A connection from its start: is its source allowed, and which version does the client speak? A client
shows its version by its first octet.
-/

set_option autoImplicit false

namespace SocksGateway

/-- A version that is served. -/
inductive Protocol where
  | socks4 (service : Socks4.Service)
  | socks5 (service : Socks5.Service)

namespace Protocol

/-- The most octets that are looked at. -/
def peekLength : Nat := 8

def version : Protocol → UInt8
  | socks4 _ => Socks4.version
  | socks5 _ => Socks5.version

/-- Whether the first octets are of this version. -/
def recognises (protocol : Protocol) (first : Bytes) : Bool := first.head? == some protocol.version

def handle (protocol : Protocol) (peer : Peer) : Handler Unit :=
  match protocol with
  | socks4 service => service.handle peer.window
  | socks5 service => service.handle peer

/-- Serves a client by the first protocol that recognises its first octets. -/
def detect (protocols : List Protocol) (peer : Peer) : Handler Unit := do
  match ← Handler.outcome (Handler.read peekLength) with
  | .error failure =>
    Handler.close
    throw failure
  | .ok first =>
    match protocols.find? (·.recognises first) with
    | none => Handler.close
    | some protocol =>
      Handler.unread first
      protocol.handle peer

end Protocol

/-- What a listener does with each of its connections. -/
structure ConnectionService where
  sources : AccessRules
  protocols : List Protocol

/-- Serves a connection; one from a source that is not allowed is closed at once. -/
def ConnectionService.handle (service : ConnectionService) (peer : Peer) : Handler Unit :=
  if service.sources.allowsSource peer.remote.ip then Protocol.detect service.protocols peer
  else Handler.close

end SocksGateway
