import SocksGateway.Document.Fields
import SocksGateway.Text.Duration

/-!
Settings that all listeners share.
-/

set_option autoImplicit false

namespace SocksGateway

/-- Options of connections, inbound and outbound. -/
structure TcpOptions where
  noDelay : Bool := true
  /-- Seconds without traffic before a connection is probed; zero turns that off. -/
  keepAliveAfter : Nat := 20
  /-- Seconds between probes. -/
  keepAliveInterval : Nat := 8
deriving DecidableEq, Repr, Inhabited

namespace TcpOptions

/-- When and how often connections are probed, if at all. -/
def keepAlive (options : TcpOptions) : Option (Duration × Duration) :=
  if options.keepAliveAfter = 0 then none
  else some (.ofSeconds options.keepAliveAfter, .ofSeconds (max options.keepAliveInterval 1))

def ofValue? (dialect : Document.Dialect) (value : Document.Value) : Option TcpOptions := do
  match ← Document.slots? dialect ["nodelay", "keepalive_secs", "keepalive_interval"] value with
  | [noDelay, after, interval] =>
    return {
      noDelay := (← Document.defaulted true Document.flag? noDelay)
      keepAliveAfter := (← Document.defaulted 20 Document.word? after)
      keepAliveInterval := (← Document.defaulted 8 Document.word? interval) }
  | _ => none

def toValue (options : TcpOptions) : Document.Value := .record [
  ("nodelay", .flag options.noDelay), ("keepalive_secs", .integer options.keepAliveAfter),
  ("keepalive_interval", .integer options.keepAliveInterval)]

end TcpOptions

structure ServerOptions where
  /-- Where the stores and the rules file are. -/
  dataDirectory : String := "./data"
  /-- In seconds, like the other spans. -/
  idleTimeout : Nat := 300
  connectTimeout : Nat := 10
  handshakeTimeout : Nat := 10
  /-- Whether replies to CONNECT carry the gateway's endpoint of the new connection. -/
  reportsBound : Bool := false
  tcp : TcpOptions := {}
deriving DecidableEq, Repr, Inhabited

namespace ServerOptions

def validate (options : ServerOptions) : Except String Unit := do
  if options.idleTimeout = 0 then throw "idle_timeout must be greater than zero"
  if options.connectTimeout = 0 then throw "connect_timeout must be greater than zero"
  if options.handshakeTimeout = 0 then throw "handshake_timeout must be greater than zero"

def fields : List String := ["data_dir", "idle_timeout", "connect_timeout", "handshake_timeout",
  "report_bound_address", "tcp"]

def ofValue? (dialect : Document.Dialect) (value : Document.Value) : Option ServerOptions := do
  match ← Document.slots? dialect fields value with
  | [directory, idle, connect, handshake, reports, tcp] =>
    return {
      dataDirectory := (← Document.defaulted "./data" Document.text? directory)
      idleTimeout := (← Document.defaulted 300 Document.word? idle)
      connectTimeout := (← Document.defaulted 10 Document.word? connect)
      handshakeTimeout := (← Document.defaulted 10 Document.word? handshake)
      reportsBound := (← Document.defaulted false Document.flag? reports)
      tcp := (← Document.defaulted {} (TcpOptions.ofValue? dialect) tcp) }
  | _ => none

def toValue (options : ServerOptions) : Document.Value := .record [
  ("data_dir", .text options.dataDirectory), ("idle_timeout", .integer options.idleTimeout),
  ("connect_timeout", .integer options.connectTimeout),
  ("handshake_timeout", .integer options.handshakeTimeout),
  ("report_bound_address", .flag options.reportsBound), ("tcp", options.tcp.toValue)]

end ServerOptions

end SocksGateway
