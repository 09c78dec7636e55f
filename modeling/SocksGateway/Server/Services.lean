import SocksGateway.Config.Basic
import SocksGateway.Server.Limiter
import SocksGateway.Session.Detection
import SocksGateway.Store.Directory
import SocksGateway.Store.Hosts

/-!
What the listeners of a gateway share, and what each of them is made of before it is bound.
-/

set_option autoImplicit false

namespace SocksGateway

/-- Records and rules, as they are when the gateway starts. -/
structure Services where
  users : UserStore
  networks : NetworkStore
  hosts : HostStore
  rules : AccessRules
  /-- A security mechanism, if one is registered. -/
  mechanism : Option Gss.Context := none

namespace Services

/-- Opens the stores of a data directory; extra rules stand behind those of its rules file. -/
def ofDirectory (directory : DataDirectory) (extra : List AccessRule) :
    Except Failure Services := do
  let rules ← withRemark "Failed to load access rules"
    (AccessRules.load (directory.file .rules) extra)
  let users : UserStore ← Store.load (directory.file .users)
  let networks : NetworkStore ← Store.load (directory.file .networks)
  let hosts : HostStore ← Store.load (directory.file .hosts)
  return { users, networks, hosts, rules }

def policy (services : Services) : RoutePolicy :=
  { rules := services.rules, networks := services.networks.records,
    hosts := services.hosts.records }

def authenticators (services : Services) : List Socks5.Authenticator :=
  [.none, .password (UserStore.verify services.users)] ++
    services.mechanism.toList.map Socks5.Authenticator.gss

/-- What a listener does with its connections. -/
def connectionService (services : Services) (server : ServerOptions) (options : ListenerOptions) :
    ConnectionService :=
  let chain := Socks5.Chain.standard
    { policy := services.policy, reportsBound := server.reportsBound }
  let socks4 := if options.acceptsSocks4 then [Protocol.socks4 { policy := services.policy }] else []
  let socks5 := Socks5.Service.ofRegistered services.authenticators options.methods chain
  { sources := services.rules, protocols := socks4 ++ [.socks5 socks5] }

end Services

/-- Where a listener waits for connections. -/
inductive Doors where
  | standard (endpoint : Endpoint)
  /-- One endpoint for connections that are read from, and one for those that are written to. -/
  | split (read write : Endpoint)
deriving DecidableEq, Repr, Inhabited

def Doors.endpoints : Doors → List Endpoint
  | standard endpoint => [endpoint]
  | split read write => [read, write]

namespace ListenerOptions

def endpointOrFailure (options : ListenerOptions) (port : UInt16) : Except Failure Endpoint :=
  (options.endpoint port).mapError fun text => { cause := .config text }

def doors (options : ListenerOptions) : Except Failure Doors := do
  match options.mode, options.splitPorts with
  | .standard, _ => return .standard (← options.endpointOrFailure options.port)
  | .split, some ports =>
    return .split (← options.endpointOrFailure ports.read) (← options.endpointOrFailure ports.write)
  | .split, none => throw { cause := .config (options.about "split mode requires split_ports") }

/-- Refuses a listener behind encryption, of which this gateway has none. -/
def checkTls (options : ListenerOptions) : Except Failure Unit :=
  if options.tls.isEnabled then
    withRemark (options.about "failed to load TLS") (.error { cause := .tls (
      if options.tls.certificatePath.isNone then "cert_path is not set"
      else if options.tls.keyPath.isNone then "key_path is not set"
      else "encryption is not available") })
  else .ok ()

end ListenerOptions

/-- A listener that is ready to be bound. -/
structure Listener where
  name : String
  doors : Doors
  /-- How many connections may wait to be accepted. -/
  backlog : Nat
  limiter : Limiter
  service : ConnectionService

namespace Listener

/-- The listener that options describe. There is none for a limit that no limiter counts; the gateway
breaks off there, and does not fail. -/
def ofOptions (services : Services) (server : ServerOptions) (options : ListenerOptions) :
    OptionT (Except Failure) Listener := do
  options.checkTls
  let doors ← options.doors
  let some limiter := Limiter.ofLimit? options.maxConnections | failure
  return {
    name := options.name, doors, backlog := options.backlog, limiter
    service := services.connectionService server options }

end Listener

end SocksGateway
