import SocksGateway.Address.Endpoint
import SocksGateway.Document.Fields
import SocksGateway.Text.Hex
import SocksGateway.Text.LowerCase

/-!
Settings of one listener.
-/

set_option autoImplicit false

namespace SocksGateway

/-- How a client's octets travel. -/
inductive ChannelMode where
  /-- Both ways over one connection. -/
  | standard
  /-- Each way over a connection of its own, to a port of its own. -/
  | split
deriving DecidableEq, Repr, Inhabited

namespace ChannelMode

def name : ChannelMode → String
  | standard => "standard"
  | split => "split"

def ofValue? (dialect : Document.Dialect) (value : Document.Value) : Option ChannelMode := do
  match ← Document.alternative? dialect value with
  | "standard" => return standard
  | "split" => return split
  | _ => none

end ChannelMode

def Document.port? (value : Document.Value) : Option UInt16 :=
  (Document.natural? 65536 value).map UInt16.ofNat

/-- The ports of a listener whose clients use two connections. -/
structure SplitPorts where
  /-- The port that clients send to. -/
  read : UInt16
  /-- The port that clients receive from. -/
  write : UInt16
deriving DecidableEq, Repr, Inhabited

namespace SplitPorts

def ofValue? (dialect : Document.Dialect) (value : Document.Value) : Option SplitPorts := do
  match ← Document.slots? dialect ["read", "write"] value with
  | [read, write] =>
    return ⟨← Document.needed Document.port? read, ← Document.needed Document.port? write⟩
  | _ => none

def toValue (ports : SplitPorts) : Document.Value :=
  .record [("read", .integer ports.read.toNat), ("write", .integer ports.write.toNat)]

end SplitPorts

structure TlsOptions where
  isEnabled : Bool := false
  certificatePath : Option String := none
  keyPath : Option String := none
  /-- Of an encrypted key, which is not supported. -/
  password : Option String := none
deriving DecidableEq, Repr, Inhabited

def Document.ofOption {α : Type} (toValue : α → Document.Value) : Option α → Document.Value
  | some value => toValue value
  | none => .null

namespace TlsOptions

def validate (options : TlsOptions) : Except String Unit := do
  if options.isEnabled then
    if options.certificatePath.isNone then throw "TLS enabled but cert_path is not set"
    if options.keyPath.isNone then throw "TLS enabled but key_path is not set"

def ofValue? (dialect : Document.Dialect) (value : Document.Value) : Option TlsOptions := do
  match ← Document.slots? dialect ["enabled", "cert_path", "key_path", "password"] value with
  | [enabled, certificate, key, password] =>
    let text := Document.defaulted none (Document.nullable Document.text?)
    return {
      isEnabled := (← Document.defaulted false Document.flag? enabled)
      certificatePath := (← text certificate)
      keyPath := (← text key)
      password := (← text password) }
  | _ => none

def toValue (options : TlsOptions) : Document.Value := .record [
  ("enabled", .flag options.isEnabled), ("cert_path", Document.ofOption .text options.certificatePath),
  ("key_path", Document.ofOption .text options.keyPath),
  ("password", Document.ofOption .text options.password)]

end TlsOptions

structure ListenerOptions where
  name : String
  host : String := "0.0.0.0"
  port : UInt16 := 1080
  /-- How many connections may wait to be accepted. -/
  backlog : Nat := 128
  /-- How many connections are served at a time; zero for no limit. -/
  maxConnections : Nat := 1024
  /-- The authentication methods of version 5 that are accepted. -/
  methods : Bytes := [0]
  acceptsSocks4 : Bool := true
  mode : ChannelMode := .standard
  splitPorts : Option SplitPorts := none
  tls : TlsOptions := {}
deriving DecidableEq, Repr, Inhabited

namespace ListenerOptions

/-- The options of a listener for which nothing is given. -/
def standard : ListenerOptions := { name := "default" }

def about (options : ListenerOptions) (text : String) : String :=
  "Listener '" ++ options.name ++ "': " ++ text

/-- The address to listen at. -/
def bindIp (options : ListenerOptions) : Except String Ip :=
  match Ip.parse? options.host with
  | some ip => .ok ip
  | none => .error (options.about ("invalid host '" ++ options.host ++ "'"))

/-- The endpoint to listen at on a port. -/
def endpoint (options : ListenerOptions) (port : UInt16) : Except String Endpoint := do
  return ⟨← options.bindIp, port⟩

def validateMethods (options : ListenerOptions) : Except String Unit := do
  if options.methods = [] then throw (options.about "allowed_auth_methods must not be empty")
  match options.methods.find? (2 < ·) with
  | some method => throw (options.about ("unknown authentication method " ++ Hex.ofByte method))
  | none => return

def validatePorts (options : ListenerOptions) : Except String Unit :=
  match options.mode, options.splitPorts with
  | .standard, _ => .ok ()
  | .split, none => .error (options.about "split mode requires split_ports")
  | .split, some ports =>
    if ports.read = ports.write then
      .error (options.about "split read and write ports must differ")
    else .ok ()

def validate (options : ListenerOptions) : Except String Unit := do
  if Text.isBlank options.name then throw "Listener name must not be empty"
  let _ ← options.bindIp
  options.validateMethods
  options.validatePorts
  options.tls.validate.mapError options.about

def fields : List String := ["name", "host", "port", "backlog", "max_connections",
  "allowed_auth_methods", "enable_socks4", "channel_mode", "split_ports", "tls"]

def ofValue? (dialect : Document.Dialect) (value : Document.Value) : Option ListenerOptions := do
  match ← Document.slots? dialect fields value with
  | [name, host, port, backlog, limit, methods, socks4, mode, ports, tls] =>
    let octet? (value : Document.Value) : Option UInt8 :=
      (Document.natural? 256 value).map UInt8.ofNat
    return {
      name := (← Document.needed Document.text? name)
      host := (← Document.defaulted "0.0.0.0" Document.text? host)
      port := (← Document.defaulted 1080 Document.port? port)
      backlog := (← Document.defaulted 128 Document.halfWord? backlog)
      maxConnections := (← Document.defaulted 1024 Document.word? limit)
      methods := (← Document.defaulted [0] (Document.list? octet?) methods)
      acceptsSocks4 := (← Document.defaulted true Document.flag? socks4)
      mode := (← Document.defaulted .standard (ChannelMode.ofValue? dialect) mode)
      splitPorts := (← Document.defaulted none
        (Document.nullable (SplitPorts.ofValue? dialect)) ports)
      tls := (← Document.defaulted {} (TlsOptions.ofValue? dialect) tls) }
  | _ => none

def toValue (options : ListenerOptions) : Document.Value := .record [
  ("name", .text options.name), ("host", .text options.host),
  ("port", .integer options.port.toNat), ("backlog", .integer options.backlog),
  ("max_connections", .integer options.maxConnections),
  ("allowed_auth_methods", .list (options.methods.map fun method => .integer method.toNat)),
  ("enable_socks4", .flag options.acceptsSocks4), ("channel_mode", .text options.mode.name),
  ("split_ports", Document.ofOption SplitPorts.toValue options.splitPorts),
  ("tls", options.tls.toValue)]

end ListenerOptions

end SocksGateway
