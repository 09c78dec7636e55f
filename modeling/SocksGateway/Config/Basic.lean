import SocksGateway.Access.Load
import SocksGateway.Config.Listener
import SocksGateway.Config.Server
import SocksGateway.Document.Toml.Reader

/-!
The whole configuration: what all listeners share, the listeners, and access rules behind those of
the rules file.
-/

set_option autoImplicit false

namespace SocksGateway

structure Configuration where
  server : ServerOptions := {}
  listeners : List ListenerOptions := []
  rules : List AccessRule := []
deriving DecidableEq, Repr, Inhabited

namespace Configuration

/-- Each listener has to be valid, and no name may repeat an earlier one but for its case. -/
def validateListeners : (seen : List String) → List ListenerOptions → Except String Unit
  | _, [] => .ok ()
  | seen, listener :: rest => do
    listener.validate
    let name := Text.lower listener.name
    if seen.contains name then throw ("Duplicate listener name: " ++ listener.name)
    validateListeners (name :: seen) rest

def validate (config : Configuration) : Except String Unit := do
  config.server.validate
  if config.listeners = [] then throw "At least one listener must be configured"
  validateListeners [] config.listeners

def ofValue? (dialect : Document.Dialect) (value : Document.Value) : Option Configuration := do
  match ← Document.slots? dialect ["server", "listeners", "rules"] value with
  | [server, listeners, rules] =>
    return {
      server := (← Document.defaulted {} (ServerOptions.ofValue? dialect) server)
      listeners := (← Document.defaulted []
        (Document.list? (ListenerOptions.ofValue? dialect)) listeners)
      rules := (← Document.defaulted [] (Document.list? (AccessRule.ofValue? dialect)) rules) }
  | _ => none

def toValue (config : Configuration) : Document.Value := .record [
  ("server", config.server.toValue),
  ("listeners", .list (config.listeners.map ListenerOptions.toValue)),
  ("rules", .list (config.rules.map AccessRule.toValue))]

/-- The valid configuration that a text holds. -/
def parse (text : String) : Except Failure Configuration :=
  match (Document.Toml.parse? text).bind (ofValue? Document.Toml.dialect) with
  | none => .error { cause := .toml, remarks := ["Failed to parse configuration"] }
  | some config =>
    match config.validate with
    | .ok () => .ok config
    | .error text => .error { cause := .remark ("Invalid configuration: " ++ text) }

/-- The configuration in a file, for what reading the file gives. -/
def load (path : String) (content : Except IoError String) : Except Failure Configuration :=
  match content with
  | .ok text => parse text
  | .error error =>
    .error ((Failure.ofIo error).within ("Failed to read config file: " ++ Text.quoted path))

end Configuration

end SocksGateway
