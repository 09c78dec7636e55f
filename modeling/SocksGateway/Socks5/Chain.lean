import SocksGateway.Command
import SocksGateway.Socks5.Reply
import SocksGateway.Socks5.TargetReader

/-!
The commands of version 5. A chain of handlers serves a request: the first that handles its command,
and behind them one that answers every command as not supported.
-/

set_option autoImplicit false

namespace SocksGateway.Socks5

open Handler

/-- The first four octets of a request. -/
structure RequestHead where
  version : UInt8
  command : UInt8
  reserved : UInt8
  /-- The type of the address that follows. -/
  kind : UInt8
deriving DecidableEq, Repr, Inhabited

/-- A request, and what is known of the client that makes it. -/
structure Request where
  head : RequestHead
  user : Option String
  /-- The client's end of the connection. -/
  peer : Endpoint
  /-- The gateway's end of the connection, where it is known. -/
  own : Option Endpoint
  /-- How long a relay or a wait for a connection may be idle. -/
  window : Duration
deriving Repr, Inhabited

/-- What the commands work with. -/
structure CommandSettings where
  policy : RoutePolicy
  /-- Whether replies to CONNECT carry the gateway's endpoint of the new connection. -/
  reportsBound : Bool
deriving Repr, Inhabited

/-- One link of a chain. -/
inductive ChainLink where
  | connect
  | bind
  | udpAssociate
  /-- Answers every command as not supported. -/
  | unsupported
deriving DecidableEq, Repr, Inhabited

def ChainLink.handles : ChainLink → UInt8 → Bool
  | connect, command => command == Command.connect.toByte
  | bind, command => command == Command.bind.toByte
  | udpAssociate, command => command == Command.udpAssociate.toByte
  | unsupported, _ => true

structure Chain where
  links : List ChainLink
  settings : CommandSettings
deriving Repr, Inhabited

def sendReply (code : ReplyCode) (bound : Endpoint) : Handler Unit := write (reply code bound)

/-- Replies if the connection is still the session's own, as far as that is possible. -/
def replyIfOpen (code : ReplyCode) : Handler Unit := do
  if ← effect Session.whetherOpen then
    let _ ← outcome (sendReply code .unspecified)

namespace Request

/-- Where the gateway listens for the client: at the address that the client connected to. -/
def listeningIp (request : Request) : Ip := (request.own.map (·.ip)).getD .unspecified

/-- Connects the client to a destination. -/
def connect (settings : CommandSettings) (request : Request) : Handler Unit := do
  match ← readTarget request.head.kind with
  | none => return
  | some target =>
    match ← route settings.policy target request.user with
    | .error { cause := .denied _, .. } => sendReply .notAllowed .unspecified
    | .error _ => sendReply .connectionRefused .unspecified
    | .ok endpoint =>
      match ← effect (Session.dial endpoint) with
      | .cancelled => fail .cancelled
      | .failed => sendReply .connectionRefused .unspecified
      | .connected own =>
        match ← effect Session.takeUp with
        | .error _ => sendReply .connectionRefused .unspecified
        | .ok () =>
          sendReply .succeeded (if settings.reportsBound then own else .unspecified)
          ofResult (← effect (Session.relay request.window))

/-- Waits for a connection on behalf of the client. -/
def bind (request : Request) : Handler Unit := do
  match ← readTarget request.head.kind with
  | none => return
  | some _ =>
    let bound ← within "Failed to open BIND listener" do
      ofIo (← effect (Session.listen request.listeningIp))
    sendReply .succeeded bound
    match ← effect (Session.accept request.window) with
    | .cancelled => fail .cancelled
    | .timedOut => fail (.idle request.window)
    | .failed error => throw ((Failure.ofIo error).within "BIND accept failed")
    | .peer endpoint =>
      sendReply .succeeded endpoint
      takeUp
      ofResult (← effect (Session.relay request.window))

/-- Relays datagrams for the client as long as it keeps its connection. -/
def associate (settings : CommandSettings) (request : Request) : Handler Unit := do
  match ← readTarget request.head.kind with
  | none => return
  | some declared =>
    let terms : AssociationTerms := {
      client := .declared declared request.peer.ip, policy := settings.policy, user := request.user }
    let ip := request.listeningIp
    let bound ← within ("Failed to bind UDP relay on " ++ (Endpoint.mk ip 0).text) do
      ofIo (← effect (Session.associate ip terms))
    sendReply .succeeded bound
    ExceptT.lift (Session.attend (Session.done ()))

def perform (settings : CommandSettings) (request : Request) : ChainLink → Handler Unit
  | .connect => request.connect settings
  | .bind => request.bind
  | .udpAssociate => request.associate settings
  | .unsupported => sendReply .commandNotSupported .unspecified

end Request

namespace Chain

/-- A chain of these links, with the one for all other commands at its end. -/
def ofLinks (links : List ChainLink) (settings : CommandSettings) : Chain :=
  { links := links.filter (· != .unsupported) ++ [.unsupported], settings }

def standard (settings : CommandSettings) : Chain :=
  ofLinks [.connect, .bind, .udpAssociate] settings

/-- The link for a command. -/
def linkFor (chain : Chain) (command : UInt8) : ChainLink :=
  (chain.links.find? (·.handles command)).getD .unsupported

/-- Serves a request. A failure is answered while the connection is the session's own; that an
address type is not supported counts as served. -/
def dispatch (chain : Chain) (request : Request) : Handler Unit := do
  match ← outcome (request.perform chain.settings (chain.linkFor request.head.command)) with
  | .ok () => return
  | .error failure =>
    if failure.isCancelled then throw failure
    if failure.unsupportedAddressType?.isSome then replyIfOpen .addressTypeNotSupported
    else do
      replyIfOpen .generalFailure
      throw failure

end Chain

end SocksGateway.Socks5
