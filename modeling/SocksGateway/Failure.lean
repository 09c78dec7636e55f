import SocksGateway.Text.Duration
import SocksGateway.Text.Quoted

/-!
Failures: a cause, and the remarks that were put before it on its way out. All wording of causes
is in `Cause.message`.
-/

set_option autoImplicit false

namespace SocksGateway

/-- How an operation on a stream, a socket or a file can fail. -/
inductive IoError where
  | unexpectedEnd
  | notConnected
  | brokenPipe
  | connectionRefused
  | networkUnreachable
  | addressInUse
  | addressUnavailable
  | alreadyExists
  | notFound
  | notADirectory
  | invalidInput
  | timedOut
deriving DecidableEq, Repr, Inhabited

/-- How a SOCKS5 negotiation can fail. -/
inductive NegotiationError where
  | unsupportedVersion (version : UInt8)
  | noAcceptableMethod
  | authenticationFailed
  | commandNotSupported (command : UInt8)
  | addressTypeNotSupported (kind : UInt8)
  | invalidDomain (name : String)
deriving DecidableEq, Repr, Inhabited

def NegotiationError.message : NegotiationError → String
  | unsupportedVersion version => "unexpected version byte " ++ Hex.ofByte version
  | noAcceptableMethod => "no acceptable authentication method"
  | authenticationFailed => "authentication rejected"
  | commandNotSupported command => "unsupported command " ++ Hex.ofByte command
  | addressTypeNotSupported kind => "unsupported address type " ++ Hex.ofByte kind
  | invalidDomain name => "invalid domain name " ++ Text.quoted name

/-- What went wrong. -/
inductive Cause where
  | io (error : IoError)
  /-- Text of another program that is not JSON, or not the JSON that was expected. -/
  | json
  /-- Text of another program that is not TOML, or not the TOML that was expected. -/
  | toml
  | config (text : String)
  | protocol (text : String)
  | authentication (text : String)
  | negotiation (error : NegotiationError)
  | denied (text : String)
  | unreachable (text : String)
  | idle (window : Duration)
  | cancelled
  | tls (text : String)
  | store (text : String)
  | remark (text : String)
deriving DecidableEq, Repr, Inhabited

/-- The wording of a cause. Causes that another program words have none here. -/
def Cause.message : Cause → String
  | io _ => ""
  | json => ""
  | toml => ""
  | config text => "Invalid configuration: " ++ text
  | protocol text => "Malformed request: " ++ text
  | authentication text => "Authentication failed: " ++ text
  | negotiation error => error.message
  | denied text => "Destination denied: " ++ text
  | unreachable text => "Destination unreachable: " ++ text
  | idle window => "Relay idle for " ++ window.text
  | cancelled => "Cancelled"
  | tls text => "TLS failure: " ++ text
  | store text => "Store failure: " ++ text
  | remark text => text

/-- Causes whose wording belongs to another program. -/
def Cause.isForeign : Cause → Bool
  | io _ => true
  | json => true
  | toml => true
  | _ => false

/-- A cause with the remarks around it, the outermost first. -/
structure Failure where
  cause : Cause
  remarks : List String := []
deriving DecidableEq, Repr, Inhabited

namespace Failure

/-- The failure with one more remark around it. -/
def within (failure : Failure) (remark : String) : Failure :=
  { failure with remarks := remark :: failure.remarks }

/-- The texts from the outermost to the cause. -/
def texts (failure : Failure) : List String :=
  if failure.cause.isForeign then failure.remarks else failure.remarks ++ [failure.cause.message]

/-- All texts, with a colon between them. -/
def report (failure : Failure) : String := ": ".intercalate failure.texts

/-- The outermost text. -/
def headline (failure : Failure) : String := failure.texts.headD ""

def isCancelled (failure : Failure) : Bool := failure.cause == .cancelled

/-- The address type for which a request was refused. -/
def unsupportedAddressType? (failure : Failure) : Option UInt8 :=
  match failure.cause with
  | .negotiation (.addressTypeNotSupported kind) => some kind
  | _ => none

def ofIo (error : IoError) : Failure := { cause := .io error }

def ofNegotiation (error : NegotiationError) : Failure := { cause := .negotiation error }

end Failure

/-- Puts a remark around the failure of a result. -/
def withRemark {α : Type} (remark : String) : Except Failure α → Except Failure α :=
  Except.mapError (·.within remark)

end SocksGateway
