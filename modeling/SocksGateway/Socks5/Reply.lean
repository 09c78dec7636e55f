import SocksGateway.Failure
import SocksGateway.Target.Codec

/-!
Replies of version 5: what became of a command, and an endpoint.
-/

set_option autoImplicit false

namespace SocksGateway.Socks5

/-- What became of a command. -/
inductive ReplyCode where
  | succeeded
  | generalFailure
  | notAllowed
  | networkUnreachable
  | hostUnreachable
  | connectionRefused
  | timeToLiveExpired
  | commandNotSupported
  | addressTypeNotSupported
deriving DecidableEq, Repr, Inhabited

namespace ReplyCode

def toByte : ReplyCode → UInt8
  | succeeded => 0
  | generalFailure => 1
  | notAllowed => 2
  | networkUnreachable => 3
  | hostUnreachable => 4
  | connectionRefused => 5
  | timeToLiveExpired => 6
  | commandNotSupported => 7
  | addressTypeNotSupported => 8

def all : List ReplyCode := [succeeded, generalFailure, notAllowed, networkUnreachable,
  hostUnreachable, connectionRefused, timeToLiveExpired, commandNotSupported,
  addressTypeNotSupported]

/-- The code of a byte; the nine codes are numbered from zero. -/
def ofByte (byte : UInt8) : Except Failure ReplyCode :=
  match all[byte.toNat]? with
  | some code => .ok code
  | none => .error { cause := .protocol ("reply code " ++ Hex.ofByte byte) }

theorem ofByte_toByte (code : ReplyCode) : ofByte code.toByte = .ok code := by
  cases code <;> rfl

end ReplyCode

/-- The octets of a reply. The family of the endpoint tells the type of its address. -/
def reply (code : ReplyCode) (bound : Endpoint) : Bytes :=
  match bound.ip with
  | .v4 ip => [5, code.toByte, 0, 1] ++ ip.octets ++ Bytes.ofWord bound.port
  | .v6 ip => [5, code.toByte, 0, 4] ++ ip.octets ++ Bytes.ofWord bound.port

end SocksGateway.Socks5
