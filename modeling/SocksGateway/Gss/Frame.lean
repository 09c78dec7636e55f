import SocksGateway.Bytes
import SocksGateway.Failure

/-!
Frames of a security context: a version, a kind, a length in two octets and a payload. An abort has
no more than its version and kind.
-/

set_option autoImplicit false

namespace SocksGateway.Gss

/-- What a frame carries. -/
inductive FrameKind where
  | token
  | protectionLevel
  | data
deriving DecidableEq, Repr, Inhabited

def FrameKind.toByte : FrameKind → UInt8
  | token => 1
  | protectionLevel => 2
  | data => 3

namespace Frame

def version : UInt8 := 1

/-- The kind of an abort. -/
def abortKind : UInt8 := 0xff

def abort : Bytes := [version, abortKind]

def tooLarge (length : Nat) : Failure :=
  { cause := .protocol ("GSS-API token too large: " ++ toString length ++ " bytes") }

/-- The octets of a frame, if its payload is not too long. -/
def encode (kind : FrameKind) (payload : Bytes) : Except Failure Bytes :=
  if payload.length < 65536 then
    .ok (version :: kind.toByte :: Bytes.ofWord (UInt16.ofNat payload.length) ++ payload)
  else .error (tooLarge payload.length)

/-- Looks at the version and the kind of a frame where one of `expected` kind should come. -/
def checkHead (expected : FrameKind) (version kind : UInt8) : Except Failure Unit :=
  if version ≠ Frame.version then
    .error { cause := .protocol ("Invalid GSS-API version: " ++ toString version.toNat) }
  else if kind = abortKind then
    .error { cause := .authentication "Client aborted GSS-API negotiation" }
  else if kind ≠ expected.toByte then
    .error { cause := .protocol ("Unexpected GSS-API message type " ++ Hex.ofByte kind ++
      ", expected " ++ Hex.ofByte expected.toByte) }
  else .ok ()

end Frame

end SocksGateway.Gss
