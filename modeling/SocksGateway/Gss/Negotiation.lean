import SocksGateway.Gss.Frame
import SocksGateway.Session.Basic

/-!
How a security context is established: tokens until the client is known, then one octet that names a
level of protection and is sent back as accepted.
-/

set_option autoImplicit false

namespace SocksGateway.Gss

open Handler

/-- Reads the payload of a frame of the expected kind. -/
def readFrame (expected : FrameKind) : Handler Bytes := do
  match ← within "Failed to read GSS-API message header" (readExactly 2) with
  | [version, kind] =>
    ofResult (Frame.checkHead expected version kind)
    let length ← readWord
    readExactly length.toNat
  | _ => fail (.io .unexpectedEnd)

def writeFrame (kind : FrameKind) (payload : Bytes) : Handler Unit := do
  write (← ofResult (Frame.encode kind payload))

/-- A failure of the mechanism itself. -/
def mechanismFailure : Failure := { cause := .remark "security mechanism failed" }

def required {α : Type} : Option α → Handler α
  | some value => pure value
  | none => throw mechanismFailure

/-- The exchange about the level of protection, for a client that has a name. -/
def agree (principal : Option String) (protection : Protection) :
    Handler (String × Protection) := do
  match principal.filter (! ·.isEmpty) with
  | none => fail (.authentication "GSS-API context has no principal")
  | some name =>
    let request ← readFrame .protectionLevel
    let level ← required (protection.unwrap request)
    if level.length ≠ 1 then
      fail (.authentication
        ("Invalid protection level message of " ++ toString level.length ++ " bytes"))
    writeFrame .protectionLevel (← required (protection.wrap level))
    return (name, protection)

/-- Exchanges tokens until the context is established or refuses one. -/
def establish : Context → Handler (String × Protection)
  | .refused => throw mechanismFailure
  | .established principal protection => agree principal protection
  | .awaiting reply next => do
    let token ← readFrame .token
    match next token with
    | .refused => throw mechanismFailure
    | .established .. => if reply token ≠ [] then writeFrame .token (reply token)
    | .awaiting .. => writeFrame .token (reply token)
    establish (next token)

end SocksGateway.Gss
