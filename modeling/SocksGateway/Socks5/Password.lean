import SocksGateway.Session.Basic

/-!
Authentication by user name and password. The client sends both, each after its length, and gets a
status. Every failure that the client can still hear of is answered.
-/

set_option autoImplicit false

namespace SocksGateway.Socks5.Password

open Handler

/-- What the client sends first, and what the status starts with. -/
def version : UInt8 := 1

def status (accepted : Bool) : Bytes := [version, if accepted then 0 else 1]

def rejected : Failure := .ofNegotiation .authenticationFailed

/-- A field after its length. -/
def readField : Handler Bytes := do readExactly (← readOctet).toNat

/-- Reads a user name, which must not be empty, and a password. -/
def readCredentials : Handler (String × String) := do
  let first ← readOctet
  if first ≠ version then fail (.negotiation (.unsupportedVersion first))
  let user ← readField
  let password ← readField
  if user = [] then throw (rejected.within "empty username")
  match Bytes.text? user, Bytes.text? password with
  | some user, some password => return (user, password)
  | _, _ => throw (rejected.within "credentials are not UTF-8")

/-- Reads credentials, answers them and returns the user's name if they are accepted. -/
def negotiate (accepts : String → String → Bool) : Handler String := do
  match ← outcome readCredentials with
  | .ok (user, password) =>
    let accepted := accepts user password
    write (status accepted)
    if accepted then return user
    throw rejected
  | .error failure =>
    if failure = .ofIo .unexpectedEnd then throw failure
    write (status false)
    throw failure

end SocksGateway.Socks5.Password
