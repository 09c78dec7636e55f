import SocksGateway.Session.Peer
import SocksGateway.Socks5.Chain
import SocksGateway.Socks5.Method

/-!
Version 5: a method is selected, the client authenticates itself, and a chain serves its request.
-/

set_option autoImplicit false

namespace SocksGateway.Socks5

open Handler

def version : UInt8 := 5

/-- The answer when no method is acceptable. -/
def noMethod : UInt8 := 0xff

structure Service where
  /-- In the order of their methods, no two of one method. -/
  authenticators : List Authenticator
  chain : Chain

namespace Service

/-- A service with those of the authenticators whose methods are allowed. -/
def ofRegistered (registered : List Authenticator) (allowed : Bytes) (chain : Chain) : Service :=
  { authenticators := Authenticator.offering registered allowed, chain }

def methods (service : Service) : Bytes := service.authenticators.map (·.method)

def checkVersion (given : UInt8) : Handler Unit :=
  if given = version then pure () else fail (.negotiation (.unsupportedVersion given))

/-- Reads the methods that the client offers, and answers with the one to use. -/
def selectMethod (service : Service) : Handler Authenticator := do
  match ← readExactly 2 with
  | [first, count] =>
    checkVersion first
    let offered ← readExactly count.toNat
    match Authenticator.select service.authenticators offered with
    | some authenticator =>
      write [version, authenticator.method]
      return authenticator
    | none =>
      write [version, noMethod]
      fail (.negotiation .noAcceptableMethod)
  | _ => fail (.io .unexpectedEnd)

/-- Authenticates the client. -/
def authenticate (service : Service) (peer : Peer) : Handler Authenticated := do
  let authenticator ← service.selectMethod
  match ← outcome (authenticator.authenticate peer.own) with
  | .ok authenticated => return authenticated
  | .error _ => fail (.negotiation .authenticationFailed)

def readHead : Handler RequestHead := do
  match ← readExactly 4 with
  | [first, command, reserved, kind] =>
    checkVersion first
    return { version := first, command, reserved, kind }
  | _ => fail (.io .unexpectedEnd)

def serve (service : Service) (peer : Peer) : Handler Unit := do
  let authenticated ← service.authenticate peer
  let head ← readHead
  service.chain.dispatch {
    head, user := authenticated.user, peer := peer.remote, own := authenticated.own,
    window := peer.window }

/-- Serves a client and closes the connection. -/
def handle (service : Service) (peer : Peer) : Handler Unit := do
  let result ← outcome (service.serve peer)
  close
  ofResult result

end Service

end SocksGateway.Socks5
