import SocksGateway.Command
import SocksGateway.Socks4.Reply
import SocksGateway.Socks4.Request

/-!
Version 4: one request without authentication. No user is known, so that private addresses are out
of reach.
-/

set_option autoImplicit false

namespace SocksGateway.Socks4

open Handler

structure Service where
  policy : RoutePolicy
deriving Repr, Inhabited

def sendReply (code : ReplyCode) (bound : Endpoint) : Handler Unit := write (reply code bound)

def reject : Handler Unit := sendReply .rejected .unspecified

/-- Whether the peer of a connection is the host that a client announced. -/
def isAnnounced (announced : Target) (peer : Ip) : Handler Bool := do
  match announced with
  | .ip endpoint => return endpoint.ip.canonical == peer.canonical
  | .domain name _ =>
    let answer ← match RoutePolicy.settledName? name with
      | some answer => pure answer
      | none => effect (Session.resolve name)
    match answer with
    | some ip => return ip.canonical == peer.canonical
    | none => return false

namespace Service

/-- Connects the client to a destination. -/
def connect (service : Service) (target : Target) (window : Duration) : Handler Unit := do
  match ← route service.policy target none with
  | .error _ => reject
  | .ok endpoint =>
    match ← effect (Session.dial endpoint) with
    | .cancelled => fail .cancelled
    | .failed => reject
    | .connected _ =>
      takeUp
      sendReply .granted ⟨.unspecified, target.port⟩
      ofResult (← effect (Session.relay window))

/-- Waits for a connection from the announced host. -/
def bind (announced : Target) (window : Duration) : Handler Unit := do
  let bound ← within "Failed to open BIND listener" do
    ofIo (← effect (Session.listen .unspecified))
  sendReply .granted bound
  match ← effect (Session.accept window) with
  | .cancelled => fail .cancelled
  | .timedOut => fail (.idle window)
  | .failed error => throw ((Failure.ofIo error).within "BIND accept failed")
  | .peer endpoint =>
    if ← isAnnounced announced endpoint.ip then
      sendReply .granted bound
      takeUp
      ofResult (← effect (Session.relay window))
    else reject

def perform (service : Service) (request : Request) (window : Duration) : Handler Unit :=
  match Command.ofByte? request.command with
  | some .connect => service.connect request.target window
  | some .bind => bind request.target window
  | _ => reject

/-- Serves a request. A failure is answered while the connection is the session's own. -/
def serve (service : Service) (window : Duration) : Handler Unit := do
  let request ← readRequest
  match ← outcome (service.perform request window) with
  | .ok () => return
  | .error failure =>
    if failure.isCancelled then throw failure
    if ← effect Session.whetherOpen then
      let _ ← outcome reject
    throw failure

/-- Serves a client and closes the connection. -/
def handle (service : Service) (window : Duration) : Handler Unit := do
  let result ← outcome (service.serve window)
  close
  ofResult result

end Service

end SocksGateway.Socks4
