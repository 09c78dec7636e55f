import SocksGateway.Failure
import SocksGateway.Gss.Context
import SocksGateway.Udp.Association

/-!
Sessions: what the gateway does for one client, step by step, as a tree. A node names an effect, and
its branches say how the session goes on for each answer. What answers the effects is left open: a
stream of octets in a proof, a pair of pipes in a run.
-/

set_option autoImplicit false

namespace SocksGateway

/-- The answer to an attempt to reach an endpoint. -/
inductive Dialled where
  /-- Connected; the gateway's own endpoint of the new connection. -/
  | connected (own : Endpoint)
  | failed
  | cancelled
deriving DecidableEq, Repr, Inhabited

/-- The answer to the wait for a connection. -/
inductive Called where
  /-- Connected by a peer at this endpoint. -/
  | peer (endpoint : Endpoint)
  | timedOut
  | failed (error : IoError)
  | cancelled
deriving DecidableEq, Repr, Inhabited

inductive Session (α : Type) where
  | done (result : α)
  /-- Reads up to `limit` octets from the client; no octets mean the end. -/
  | read (limit : Nat) (next : Except IoError Bytes → Session α)
  /-- Puts octets back in front of the client's. -/
  | unread (octets : Bytes) (next : Session α)
  /-- Writes all of the octets to the client. -/
  | write (octets : Bytes) (next : Except IoError Unit → Session α)
  /-- Asks whether the connection to the client is still the session's own. -/
  | whetherOpen (next : Bool → Session α)
  /-- Asks a resolver for a host's first address. -/
  | resolve (name : String) (next : Option Ip → Session α)
  /-- Connects to an endpoint. -/
  | dial (endpoint : Endpoint) (next : Dialled → Session α)
  /-- Listens at an address, on a port of the system's choice. -/
  | listen (ip : Ip) (next : Except IoError Endpoint → Session α)
  /-- Waits for one connection to where the session listens, and stops to listen. -/
  | accept (window : Duration) (next : Called → Session α)
  /-- Takes up the connection that was dialled or accepted. That fails if it is lost by then. -/
  | takeUp (next : Except IoError Unit → Session α)
  /-- Hands the client over to a relay with the connection that was dialled or accepted. -/
  | relay (window : Duration) (next : Except Failure Unit → Session α)
  /-- Opens a port for datagrams at an address. -/
  | associate (ip : Ip) (terms : AssociationTerms) (next : Except IoError Endpoint → Session α)
  /-- Relays datagrams until the client ends its connection. -/
  | attend (next : Session α)
  /-- Goes on under a protection: what is read and written from here on is wrapped. -/
  | protect (protection : Gss.Protection) (next : Session α)
  /-- Closes the connection to the client. -/
  | close (next : Session α)

namespace Session

variable {α β : Type}

def bind : Session α → (α → Session β) → Session β
  | done result, f => f result
  | read limit next, f => read limit fun answer => (next answer).bind f
  | unread octets next, f => unread octets (next.bind f)
  | write octets next, f => write octets fun answer => (next answer).bind f
  | whetherOpen next, f => whetherOpen fun answer => (next answer).bind f
  | resolve name next, f => resolve name fun answer => (next answer).bind f
  | dial endpoint next, f => dial endpoint fun answer => (next answer).bind f
  | listen ip next, f => listen ip fun answer => (next answer).bind f
  | accept window next, f => accept window fun answer => (next answer).bind f
  | takeUp next, f => takeUp fun answer => (next answer).bind f
  | relay window next, f => relay window fun answer => (next answer).bind f
  | associate ip terms next, f => associate ip terms fun answer => (next answer).bind f
  | attend next, f => attend (next.bind f)
  | protect protection next, f => protect protection (next.bind f)
  | close next, f => close (next.bind f)

instance : Monad Session where
  pure := done
  bind := bind

end Session

/-- A session, or a part of one, that may fail. -/
abbrev Handler := ExceptT Failure Session

namespace Handler

variable {α : Type}

def fail (cause : Cause) : Handler α := throw { cause }

def ofIo : Except IoError α → Handler α
  | .ok value => pure value
  | .error error => throw (.ofIo error)

def ofResult : Except Failure α → Handler α
  | .ok value => pure value
  | .error failure => throw failure

/-- An effect whose answer cannot fail. -/
def effect {β : Type} (node : (β → Session β) → Session β) : Handler β :=
  ExceptT.lift (node Session.done)

def read (limit : Nat) : Handler Bytes := do ofIo (← effect (Session.read limit))

/-- The next `missing` octets, in no more than `fuel` reads. -/
def gather : (fuel missing : Nat) → Handler Bytes
  | 0, _ => pure []
  | fuel + 1, missing =>
    if missing = 0 then pure []
    else do
      let octets ← read missing
      if octets = [] then fail (.io .unexpectedEnd)
      return octets ++ (← gather fuel (missing - octets.length))

/-- The next `count` octets. Each read gives at least one of them. -/
def readExactly (count : Nat) : Handler Bytes := gather count count

/-- The next octet. -/
def readOctet : Handler UInt8 := do return (← readExactly 1).headD 0

/-- The next two octets, as a number. -/
def readWord : Handler UInt16 := do
  match ← readExactly 2 with
  | [high, low] => return Bytes.word high low
  | _ => fail (.io .unexpectedEnd)

def unread (octets : Bytes) : Handler Unit :=
  ExceptT.lift (Session.unread octets (Session.done ()))

def write (octets : Bytes) : Handler Unit := do ofIo (← effect (Session.write octets))

/-- Takes up the connection that was dialled or accepted. -/
def takeUp : Handler Unit := do ofIo (← effect Session.takeUp)

def close : Handler Unit := ExceptT.lift (Session.close (Session.done ()))

/-- What a handler leads to, failure or not. -/
def outcome (handler : Handler α) : Handler (Except Failure α) := ExceptT.lift handler.run

/-- The result of `handler`; a failure gets a remark. -/
def within (remark : String) (handler : Handler α) : Handler α :=
  (ExceptT.adapt (·.within remark) handler : ExceptT Failure Session α)

/-- Routes a target, with the help of a resolver where that is needed. -/
def route (policy : RoutePolicy) (target : Target) (user : Option String) :
    Handler (Except Failure Endpoint) :=
  match policy.plan target user with
  | .settled result => return result
  | .lookup name port => do
    return policy.conclude name port user (← effect (Session.resolve name))

end Handler

end SocksGateway
