import SocksGateway.Session.Basic

/-!
Runs of a session against a client whose octets are all given: what the session comes to, what it did
on the way, and which octets it left unread.
-/

set_option autoImplicit false

namespace SocksGateway

/-- What a client sends before it ends, and how it takes what is written to it. -/
structure Tape where
  /-- What one read gives at most; empty segments give nothing. -/
  segments : List Bytes
  /-- How the next writes are answered; all after these succeed. -/
  writes : List (Except IoError Unit) := []
  isOpen : Bool := true
deriving Repr

namespace Tape

def ofBytes (octets : Bytes) : Tape := { segments := [octets] }

/-- The octets that are still to be read. -/
def input (tape : Tape) : Bytes := tape.segments.flatten

/-- Takes up to `limit` octets off the first segment that has any. -/
def takeFrom (limit : Nat) : List Bytes → Bytes × List Bytes
  | [] => ([], [])
  | [] :: rest => takeFrom limit rest
  | segment :: rest => (segment.take limit, segment.drop limit :: rest)

def read (limit : Nat) (tape : Tape) : Except IoError Bytes × Tape :=
  if tape.isOpen then
    let (octets, segments) := takeFrom limit tape.segments
    (.ok octets, { tape with segments })
  else (.error .notConnected, tape)

def unread (octets : Bytes) (tape : Tape) : Tape :=
  if tape.isOpen then { tape with segments := octets :: tape.segments } else tape

def write (tape : Tape) : Except IoError Unit × Tape :=
  if tape.isOpen then
    match tape.writes with
    | [] => (.ok (), tape)
    | answer :: writes => (answer, { tape with writes })
  else (.error .notConnected, tape)

/-- Nothing more is read or written. -/
def close (tape : Tape) : Tape := { tape with segments := [], isOpen := false }

end Tape

/-- How everything but the client answers. -/
structure Surroundings where
  resolver : Resolver
  dial : Endpoint → Dialled
  listen : Ip → Except IoError Endpoint
  accept : Duration → Called
  /-- What becomes of taking up the connection that was dialled or accepted. -/
  takeUp : Except IoError Unit
  /-- How a relay ends, for the octets of the client that were not yet read. -/
  relay : Bytes → Duration → Except Failure Unit
  associate : Ip → AssociationTerms → Except IoError Endpoint
  /-- The octets under a protection, in segments. -/
  uncover : Gss.Protection → Bytes → List Bytes

/-- What a session did. -/
inductive Act where
  /-- It read octets of the client. -/
  | read (octets : Bytes)
  /-- It wrote to the client. -/
  | wrote (octets : Bytes)
  | resolved (name : String)
  | dialled (endpoint : Endpoint)
  | listened (ip : Ip)
  | accepted (window : Duration)
  /-- It handed the client over, with the octets that it had not read. -/
  | relayed (input : Bytes) (window : Duration)
  | associated (terms : AssociationTerms)
  | attended
  | covered
  | closed
deriving Repr

/-- What a run comes to. -/
structure Ran (α : Type) where
  result : α
  acts : List Act
  tape : Tape
deriving Repr

namespace Ran

/-- The run with an act before all others. -/
def after {α : Type} (act : Act) (ran : Ran α) : Ran α := { ran with acts := act :: ran.acts }

/-- All that was written to the client. -/
def written {α : Type} (ran : Ran α) : Bytes :=
  ran.acts.flatMap fun
    | .wrote octets => octets
    | _ => []

end Ran

namespace Session

/-- Runs a session to its end. -/
def run {α : Type} (world : Surroundings) : Session α → Tape → Ran α
  | done result, tape => { result, acts := [], tape }
  | read limit next, tape =>
    match tape.read limit with
    | (.ok octets, tape) => ((next (.ok octets)).run world tape).after (.read octets)
    | (.error error, tape) => (next (.error error)).run world tape
  | unread octets next, tape => next.run world (tape.unread octets)
  | write octets next, tape =>
    match tape.write with
    | (.ok (), tape) => ((next (.ok ())).run world tape).after (.wrote octets)
    | (.error error, tape) => (next (.error error)).run world tape
  | whetherOpen next, tape => (next tape.isOpen).run world tape
  | resolve name next, tape => ((next (world.resolver name)).run world tape).after (.resolved name)
  | dial endpoint next, tape =>
    ((next (world.dial endpoint)).run world tape).after (.dialled endpoint)
  | listen ip next, tape => ((next (world.listen ip)).run world tape).after (.listened ip)
  | accept window next, tape =>
    ((next (world.accept window)).run world tape).after (.accepted window)
  | takeUp next, tape => (next world.takeUp).run world tape
  | relay window next, tape =>
    ((next (world.relay tape.input window)).run world tape.close).after
      (.relayed tape.input window)
  | associate ip terms next, tape =>
    ((next (world.associate ip terms)).run world tape).after (.associated terms)
  | attend next, tape => (next.run world { tape with segments := [] }).after .attended
  | protect protection next, tape =>
    (next.run world { tape with segments := world.uncover protection tape.input }).after .covered
  | close next, tape => (next.run world tape.close).after .closed

end Session

namespace Surroundings

/-- Surroundings in which nothing can be reached. -/
def isolated : Surroundings where
  resolver := fun _ => none
  dial := fun _ => .failed
  listen := fun _ => .error .addressUnavailable
  accept := fun _ => .timedOut
  takeUp := .error .notConnected
  relay := fun _ _ => .error (.ofIo .notConnected)
  associate := fun _ _ => .error .addressUnavailable
  uncover := fun _ _ => []

end Surroundings

/-- Runs a handler over octets to which nothing else answers: its result and what it left. -/
def Handler.runOn {α : Type} (handler : Handler α) (octets : Bytes) : Except Failure α × Bytes :=
  let ran := handler.run.run Surroundings.isolated (.ofBytes octets)
  (ran.result, ran.tape.input)

end SocksGateway
