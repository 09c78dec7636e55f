import SocksGateway.Server.Pairing
import SocksGateway.Server.Services
import SocksGateway.Sockets.Session
import Std.Async.Signal

/-!
The gateway over sockets: every listener is bound, and each connection that its limiter admits is
served on its own, until the process is told to stop.
-/

set_option autoImplicit false

namespace SocksGateway

open Std Std.Async

/-- A listener with the sockets at its doors. -/
structure BoundListener where
  listener : Listener
  sockets : List TCP.Socket.Server

/-- The state that the doors of one listener share. -/
structure Reception where
  listener : Listener
  server : ServerOptions
  stop : CancellationToken
  limiter : IO.Ref Limiter
  pairing : IO.Ref Pairing
  /-- Sockets that wait for a partner, by the labels of their halves. -/
  waiting : IO.Ref (List (String × TCP.Socket.Client))
  count : IO.Ref Nat

namespace Reception

/-- Serves a client to the end of its connection. -/
def serve (reception : Reception) (reader writer : TCP.Socket.Client) : Async Unit := do
  let connection ← Connection.ofSockets reader writer reception.server reception.stop
  try
    let remote := Endpoint.ofSocket (← reader.getPeerName)
    let own := Endpoint.ofSocket (← writer.getSockName)
    let window := Duration.ofSeconds reception.server.idleTimeout
    let peer : Peer := { remote, own := some own, window }
    let _ ← (reception.listener.service.handle peer).run.perform connection
  catch _ => pure ()
  connection.close

/-- Serves a client if the limiter has room for it. -/
def welcome (reception : Reception) (reader writer : TCP.Socket.Client) : Async Unit := do
  let admitted ← reception.limiter.modifyGet fun limiter =>
    match limiter.grant? with
    | some granted => (true, granted)
    | none => (false, limiter)
  if admitted then
    let session : Async Unit := do
      reception.serve reader writer
      reception.limiter.modify Limiter.release
    background session

/-- Gives up sockets whose halves were closed. -/
def drop (reception : Reception) (closed : List Half) : IO Unit :=
  reception.waiting.modify fun waiting =>
    waiting.filter fun (label, _) => closed.all fun half => half.label ≠ label

/-- Pairs a socket with one that waits, or lets it wait. -/
def offer (reception : Reception) (direction : Direction) (socket : TCP.Socket.Client) :
    Async Unit := do
  let remote := Endpoint.ofSocket (← socket.getPeerName)
  let label := toString (← reception.count.modifyGet fun count => (count, count + 1))
  reception.waiting.modify ((label, socket) :: ·)
  let clock ← IO.monoMsNow
  let outcome ← reception.pairing.modifyGet fun pairing =>
    Pairing.offer label direction remote.ip { pairing with clock }
  reception.drop outcome.closed
  if let some pair := outcome.paired then
    let waiting ← reception.waiting.get
    reception.drop [pair.reader, pair.writer]
    match waiting.lookup pair.reader.label, waiting.lookup pair.writer.label with
    | some reader, some writer => reception.welcome reader writer
    | _, _ => return

/-- How long a door rests after it failed to accept a connection. -/
def rest : Duration := .ofMilliseconds 100

/-- Accepts connections at a door until the gateway stops. -/
partial def attend (reception : Reception) (door : TCP.Socket.Server)
    (direction : Option Direction) : Async Unit := do
  let next : Async (Option (Except IoError TCP.Socket.Client)) := do
    try
      return some (← Connection.answered <|
        Connection.orStop reception.stop door.acceptSelector fun socket => return socket)
    catch _ => return none
  match ← next with
  | none => return
  | some (.error _) =>
    sleep rest.wait
    reception.attend door direction
  | some (.ok socket) =>
    Connection.tune reception.server.tcp socket
    try
      match direction with
      | none => reception.welcome socket socket
      | some direction => reception.offer direction socket
    catch _ => pure ()
    reception.attend door direction

/-- Closes halves that waited too long, at every interval. -/
partial def sweep (reception : Reception) : Async Unit := do
  let timer ← Selector.sleep (Duration.ofMilliseconds Pairing.standardInterval).wait
  let goesOn ← Selectable.one #[
    .case timer fun _ => return true,
    .case reception.stop.selector fun _ => return false]
  if goesOn then
    let clock ← IO.monoMsNow
    let closed ← reception.pairing.modifyGet fun pairing => { pairing with clock }.sweep
    reception.drop closed
    reception.sweep

end Reception

namespace BoundListener

def bindSocket (listener : Listener) (endpoint : Endpoint) : IO (Except Failure TCP.Socket.Server) := do
  try
    let socket ← TCP.Socket.Server.mk
    socket.bind endpoint.toSocket
    socket.listen (min listener.backlog 0x7fffffff).toUInt32
    return .ok socket
  catch error =>
    let text := "Listener '" ++ listener.name ++ "': failed to bind " ++ endpoint.text
    return .error ((Failure.ofIo (.ofSystem error)).within text)

def bind (listener : Listener) : ExceptT Failure IO BoundListener := do
  let sockets ← listener.doors.endpoints.mapM fun endpoint =>
    ExceptT.mk (bindSocket listener endpoint)
  return { listener, sockets }

/-- Serves all doors of a listener until the gateway stops. -/
def run (bound : BoundListener) (server : ServerOptions) (stop : CancellationToken) :
    Async Unit := do
  let reception : Reception := {
    listener := bound.listener, server, stop
    limiter := (← IO.mkRef bound.listener.limiter)
    pairing := (← IO.mkRef { window := Pairing.standardWindow })
    waiting := (← IO.mkRef []), count := (← IO.mkRef 0) }
  match bound.sockets with
  | [door] => reception.attend door none
  | [read, write] =>
    background (reception.attend read (some .read))
    background reception.sweep
    reception.attend write (some .write)
  | _ => return

end BoundListener

/-- Waits for an interrupt or a request to terminate. -/
def untilTold : Async Unit := do
  let interrupt ← Signal.Waiter.mk .sigint false
  let terminate ← Signal.Waiter.mk .sigterm false
  Selectable.one #[
    .case interrupt.selector fun _ => return,
    .case terminate.selector fun _ => return]

/-- Binds every listener and serves until the process is told to stop. -/
def Services.serve (services : Services) (configuration : Configuration) :
    ExceptT Failure IO Unit := do
  let bound ← configuration.listeners.mapM fun options => do
    let described := (Listener.ofOptions services configuration.server options).run
    match ← ExceptT.mk (pure described) with
    | some listener => BoundListener.bind listener
    | none => throwThe IO.Error (.userError (options.about "max_connections is too large"))
  let stop ← (CancellationToken.new : IO CancellationToken)
  let all : Async Unit := do
    for each in bound do
      background (each.run configuration.server stop)
    untilTold
    stop.cancel
  all.block

end SocksGateway
