import SocksGateway.Relay.Basic
import SocksGateway.Sockets.Connection

/-!
Sessions over sockets: a session is carried out effect by effect until it is done.
-/

set_option autoImplicit false

namespace SocksGateway

open Std Std.Async

namespace Connection

/-- Carries octets from one socket to another until the first has ended. Both directions of a relay
share the time at which octets were last read. -/
partial def pump (source sink : TCP.Socket.Client) (window : Duration) (lastRead : IO.Ref Nat)
    (stop finished : CancellationToken) : Async (Except Failure Unit) := do
  let quiet := (← IO.monoMsNow) - (← lastRead.get)
  if window.milliseconds ≤ quiet then return .error { cause := .idle window }
  let timer ← Selector.sleep (Duration.ofMilliseconds (window.milliseconds - quiet)).wait
  let read : Async (Except IoError (Option (Option ByteArray))) :=
    answered <| Selectable.one #[
      .case (source.recvSelector Relay.bufferSize.toUInt64) fun octets => return some octets,
      .case timer fun _ => return none,
      .case finished.selector fun _ => return some none,
      .case stop.selector fun _ => throw stopped]
  match ← read with
  | .error error => return .error (.ofIo error)
  | .ok none => pump source sink window lastRead stop finished
  | .ok (some none) => return .ok ()
  | .ok (some (some octets)) =>
    lastRead.set (← IO.monoMsNow)
    match ← answered (sink.send octets) with
    | .error error => return .error (.ofIo error)
    | .ok () => pump source sink window lastRead stop finished

/-- Relays between the client and the connection that was dialled or accepted, and closes both. -/
def relay (connection : Connection) (window : Duration) : Async (Except Failure Unit) := do
  match ← connection.target.get with
  | none => return .error (.ofIo .notConnected)
  | some target =>
    let lastRead ← IO.mkRef (← IO.monoMsNow)
    let finished ← CancellationToken.new
    let returned ← connection.returned.get
    connection.returned.set []
    let outward : Async (Except Failure Unit) := do
      if returned ≠ [] then
        if let .error error ← answered (target.send returned.packed) then
          return .error (.ofIo error)
      pump connection.reader target window lastRead connection.stop finished
    let inward := pump target connection.writer window lastRead connection.stop finished
    let result ← Async.race outward inward
    finished.cancel
    let _ ← answered target.shutdown
    connection.target.set none
    connection.close
    return result

end Connection

/-- Carries a session out. No security mechanism is registered with sockets, so a session that goes
on under a protection loses its connection. -/
def Session.perform {α : Type} (connection : Connection) : Session α → Async α
  | done result => return result
  | read limit next => do (next (← connection.read limit)).perform connection
  | unread octets next => do
    connection.returned.modify (octets ++ ·)
    next.perform connection
  | write octets next => do (next (← connection.write octets)).perform connection
  | whetherOpen next => do (next (← connection.isOpen.get)).perform connection
  | resolve name next => do (next (← Connection.resolve name)).perform connection
  | dial endpoint next => do (next (← connection.dial endpoint)).perform connection
  | listen ip next => do (next (← connection.listen ip)).perform connection
  | accept window next => do (next (← connection.accept window)).perform connection
  | takeUp next => do (next (← connection.takeUp)).perform connection
  | relay window next => do (next (← connection.relay window)).perform connection
  | associate ip terms next => do (next (← connection.associate ip terms)).perform connection
  | attend next => do
    connection.attend
    next.perform connection
  | protect _ next => do
    connection.close
    next.perform connection
  | close next => do
    connection.close
    next.perform connection

end SocksGateway
