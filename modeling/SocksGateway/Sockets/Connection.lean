import SocksGateway.Config.Server
import SocksGateway.Session.Basic
import SocksGateway.Sockets.Address
import Std.Async.DNS
import Std.Async.Select
import Std.Async.TCP
import Std.Async.Timer
import Std.Async.UDP
import Std.Sync.CancellationToken

/-!
Connections over sockets: each effect of a session, carried out.
-/

set_option autoImplicit false

namespace SocksGateway

open Std Std.Async

def Bytes.unpacked (octets : ByteArray) : Bytes := octets.data.toList

def Bytes.packed (octets : Bytes) : ByteArray := ⟨List.toArray octets⟩

def Duration.wait (duration : Duration) : Time.Millisecond.Offset := .ofNat duration.milliseconds

/-- A socket for datagrams, and the association that it serves. -/
structure DatagramPort where
  socket : UDP.Socket
  association : Association

/-- A connection to a client, and what a session has opened for it. -/
structure Connection where
  /-- Two sockets where the client splits its connection, else the same one twice. -/
  reader : TCP.Socket.Client
  writer : TCP.Socket.Client
  server : ServerOptions
  /-- Cancelled when the gateway stops. -/
  stop : CancellationToken
  isOpen : IO.Ref Bool
  returned : IO.Ref Bytes
  door : IO.Ref (Option TCP.Socket.Server)
  target : IO.Ref (Option TCP.Socket.Client)
  datagrams : IO.Ref (Option DatagramPort)

namespace Connection

/-- What ends a session at whatever it waits for. -/
def stopped : IO.Error := .userError "stopped"

/-- Carries an action out, unless the gateway stops before it has an answer. -/
def orStop {α β : Type} (stop : CancellationToken) (selector : Selector α)
    (next : α → Async β) : Async β :=
  Selectable.one #[.case selector next, .case stop.selector fun _ => throw stopped]

/-- An answer or the kind of the error; that the gateway stops is no answer. -/
def answered {α : Type} (action : Async α) : Async (Except IoError α) := do
  try return .ok (← action)
  catch error =>
    match error with
    | .userError _ => throw error
    | _ => return .error (.ofSystem error)

def tune (options : TcpOptions) (socket : TCP.Socket.Client) : IO Unit := do
  try
    if options.noDelay then socket.noDelay
    if let some (after, _) := options.keepAlive then
      let seconds := Time.Second.Offset.ofNat (after.milliseconds / 1000)
      if positive : seconds.val ≥ 0 then socket.keepAlive true seconds positive
  catch _ => return

def ofSockets (reader writer : TCP.Socket.Client) (server : ServerOptions)
    (stop : CancellationToken) : IO Connection := do
  return {
    reader, writer, server, stop, isOpen := (← IO.mkRef true), returned := (← IO.mkRef []),
    door := (← IO.mkRef none), target := (← IO.mkRef none), datagrams := (← IO.mkRef none) }

/-- Reads from the client, first what was put back. -/
def read (connection : Connection) (limit : Nat) : Async (Except IoError Bytes) := do
  if !(← connection.isOpen.get) then return .error .notConnected
  let returned ← connection.returned.get
  if returned ≠ [] then
    connection.returned.set (returned.drop limit)
    return .ok (returned.take limit)
  answered <| orStop connection.stop (connection.reader.recvSelector limit.toUInt64) fun octets =>
    return (octets.map Bytes.unpacked).getD []

def write (connection : Connection) (octets : Bytes) : Async (Except IoError Unit) := do
  if !(← connection.isOpen.get) then return .error .notConnected
  answered (connection.writer.send octets.packed)

def close (connection : Connection) : Async Unit := do
  if ← connection.isOpen.get then
    connection.isOpen.set false
    let _ ← answered connection.writer.shutdown

/-- The first address that the resolver of the system gives for a name. -/
def resolve (name : String) : Async (Option Ip) := do
  match ← answered (DNS.getAddrInfo name "") with
  | .ok addresses => return addresses[0]?.map Ip.ofSocket
  | .error _ => return none

/-- Connects to an endpoint, for as long as the configuration allows. -/
def dial (connection : Connection) (endpoint : Endpoint) : Async Dialled := do
  let limit := Duration.ofSeconds connection.server.connectTimeout
  let attempt : Async (Option TCP.Socket.Client) := do
    let socket ← TCP.Socket.Client.mk
    match ← answered (socket.connect endpoint.toSocket) with
    | .ok () => return some socket
    | .error _ => return none
  let expire : Async (Option TCP.Socket.Client) := do
    let timer ← Selector.sleep limit.wait
    orStop connection.stop timer fun _ => return none
  match ← Async.race attempt expire with
  | none => return .failed
  | some socket =>
    tune connection.server.tcp socket
    connection.target.set (some socket)
    match ← answered do return ← socket.getSockName with
    | .ok own => return .connected (.ofSocket own)
    | .error _ => return .connected .unspecified

def listen (connection : Connection) (ip : Ip) : Async (Except IoError Endpoint) :=
  answered do
    let socket ← TCP.Socket.Server.mk
    socket.bind (Endpoint.mk ip 0).toSocket
    socket.listen 1
    connection.door.set (some socket)
    return .ofSocket (← socket.getSockName)

/-- Waits for one connection and stops to listen. -/
def accept (connection : Connection) (window : Duration) : Async Called := do
  match ← connection.door.get with
  | none => return .failed .notConnected
  | some door =>
    let timer ← Selector.sleep window.wait
    let answer ← answered <| Selectable.one #[
      .case door.acceptSelector fun socket => return some socket,
      .case timer fun _ => return none,
      .case connection.stop.selector fun _ => throw stopped]
    connection.door.set none
    match answer with
    | .error error => return .failed error
    | .ok none => return .timedOut
    | .ok (some socket) =>
      tune connection.server.tcp socket
      connection.target.set (some socket)
      match ← answered do return ← socket.getPeerName with
      | .ok peer => return .peer (.ofSocket peer)
      | .error error => return .failed error

/-- Asks who is at the other end of the connection that was dialled or accepted; where that is lost,
nobody is. -/
def takeUp (connection : Connection) : Async (Except IoError Unit) := do
  match ← connection.target.get with
  | none => return .error .notConnected
  | some socket => answered do let _ ← socket.getPeerName

def associate (connection : Connection) (ip : Ip) (terms : AssociationTerms) :
    Async (Except IoError Endpoint) :=
  answered do
    let socket ← UDP.Socket.mk
    socket.bind (Endpoint.mk ip 0).toSocket
    connection.datagrams.set (some { socket, association := .start terms })
    return .ofSocket (← socket.getSockName)

/-- What the resolver answers for the name that a datagram is sent to, if it is to be asked. -/
def answerFor (association : Association) (datagram : Bytes) : Async (Option Ip) := do
  match UdpPacket.decode datagram with
  | .error _ => return none
  | .ok packet =>
    match association.terms.policy.plan packet.address association.terms.user with
    | .settled _ => return none
    | .lookup name _ => resolve name

/-- Sends a datagram on, and says what has become of the association. -/
def forward (socket : UDP.Socket) (association : Association) (source : Endpoint)
    (datagram : Bytes) : Async Association := do
  let answer ← answerFor association datagram
  let (forwarding, after) := association.receive (fun _ => answer) source datagram
  match forwarding with
  | .dropped => return after
  | .outward destination _ payload =>
    match ← answered (socket.send payload.packed (some destination.toSocket)) with
    | .ok () => return after.sent forwarding
    | .error _ => return after
  | .inward client datagram =>
    let _ ← answered (socket.send datagram.packed (some client.toSocket))
    return after

/-- What an association waits for. -/
inductive Attended where
  | datagram (octets : Bytes) (source : Option Endpoint)
  /-- Whether the client has ended its connection. -/
  | client (ended : Bool)

/-- The most octets of a datagram. -/
def datagramLimit : UInt64 := 65535

/-- Relays datagrams until the client ends its connection. -/
partial def attendTo (connection : Connection) (port : DatagramPort) : Async Unit := do
  let event ← answered <| Selectable.one #[
    .case (port.socket.recvSelector datagramLimit) fun (octets, source) =>
      return Attended.datagram (.unpacked octets) (source.map Endpoint.ofSocket),
    .case (connection.reader.recvSelector 1024) fun octets =>
      return Attended.client octets.isNone,
    .case connection.stop.selector fun _ => throw stopped]
  match event with
  | .ok (.datagram octets (some source)) =>
    let association ← forward port.socket port.association source octets
    attendTo connection { port with association }
  | .ok (.datagram _ none) => attendTo connection port
  | .ok (.client false) => attendTo connection port
  | .ok (.client true) => return
  | .error _ => return

def attend (connection : Connection) : Async Unit := do
  if let some port ← connection.datagrams.get then
    attendTo connection port
    connection.datagrams.set none

end Connection

end SocksGateway
