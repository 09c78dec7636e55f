import SocksGateway.Address.Ip

/-!
Pairing of split connections: a client opens one connection that the gateway reads from and one that
it writes to. The first to come waits for the other, one for each address and direction, and no
longer than a window.
-/

set_option autoImplicit false

namespace SocksGateway

/-- What the gateway does with a connection: read from it, or write to it. -/
inductive Direction where
  | read
  | write
deriving DecidableEq, Repr, Inhabited

def Direction.other : Direction → Direction
  | read => write
  | write => read

/-- A connection that waits for its partner. -/
structure Half where
  label : String
  /-- The client's address, in canonical form. -/
  ip : Ip
  direction : Direction
  /-- When it came, in milliseconds. -/
  since : Nat
deriving DecidableEq, Repr, Inhabited

/-- Whether the half waits at this address for the given direction. -/
def Half.isAt (ip : Ip) (direction : Direction) (half : Half) : Bool :=
  half.ip == ip && half.direction == direction

/-- Two connections of one client. -/
structure Paired where
  reader : Half
  writer : Half
deriving DecidableEq, Repr, Inhabited

structure Pairing where
  /-- In milliseconds. -/
  window : Nat
  /-- The time, in milliseconds. -/
  clock : Nat := 0
  waiting : List Half := []
deriving Repr, Inhabited

namespace Pairing

/-- How long a half waits for its partner at a listener, in milliseconds. -/
def standardWindow : Nat := 5000

/-- How often a listener closes halves that waited too long, in milliseconds. -/
def standardInterval : Nat := 10000

def isExpired (pairing : Pairing) (half : Half) : Bool :=
  pairing.window < pairing.clock - half.since

structure Outcome where
  /-- The pair that an offer has made; without one, the offered connection waits. -/
  paired : Option Paired := none
  /-- The halves that were closed. -/
  closed : List Half := []
deriving Repr, Inhabited

/-- Pairs a new connection with its partner if that came within the window. Otherwise the new one
waits, and halves that waited at its address are closed. -/
def offer (label : String) (direction : Direction) (ip : Ip) (pairing : Pairing) :
    Outcome × Pairing :=
  let half : Half := { label, ip := ip.canonical, direction, since := pairing.clock }
  let others := pairing.waiting.filter fun each => !Half.isAt half.ip direction.other each
  match pairing.waiting.find? (Half.isAt half.ip direction.other) with
  | some partner =>
    if pairing.isExpired partner then
      ({ closed := partner :: others.filter (Half.isAt half.ip direction) },
        { pairing with
          waiting := others.filter (fun each => !Half.isAt half.ip direction each) ++ [half] })
    else
      let pair : Paired := match direction with
        | .read => { reader := half, writer := partner }
        | .write => { reader := partner, writer := half }
      ({ paired := some pair }, { pairing with waiting := others })
  | none =>
    ({ closed := pairing.waiting.filter (Half.isAt half.ip direction) },
      { pairing with
        waiting := others.filter (fun each => !Half.isAt half.ip direction each) ++ [half] })

/-- Closes the halves that waited longer than the window. -/
def sweep (pairing : Pairing) : List Half × Pairing :=
  (pairing.waiting.filter pairing.isExpired,
    { pairing with waiting := pairing.waiting.filter fun half => !pairing.isExpired half })

/-- The number of halves that wait to be read from and to be written to. -/
def pending (pairing : Pairing) : Nat × Nat :=
  (pairing.waiting.countP (·.direction == .read), pairing.waiting.countP (·.direction == .write))

end Pairing

/-- Sweeps at every `interval` after its start. -/
structure Sweeper where
  /-- In milliseconds, not zero. -/
  interval : Nat
  /-- When the next sweep is due, in milliseconds. -/
  due : Nat
deriving DecidableEq, Repr, Inhabited

/-- The sweeper after all sweeps that are due at `clock` are done. -/
def Sweeper.caughtUp (clock : Nat) (sweeper : Sweeper) : Sweeper :=
  if clock < sweeper.due then sweeper
  else
    let missed := (clock - sweeper.due) / sweeper.interval + 1
    { sweeper with due := sweeper.due + missed * sweeper.interval }

/-- A pairing with the sweepers at work on it. -/
structure SweptPairing where
  pairing : Pairing
  sweepers : List Sweeper := []
  isStopped : Bool := false
deriving Repr, Inhabited

namespace SweptPairing

/-- Starts a sweeper; its first sweep is due after one interval. -/
def start (interval : Nat) (swept : SweptPairing) : SweptPairing :=
  if swept.isStopped then swept
  else
    let sweeper : Sweeper := { interval, due := swept.pairing.clock + interval }
    { swept with sweepers := swept.sweepers ++ [sweeper] }

def stop (swept : SweptPairing) : SweptPairing := { swept with sweepers := [], isStopped := true }

/-- The time passes, all at once. Sweeps that have become due are done at the new time; more than
one at that time closes nothing more than one does. -/
def elapse (milliseconds : Nat) (swept : SweptPairing) : List Half × SweptPairing :=
  let pairing := { swept.pairing with clock := swept.pairing.clock + milliseconds }
  let sweepers := swept.sweepers.map (Sweeper.caughtUp pairing.clock)
  if swept.sweepers.any (·.due ≤ pairing.clock) then
    let (closed, pairing) := pairing.sweep
    (closed, { swept with pairing, sweepers })
  else ([], { swept with pairing, sweepers })

end SweptPairing

inductive PairingEvent where
  | offer (label : String) (direction : Direction) (ip : Ip)
  | elapse (milliseconds : Nat)
  | sweep
  /-- Starts a sweeper. -/
  | start (interval : Nat)
  /-- Stops all sweepers, also those that are to be started later. -/
  | stop
deriving DecidableEq, Repr, Inhabited

namespace SweptPairing

def react (event : PairingEvent) (swept : SweptPairing) : Pairing.Outcome × SweptPairing :=
  match event with
  | .offer label direction ip =>
    let (outcome, pairing) := swept.pairing.offer label direction ip
    (outcome, { swept with pairing })
  | .elapse milliseconds =>
    let (closed, swept) := swept.elapse milliseconds
    ({ closed }, swept)
  | .sweep =>
    let (closed, pairing) := swept.pairing.sweep
    ({ closed }, { swept with pairing })
  | .start interval => ({}, swept.start interval)
  | .stop => ({}, swept.stop)

/-- What events lead to one after another, and what they leave. -/
def run : List PairingEvent → SweptPairing → List Pairing.Outcome × SweptPairing
  | [], swept => ([], swept)
  | event :: events, swept =>
    let (outcome, swept) := swept.react event
    let (outcomes, swept) := run events swept
    (outcome :: outcomes, swept)

end SweptPairing

end SocksGateway
