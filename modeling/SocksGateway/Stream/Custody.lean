import SocksGateway.Stream.Channel

/-!
Custody: a link and the channels through which it has passed, one of them in use.
-/

set_option autoImplicit false

namespace SocksGateway

structure Custody where
  /-- In the order in which they came to be. -/
  channels : List Channel
  current : Nat
  link : Link
deriving Repr, Inhabited

namespace Custody

/-- One channel over a link. -/
def ofWire (wire : Wire) : Custody :=
  { channels := [wire.channel], current := 0, link := wire.link }

/-- The channel in use with the link. -/
def wire? (custody : Custody) : Option Wire :=
  custody.channels[custody.current]?.map ({ channel := ·, link := custody.link })

/-- The custody after the channel in use and the link have become those of `wire`. -/
def put (custody : Custody) (wire : Wire) : Custody :=
  { custody with channels := custody.channels.set custody.current wire.channel, link := wire.link }

/-- Takes one of the channels in use. -/
def select (position : Nat) (custody : Custody) : Custody := { custody with current := position }

/-- Moves the link of the channel in use to a new channel and takes that in use. -/
def take (custody : Custody) : Custody :=
  match custody.channels[custody.current]? with
  | none => custody
  | some channel =>
    { custody with
      channels := custody.channels.set custody.current channel.emptied ++ [channel]
      current := custody.channels.length }

end Custody

/-- What happens to the channel in use, or at the far end of the link. -/
inductive CustodyEvent where
  | unread (octets : Bytes)
  | read (limit : Nat)
  | write (octets : Bytes)
  | flush
  | shutdown
  | close
  | take
  | select (position : Nat)
  | far (act : FarAct)
deriving DecidableEq, Repr, Inhabited

inductive CustodyAnswer where
  | done
  | read (answer : Poll (Except IoError Bytes))
  | written (answer : Poll (Except IoError Nat))
  | flushed (answer : Except IoError Unit)
  | far (answer : FarAnswer)
deriving Repr, Inhabited

namespace Custody

/-- Does something with the channel in use and the link, if there is one in use. -/
def onWire (custody : Custody) (act : Wire → CustodyAnswer × Wire) : CustodyAnswer × Custody :=
  match custody.wire? with
  | none => (.done, custody)
  | some wire =>
    let (answer, wire) := act wire
    (answer, custody.put wire)

def react (event : CustodyEvent) (custody : Custody) : CustodyAnswer × Custody :=
  match event with
  | .unread octets => custody.onWire fun wire => (.done, wire.unread octets)
  | .read limit => custody.onWire fun wire =>
    let (answer, wire) := wire.read limit
    (.read answer, wire)
  | .write octets => custody.onWire fun wire =>
    let (answer, wire) := wire.write octets
    (.written answer, wire)
  | .flush => custody.onWire fun wire => (.flushed wire.flush, wire)
  | .shutdown => custody.onWire fun wire => (.done, wire.shutdown)
  | .close => custody.onWire fun wire => (.done, wire.close)
  | .take => (.done, custody.take)
  | .select position => (.done, custody.select position)
  | .far act => custody.onWire fun wire =>
    let (answer, link) := wire.link.far act
    (.far answer, { wire with link })

/-- The answers to events one after another, and what they leave. -/
def run : List CustodyEvent → Custody → List CustodyAnswer × Custody
  | [], custody => ([], custody)
  | event :: events, custody =>
    let (answer, custody) := custody.react event
    let (answers, custody) := run events custody
    (answer :: answers, custody)

end Custody

end SocksGateway
