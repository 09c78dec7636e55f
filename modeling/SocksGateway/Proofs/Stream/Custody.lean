import SocksGateway.Proofs.Stream.Far
import SocksGateway.Stream.Custody

/-!
Whoever holds a link, and what there is to read of it. Of all the channels through which a link passes
one at most has it at a time, and this one reads from a single queue: what was put back, and then what
the far end has sent. A channel that has lost its link is a closed one for ever.
-/

set_option autoImplicit false

namespace SocksGateway

/-- Whether an event concerns only the channel in use and, if it has it, the link. -/
def CustodyEvent.isOfChannel : CustodyEvent → Bool
  | .take => false
  | .select _ => false
  | .far _ => false
  | _ => true

/-- A link as its holders see it. -/
structure Holding where
  /-- The channel that has the link, if one has it. -/
  owner : Option Nat
  /-- The channel in use. -/
  current : Nat
  /-- How many channels there are. -/
  count : Nat
  /-- What the owner has still to read. -/
  input : Bytes
deriving DecidableEq, Repr

namespace Holding

/-- One channel has a link with these octets to be read. -/
def start (input : Bytes) : Holding := { owner := some 0, current := 0, count := 1, input }

/-- The channel in use has the link. -/
def Has (holding : Holding) : Prop := holding.owner = some holding.current

/-- The channel in use has no link. -/
def Lacks (holding : Holding) : Prop :=
  holding.current < holding.count ∧ holding.owner ≠ some holding.current

/-- What an event comes to, and what it makes of the holding. -/
inductive Step (holding : Holding) : CustodyEvent → CustodyAnswer → Holding → Prop where
  | unread {octets : Bytes} (has : holding.Has) :
      Step holding (.unread octets) .done { holding with input := octets ++ holding.input }
  | read {limit : Nat} {octets rest : Bytes} (has : holding.Has) (present : octets ≠ [])
      (short : octets.length ≤ limit) (front : holding.input = octets ++ rest) :
      Step holding (.read limit) (.read (.ready (.ok octets))) { holding with input := rest }
  /-- Only where there is nothing to read, or nothing is asked for, a read waits or finds the end. -/
  | readNothing {limit : Nat} {answer : Poll (Except IoError Bytes)} (has : holding.Has)
      (nothing : limit = 0 ∨ holding.input = [])
      (answered : answer = .pending ∨ answer = .ready (.ok [])) :
      Step holding (.read limit) (.read answer) holding
  | write {octets : Bytes} {answer : Poll (Except IoError Nat)} (has : holding.Has)
      (possible : answer ≠ .ready (.error .notConnected)) :
      Step holding (.write octets) (.written answer) holding
  | flush (has : holding.Has) : Step holding .flush (.flushed (.ok ())) holding
  | shutdown (has : holding.Has) : Step holding .shutdown .done holding
  | close (has : holding.Has) :
      Step holding .close .done { holding with owner := none, input := [] }
  | take (has : holding.Has) :
      Step holding .take .done
        { holding with
          owner := some holding.count, current := holding.count, count := holding.count + 1 }
  | unreadLost {octets : Bytes} (lacks : holding.Lacks) :
      Step holding (.unread octets) .done holding
  | readLost {limit : Nat} (lacks : holding.Lacks) :
      Step holding (.read limit) (.read (.ready (.error .notConnected))) holding
  | writeLost {octets : Bytes} (lacks : holding.Lacks) :
      Step holding (.write octets) (.written (.ready (.error .notConnected))) holding
  | flushLost (lacks : holding.Lacks) :
      Step holding .flush (.flushed (.error .notConnected)) holding
  | shutdownLost (lacks : holding.Lacks) : Step holding .shutdown .done holding
  | closeLost (lacks : holding.Lacks) : Step holding .close .done holding
  | takeLost (lacks : holding.Lacks) :
      Step holding .take .done
        { holding with current := holding.count, count := holding.count + 1 }
  | select {position : Nat} :
      Step holding (.select position) .done { holding with current := position }
  /-- What the far end sends is for the owner; nothing else that it does concerns the input. -/
  | far {act : FarAct} {answer : FarAnswer}
      (released : holding.owner = none → Relay.sent act answer = []) :
      Step holding (.far act) (.far answer)
        { holding with input := holding.input ++ Relay.sent act answer }
  /-- No channel is in use. -/
  | nowhere {event : CustodyEvent} (beyond : holding.count ≤ holding.current)
      (stays : ∀ position, event ≠ .select position) : Step holding event .done holding

/-- Steps one after another, with what each comes to. -/
inductive Steps : Holding → List CustodyEvent → List CustodyAnswer → Holding → Prop where
  | here (holding : Holding) : Steps holding [] [] holding
  | step {holding next last : Holding} {event : CustodyEvent} {answer : CustodyAnswer}
      {events : List CustodyEvent} {answers : List CustodyAnswer}
      (first : holding.Step event answer next) (others : next.Steps events answers last) :
      Steps holding (event :: events) (answer :: answers) last

end Holding

namespace Custody

variable {custody : Custody} {holding : Holding} {remote : Endpoint} {own : Option Endpoint}
  {wire : Wire}

/-- The channels and the link are those of a holding: the owner has the link, and all others are closed
and hold nothing. All have the endpoints of the link. -/
structure Shows (remote : Endpoint) (own : Option Endpoint) (holding : Holding)
    (custody : Custody) : Prop where
  current : custody.current = holding.current
  count : custody.channels.length = holding.count
  sole : ∀ (position : Nat) (channel : Channel), custody.channels[position]? = some channel →
    (channel.isOpen = true ↔ holding.owner = some position)
  emptied : ∀ channel ∈ custody.channels, channel.isOpen = false → channel.returned = []
  remote : ∀ channel ∈ custody.channels, channel.remote = remote
  own : ∀ channel ∈ custody.channels, channel.own = own
  held : ∀ owner, holding.owner = some owner → ∃ channel, custody.channels[owner]? = some channel ∧
    holding.input = channel.returned ++ custody.link.inbound.held
  released : holding.owner = none → holding.input = [] ∧ custody.link.inbound.closed = true

/-- Every channel is there still, and one that was closed is as it was. -/
def Persists (custody after : Custody) : Prop :=
  ∀ (position : Nat) (channel : Channel), custody.channels[position]? = some channel →
    ∃ later, after.channels[position]? = some later ∧ (channel.isOpen = false → later = channel)

theorem Persists.refl (custody : Custody) : custody.Persists custody :=
  fun _ channel found => ⟨channel, found, fun _ => rfl⟩

theorem Persists.trans {after later : Custody} (first : custody.Persists after)
    (second : after.Persists later) : custody.Persists later := by
  intro position channel found
  obtain ⟨next, there, kept⟩ := first position channel found
  obtain ⟨last, still, same⟩ := second position next there
  refine ⟨last, still, fun closed => ?_⟩
  rw [kept closed] at same
  exact same closed

theorem wire?_eq_some (inUse : custody.wire? = some wire) :
    custody.channels[custody.current]? = some wire.channel ∧ custody.link = wire.link := by
  obtain ⟨channel, found, rfl⟩ := Option.map_eq_some_iff.mp inUse
  exact ⟨found, rfl⟩

/-- To put back the channel in use changes nothing but the link. -/
theorem put_same (inUse : custody.wire? = some wire) (link : Link) :
    custody.put { wire with link } = { custody with link } := by
  obtain ⟨found, -⟩ := wire?_eq_some inUse
  obtain ⟨inside, same⟩ := List.getElem?_eq_some_iff.mp found
  simp only [put, ← same, List.set_getElem_self]

theorem put_self (inUse : custody.wire? = some wire) : custody.put wire = custody := by
  obtain ⟨-, same⟩ := wire?_eq_some inUse
  refine (put_same inUse wire.link).trans ?_
  rw [← same]

theorem getElem?_put (inUse : custody.wire? = some wire) (after : Wire) (position : Nat) :
    (custody.put after).channels[position]? =
      if custody.current = position then some after.channel else custody.channels[position]? := by
  obtain ⟨inside, -⟩ := List.getElem?_eq_some_iff.mp (wire?_eq_some inUse).1
  simp only [put, List.getElem?_set, inside, ↓reduceIte]

theorem mem_put {after : Wire} {channel : Channel}
    (member : channel ∈ (custody.put after).channels) :
    channel = after.channel ∨ channel ∈ custody.channels :=
  (List.mem_or_eq_of_mem_set member).symm

theorem take_of_some (inUse : custody.wire? = some wire) :
    custody.take =
      { custody with
        channels := custody.channels.set custody.current wire.channel.emptied ++ [wire.channel]
        current := custody.channels.length } := by
  rw [Custody.take, (wire?_eq_some inUse).1]

theorem getElem?_take (inUse : custody.wire? = some wire) (position : Nat) :
    custody.take.channels[position]? =
      if position = custody.channels.length then some wire.channel
      else if custody.current = position then some wire.channel.emptied
      else custody.channels[position]? := by
  obtain ⟨inside, -⟩ := List.getElem?_eq_some_iff.mp (wire?_eq_some inUse).1
  simp only [take_of_some inUse, List.getElem?_append, List.length_set, List.getElem?_set, inside,
    ↓reduceIte]
  split
  · rename_i below
    rw [if_neg (Nat.ne_of_lt below)]
  · rename_i beyond
    split
    · rename_i last
      rw [last, Nat.sub_self, List.getElem?_cons_zero]
    · rename_i other
      rw [if_neg (by omega), List.getElem?_eq_none (by simp only [List.length_singleton]; omega),
        List.getElem?_eq_none (by omega)]

theorem mem_take {channel : Channel} (inUse : custody.wire? = some wire)
    (member : channel ∈ custody.take.channels) :
    channel = wire.channel.emptied ∨ channel ∈ custody.channels := by
  rw [take_of_some inUse] at member
  rcases List.mem_append.mp member with earlier | last
  · exact (List.mem_or_eq_of_mem_set earlier).symm
  · rw [List.mem_singleton.mp last]
    exact .inr (List.mem_of_getElem? (wire?_eq_some inUse).1)

/-- While it had the link, a channel may change in any way. -/
theorem persists_put (inUse : custody.wire? = some wire) (isOpen : wire.channel.isOpen = true)
    (after : Wire) : custody.Persists (custody.put after) := by
  intro position channel found
  rw [getElem?_put inUse]
  split
  · rename_i same
    refine ⟨_, rfl, fun closed => ?_⟩
    rw [← same, (wire?_eq_some inUse).1, Option.some.injEq] at found
    rw [← found, isOpen] at closed
    cases closed
  · exact ⟨channel, found, fun _ => rfl⟩

theorem onWire_of_some {act : Wire → CustodyAnswer × Wire} (inUse : custody.wire? = some wire) :
    custody.onWire act = ((act wire).1, custody.put (act wire).2) := by
  simp only [onWire, inUse]

namespace Shows

theorem start (remote : Endpoint) (own : Option Endpoint) (link : Link) :
    Shows remote own (.start link.inbound.held)
      (ofWire { channel := { remote, own }, link }) where
  current := rfl
  count := rfl
  sole := by
    intro position channel found
    cases position with
    | zero =>
      cases found
      exact ⟨fun _ => rfl, fun _ => rfl⟩
    | succ position => cases found
  emptied := by
    intro channel member closed
    cases List.mem_singleton.mp member
    cases closed
  remote := by
    intro channel member
    cases List.mem_singleton.mp member
    rfl
  own := by
    intro channel member
    cases List.mem_singleton.mp member
    rfl
  held := by
    intro owner same
    cases same
    exact ⟨_, rfl, rfl⟩
  released := nofun

theorem inside (presents : Shows remote own holding custody) (inUse : custody.wire? = some wire) :
    holding.current < holding.count := by
  obtain ⟨inside, -⟩ := List.getElem?_eq_some_iff.mp (wire?_eq_some inUse).1
  rwa [presents.current, presents.count] at inside

theorem has_iff (presents : Shows remote own holding custody) (inUse : custody.wire? = some wire) :
    wire.channel.isOpen = true ↔ holding.Has := by
  rw [presents.sole _ _ (wire?_eq_some inUse).1, presents.current, Holding.Has]

theorem has (presents : Shows remote own holding custody) (inUse : custody.wire? = some wire)
    (isOpen : wire.channel.isOpen = true) : holding.Has := (presents.has_iff inUse).mp isOpen

theorem lacks (presents : Shows remote own holding custody) (inUse : custody.wire? = some wire)
    (closed : wire.channel.isOpen = false) : holding.Lacks := by
  refine ⟨presents.inside inUse, fun has => ?_⟩
  rw [(presents.has_iff inUse).mpr has] at closed
  cases closed

theorem mem_of_inUse (inUse : custody.wire? = some wire) : wire.channel ∈ custody.channels :=
  List.mem_of_getElem? (wire?_eq_some inUse).1

/-- The owner reads what is the input of its wire. -/
theorem input (presents : Shows remote own holding custody) (inUse : custody.wire? = some wire)
    (isOpen : wire.channel.isOpen = true) : holding.input = wire.input := by
  obtain ⟨found, same⟩ := wire?_eq_some inUse
  obtain ⟨channel, there, input⟩ := presents.held _ (presents.has inUse isOpen)
  rw [← presents.current, found, Option.some.injEq] at there
  rw [input, ← there, same, Wire.input]

/-- The owner does something with the link, and keeps it or gives it up. -/
theorem put (presents : Shows remote own holding custody) (inUse : custody.wire? = some wire)
    (isOpen : wire.channel.isOpen = true) {after : Wire}
    (sameRemote : after.channel.remote = wire.channel.remote)
    (sameOwn : after.channel.own = wire.channel.own)
    (released : after.channel.isOpen = false →
      after.channel.returned = [] ∧ after.link.inbound.closed = true) :
    Shows remote own
      { holding with
        owner := if after.channel.isOpen then holding.owner else none
        input := if after.channel.isOpen then after.input else [] } (custody.put after) := by
  have has : holding.owner = some custody.current := presents.current ▸ presents.has inUse isOpen
  refine
    { current := presents.current
      count := ?count
      sole := ?sole
      emptied := ?emptied
      remote := ?remote
      own := ?own
      held := ?held
      released := ?released }
  case count => simpa only [Custody.put, List.length_set] using presents.count
  case sole =>
    intro position channel found
    rw [getElem?_put inUse] at found
    split at found
    · rename_i same
      cases found
      cases kept : after.channel.isOpen with
      | true => simp only [↓reduceIte, has, same]
      | false => simp only [Bool.false_eq_true, ↓reduceIte, reduceCtorEq]
    · rename_i other
      rw [presents.sole position channel found, has]
      cases after.channel.isOpen with
      | true => exact Iff.rfl
      | false => simp only [Option.some.injEq, other, Bool.false_eq_true, ↓reduceIte, reduceCtorEq]
  case emptied =>
    intro channel member closed
    rcases mem_put member with rfl | member
    · exact (released closed).1
    · exact presents.emptied channel member closed
  case remote =>
    intro channel member
    rcases mem_put member with rfl | member
    · exact sameRemote.trans (presents.remote _ (mem_of_inUse inUse))
    · exact presents.remote channel member
  case own =>
    intro channel member
    rcases mem_put member with rfl | member
    · exact sameOwn.trans (presents.own _ (mem_of_inUse inUse))
    · exact presents.own channel member
  case held =>
    intro owner owns
    dsimp only at owns ⊢
    split at owns
    · rename_i kept
      obtain rfl : custody.current = owner := Option.some.inj (has.symm.trans owns)
      refine ⟨after.channel, by rw [getElem?_put inUse, if_pos rfl], ?_⟩
      rw [if_pos kept]
      rfl
    · cases owns
  case released =>
    intro none
    dsimp only at none ⊢
    split at none
    · rw [has] at none
      cases none
    · rename_i lost
      rw [if_neg lost]
      exact ⟨rfl, (released (Bool.eq_false_iff.mpr lost)).2⟩

theorem owner_lt (presents : Shows remote own holding custody) {owner : Nat}
    (owns : holding.owner = some owner) : owner < custody.channels.length := by
  obtain ⟨channel, found, -⟩ := presents.held owner owns
  exact (List.getElem?_eq_some_iff.mp found).1

/-- The link, if the channel in use has it, moves to a new channel with all of its input. -/
theorem take (presents : Shows remote own holding custody) (inUse : custody.wire? = some wire) :
    Shows remote own
      { holding with
        owner := if wire.channel.isOpen then some holding.count else holding.owner
        current := holding.count
        count := holding.count + 1 } custody.take := by
  have current := presents.sole _ _ (wire?_eq_some inUse).1
  have link : custody.take.link = custody.link := by rw [take_of_some inUse]
  refine
    { current := ?current
      count := ?count
      sole := ?sole
      emptied := ?emptied
      remote := ?remote
      own := ?own
      held := ?held
      released := ?released }
  case current => rw [take_of_some inUse, presents.count]
  case count =>
    rw [take_of_some inUse, ← presents.count, List.length_append, List.length_set,
      List.length_singleton]
  case sole =>
    intro position channel found
    rw [getElem?_take inUse, presents.count] at found
    split at found
    · rename_i last
      cases found
      split
      · rename_i isOpen
        simp only [isOpen, last]
      · rename_i closed
        refine iff_of_false closed fun owns => ?_
        have below := presents.owner_lt owns
        rw [presents.count] at below
        omega
    · rename_i earlier
      have other : some holding.count ≠ some position := fun same =>
        earlier (Option.some.inj same).symm
      split at found
      · rename_i same
        cases found
        refine iff_of_false nofun ?_
        split
        · exact other
        · rename_i closed
          rw [← same]
          exact mt current.mpr closed
      · rename_i elsewhere
        rw [presents.sole position channel found]
        split
        · rename_i isOpen
          rw [current.mp isOpen]
          exact iff_of_false (fun same => elsewhere (Option.some.inj same)) other
        · exact Iff.rfl
  case emptied =>
    intro channel member closed
    rcases mem_take inUse member with rfl | member
    · rfl
    · exact presents.emptied channel member closed
  case remote =>
    intro channel member
    rcases mem_take inUse member with rfl | member
    · exact presents.remote wire.channel (mem_of_inUse inUse)
    · exact presents.remote channel member
  case own =>
    intro channel member
    rcases mem_take inUse member with rfl | member
    · exact presents.own wire.channel (mem_of_inUse inUse)
    · exact presents.own channel member
  case held =>
    intro owner owns
    rw [getElem?_take inUse, link]
    dsimp only at owns
    split at owns
    · rename_i isOpen
      obtain rfl := Option.some.inj owns
      rw [if_pos presents.count.symm]
      refine ⟨wire.channel, rfl, ?_⟩
      rw [presents.input inUse isOpen, (wire?_eq_some inUse).2, Wire.input]
    · rename_i closed
      have below := presents.owner_lt owns
      have elsewhere : custody.current ≠ owner := by
        rintro rfl
        exact closed (current.mpr owns)
      rw [if_neg (Nat.ne_of_lt below), if_neg elsewhere]
      exact presents.held owner owns
  case released =>
    intro none
    rw [link]
    dsimp only at none
    split at none
    · cases none
    · exact presents.released none

/-- What the far end does, whichever channel is in use. -/
theorem far (presents : Shows remote own holding custody) (act : FarAct) :
    (holding.owner = none → Relay.sent act (custody.link.far act).1 = []) ∧
      Shows remote own
        { holding with input := holding.input ++ Relay.sent act (custody.link.far act).1 }
        { custody with link := (custody.link.far act).2 } := by
  have silent (none : holding.owner = none) : Relay.sent act (custody.link.far act).1 = [] :=
    Relay.sent_of_closed act (presents.released none).2
  refine ⟨silent, { presents with held := ?_, released := ?_ }⟩
  · intro owner owns
    obtain ⟨channel, found, input⟩ := presents.held owner owns
    refine ⟨channel, found, ?_⟩
    rw [input, Relay.inbound_far, List.append_assoc]
  · intro none
    obtain ⟨empty, closed⟩ := presents.released none
    rw [silent none, empty]
    exact ⟨rfl, Relay.inbound_stays_closed act closed⟩

theorem persists_take (presents : Shows remote own holding custody)
    (inUse : custody.wire? = some wire) : custody.Persists custody.take := by
  intro position channel found
  have below := (List.getElem?_eq_some_iff.mp found).1
  rw [getElem?_take inUse, if_neg (Nat.ne_of_lt below)]
  split
  · rename_i same
    rw [← same, (wire?_eq_some inUse).1, Option.some.injEq] at found
    refine ⟨_, rfl, fun closed => ?_⟩
    have nothing := presents.emptied _ (List.mem_of_getElem? (wire?_eq_some inUse).1)
    rw [found] at nothing ⊢
    simp only [Channel.emptied, ← closed, ← nothing closed]
  · exact ⟨channel, found, fun _ => rfl⟩

/-- An event has come to this in a step of the holding, and the channels show what it led to. -/
def Follows (remote : Endpoint) (own : Option Endpoint) (holding : Holding) (custody : Custody)
    (event : CustodyEvent) (outcome : CustodyAnswer × Custody) : Prop :=
  ∃ next, holding.Step event outcome.1 next ∧ Shows remote own next outcome.2 ∧
    custody.Persists outcome.2

theorem follows_far (presents : Shows remote own holding custody)
    (inUse : custody.wire? = some wire) (act : FarAct) :
    Follows remote own holding custody (.far act) (custody.react (.far act)) := by
  obtain ⟨silent, after⟩ := presents.far act
  rw [react, onWire_of_some inUse]
  dsimp only
  rw [← (wire?_eq_some inUse).2, put_same inUse]
  exact ⟨_, .far silent, after, .refl _⟩

/-- An event for which the owner keeps the link. -/
theorem follows_put (presents : Shows remote own holding custody)
    (inUse : custody.wire? = some wire) (isOpen : wire.channel.isOpen = true)
    {event : CustodyEvent} {answer : CustodyAnswer} {after : Wire}
    (kept : after.channel.isOpen = true) (sameRemote : after.channel.remote = wire.channel.remote)
    (sameOwn : after.channel.own = wire.channel.own)
    (step : holding.Step event answer { holding with input := after.input }) :
    Follows remote own holding custody event (answer, custody.put after) := by
  have next := presents.put inUse isOpen sameRemote sameOwn fun closed => by
    rw [kept] at closed
    cases closed
  simp only [kept, ↓reduceIte] at next
  exact ⟨_, step, next, persists_put inUse isOpen after⟩

theorem follows_read (presents : Shows remote own holding custody)
    (inUse : custody.wire? = some wire) (isOpen : wire.channel.isOpen = true) (limit : Nat) :
    Follows remote own holding custody (.read limit) (custody.react (.read limit)) := by
  have has := presents.has inUse isOpen
  have input := presents.input inUse isOpen
  rw [react, onWire_of_some inUse]
  obtain ⟨sameRemote, sameOwn⟩ := wire.ends_read limit
  have nothing {answer : Poll (Except IoError Bytes)} (none : limit = 0 ∨ wire.input = [])
      (answered : answer = .pending ∨ answer = .ready (.ok [])) :
      holding.Step (.read limit) (.read answer) { holding with input := wire.input } :=
    input ▸ .readNothing has (input ▸ none) answered
  cases given : wire.read limit with
  | mk answer rest =>
    rw [given] at sameRemote sameOwn
    cases answer with
    | pending =>
      obtain ⟨empty, rfl⟩ := Wire.read_pending given
      exact presents.follows_put inUse isOpen isOpen rfl rfl (nothing (.inr empty) (.inl rfl))
    | ready result =>
      cases result with
      | error error =>
        rw [Wire.read_error given] at isOpen
        cases isOpen
      | ok octets =>
        obtain ⟨whole, -, sameOpen, -⟩ := Wire.read_octets given
        have kept := sameOpen.trans isOpen
        cases octets with
        | nil =>
          refine presents.follows_put inUse isOpen kept sameRemote sameOwn ?_
          have same : rest.input = wire.input := whole
          rw [same]
          rcases Nat.eq_zero_or_pos limit with zero | positive
          · exact nothing (.inl zero) (.inr rfl)
          · exact nothing (.inr (Wire.read_end positive given).1) (.inr rfl)
        | cons first others =>
          refine presents.follows_put inUse isOpen kept sameRemote sameOwn ?_
          exact .read has (List.cons_ne_nil _ _) (Wire.length_read_le given) (input.trans whole.symm)

theorem follows_write (presents : Shows remote own holding custody)
    (inUse : custody.wire? = some wire) (isOpen : wire.channel.isOpen = true) (octets : Bytes) :
    Follows remote own holding custody (.write octets) (custody.react (.write octets)) := by
  have written : wire.write octets = ((wire.link.outbound.write octets).1,
      { wire with link := { wire.link with outbound := (wire.link.outbound.write octets).2 } }) :=
    if_pos isOpen
  have possible : (wire.link.outbound.write octets).1 ≠ .ready (.error .notConnected) := by
    unfold Pipe.write
    split
    · nofun
    · split <;> nofun
  rw [react, onWire_of_some inUse]
  dsimp only
  rw [written]
  refine presents.follows_put inUse isOpen isOpen rfl rfl ?_
  exact presents.input inUse isOpen ▸ .write (presents.has inUse isOpen) possible

theorem follows_close (presents : Shows remote own holding custody)
    (inUse : custody.wire? = some wire) (isOpen : wire.channel.isOpen = true) :
    Follows remote own holding custody .close (custody.react .close) := by
  have closed : wire.close =
      { channel := { wire.channel with isOpen := false, returned := [] }, link := wire.link.abandon } :=
    if_pos isOpen
  have isClosed : wire.close.channel.isOpen = false := by rw [closed]
  have sameRemote : wire.close.channel.remote = wire.channel.remote := by rw [closed]
  have sameOwn : wire.close.channel.own = wire.channel.own := by rw [closed]
  have released : wire.close.channel.returned = [] ∧ wire.close.link.inbound.closed = true := by
    rw [closed]
    exact ⟨rfl, rfl⟩
  have next := presents.put inUse isOpen sameRemote sameOwn fun _ => released
  rw [isClosed] at next
  rw [react, onWire_of_some inUse]
  exact ⟨_, .close (presents.has inUse isOpen), next, persists_put inUse isOpen wire.close⟩

/-- What comes of an event where the channel in use has the link. -/
theorem follows_of_isOpen (presents : Shows remote own holding custody)
    (inUse : custody.wire? = some wire) (isOpen : wire.channel.isOpen = true)
    (event : CustodyEvent) :
    Follows remote own holding custody event (custody.react event) := by
  have has := presents.has inUse isOpen
  have input := presents.input inUse isOpen
  cases event with
  | unread octets =>
    have unread : wire.unread octets =
        { wire with channel :=
            { wire.channel with returned := octets ++ wire.channel.returned } } := if_pos isOpen
    rw [react, onWire_of_some inUse, unread]
    refine presents.follows_put inUse isOpen isOpen rfl rfl ?_
    rw [Wire.input, List.append_assoc, ← Wire.input, ← input]
    exact .unread has
  | read limit => exact presents.follows_read inUse isOpen limit
  | write octets => exact presents.follows_write inUse isOpen octets
  | flush =>
    have flushed : wire.flush = .ok () := if_pos isOpen
    rw [react, onWire_of_some inUse, flushed]
    exact presents.follows_put inUse isOpen isOpen rfl rfl (input ▸ .flush has)
  | shutdown =>
    have shut : wire.shutdown = { wire with link := wire.link.shutdown } := if_pos isOpen
    rw [react, onWire_of_some inUse, shut]
    exact presents.follows_put inUse isOpen isOpen rfl rfl (input ▸ .shutdown has)
  | close => exact presents.follows_close inUse isOpen
  | take =>
    have moved := presents.take inUse
    rw [if_pos isOpen] at moved
    exact ⟨_, .take has, moved, presents.persists_take inUse⟩
  | select position => exact ⟨_, .select, { presents with current := rfl }, .refl _⟩
  | far act => exact presents.follows_far inUse act

/-- Without its link the channel in use fails, and changes nothing. -/
theorem react_of_closed (presents : Shows remote own holding custody)
    (inUse : custody.wire? = some wire) (closed : wire.channel.isOpen = false)
    {event : CustodyEvent} (ofChannel : event.isOfChannel = true) :
    ∃ answer, custody.react event = (answer, custody) ∧ holding.Step event answer holding := by
  have lacks := presents.lacks inUse closed
  have empty := presents.emptied _ (mem_of_inUse inUse) closed
  have lost : ¬ wire.channel.isOpen = true := Bool.eq_false_iff.mp closed
  have same (act : Wire → CustodyAnswer × Wire) {answer : CustodyAnswer}
      (idle : act wire = (answer, wire)) : custody.onWire act = (answer, custody) := by
    rw [onWire_of_some inUse, idle, put_self inUse]
  cases event with
  | unread octets =>
    have unread : wire.unread octets = wire := if_neg lost
    refine ⟨_, ?_, .unreadLost lacks⟩
    rw [react]
    exact same _ (by rw [unread])
  | read limit =>
    have failed : wire.read limit = (.ready (.error .notConnected), wire) := by
      rw [Wire.read, if_neg (not_not_intro empty), if_neg lost]
    refine ⟨_, ?_, .readLost lacks⟩
    rw [react]
    exact same _ (by rw [failed])
  | write octets =>
    have failed : wire.write octets = (.ready (.error .notConnected), wire) := if_neg lost
    refine ⟨_, ?_, .writeLost lacks⟩
    rw [react]
    exact same _ (by rw [failed])
  | flush =>
    have failed : wire.flush = .error .notConnected := if_neg lost
    refine ⟨_, ?_, .flushLost lacks⟩
    rw [react]
    exact same _ (by rw [failed])
  | shutdown =>
    have shut : wire.shutdown = wire := if_neg lost
    refine ⟨_, ?_, .shutdownLost lacks⟩
    rw [react]
    exact same _ (by rw [shut])
  | close =>
    have shut : wire.close = wire := by rw [Wire.close, if_neg lost, ← empty]
    refine ⟨_, ?_, .closeLost lacks⟩
    rw [react]
    exact same _ (by rw [shut])
  | take => cases ofChannel
  | select position => cases ofChannel
  | far act => cases ofChannel

/-- What comes of an event where the channel in use has no link. -/
theorem follows_of_closed (presents : Shows remote own holding custody)
    (inUse : custody.wire? = some wire) (closed : wire.channel.isOpen = false)
    (event : CustodyEvent) :
    Follows remote own holding custody event (custody.react event) := by
  cases ofChannel : event.isOfChannel with
  | true =>
    obtain ⟨answer, same, step⟩ := presents.react_of_closed inUse closed ofChannel
    rw [same]
    exact ⟨holding, step, presents, .refl custody⟩
  | false =>
    cases event with
    | take =>
      have moved := presents.take inUse
      rw [closed] at moved
      exact ⟨_, .takeLost (presents.lacks inUse closed), moved, presents.persists_take inUse⟩
    | select position => exact ⟨_, .select, { presents with current := rfl }, .refl _⟩
    | far act => exact presents.follows_far inUse act
    | _ => cases ofChannel

theorem follows (presents : Shows remote own holding custody) (event : CustodyEvent) :
    Follows remote own holding custody event (custody.react event) := by
  cases inUse : custody.wire? with
  | none =>
    have absent : custody.channels[custody.current]? = none := Option.map_eq_none_iff.mp inUse
    have beyond : holding.count ≤ holding.current := by
      rw [← presents.count, ← presents.current]
      exact List.getElem?_eq_none_iff.mp absent
    have nothing (act : Wire → CustodyAnswer × Wire) : custody.onWire act = (.done, custody) := by
      simp only [onWire, inUse]
    have still (stays : ∀ position, event ≠ .select position) :
        Follows remote own holding custody event (.done, custody) :=
      ⟨holding, .nowhere beyond stays, presents, .refl custody⟩
    cases event with
    | select position => exact ⟨_, .select, { presents with current := rfl }, .refl _⟩
    | take =>
      have same : custody.take = custody := by rw [Custody.take, absent]
      rw [react, same]
      exact still nofun
    | _ =>
      rw [react, nothing]
      exact still nofun
  | some wire =>
    cases isOpen : wire.channel.isOpen with
    | true => exact presents.follows_of_isOpen inUse isOpen event
    | false => exact presents.follows_of_closed inUse isOpen event

/-- Whatever happens one after another is a run of the holding. -/
theorem exists_steps (presents : Shows remote own holding custody) (events : List CustodyEvent) :
    (∃ last, holding.Steps events (run events custody).1 last ∧
      Shows remote own last (run events custody).2) ∧
      custody.Persists (run events custody).2 := by
  induction events generalizing custody holding with
  | nil => exact ⟨⟨holding, .here holding, presents⟩, .refl custody⟩
  | cons event events ih =>
    obtain ⟨next, step, after, persists⟩ := presents.follows event
    obtain ⟨⟨last, steps, shown⟩, onward⟩ := ih after
    exact ⟨⟨last, .step step steps, shown⟩, persists.trans onward⟩

end Shows

/-- Whatever is done with a channel and with those that its link moves to, in whatever order, and
whatever the far end does: the answers are those of a holding, whose owner is the only channel that has
the link, and every channel keeps its endpoints. A channel without the link holds nothing, stays as it
is whatever happens later, and nothing that is done with it has an effect. -/
theorem holds_run (remote : Endpoint) (own : Option Endpoint) (link : Link)
    (events later : List CustodyEvent) :
    let now := run events (ofWire { channel := { remote, own }, link })
    (∃ holding, (Holding.start link.inbound.held).Steps events now.1 holding ∧
      Shows remote own holding now.2) ∧
    (∀ (position : Nat) (channel : Channel), now.2.channels[position]? = some channel →
      channel.remote = remote ∧ channel.own = own ∧
      ∃ after, (run later now.2).2.channels[position]? = some after ∧ after.remote = remote ∧
        after.own = own ∧
        (channel.isOpen = false → channel.returned = [] ∧ after = channel)) ∧
    ∀ (wire : Wire) (event : CustodyEvent), now.2.wire? = some wire → wire.channel.isOpen = false →
      event.isOfChannel = true → (now.2.react event).2 = now.2 := by
  intro now
  obtain ⟨⟨holding, steps, presents⟩, -⟩ := (Shows.start remote own link).exists_steps events
  refine ⟨⟨holding, steps, presents⟩, ?kept, ?inert⟩
  case kept =>
    intro position channel found
    obtain ⟨⟨_, -, shown⟩, persists⟩ := presents.exists_steps later
    have member := List.mem_of_getElem? found
    obtain ⟨after, there, kept⟩ := persists position channel found
    have stays := List.mem_of_getElem? there
    exact ⟨presents.remote _ member, presents.own _ member, after, there, shown.remote _ stays,
      shown.own _ stays, fun closed => ⟨presents.emptied _ member closed, kept closed⟩⟩
  case inert =>
    intro wire event inUse closed ofChannel
    obtain ⟨answer, same, -⟩ := presents.react_of_closed inUse closed ofChannel
    rw [same]

end Custody

end SocksGateway
