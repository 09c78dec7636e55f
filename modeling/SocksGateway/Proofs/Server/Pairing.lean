import SocksGateway.Server.Pairing
import Mathlib.Data.List.Nodup
import Mathlib.Data.List.Pairwise
import Mathlib.Data.List.Perm.Basic

/-!
What becomes of connections that are offered to a pairing. No two wait at one address, and from this it
follows that each of them waits, is half of one pair, or is closed, and that it stays paired or closed.
-/

set_option autoImplicit false

namespace SocksGateway

theorem Direction.eq_or_eq_other (direction other : Direction) :
    other = direction ∨ other = direction.other := by
  cases direction <;> cases other <;> decide

theorem Half.isAt_iff {ip : Ip} {direction : Direction} {half : Half} :
    half.isAt ip direction = true ↔ half.ip = ip ∧ half.direction = direction := by
  simp only [isAt, Bool.and_eq_true, beq_iff_eq]

/-- The two connections of a pair. -/
def Paired.halves (pair : Paired) : List Half := [pair.reader, pair.writer]

/-- The gateway reads from the one and writes to the other, and both came from one address. -/
structure Paired.IsMatched (pair : Paired) : Prop where
  reads : pair.reader.direction = .read
  writes : pair.writer.direction = .write
  sameIp : pair.reader.ip = pair.writer.ip

namespace Pairing

variable {pairing : Pairing}

/-- The connections that an outcome lets go in pairs. -/
def Outcome.joined (outcome : Outcome) : List Half := outcome.paired.toList.flatMap Paired.halves

/-- No two connections wait at one address. -/
def IsApart (pairing : Pairing) : Prop := (pairing.waiting.map Half.ip).Nodup

theorem IsApart.filter_eq_singleton {ip : Ip} {direction : Direction} {partner : Half}
    (apart : pairing.IsApart)
    (found : pairing.waiting.find? (Half.isAt ip direction) = some partner) :
    pairing.waiting.filter (Half.isAt ip direction) = [partner] := by
  obtain ⟨standing, front, back, split, before⟩ := List.find?_eq_some_iff_append.mp found
  have nodup : ((front ++ partner :: back).map Half.ip).Nodup := split ▸ apart
  rw [List.map_append, List.map_cons, List.nodup_append, List.nodup_cons] at nodup
  have absent : front.filter (Half.isAt ip direction) = [] := by
    apply List.filter_eq_nil_iff.mpr
    intro half listed here
    have elsewhere := before half listed
    rw [here] at elsewhere
    cases elsewhere
  have alone : back.filter (Half.isAt ip direction) = [] := by
    apply List.filter_eq_nil_iff.mpr
    intro half listed here
    have same : half.ip = partner.ip :=
      (Half.isAt_iff.mp here).1.trans (Half.isAt_iff.mp standing).1.symm
    exact nodup.2.1.1 (same ▸ List.mem_map_of_mem listed)
  rw [split, List.filter_append, absent, List.filter_cons_of_pos standing, alone, List.nil_append]

/-- What comes in and what waited either waits, or is let go in a pair, or is closed. -/
structure Balances (waited arrived : List Half) (outcome : Outcome) (after : Pairing) : Prop where
  conserved : (arrived ++ waited).Perm (after.waiting ++ (outcome.joined ++ outcome.closed))
  matched : ∀ pair ∈ outcome.paired, pair.IsMatched
  apart : after.IsApart

theorem IsApart.of_sublist {after : Pairing} (apart : pairing.IsApart)
    (fewer : after.waiting.Sublist pairing.waiting) : after.IsApart :=
  List.Nodup.sublist (fewer.map Half.ip) apart

/-- A connection that comes to wait takes the place of the one that waited at its address. -/
theorem IsApart.placed {after : Pairing} {half : Half} {others : List Half}
    (apart : pairing.IsApart) (fewer : others.Sublist pairing.waiting)
    (opposite : ∀ each ∈ others, each.isAt half.ip half.direction.other = false)
    (waits : after.waiting =
      others.filter (fun each => !Half.isAt half.ip half.direction each) ++ [half]) :
    after.IsApart := by
  have kept := (List.filter_sublist
    (p := fun each => !Half.isAt half.ip half.direction each)).trans fewer
  rw [IsApart, waits, List.map_append, List.nodup_append]
  refine ⟨List.Nodup.sublist (kept.map Half.ip) apart, List.nodup_singleton _, ?_⟩
  intro ip listed other single same
  obtain ⟨each, stays, rfl⟩ := List.mem_map.mp listed
  obtain rfl := List.mem_singleton.mp single
  obtain ⟨earlier, elsewhere⟩ := List.mem_filter.mp stays
  obtain here | there := half.direction.eq_or_eq_other each.direction
  · rw [Half.isAt_iff.mpr ⟨same, here⟩] at elsewhere
    cases elsewhere
  · have absent := opposite each earlier
    rw [Half.isAt_iff.mpr ⟨same, there⟩] at absent
    cases absent

/-- A connection that comes to wait, and those that are closed for it, are all that changes. -/
theorem IsApart.balances_placed {after : Pairing} {outcome : Outcome} {half : Half}
    {removed others : List Half} (apart : pairing.IsApart)
    (split : (removed ++ others).Perm pairing.waiting) (fewer : others.Sublist pairing.waiting)
    (opposite : ∀ each ∈ others, each.isAt half.ip half.direction.other = false)
    (alone : outcome.paired = none)
    (closes : outcome.closed = removed ++ others.filter (Half.isAt half.ip half.direction))
    (waits : after.waiting =
      others.filter (fun each => !Half.isAt half.ip half.direction each) ++ [half]) :
    Balances pairing.waiting [half] outcome after := by
  refine ⟨?_, ?_, apart.placed fewer opposite waits⟩
  · have parts := List.filter_append_perm (Half.isAt half.ip half.direction) others
    rw [waits, closes, Outcome.joined, alone, List.perm_iff_count]
    intro each
    have whole := split.count_eq each
    have apart := parts.count_eq each
    simp only [List.count_append, Option.toList_none, List.flatMap_nil, List.count_nil] at whole apart ⊢
    omega
  · rw [alone]
    exact nofun

/-- A pair takes the partner out of those that wait. -/
theorem IsApart.balances_paired {after : Pairing} {outcome : Outcome} {half partner : Half}
    {others : List Half} {pair : Paired} (apart : pairing.IsApart)
    (split : (partner :: others).Perm pairing.waiting) (fewer : others.Sublist pairing.waiting)
    (together : outcome.paired = some pair) (both : pair.halves.Perm [half, partner])
    (matched : pair.IsMatched) (closes : outcome.closed = []) (waits : after.waiting = others) :
    Balances pairing.waiting [half] outcome after := by
  refine ⟨?_, ?_, apart.of_sublist (waits ▸ fewer)⟩
  · rw [waits, closes, Outcome.joined, together, List.perm_iff_count]
    intro each
    have whole := split.count_eq each
    have two := both.count_eq each
    simp only [List.count_append, List.count_cons, Option.toList_some, List.flatMap_singleton,
      List.count_nil] at whole two ⊢
    omega
  · intro each same
    rw [together] at same
    cases same
    exact matched

theorem IsApart.offer (apart : pairing.IsApart) (label : String) (direction : Direction) (ip : Ip) :
    Balances pairing.waiting [{ label, ip := ip.canonical, direction, since := pairing.clock }]
      (pairing.offer label direction ip).1 (pairing.offer label direction ip).2 := by
  have opposite : ∀ each ∈ pairing.waiting.filter fun each =>
      !Half.isAt ip.canonical direction.other each,
      each.isAt ip.canonical direction.other = false := by
    intro each listed
    simpa only [Bool.not_eq_true'] using (List.mem_filter.mp listed).2
  have parts := List.filter_append_perm (Half.isAt ip.canonical direction.other) pairing.waiting
  have fewer := List.filter_sublist (l := pairing.waiting)
    (p := fun each => !Half.isAt ip.canonical direction.other each)
  unfold Pairing.offer
  dsimp only
  cases found : pairing.waiting.find? (Half.isAt ip.canonical direction.other) with
  | none =>
    have empty : pairing.waiting.filter (Half.isAt ip.canonical direction.other) = [] :=
      List.filter_eq_nil_iff.mpr (List.find?_eq_none.mp found)
    have all : pairing.waiting.filter (fun each => !Half.isAt ip.canonical direction.other each) =
        pairing.waiting := by
      apply List.filter_eq_self.mpr
      intro each listed
      rw [Bool.eq_false_iff.mpr (List.find?_eq_none.mp found each listed), Bool.not_false]
    rw [empty] at parts
    dsimp only
    refine apart.balances_placed parts fewer opposite rfl ?_ rfl
    rw [all, List.nil_append]
  | some partner =>
    rw [apart.filter_eq_singleton found] at parts
    have standing := Half.isAt_iff.mp (List.find?_some found)
    dsimp only
    split
    · exact apart.balances_placed parts fewer opposite rfl rfl rfl
    · cases direction with
      | read =>
        exact apart.balances_paired parts fewer rfl (List.Perm.refl _)
          ⟨rfl, standing.2, standing.1.symm⟩ rfl rfl
      | write =>
        exact apart.balances_paired parts fewer rfl (List.Perm.swap _ _ [])
          ⟨standing.2, rfl, standing.1⟩ rfl rfl

theorem IsApart.sweep (apart : pairing.IsApart) :
    Balances pairing.waiting [] { closed := pairing.sweep.1 } pairing.sweep.2 := by
  refine ⟨?_, nofun, apart.of_sublist List.filter_sublist⟩
  have parts := List.filter_append_perm pairing.isExpired pairing.waiting
  exact parts.symm.trans List.perm_append_comm

end Pairing

/-- The connection that an event brings at that time. -/
def PairingEvent.arrival (clock : Nat) : PairingEvent → List Half
  | .offer label direction ip => [{ label, ip := ip.canonical, direction, since := clock }]
  | _ => []

/-- The name of the connection that an event brings. -/
def PairingEvent.label? : PairingEvent → Option String
  | .offer label _ _ => some label
  | _ => none

/-- Where a connection is that was offered. -/
inductive Place where
  | waiting
  | paired (pair : Paired)
  | closed
deriving DecidableEq, Repr

namespace SweptPairing

variable {swept : SweptPairing}

/-- A pairing at which nobody has been yet. -/
def fresh (window : Nat) : SweptPairing := { pairing := { window } }

theorem balances_react (event : PairingEvent) (apart : swept.pairing.IsApart) :
    Pairing.Balances swept.pairing.waiting (event.arrival swept.pairing.clock)
      (swept.react event).1 (swept.react event).2.pairing := by
  have idle : Pairing.Balances swept.pairing.waiting [] {} swept.pairing :=
    ⟨(List.append_nil swept.pairing.waiting).symm ▸ List.Perm.refl _, nofun, apart⟩
  cases event with
  | offer label direction ip => exact apart.offer label direction ip
  | sweep => exact apart.sweep
  | stop => exact idle
  | start interval =>
    simp only [react, start]
    split
    · exact idle
    · exact idle
  | elapse milliseconds =>
    simp only [react, elapse]
    have later : Pairing.IsApart
        { swept.pairing with clock := swept.pairing.clock + milliseconds } := apart
    split
    · exact later.sweep
    · exact ⟨idle.conserved, nofun, apart⟩

/-- The connections that come in the course of events. -/
def arrivals : List PairingEvent → SweptPairing → List Half
  | [], _ => []
  | event :: events, swept =>
    event.arrival swept.pairing.clock ++ arrivals events (swept.react event).2

/-- The pairs that events have led to. -/
def pairs (outcomes : List Pairing.Outcome) : List Paired :=
  outcomes.flatMap fun outcome => outcome.paired.toList

/-- The connections that were closed. -/
def closed (outcomes : List Pairing.Outcome) : List Half := outcomes.flatMap (·.closed)

/-- All connections, by where they are: those that wait, those in pairs, those that are closed. -/
def everywhere (outcomes : List Pairing.Outcome) (swept : SweptPairing) : List Half :=
  swept.pairing.waiting ++ ((pairs outcomes).flatMap Paired.halves ++ closed outcomes)

theorem run_append (events later : List PairingEvent) (swept : SweptPairing) :
    run (events ++ later) swept =
      ((run events swept).1 ++ (run later (run events swept).2).1,
        (run later (run events swept).2).2) := by
  induction events generalizing swept with
  | nil => rfl
  | cons event events ih =>
    simp only [List.cons_append, run, ih]

/-- What every one of the events keeps holds after all of them. -/
theorem run_induction (holds : SweptPairing → Prop) (events : List PairingEvent)
    (start : holds swept)
    (react : ∀ current event, event ∈ events → holds current → holds (current.react event).2) :
    holds (run events swept).2 := by
  induction events generalizing swept with
  | nil => exact start
  | cons event events ih =>
    apply ih (react swept event List.mem_cons_self start)
    intro current later listed
    exact react current later (List.mem_cons_of_mem event listed)

theorem isApart_run (events : List PairingEvent) (apart : swept.pairing.IsApart) :
    (run events swept).2.pairing.IsApart := by
  apply run_induction (·.pairing.IsApart) events apart
  intro current event _ apart
  exact (balances_react event apart).apart

/-- Whatever happens, the connections that waited and those that came are in one place each. -/
theorem perm_everywhere (events : List PairingEvent) (apart : swept.pairing.IsApart) :
    (arrivals events swept ++ swept.pairing.waiting).Perm
      (everywhere (run events swept).1 (run events swept).2) := by
  induction events generalizing swept with
  | nil =>
    rw [run, everywhere, pairs, closed, List.flatMap_nil, List.flatMap_nil, List.flatMap_nil,
      List.append_nil, List.append_nil]
    exact List.Perm.refl _
  | cons event events ih =>
    have step := balances_react event apart
    have rest := ih step.apart
    rw [List.perm_iff_count]
    intro each
    have now := step.conserved.count_eq each
    have later := rest.count_eq each
    simp only [run, arrivals, everywhere, pairs, closed, Pairing.Outcome.joined, List.flatMap_cons,
      List.flatMap_append, List.count_append] at now later ⊢
    omega

theorem isMatched_of_mem_pairs {pair : Paired} (events : List PairingEvent)
    (apart : swept.pairing.IsApart) (made : pair ∈ pairs (run events swept).1) :
    pair.IsMatched := by
  induction events generalizing swept with
  | nil => cases made
  | cons event events ih =>
    have step := balances_react event apart
    rw [run, pairs, List.flatMap_cons] at made
    obtain now | later := List.mem_append.mp made
    · exact step.matched pair (Option.mem_toList.mp now)
    · exact ih step.apart later

/-- A connection that came was offered, at an address whose canonical form it keeps. -/
theorem exists_offer_of_mem_arrivals {half : Half} (events : List PairingEvent)
    (came : half ∈ arrivals events swept) :
    ∃ ip, .offer half.label half.direction ip ∈ events ∧ half.ip = ip.canonical := by
  induction events generalizing swept with
  | nil => cases came
  | cons event events ih =>
    obtain now | later := List.mem_append.mp came
    · cases event with
      | offer label direction ip =>
        obtain rfl := List.mem_singleton.mp now
        exact ⟨ip, List.mem_cons_self, rfl⟩
      | _ => cases now
    · obtain ⟨ip, listed, same⟩ := ih later
      exact ⟨ip, List.mem_cons_of_mem event listed, same⟩

theorem map_label_arrivals (events : List PairingEvent) (swept : SweptPairing) :
    (arrivals events swept).map Half.label = events.filterMap PairingEvent.label? := by
  induction events generalizing swept with
  | nil => rfl
  | cons event events ih =>
    rw [arrivals, List.map_append, ih]
    cases event <;> rfl

/-- The connection of that name is at a place. -/
def Finds (outcomes : List Pairing.Outcome) (swept : SweptPairing) (label : String) : Place → Prop
  | .waiting => label ∈ swept.pairing.waiting.map Half.label
  | .paired pair => pair ∈ pairs outcomes ∧ label ∈ pair.halves.map Half.label
  | .closed => label ∈ (closed outcomes).map Half.label

variable {outcomes : List Pairing.Outcome} {label : String}

theorem mem_everywhere_of_mem_pairs {pair : Paired} {half : Half} (made : pair ∈ pairs outcomes)
    (part : half ∈ pair.halves) : half ∈ everywhere outcomes swept :=
  List.mem_append_right _ (List.mem_append_left _ (List.mem_flatMap.mpr ⟨pair, made, part⟩))

theorem map_label_everywhere (outcomes : List Pairing.Outcome) (swept : SweptPairing) :
    (everywhere outcomes swept).map Half.label = swept.pairing.waiting.map Half.label ++
      ((pairs outcomes).flatMap (fun pair => pair.halves.map Half.label) ++
        (closed outcomes).map Half.label) := by
  rw [everywhere, List.map_append, List.map_append, List.map_flatMap]

theorem Finds.mem_joined {pair : Paired} (found : Finds outcomes swept label (.paired pair)) :
    label ∈ (pairs outcomes).flatMap fun pair => pair.halves.map Half.label :=
  List.mem_flatMap.mpr ⟨pair, found⟩

theorem exists_finds_iff : (∃ place, Finds outcomes swept label place) ↔
    label ∈ (everywhere outcomes swept).map Half.label := by
  rw [map_label_everywhere, List.mem_append, List.mem_append]
  constructor
  · rintro ⟨place, found⟩
    cases place with
    | waiting => exact .inl found
    | paired pair => exact .inr (.inl found.mem_joined)
    | closed => exact .inr (.inr found)
  · rintro (waits | joined | closed)
    · exact ⟨.waiting, waits⟩
    · obtain ⟨pair, made⟩ := List.mem_flatMap.mp joined
      exact ⟨.paired pair, made⟩
    · exact ⟨.closed, closed⟩

/-- Where all names differ, nothing is in two places. -/
theorem Finds.unique {first second : Place}
    (distinct : ((everywhere outcomes swept).map Half.label).Nodup)
    (here : Finds outcomes swept label first) (there : Finds outcomes swept label second) :
    first = second := by
  rw [map_label_everywhere, List.nodup_append', List.nodup_append', List.nodup_flatMap] at distinct
  obtain ⟨_, ⟨⟨_, pairwise⟩, _, settled⟩, moving⟩ := distinct
  have notWaiting {pair : Paired} (waits : Finds outcomes swept label .waiting)
      (found : Finds outcomes swept label (.paired pair)) : False :=
    moving waits (List.mem_append_left _ found.mem_joined)
  have notClosed (waits : Finds outcomes swept label .waiting)
      (closed : Finds outcomes swept label .closed) : False :=
    moving waits (List.mem_append_right _ closed)
  have notPaired {pair : Paired} (found : Finds outcomes swept label (.paired pair))
      (closed : Finds outcomes swept label .closed) : False :=
    settled found.mem_joined closed
  cases first with
  | waiting =>
    cases second with
    | waiting => rfl
    | paired pair => exact (notWaiting here there).elim
    | closed => exact (notClosed here there).elim
  | paired pair =>
    cases second with
    | waiting => exact (notWaiting there here).elim
    | paired other =>
      have symmetric : Std.Symm (Function.onFun List.Disjoint
          fun pair : Paired => pair.halves.map Half.label) := ⟨fun _ _ => List.disjoint_symm⟩
      by_cases same : pair = other
      · rw [same]
      · exact (pairwise.forall here.1 there.1 same here.2 there.2).elim
    | closed => exact (notPaired here there).elim
  | closed =>
    cases second with
    | waiting => exact (notClosed there here).elim
    | paired pair => exact (notPaired there here).elim
    | closed => rfl

/-- What is paired or closed stays so. -/
theorem Finds.later {place : Place} {later : SweptPairing} (found : Finds outcomes swept label place)
    (settled : place ≠ .waiting) (further : List Pairing.Outcome) :
    Finds (outcomes ++ further) later label place := by
  cases place with
  | waiting => exact absurd rfl settled
  | paired pair =>
    refine ⟨?_, found.2⟩
    rw [pairs, List.flatMap_append]
    exact List.mem_append_left _ found.1
  | closed =>
    rw [Finds, closed, List.flatMap_append, List.map_append]
    exact List.mem_append_left _ found

/-- At every time of every run, the connections that were offered are those that wait, those in pairs
and those that are closed; each of them is in one place. From a pair or from being closed nothing leads
back. What a pair reads from was offered to be read from, and what it writes to was offered to be written
to, at one address; and no two connections wait at one address, in whichever direction. -/
theorem existsUnique_place (window : Nat) (events later : List PairingEvent)
    (distinct : ((events ++ later).filterMap PairingEvent.label?).Nodup) :
    let now := run events (fresh window)
    let further := run later now.2
    (arrivals events (fresh window)).Perm (everywhere now.1 now.2) ∧
    (∀ label, label ∈ events.filterMap PairingEvent.label? ↔
      ∃! place, Finds now.1 now.2 label place) ∧
    (∀ label place, Finds now.1 now.2 label place → place ≠ .waiting →
      ∀ other, Finds (now.1 ++ further.1) further.2 label other ↔ other = place) ∧
    (∀ pair ∈ pairs now.1, ∃ first second,
      .offer pair.reader.label .read first ∈ events ∧
      .offer pair.writer.label .write second ∈ events ∧ first.canonical = second.canonical) ∧
    (now.2.pairing.waiting.map Half.ip).Nodup := by
  intro now further
  have apart : (fresh window).pairing.IsApart := List.nodup_nil
  have account (events : List PairingEvent) :
      ((arrivals events (fresh window)).Perm (everywhere (run events (fresh window)).1
        (run events (fresh window)).2)) := by
    simpa only [fresh, List.append_nil] using perm_everywhere events apart
  have names (events : List PairingEvent) :
      (events.filterMap PairingEvent.label?).Perm ((everywhere (run events (fresh window)).1
        (run events (fresh window)).2).map Half.label) :=
    map_label_arrivals events (fresh window) ▸ (account events).map Half.label
  have whole : run (events ++ later) (fresh window) = (now.1 ++ further.1, further.2) :=
    run_append events later (fresh window)
  have distinctLater : ((everywhere (now.1 ++ further.1) further.2).map Half.label).Nodup := by
    have nodup := (names (events ++ later)).nodup_iff.mp distinct
    rwa [whole] at nodup
  have distinctNow : ((everywhere now.1 now.2).map Half.label).Nodup := by
    rw [List.filterMap_append] at distinct
    exact (names events).nodup_iff.mp (List.nodup_append.mp distinct).1
  refine ⟨account events, ?_, ?_, ?_, isApart_run events apart⟩
  · intro label
    rw [(names events).mem_iff, ← exists_finds_iff]
    constructor
    · rintro ⟨place, found⟩
      exact ⟨place, found, fun other there => there.unique distinctNow found⟩
    · rintro ⟨place, found, _⟩
      exact ⟨place, found⟩
  · intro label place found settled other
    have stays : Finds (now.1 ++ further.1) further.2 label place := found.later settled further.1
    constructor
    · intro there
      exact there.unique distinctLater stays
    · intro same
      rw [same]
      exact stays
  · intro pair made
    have matched := isMatched_of_mem_pairs events apart made
    have came {half : Half} (part : half ∈ pair.halves) : half ∈ arrivals events (fresh window) :=
      (account events).mem_iff.mpr (mem_everywhere_of_mem_pairs made part)
    obtain ⟨first, read, firstIp⟩ := exists_offer_of_mem_arrivals events (came List.mem_cons_self)
    obtain ⟨second, written, secondIp⟩ :=
      exists_offer_of_mem_arrivals events (came (List.mem_cons_of_mem _ List.mem_cons_self))
    rw [matched.reads] at read
    rw [matched.writes] at written
    exact ⟨first, second, read, written, firstIp ▸ secondIp ▸ matched.sameIp⟩

/-- The halves of one client, in either form of its address, and one of another client. -/
def visits : List PairingEvent :=
  [.offer "up" .read (.v4 ⟨10, 0, 0, 1⟩), .offer "down" .write (.v6 (.ofIpv4 ⟨10, 0, 0, 1⟩)),
    .offer "lone" .read (.v4 ⟨10, 0, 0, 2⟩), .elapse 6000]

/-- The lone half finds no partner in time, and the others stay together. -/
theorem existsUnique_place_visits :
    let reader : Half := ⟨"up", .v4 ⟨10, 0, 0, 1⟩, .read, 0⟩
    let writer : Half := ⟨"down", .v4 ⟨10, 0, 0, 1⟩, .write, 0⟩
    let pair : Paired := ⟨reader, writer⟩
    let now := run visits (fresh 5000)
    let further := run [.offer "late" .write (.v4 ⟨10, 0, 0, 2⟩)] now.2
    pairs now.1 = [pair] ∧ (∃! place, Finds now.1 now.2 "lone" place) ∧
      (∀ other, Finds (now.1 ++ further.1) further.2 "up" other ↔ other = .paired pair) ∧
      (closed further.1).map Half.label = ["lone"] := by
  intro reader writer pair now further
  have made : pairs now.1 = [pair] := by decide
  obtain ⟨_, placed, settled, _, _⟩ := existsUnique_place 5000 visits
    [.offer "late" .write (.v4 ⟨10, 0, 0, 2⟩)] (by decide)
  refine ⟨made, (placed "lone").mp (by decide), ?_, by decide⟩
  exact settled "up" (.paired pair) ⟨made ▸ List.mem_singleton_self pair, by decide⟩ nofun

end SweptPairing

end SocksGateway
