import SocksGateway.Proofs.Server.Pairing

/-!
With whom an offer is paired. The most recent offer from the same address decides it: that one must have
been left waiting in the other direction, no longer ago than the window. Sweeps have no say in it, since
they take away only what could not be paired any more.
-/

set_option autoImplicit false

namespace SocksGateway

/-- The two as a pair, each in its direction. -/
def Half.joinedTo (half partner : Half) : Paired :=
  match half.direction with
  | .read => { reader := half, writer := partner }
  | .write => { reader := partner, writer := half }

/-- An offered connection, with the pair that it became half of at once. -/
structure Offer where
  half : Half
  paired : Option Paired
deriving DecidableEq, Repr

namespace Offer

/-- The most recent offer at an address. -/
def lastAt (ip : Ip) (offers : List Offer) : Option Offer :=
  (offers.filter fun offer => offer.half.ip == ip).getLast?

theorem lastAt_append_same (offers : List Offer) (offer : Offer) :
    lastAt offer.half.ip (offers ++ [offer]) = some offer := by
  have matching : [offer].filter (fun each => each.half.ip == offer.half.ip) = [offer] := by
    simp only [List.filter_cons, beq_self_eq_true, ↓reduceIte, List.filter_nil]
  rw [lastAt, List.filter_append, matching, List.getLast?_append, List.getLast?_singleton]
  rfl

theorem lastAt_append_other {ip : Ip} {offer : Offer} (offers : List Offer)
    (elsewhere : offer.half.ip ≠ ip) : lastAt ip (offers ++ [offer]) = lastAt ip offers := by
  have absent : [offer].filter (fun each => each.half.ip == ip) = [] := by
    simp only [List.filter_cons, beq_eq_false_iff_ne.mpr elsewhere, Bool.false_eq_true, ↓reduceIte,
      List.filter_nil]
  rw [lastAt, List.filter_append, absent, List.append_nil, lastAt]

theorem ip_of_lastAt {ip : Ip} {offer : Offer} {offers : List Offer}
    (last : lastAt ip offers = some offer) : offer.half.ip = ip := by
  have listed := List.mem_of_getLast? last
  exact eq_of_beq (List.mem_filter.mp listed).2

end Offer

namespace Pairing

variable {pairing : Pairing} {half : Half}

theorem isExpired_eq_false_iff :
    pairing.isExpired half = false ↔ pairing.clock - half.since ≤ pairing.window := by
  rw [isExpired, decide_eq_false_iff_not, Nat.not_lt]

theorem isExpired_eq_true_iff :
    pairing.isExpired half = true ↔ pairing.window < pairing.clock - half.since := by
  rw [isExpired, decide_eq_true_iff]

theorem IsApart.eq_of_ip {other : Half} (apart : pairing.IsApart)
    (waits : half ∈ pairing.waiting) (also : other ∈ pairing.waiting) (same : half.ip = other.ip) :
    half = other := List.inj_on_of_nodup_map apart waits also same

/-- It waits, and it does so no longer than the window. -/
def IsReady (pairing : Pairing) (half : Half) : Prop :=
  half ∈ pairing.waiting ∧ pairing.isExpired half = false

/-! ## What an offer does -/

/-- What becomes of a connection that is offered, and what that leaves: it is paired with the one
that waits at its address, or it waits there itself and takes the place of whatever did. -/
inductive Offering (pairing : Pairing) (half : Half) : Outcome × Pairing → Prop where
  | pairs {partner : Half} {others : List Half} (ready : pairing.IsReady partner)
      (sameIp : partner.ip = half.ip) (opposite : partner.direction = half.direction.other)
      (rest : ∀ each, each ∈ others ↔ each ∈ pairing.waiting ∧ each.ip ≠ half.ip) :
      Offering pairing half
        ({ paired := some (half.joinedTo partner) }, { pairing with waiting := others })
  | waits {closed others : List Half}
      (noPartner : ∀ each, pairing.IsReady each → each.ip = half.ip →
        each.direction ≠ half.direction.other)
      (closes : ∀ each, each ∈ closed ↔ each ∈ pairing.waiting ∧ each.ip = half.ip)
      (rest : ∀ each, each ∈ others ↔ each ∈ pairing.waiting ∧ each.ip ≠ half.ip) :
      Offering pairing half ({ closed }, { pairing with waiting := others ++ [half] })

/-- A half at the address waits in the one direction or in the other. -/
theorem mem_filter_not_isAt {ip : Ip} {direction : Direction} {each : Half} :
    each ∈ (pairing.waiting.filter fun each => !Half.isAt ip direction.other each).filter
        (fun each => !Half.isAt ip direction each) ↔ each ∈ pairing.waiting ∧ each.ip ≠ ip := by
  simp only [List.mem_filter, Bool.not_eq_true', Bool.eq_false_iff, ne_eq, Half.isAt_iff, not_and,
    and_assoc, and_congr_right_iff]
  intro waits
  constructor
  · intro ⟨opposite, same⟩ here
    obtain this | that := direction.eq_or_eq_other each.direction
    · exact same here this
    · exact opposite here that
  · intro elsewhere
    exact ⟨fun here => absurd here elsewhere, fun here => absurd here elsewhere⟩

theorem IsApart.offering (apart : pairing.IsApart) (label : String) (direction : Direction)
    (ip : Ip) :
    Offering pairing { label, ip := ip.canonical, direction, since := pairing.clock }
      (pairing.offer label direction ip) := by
  unfold Pairing.offer
  dsimp only
  cases found : pairing.waiting.find? (Half.isAt ip.canonical direction.other) with
  | none =>
    have nobody := List.find?_eq_none.mp found
    dsimp only
    refine .waits ?_ ?_ fun each => mem_filter_not_isAt
    · intro each ready here opposite
      exact nobody each ready.1 (Half.isAt_iff.mpr ⟨here, opposite⟩)
    · intro each
      rw [List.mem_filter, Half.isAt_iff]
      constructor
      · intro ⟨waits, here, _⟩
        exact ⟨waits, here⟩
      · intro ⟨waits, here⟩
        obtain same | opposite := direction.eq_or_eq_other each.direction
        · exact ⟨waits, here, same⟩
        · exact absurd (Half.isAt_iff.mpr ⟨here, opposite⟩) (nobody each waits)
  | some partner =>
    have waits := List.mem_of_find?_eq_some found
    have standing := Half.isAt_iff.mp (List.find?_some found)
    -- nobody else waits at the address, so that no third half is in question
    have alone : ∀ each, each ∈ pairing.waiting → each.ip = ip.canonical → each = partner :=
      fun each also here => apart.eq_of_ip also waits (here.trans standing.1.symm)
    dsimp only
    split
    · rename_i expired
      refine .waits ?_ ?_ fun each => mem_filter_not_isAt
      · intro each ready here
        have inTime := ready.2
        rw [alone each ready.1 here, expired] at inTime
        cases inTime
      · intro each
        simp only [List.mem_cons, List.mem_filter, Bool.not_eq_true', Bool.eq_false_iff, ne_eq,
          Half.isAt_iff]
        constructor
        · rintro (rfl | ⟨⟨also, _⟩, here, _⟩)
          · exact ⟨waits, standing.1⟩
          · exact ⟨also, here⟩
        · intro ⟨also, here⟩
          exact .inl (alone each also here)
    · rename_i inTime
      refine .pairs ⟨waits, Bool.eq_false_iff.mpr inTime⟩ standing.1 standing.2 ?_
      intro each
      simp only [List.mem_filter, Bool.not_eq_true', Bool.eq_false_iff, ne_eq, Half.isAt_iff, not_and,
        and_congr_right_iff]
      intro also
      constructor
      · intro elsewhere here
        exact elsewhere here (alone each also here ▸ standing.2)
      · intro elsewhere here
        exact absurd here elsewhere

variable {answer : Outcome × Pairing}

theorem Offering.clock (offering : Offering pairing half answer) :
    answer.2.clock = pairing.clock := by
  cases offering <;> rfl

theorem Offering.window (offering : Offering pairing half answer) :
    answer.2.window = pairing.window := by
  cases offering <;> rfl

/-- An offer that is not paired waits, and what waited at its address is closed. -/
theorem Offering.waits_of_paired_eq_none (offering : Offering pairing half answer)
    (alone : answer.1.paired = none) : half ∈ answer.2.waiting ∧
      ∀ each, each ∈ answer.1.closed ↔ each ∈ pairing.waiting ∧ each.ip = half.ip := by
  cases offering with
  | pairs => cases alone
  | waits _ closes => exact ⟨List.mem_append_right _ (List.mem_singleton_self half), closes⟩

/-- Only one can be the partner, as no two are ready at one address. -/
theorem Offering.paired_eq_some_iff (offering : Offering pairing half answer)
    (apart : pairing.IsApart) {pair : Paired} :
    answer.1.paired = some pair ↔ ∃ partner, pairing.IsReady partner ∧ partner.ip = half.ip ∧
      partner.direction = half.direction.other ∧ pair = half.joinedTo partner := by
  cases offering with
  | @pairs partner others ready sameIp opposite =>
    simp only [Option.some.injEq]
    constructor
    · intro same
      exact ⟨partner, ready, sameIp, opposite, same.symm⟩
    · rintro ⟨other, also, here, -, rfl⟩
      rw [apart.eq_of_ip ready.1 also.1 (sameIp.trans here.symm)]
  | waits noPartner =>
    simp only [reduceCtorEq, false_iff, not_exists, not_and]
    intro partner ready here opposite
    exact absurd opposite (noPartner partner ready here)

theorem isExpired_of_now (now : half.since = pairing.clock) : pairing.isExpired half = false := by
  rw [isExpired_eq_false_iff, now, Nat.sub_self]
  exact Nat.zero_le _

/-- What is ready after an offer was so before at another address, or is the one that was offered. -/
theorem Offering.isReady_iff (offering : Offering pairing half answer)
    (now : half.since = pairing.clock) {each : Half} :
    answer.2.IsReady each ↔ if each.ip = half.ip then each = half ∧ answer.1.paired = none
      else pairing.IsReady each := by
  by_cases here : each.ip = half.ip
  · rw [if_pos here]
    cases offering with
    | pairs _ _ _ rest =>
      simp only [IsReady, rest, here, ne_eq, not_true_eq_false, and_false, false_and, reduceCtorEq]
    | waits _ _ rest =>
      simp only [IsReady, List.mem_append, rest, here, ne_eq, not_true_eq_false, and_false, false_or,
        List.mem_singleton, and_true]
      constructor
      · exact And.left
      · intro same
        subst same
        exact ⟨rfl, isExpired_of_now now⟩
  · have other : each ≠ half := fun same => here (congrArg Half.ip same)
    rw [if_neg here]
    cases offering with
    | pairs _ _ _ rest => simp only [IsReady, rest, ne_eq, here, not_false_eq_true, and_true]; rfl
    | waits _ _ rest =>
      simp only [IsReady, List.mem_append, rest, ne_eq, here, not_false_eq_true, and_true,
        List.mem_singleton, other, or_false]
      rfl

/-- A sweep takes nothing away that is ready. -/
theorem isReady_sweep_iff : pairing.sweep.2.IsReady half ↔ pairing.IsReady half := by
  simp only [IsReady, sweep, List.mem_filter, Bool.not_eq_true', and_assoc]
  exact and_congr_right fun _ => and_self_iff

/-- What is ready later was so before. -/
theorem isReady_later_iff (milliseconds : Nat) :
    IsReady { pairing with clock := pairing.clock + milliseconds } half ↔
      pairing.IsReady half ∧
        isExpired { pairing with clock := pairing.clock + milliseconds } half = false := by
  simp only [IsReady, isExpired_eq_false_iff, and_assoc, and_congr_right_iff]
  intro waits
  constructor
  · intro later
    exact ⟨by omega, later⟩
  · exact And.right

/-- Those that waited longer than the window at that time are closed, and the others wait on. -/
structure IsSwept (window clock : Nat) (waiting closed kept : List Half) : Prop where
  closes : ∀ half, half ∈ closed ↔ half ∈ waiting ∧ window < clock - half.since
  keeps : ∀ half, half ∈ kept ↔ half ∈ waiting ∧ clock - half.since ≤ window

theorem isSwept_sweep (pairing : Pairing) :
    IsSwept pairing.window pairing.clock pairing.waiting pairing.sweep.1
      pairing.sweep.2.waiting where
  closes half := by rw [sweep, List.mem_filter, isExpired_eq_true_iff]
  keeps half := by rw [sweep, List.mem_filter, Bool.not_eq_true', isExpired_eq_false_iff]

/-! ## What the past says -/

/-- What is ready is what the most recent offer at its address left waiting, if that is not too long
ago. -/
structure Recalls (earlier : List Offer) (pairing : Pairing) : Prop where
  apart : pairing.IsApart
  isReady_iff {half : Half} : pairing.IsReady half ↔
    Offer.lastAt half.ip earlier = some ⟨half, none⟩ ∧ pairing.isExpired half = false

variable {earlier : List Offer}

theorem Recalls.sweep (recalls : Recalls earlier pairing) : Recalls earlier pairing.sweep.2 where
  apart := recalls.apart.sweep.apart
  isReady_iff := isReady_sweep_iff.trans recalls.isReady_iff

theorem Recalls.later (recalls : Recalls earlier pairing) (milliseconds : Nat) :
    Recalls earlier { pairing with clock := pairing.clock + milliseconds } where
  apart := recalls.apart
  isReady_iff {half} := by
    rw [isReady_later_iff, recalls.isReady_iff, and_assoc]
    apply and_congr_right
    intro last
    simp only [isExpired_eq_false_iff]
    omega

/-- An offer is paired as the most recent one at its address says. -/
theorem Recalls.paired_eq_some_iff (recalls : Recalls earlier pairing)
    (offering : Offering pairing half answer) {pair : Paired} :
    answer.1.paired = some pair ↔ ∃ partner, Offer.lastAt half.ip earlier = some ⟨partner, none⟩ ∧
      partner.direction = half.direction.other ∧ pairing.clock - partner.since ≤ pairing.window ∧
      pair = half.joinedTo partner := by
  rw [offering.paired_eq_some_iff recalls.apart]
  apply exists_congr
  intro partner
  rw [recalls.isReady_iff, isExpired_eq_false_iff]
  constructor
  · rintro ⟨⟨last, inTime⟩, here, opposite, same⟩
    exact ⟨here ▸ last, opposite, inTime, same⟩
  · rintro ⟨last, opposite, inTime, same⟩
    have here := Offer.ip_of_lastAt last
    exact ⟨⟨here ▸ last, inTime⟩, here, opposite, same⟩

/-- The past of an offer is told by those before it and by what it came to itself. -/
theorem Recalls.offer (recalls : Recalls earlier pairing) (label : String) (direction : Direction)
    (ip : Ip) :
    let half : Half := { label, ip := ip.canonical, direction, since := pairing.clock }
    let answer := pairing.offer label direction ip
    Recalls (earlier ++ [⟨half, answer.1.paired⟩]) answer.2 := by
  intro half answer
  have offering : Offering pairing half answer := recalls.apart.offering label direction ip
  have expiry (each : Half) : answer.2.isExpired each = pairing.isExpired each := by
    rw [isExpired, isExpired, offering.clock, offering.window]
  refine ⟨(recalls.apart.offer label direction ip).apart, ?_⟩
  intro each
  rw [offering.isReady_iff rfl, expiry]
  by_cases here : each.ip = half.ip
  · rw [if_pos here, here, Offer.lastAt_append_same earlier ⟨half, answer.1.paired⟩]
    simp only [Option.some.injEq, Offer.mk.injEq]
    constructor
    · intro ⟨same, alone⟩
      exact ⟨⟨same.symm, alone⟩, same ▸ isExpired_of_now rfl⟩
    · intro ⟨⟨same, alone⟩, _⟩
      exact ⟨same.symm, alone⟩
  · rw [if_neg here, Offer.lastAt_append_other earlier (Ne.symm here), recalls.isReady_iff]

end Pairing

/-- How long an event takes, in milliseconds. -/
def PairingEvent.duration : PairingEvent → Nat
  | .elapse milliseconds => milliseconds
  | _ => 0

/-- Whether an event only sweeps, or has only to do with when sweeps are done. -/
def PairingEvent.isSweeping : PairingEvent → Bool
  | .offer _ _ _ => false
  | .elapse _ => false
  | _ => true

namespace SweptPairing

open Pairing (Recalls)

variable {swept : SweptPairing} {earlier : List Offer}

/-- The offer that an event makes, with what it comes to. -/
def offered (event : PairingEvent) (swept : SweptPairing) : List Offer :=
  (event.arrival swept.pairing.clock).map fun half => ⟨half, (swept.react event).1.paired⟩

/-- All offers in the course of events, with what they come to. -/
def offers : List PairingEvent → SweptPairing → List Offer
  | [], _ => []
  | event :: events, swept => offered event swept ++ offers events (swept.react event).2

theorem timing_react (event : PairingEvent) (swept : SweptPairing) :
    (swept.react event).2.pairing.clock = swept.pairing.clock + event.duration ∧
      (swept.react event).2.pairing.window = swept.pairing.window := by
  cases event with
  | offer label direction ip =>
    simp only [react, Pairing.offer]
    split
    · split <;> exact ⟨rfl, rfl⟩
    · exact ⟨rfl, rfl⟩
  | elapse milliseconds =>
    simp only [react, elapse]
    split <;> exact ⟨rfl, rfl⟩
  | start interval =>
    simp only [react, start]
    split <;> exact ⟨rfl, rfl⟩
  | sweep | stop => exact ⟨rfl, rfl⟩

theorem window_run (events : List PairingEvent) (swept : SweptPairing) :
    (run events swept).2.pairing.window = swept.pairing.window := by
  apply run_induction (·.pairing.window = swept.pairing.window) events rfl
  intro current event _ same
  exact (timing_react event current).2.trans same

/-- A sweeper that is due sweeps when the time has passed. -/
theorem isSwept_elapse {milliseconds : Nat}
    (due : ∃ sweeper ∈ swept.sweepers, sweeper.due ≤ swept.pairing.clock + milliseconds) :
    Pairing.IsSwept swept.pairing.window (swept.pairing.clock + milliseconds) swept.pairing.waiting
      (swept.react (.elapse milliseconds)).1.closed
      (swept.react (.elapse milliseconds)).2.pairing.waiting := by
  have any : (swept.sweepers.any (·.due ≤ swept.pairing.clock + milliseconds)) = true := by
    simpa only [List.any_eq_true, decide_eq_true_eq] using due
  simp only [react, elapse, any, ↓reduceIte]
  exact Pairing.isSwept_sweep { swept.pairing with clock := swept.pairing.clock + milliseconds }

/-- Where nothing is offered, the past stays what it was. -/
theorem recalls_react_of_silent {event : PairingEvent} (silent : offered event swept = [])
    (recalls : Recalls earlier swept.pairing) : Recalls earlier (swept.react event).2.pairing := by
  cases event with
  | offer => cases silent
  | elapse milliseconds =>
    have later := recalls.later milliseconds
    simp only [react, elapse]
    split
    · exact later.sweep
    · exact later
  | sweep => exact recalls.sweep
  | start interval =>
    simp only [react, start]
    split
    · exact recalls
    · exact recalls
  | stop => exact recalls

/-- Whatever happens, what is ready is what the past says. -/
theorem recalls_react (event : PairingEvent) (recalls : Recalls earlier swept.pairing) :
    Recalls (earlier ++ offered event swept) (swept.react event).2.pairing := by
  cases event with
  | offer label direction ip => exact recalls.offer label direction ip
  | elapse | sweep | start | stop =>
    show Recalls (earlier ++ []) _
    rw [List.append_nil]
    exact recalls_react_of_silent rfl recalls

theorem recalls_run (events : List PairingEvent) (recalls : Recalls earlier swept.pairing) :
    Recalls (earlier ++ offers events swept) (run events swept).2.pairing := by
  induction events generalizing swept earlier with
  | nil =>
    rw [offers, List.append_nil]
    exact recalls
  | cons event events ih =>
    rw [offers, ← List.append_assoc]
    exact ih (recalls_react event recalls)

theorem recalls_fresh (window : Nat) : Recalls [] (fresh window).pairing where
  apart := List.nodup_nil
  isReady_iff {half} := by
    constructor
    · intro ready
      cases ready.1
    · intro ⟨last, _⟩
      cases last

/-- What an offer comes to depends on the past, the clock and the window only. -/
theorem offered_eq {swept other : SweptPairing} (event : PairingEvent)
    (recalls : Recalls earlier swept.pairing) (also : Recalls earlier other.pairing)
    (clock : other.pairing.clock = swept.pairing.clock)
    (window : other.pairing.window = swept.pairing.window) :
    offered event other = offered event swept := by
  cases event with
  | offer label direction ip =>
    have paired : (other.pairing.offer label direction ip).1.paired =
        (swept.pairing.offer label direction ip).1.paired := by
      apply Option.ext
      intro pair
      rw [also.paired_eq_some_iff (also.apart.offering label direction ip),
        recalls.paired_eq_some_iff (recalls.apart.offering label direction ip), clock, window]
    change [Offer.mk _ _] = [Offer.mk _ _]
    simp only [react, clock, paired]
  | elapse | sweep | start | stop => rfl

/-- Two pairings with one past and one clock answer offers alike, also if only the one of them is
swept. -/
theorem offers_filter {swept other : SweptPairing} (events : List PairingEvent)
    (recalls : Recalls earlier swept.pairing) (also : Recalls earlier other.pairing)
    (clock : other.pairing.clock = swept.pairing.clock)
    (window : other.pairing.window = swept.pairing.window) :
    offers (events.filter fun event => !event.isSweeping) other = offers events swept := by
  induction events generalizing swept other earlier with
  | nil => rfl
  | cons event events ih =>
    obtain ⟨clocked, windowed⟩ := timing_react event swept
    obtain ⟨alsoClocked, alsoWindowed⟩ := timing_react event other
    cases sweeping : event.isSweeping with
    | true =>
      have nothing : offered event swept = [] := by cases event <;> first | rfl | cases sweeping
      have still : event.duration = 0 := by cases event <;> first | rfl | cases sweeping
      rw [List.filter_cons_of_neg (by rw [sweeping]; decide), offers, nothing, List.nil_append]
      apply ih (recalls_react_of_silent nothing recalls) also
      · rw [clock, clocked, still, Nat.add_zero]
      · rw [window, windowed]
    | false =>
      have same := offered_eq event recalls also clock window
      rw [List.filter_cons_of_pos (by rw [sweeping]; decide), offers, offers, same]
      congr 1
      apply ih (recalls_react event recalls) (same ▸ recalls_react event also)
      · rw [alsoClocked, clock, clocked]
      · rw [alsoWindowed, window, windowed]

/-- An offer is paired exactly if the most recent earlier one from its address went the other way, was
left waiting and lies no more than the window back; that one is then its partner. Otherwise it waits, and
what waited at its address is closed. Sweeps, by hand or by a sweeper that is due, close what waited
longer than the window and nothing else, and no offer comes to anything else for more or fewer of them. -/
theorem paired_iff_lastAt (window : Nat) (events : List PairingEvent) (label : String)
    (direction : Direction) (ip : Ip) :
    let now := (run events (fresh window)).2
    let half : Half := { label, ip := ip.canonical, direction, since := now.pairing.clock }
    let answer := now.react (.offer label direction ip)
    (∀ pair, answer.1.paired = some pair ↔ ∃ partner,
      Offer.lastAt half.ip (offers events (fresh window)) = some ⟨partner, none⟩ ∧
      partner.direction = direction.other ∧ half.since - partner.since ≤ window ∧
      pair = half.joinedTo partner) ∧
    (answer.1.paired = none → half ∈ answer.2.pairing.waiting ∧
      ∀ each, each ∈ answer.1.closed ↔ each ∈ now.pairing.waiting ∧ each.ip = half.ip) ∧
    Pairing.IsSwept window now.pairing.clock now.pairing.waiting (now.react .sweep).1.closed
      (now.react .sweep).2.pairing.waiting ∧
    (∀ milliseconds, (∃ sweeper ∈ now.sweepers, sweeper.due ≤ now.pairing.clock + milliseconds) →
      Pairing.IsSwept window (now.pairing.clock + milliseconds) now.pairing.waiting
        (now.react (.elapse milliseconds)).1.closed
        (now.react (.elapse milliseconds)).2.pairing.waiting) ∧
    (∀ others : List PairingEvent,
      (others.filter fun event => !event.isSweeping) = events.filter (fun event => !event.isSweeping) →
      offers others (fresh window) = offers events (fresh window)) := by
  intro now half answer
  have recalls : Recalls (offers events (fresh window)) now.pairing :=
    recalls_run events (recalls_fresh window)
  have width : now.pairing.window = window := window_run events (fresh window)
  have offering : Pairing.Offering now.pairing half (now.pairing.offer label direction ip) :=
    recalls.apart.offering label direction ip
  refine ⟨?_, ?_, ?_, ?_, ?_⟩
  · intro pair
    have decided : answer.1.paired = some pair ↔ _ := recalls.paired_eq_some_iff offering
    rw [width] at decided
    exact decided
  · intro alone
    exact offering.waits_of_paired_eq_none alone
  · have swept := Pairing.isSwept_sweep now.pairing
    rw [width] at swept
    exact swept
  · intro milliseconds due
    exact width ▸ isSwept_elapse due
  · intro others same
    have bare (events : List PairingEvent) := offers_filter events (recalls_fresh window)
      (recalls_fresh window) rfl rfl
    rw [← bare others, same, bare events]

/-- A half at the end of its window, and a sweep at that time. -/
def onTime : List PairingEvent := [.offer "up" .read (.v4 ⟨10, 0, 0, 1⟩), .elapse 5000, .sweep]

/-- The sweep leaves the half to its partner. A millisecond later the partner waits in its place. -/
theorem paired_iff_lastAt_onTime :
    let now := (run onTime (fresh 5000)).2
    let late := (run (onTime ++ [.elapse 1]) (fresh 5000)).2
    let partner : PairingEvent := .offer "down" .write (.v6 (.ofIpv4 ⟨10, 0, 0, 1⟩))
    (∃ pair, (now.react partner).1.paired = some pair ∧ pair.reader.label = "up") ∧
      offers [.offer "up" .read (.v4 ⟨10, 0, 0, 1⟩), .elapse 5000] (fresh 5000) =
        offers onTime (fresh 5000) ∧
      ((late.react partner).1.paired = none ∧
        (⟨"up", .v4 ⟨10, 0, 0, 1⟩, .read, 0⟩ : Half) ∈ (late.react partner).1.closed) := by
  intro now late partner
  obtain ⟨paired, _, _, _, unswept⟩ :=
    paired_iff_lastAt 5000 onTime "down" .write (.v6 (.ofIpv4 ⟨10, 0, 0, 1⟩))
  obtain ⟨_, waits, _⟩ := paired_iff_lastAt 5000 (onTime ++ [.elapse 1]) "down" .write
    (.v6 (.ofIpv4 ⟨10, 0, 0, 1⟩))
  refine ⟨⟨_, (paired _).mpr ⟨⟨"up", .v4 ⟨10, 0, 0, 1⟩, .read, 0⟩, by decide, rfl, by decide, rfl⟩,
    rfl⟩, unswept _ (by decide), by decide, ?_⟩
  exact ((waits (by decide)).2 _).mpr (by decide)

end SweptPairing

end SocksGateway
