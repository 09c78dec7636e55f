import SocksGateway.Proofs.Server.Partner

/-!
How long a half can wait for its partner while a sweeper is at work. When the next sweep is due stands in
a relation to the clock and to the arrival of every half that waits; offers, the passing of time and other
sweepers keep it, and from it follows that nobody waits as long as the window and an interval together.
Sweeps that were missed are made up for one at a time, and that comes to a single sweep.
-/

set_option autoImplicit false

namespace SocksGateway

/-! ## When sweeps are due -/

namespace Sweeper

variable {clock : Nat} {sweeper : Sweeper}

/-- The sweeper with one more of its sweeps done. -/
def ticked (sweeper : Sweeper) : Sweeper := { sweeper with due := sweeper.due + sweeper.interval }

theorem caughtUp_of_lt (early : clock < sweeper.due) : caughtUp clock sweeper = sweeper := by
  rw [caughtUp, if_pos early]

theorem due_caughtUp (late : sweeper.due ≤ clock) : (caughtUp clock sweeper).due =
    sweeper.due + ((clock - sweeper.due) / sweeper.interval + 1) * sweeper.interval := by
  rw [caughtUp, if_neg (Nat.not_lt.mpr late)]

theorem interval_caughtUp (clock : Nat) (sweeper : Sweeper) :
    (caughtUp clock sweeper).interval = sweeper.interval := by
  unfold caughtUp
  split <;> rfl

theorem lt_due_caughtUp (positive : 0 < sweeper.interval) :
    clock < (caughtUp clock sweeper).due := by
  by_cases early : clock < sweeper.due
  · rw [caughtUp_of_lt early]
    exact early
  · have late := Nat.le_of_not_lt early
    have past := Nat.lt_mul_div_succ (clock - sweeper.due) positive
    rw [due_caughtUp late, Nat.mul_comm]
    omega

theorem due_caughtUp_le (late : sweeper.due ≤ clock) :
    (caughtUp clock sweeper).due ≤ clock + sweeper.interval := by
  have whole := Nat.div_mul_le_self (clock - sweeper.due) sweeper.interval
  rw [due_caughtUp late, Nat.add_mul, Nat.one_mul]
  omega

/-- Catching up begins with one sweep that was missed. -/
theorem caughtUp_ticked (late : sweeper.due ≤ clock) :
    caughtUp clock sweeper.ticked = caughtUp clock sweeper := by
  have next : sweeper.ticked.due = sweeper.due + sweeper.interval := rfl
  have same : (caughtUp clock sweeper.ticked).due = (caughtUp clock sweeper).due := by
    by_cases early : clock < sweeper.ticked.due
    · have none : (clock - sweeper.due) / sweeper.interval = 0 := Nat.div_eq_of_lt (by omega)
      rw [caughtUp_of_lt early, due_caughtUp late, none, Nat.zero_add, Nat.one_mul, next]
    · have again := Nat.le_of_not_lt early
      obtain zero | positive := Nat.eq_zero_or_pos sweeper.interval
      · have still : sweeper.ticked = sweeper :=
          congrArg (Sweeper.mk sweeper.interval) (by rw [zero, Nat.add_zero])
        rw [still]
      · have more : (clock - sweeper.due) / sweeper.interval =
            (clock - sweeper.ticked.due) / sweeper.interval + 1 := by
          rw [next, ← Nat.sub_sub]
          exact Nat.div_eq_sub_div positive (by omega)
        rw [due_caughtUp again, due_caughtUp late, more]
        simp only [ticked, Nat.add_mul, Nat.one_mul]
        omega
  have interval : (caughtUp clock sweeper.ticked).interval = (caughtUp clock sweeper).interval := by
    rw [interval_caughtUp, interval_caughtUp, ticked]
  exact congrArg₂ Sweeper.mk interval same

end Sweeper

namespace SweptPairing

variable {swept : SweptPairing}

/-! ## Sweeps one at a time -/

/-- Sweeps that are due are done one after another, whichever sweeper comes first, until none is due. -/
inductive MakesUp : SweptPairing → List Half → SweptPairing → Prop where
  | rest {swept : SweptPairing}
      (settled : ∀ sweeper ∈ swept.sweepers, swept.pairing.clock < sweeper.due) :
      MakesUp swept [] swept
  | sweep {swept after : SweptPairing} {front back : List Sweeper} {sweeper : Sweeper}
      {closed : List Half} (stands : swept.sweepers = front ++ sweeper :: back)
      (due : sweeper.due ≤ swept.pairing.clock)
      (others : MakesUp { swept with
        pairing := swept.pairing.sweep.2, sweepers := front ++ sweeper.ticked :: back } closed after) :
      MakesUp swept (swept.pairing.sweep.1 ++ closed) after

/-- The same at a later time, with no sweep done yet. -/
def later (milliseconds : Nat) (swept : SweptPairing) : SweptPairing :=
  { swept with pairing := { swept.pairing with clock := swept.pairing.clock + milliseconds } }

end SweptPairing

/-- What a sweep has left, another one at that time leaves too. -/
theorem Pairing.sweep_sweep (pairing : Pairing) :
    pairing.sweep.2.sweep = ([], pairing.sweep.2) := by
  have kept : ∀ half ∈ pairing.sweep.2.waiting, pairing.isExpired half = false := by
    intro half waits
    simpa only [Bool.not_eq_true'] using (List.mem_filter.mp waits).2
  have closes : pairing.sweep.2.waiting.filter pairing.isExpired = [] := by
    apply List.filter_eq_nil_iff.mpr
    intro half waits
    rw [kept half waits]
    decide
  have keeps : pairing.sweep.2.waiting.filter (fun half => !pairing.isExpired half) =
      pairing.sweep.2.waiting := by
    apply List.filter_eq_self.mpr
    intro half waits
    rw [kept half waits, Bool.not_false]
  exact Prod.ext closes (congrArg (Pairing.mk _ _) keeps)

namespace SweptPairing

variable {swept after : SweptPairing} {closed : List Half}

theorem elapse_zero_of_settled
    (settled : ∀ sweeper ∈ swept.sweepers, swept.pairing.clock < sweeper.due) :
    swept.elapse 0 = ([], swept) := by
  have none : swept.sweepers.any (·.due ≤ swept.pairing.clock) = false := by
    rw [List.any_eq_false]
    intro sweeper listed
    simpa only [decide_eq_true_eq, Nat.not_le] using settled sweeper listed
  have same : swept.sweepers.map (Sweeper.caughtUp swept.pairing.clock) = swept.sweepers :=
    (List.map_congr_left fun sweeper listed =>
      Sweeper.caughtUp_of_lt (settled sweeper listed)).trans (List.map_id _)
  simp only [elapse, Nat.add_zero, none, Bool.false_eq_true, ↓reduceIte, same]

theorem elapse_zero_of_due {sweeper : Sweeper} (listed : sweeper ∈ swept.sweepers)
    (due : sweeper.due ≤ swept.pairing.clock) :
    swept.elapse 0 = (swept.pairing.sweep.1, { swept with
      pairing := swept.pairing.sweep.2
      sweepers := swept.sweepers.map (Sweeper.caughtUp swept.pairing.clock) }) := by
  have some : swept.sweepers.any (·.due ≤ swept.pairing.clock) = true :=
    List.any_eq_true.mpr ⟨sweeper, listed, decide_eq_true due⟩
  simp only [elapse, Nat.add_zero, some, ↓reduceIte]

/-- After a sweep, the time that stands still closes nothing more. -/
theorem elapse_zero_of_swept {pairing : Pairing} (fresh : swept.pairing = pairing.sweep.2) :
    swept.elapse 0 = ([], { swept with
      sweepers := swept.sweepers.map (Sweeper.caughtUp swept.pairing.clock) }) := by
  have again : swept.pairing.sweep = ([], swept.pairing) := fresh ▸ pairing.sweep_sweep
  simp only [elapse, Nat.add_zero, again, ite_self]

/-- In whatever order missed sweeps are made up for, it comes to one sweep. -/
theorem MakesUp.elapse_zero (makesUp : MakesUp swept closed after) :
    swept.elapse 0 = (closed, after) := by
  induction makesUp with
  | rest settled => exact elapse_zero_of_settled settled
  | @sweep swept after front back sweeper closed stands due _ ih =>
    have listed : sweeper ∈ swept.sweepers :=
      stands ▸ List.mem_append_right front List.mem_cons_self
    have caught : (front ++ sweeper.ticked :: back).map (Sweeper.caughtUp swept.pairing.clock) =
        swept.sweepers.map (Sweeper.caughtUp swept.pairing.clock) := by
      rw [stands, List.map_append, List.map_append, List.map_cons, List.map_cons,
        Sweeper.caughtUp_ticked due]
    rw [elapse_zero_of_swept rfl] at ih
    obtain ⟨rfl, rfl⟩ := Prod.mk.inj ih
    rw [elapse_zero_of_due listed due, List.append_nil]
    exact congrArg (fun sweepers => (_, SweptPairing.mk _ sweepers _)) caught.symm

/-- For how long sweeps have been due, counted from each one to the clock. -/
def backlog (clock : Nat) : List Sweeper → Nat
  | [] => 0
  | sweeper :: sweepers => (clock + 1 - sweeper.due) + backlog clock sweepers

theorem backlog_append (clock : Nat) (front back : List Sweeper) :
    backlog clock (front ++ back) = backlog clock front + backlog clock back := by
  induction front with
  | nil => rw [List.nil_append, backlog, Nat.zero_add]
  | cons sweeper front ih => rw [List.cons_append, backlog, backlog, ih, Nat.add_assoc]

/-- Missed sweeps can be made up for, since each takes some of the backlog away. -/
theorem exists_makesUp (timely : ∀ sweeper ∈ swept.sweepers, 0 < sweeper.interval) :
    ∃ closed after, MakesUp swept closed after := by
  induction size : backlog swept.pairing.clock swept.sweepers using Nat.strongRecOn
    generalizing swept with
  | ind left ih =>
    by_cases settled : ∀ sweeper ∈ swept.sweepers, swept.pairing.clock < sweeper.due
    · exact ⟨[], swept, .rest settled⟩
    · simp only [not_forall, Nat.not_lt] at settled
      obtain ⟨sweeper, listed, due⟩ := settled
      obtain ⟨front, back, stands⟩ := List.append_of_mem listed
      have positive := timely sweeper listed
      let next : SweptPairing := { swept with
        pairing := swept.pairing.sweep.2, sweepers := front ++ sweeper.ticked :: back }
      have fewer : backlog next.pairing.clock next.sweepers < left := by
        simp only [← size, next, stands, backlog_append, backlog, Pairing.sweep, Sweeper.ticked]
        omega
      have stillTimely : ∀ each ∈ next.sweepers, 0 < each.interval := by
        intro each among
        obtain early | rfl | late := List.mem_append.mp among |>.imp_right List.mem_cons.mp
        · exact timely each (stands ▸ List.mem_append_left _ early)
        · exact positive
        · exact timely each (stands ▸ List.mem_append_right front (List.mem_cons_of_mem _ late))
      obtain ⟨closed, after, others⟩ := ih _ fewer stillTimely rfl
      exact ⟨_, _, .sweep stands due others⟩

theorem makesUp_iff (milliseconds : Nat)
    (timely : ∀ sweeper ∈ swept.sweepers, 0 < sweeper.interval) :
    MakesUp (swept.later milliseconds) closed after ↔
      swept.elapse milliseconds = (closed, after) := by
  have whole : (swept.later milliseconds).elapse 0 = swept.elapse milliseconds := rfl
  constructor
  · intro makesUp
    exact whole ▸ makesUp.elapse_zero
  · intro same
    have ends : ∃ others left, MakesUp (swept.later milliseconds) others left :=
      exists_makesUp timely
    obtain ⟨others, left, makesUp⟩ := ends
    obtain ⟨rfl, rfl⟩ := Prod.mk.inj ((makesUp.elapse_zero.symm.trans whole).trans same)
    exact makesUp

theorem sweepers_elapse (milliseconds : Nat) (swept : SweptPairing) :
    (swept.elapse milliseconds).2.sweepers =
      swept.sweepers.map (Sweeper.caughtUp (swept.pairing.clock + milliseconds)) := by
  simp only [elapse]
  split <;> rfl

/-- No sweeper is at work without a pause. -/
def IsTimely (swept : SweptPairing) : Prop := ∀ sweeper ∈ swept.sweepers, 0 < sweeper.interval

theorem IsTimely.react (timely : swept.IsTimely) {event : PairingEvent}
    (positive : ∀ interval, event = .start interval → 0 < interval) :
    (swept.react event).2.IsTimely := by
  cases event with
  | offer | sweep => exact timely
  | stop => exact nofun
  | elapse milliseconds =>
    intro sweeper listed
    rw [SweptPairing.react, sweepers_elapse] at listed
    obtain ⟨earlier, stood, rfl⟩ := List.mem_map.mp listed
    rw [Sweeper.interval_caughtUp]
    exact timely earlier stood
  | start interval =>
    simp only [SweptPairing.react, start]
    split
    · exact timely
    · intro sweeper listed
      obtain stood | rfl := List.mem_append.mp listed |>.imp_right List.mem_singleton.mp
      · exact timely sweeper stood
      · exact positive interval rfl

theorem IsTimely.run (events : List PairingEvent) (timely : swept.IsTimely)
    (positive : ∀ interval, .start interval ∈ events → 0 < interval) :
    (run events swept).2.IsTimely := by
  apply run_induction IsTimely events timely
  intro current event listed timely
  exact timely.react fun interval same => positive interval (same ▸ listed)

end SweptPairing

/-! ## How long a half waits -/

theorem PairingEvent.since_of_mem_arrival {half : Half} {clock : Nat} {event : PairingEvent}
    (came : half ∈ event.arrival clock) : half.since = clock := by
  cases event with
  | offer label direction ip =>
    obtain rfl := List.mem_singleton.mp came
    rfl
  | _ => cases came

/-- How a sweeper that has been at work since `start` stands to the time and to what waits. -/
structure Sweeper.Watches (start : Nat) (pairing : Pairing) (sweeper : Sweeper) : Prop where
  ahead : pairing.clock < sweeper.due
  near : sweeper.due ≤ pairing.clock + sweeper.interval
  bounds : ∀ half ∈ pairing.waiting, start ≤ half.since →
    sweeper.due ≤ half.since + (pairing.window + sweeper.interval)

namespace SweptPairing

variable {swept : SweptPairing} {start interval : Nat} {sweeper : Sweeper}

/-- What waits after an event waited before, or it came with the event. -/
theorem waited_or_came {half : Half} {event : PairingEvent} (apart : swept.pairing.IsApart)
    (waits : half ∈ (swept.react event).2.pairing.waiting) :
    half ∈ swept.pairing.waiting ∨ half.since = swept.pairing.clock := by
  have conserved := (balances_react event apart).conserved
  obtain came | waited := List.mem_append.mp
    (conserved.mem_iff.mpr (List.mem_append_left _ waits))
  · exact .inr (PairingEvent.since_of_mem_arrival came)
  · exact .inl waited

/-- Nothing is closed but what a sweep that was due has found too late. -/
theorem closed_eq_nil_of_early {milliseconds : Nat}
    (early : ¬ ∃ sweeper ∈ swept.sweepers, sweeper.due ≤ swept.pairing.clock + milliseconds) :
    (swept.react (.elapse milliseconds)).1.closed = [] := by
  have none : swept.sweepers.any (·.due ≤ swept.pairing.clock + milliseconds) = false := by
    simpa only [List.any_eq_false, decide_eq_true_eq, not_exists, not_and] using early
  simp only [react, elapse, none, Bool.false_eq_true, ↓reduceIte]

/-- While no time passes, a half that comes does not come too early for the next sweep. -/
theorem watches_react_of_still {event : PairingEvent} (watches : sweeper.Watches start swept.pairing)
    (apart : swept.pairing.IsApart) (still : event.duration = 0) :
    sweeper.Watches start (swept.react event).2.pairing := by
  obtain ⟨clock, window⟩ := timing_react event swept
  rw [still, Nat.add_zero] at clock
  refine ⟨clock ▸ watches.ahead, clock ▸ watches.near, ?_⟩
  intro half waits recent
  rw [window]
  obtain waited | came := waited_or_came apart waits
  · exact watches.bounds half waited recent
  · have near := watches.near
    omega

/-- Either the sweeper was not due, or it has swept, and what is left came within the window. -/
theorem watches_elapse (milliseconds : Nat) (listed : sweeper ∈ swept.sweepers)
    (positive : 0 < sweeper.interval) (watches : sweeper.Watches start swept.pairing)
    (apart : swept.pairing.IsApart) :
    (sweeper.caughtUp (swept.pairing.clock + milliseconds)).Watches start
      (swept.react (.elapse milliseconds)).2.pairing := by
  obtain ⟨clock, window⟩ := timing_react (.elapse milliseconds) swept
  have bounds := watches.bounds
  by_cases early : swept.pairing.clock + milliseconds < sweeper.due
  · rw [Sweeper.caughtUp_of_lt early]
    refine ⟨clock ▸ early, ?_, ?_⟩
    · have near := watches.near
      rw [clock, PairingEvent.duration]
      omega
    · intro half waits recent
      rw [window]
      obtain waited | came := waited_or_came apart waits
      · exact bounds half waited recent
      · have near := watches.near
        omega
  · have late := Nat.le_of_not_lt early
    have swept := isSwept_elapse ⟨sweeper, listed, late⟩
    have near := Sweeper.due_caughtUp_le late
    refine ⟨clock ▸ Sweeper.lt_due_caughtUp positive, ?_, ?_⟩
    · rw [clock, Sweeper.interval_caughtUp]
      exact near
    · intro half waits _
      obtain ⟨_, inTime⟩ := (swept.keeps half).mp waits
      rw [window, Sweeper.interval_caughtUp]
      omega

/-- One of the sweepers has this interval and has been at work since `start`. -/
def IsWatched (start interval : Nat) (swept : SweptPairing) : Prop :=
  ∃ sweeper ∈ swept.sweepers, sweeper.interval = interval ∧ sweeper.Watches start swept.pairing

theorem isWatched_start (positive : 0 < interval) (goes : swept.isStopped = false) :
    IsWatched (swept.start interval).pairing.clock interval (swept.start interval) := by
  have started : swept.start interval = { swept with
      sweepers := swept.sweepers ++ [⟨interval, swept.pairing.clock + interval⟩] } := by
    rw [SweptPairing.start, goes]
    rfl
  rw [started]
  refine ⟨_, List.mem_append_right _ (List.mem_singleton_self _), rfl, ?_, ?_, ?_⟩
  · exact Nat.lt_add_of_pos_right positive
  · exact Nat.le_refl _
  · intro half waits recent
    dsimp only at recent ⊢
    omega

theorem IsWatched.react {event : PairingEvent} (watched : IsWatched start interval swept)
    (positive : 0 < interval) (apart : swept.pairing.IsApart) (goes : event ≠ .stop) :
    IsWatched start interval (swept.react event).2 := by
  obtain ⟨sweeper, listed, rfl, watches⟩ := watched
  cases event with
  | offer | sweep => exact ⟨sweeper, listed, rfl, watches_react_of_still watches apart rfl⟩
  | stop => exact absurd rfl goes
  | start other =>
    refine ⟨sweeper, ?_, rfl, watches_react_of_still watches apart rfl⟩
    simp only [SweptPairing.react, SweptPairing.start]
    split
    · exact listed
    · exact List.mem_append_left _ listed
  | elapse milliseconds =>
    refine ⟨_, ?_, Sweeper.interval_caughtUp _ sweeper,
      watches_elapse milliseconds listed positive watches apart⟩
    rw [SweptPairing.react, sweepers_elapse]
    exact List.mem_map_of_mem listed

theorem IsWatched.run (events : List PairingEvent) (watched : IsWatched start interval swept)
    (positive : 0 < interval) (apart : swept.pairing.IsApart) (goes : .stop ∉ events) :
    IsWatched start interval (run events swept).2 := by
  -- That no half waits twice is kept along with it, since an event is looked at by what it conserves.
  have both := run_induction (fun swept => IsWatched start interval swept ∧ swept.pairing.IsApart)
    events ⟨watched, apart⟩
  refine (both ?_).1
  rintro current event listed ⟨watched, apart⟩
  have goesOn : event ≠ .stop := fun same => goes (same ▸ listed)
  exact ⟨watched.react positive apart goesOn, (balances_react event apart).apart⟩

/-! ## What sweepers close -/

/-- A half that sweepers have closed, and when. -/
structure Eviction where
  half : Half
  time : Nat
deriving DecidableEq, Repr

/-- What sweepers close while the time passes. -/
def evicted (event : PairingEvent) (swept : SweptPairing) : List Eviction :=
  match event with
  | .elapse milliseconds => (swept.react event).1.closed.map
      fun half => ⟨half, swept.pairing.clock + milliseconds⟩
  | _ => []

/-- All that sweepers close in the course of events. -/
def evictions : List PairingEvent → SweptPairing → List Eviction
  | [], _ => []
  | event :: events, swept => evicted event swept ++ evictions events (swept.react event).2

theorem lt_time_of_mem_evicted {event : PairingEvent} {eviction : Eviction}
    (listed : eviction ∈ evicted event swept) :
    eviction.half.since + swept.pairing.window < eviction.time := by
  cases event with
  | elapse milliseconds =>
    obtain ⟨half, closed, rfl⟩ := List.mem_map.mp listed
    by_cases due : ∃ sweeper ∈ swept.sweepers, sweeper.due ≤ swept.pairing.clock + milliseconds
    · obtain ⟨_, late⟩ := ((isSwept_elapse due).closes half).mp closed
      dsimp only
      omega
    · rw [closed_eq_nil_of_early due] at closed
      cases closed
  | _ => cases listed

theorem lt_time_of_mem_evictions {eviction : Eviction} (events : List PairingEvent)
    (listed : eviction ∈ evictions events swept) :
    eviction.half.since + swept.pairing.window < eviction.time := by
  induction events generalizing swept with
  | nil => cases listed
  | cons event events ih =>
    obtain now | later := List.mem_append.mp listed
    · exact lt_time_of_mem_evicted now
    · exact (timing_react event swept).2 ▸ ih later

/-- Nothing sweeps any more, nor will anything that is started later. -/
structure IsHalted (swept : SweptPairing) : Prop where
  sweepers : swept.sweepers = []
  stopped : swept.isStopped = true

theorem IsHalted.react (halted : swept.IsHalted) (event : PairingEvent) :
    (swept.react event).2.IsHalted := by
  cases event with
  | offer | sweep => exact ⟨halted.sweepers, halted.stopped⟩
  | stop => exact ⟨rfl, rfl⟩
  | start interval =>
    rw [SweptPairing.react, start, if_pos halted.stopped]
    exact halted
  | elapse milliseconds =>
    refine ⟨?_, ?_⟩
    · rw [SweptPairing.react, sweepers_elapse, halted.sweepers, List.map_nil]
    · simp only [SweptPairing.react, elapse]
      split
      · exact halted.stopped
      · exact halted.stopped

theorem IsHalted.evictions_eq_nil (events : List PairingEvent) (halted : swept.IsHalted) :
    evictions events swept = [] := by
  induction events generalizing swept with
  | nil => rfl
  | cons event events ih =>
    rw [evictions, ih (halted.react event), List.append_nil]
    cases event with
    | elapse milliseconds =>
      have nobody : ¬ ∃ sweeper ∈ swept.sweepers,
          sweeper.due ≤ swept.pairing.clock + milliseconds := by
        rw [halted.sweepers]
        exact nofun
      rw [evicted, closed_eq_nil_of_early nobody, List.map_nil]
    | _ => rfl

theorem isStopped_react {event : PairingEvent} (goes : event ≠ .stop) :
    (swept.react event).2.isStopped = swept.isStopped := by
  cases event with
  | offer | sweep => rfl
  | stop => exact absurd rfl goes
  | start interval => simp only [react, start]; split <;> rfl
  | elapse milliseconds => simp only [react, elapse]; split <;> rfl

theorem isStopped_run (events : List PairingEvent) (goes : .stop ∉ events) :
    (run events swept).2.isStopped = swept.isStopped := by
  apply run_induction (·.isStopped = swept.isStopped) events rfl
  intro current event listed same
  have goesOn : event ≠ .stop := fun stops => goes (stops ▸ listed)
  exact (isStopped_react goesOn).trans same

theorem clock_le_of_mem_arrivals {half : Half} (events : List PairingEvent)
    (came : half ∈ arrivals events swept) : swept.pairing.clock ≤ half.since := by
  induction events generalizing swept with
  | nil => cases came
  | cons event events ih =>
    obtain now | later := List.mem_append.mp came
    · exact Nat.le_of_eq (PairingEvent.since_of_mem_arrival now).symm
    · have clock := (timing_react event swept).1
      have after := ih later
      omega

/-- From when a sweeper starts until it is stopped, a half that has come since waits for less than the
window and an interval together. Sweepers close nothing that is not older than the window, and once
they are stopped they close nothing at all. Where the time has passed several sweeps at once, it comes to
the same to do these one after another in any order. -/
theorem age_lt_of_swept (window interval : Nat) (before events further : List PairingEvent)
    (positive : ∀ each, .start each ∈ before ++ .start interval :: events → 0 < each)
    (running : .stop ∉ before ++ events) :
    let started := (run (before ++ [.start interval]) (fresh window)).2
    let now := (run events started).2
    (∀ half ∈ now.pairing.waiting, half ∈ arrivals events started →
      now.pairing.clock < half.since + (window + interval)) ∧
    (∀ eviction ∈ evictions events started, eviction.half.since + window < eviction.time) ∧
    evictions further (now.react .stop).2 = [] ∧
    ∀ milliseconds closed after, MakesUp (now.later milliseconds) closed after ↔
      now.elapse milliseconds = (closed, after) := by
  intro started now
  obtain ⟨unstopped, goes⟩ := not_or.mp (mt List.mem_append.mpr running)
  have begun : started = (run before (fresh window)).2.start interval :=
    congrArg Prod.snd (run_append before [.start interval] (fresh window))
  have whole : (run (before ++ .start interval :: events) (fresh window)).2 = now := by
    rw [run_append, show now = (run events started).2 from rfl, begun]
    rfl
  have intervalPositive := positive interval (List.mem_append_right before List.mem_cons_self)
  have apart : started.pairing.IsApart := isApart_run _ List.nodup_nil
  have width : started.pairing.window = window := window_run _ (fresh window)
  have watched : IsWatched started.pairing.clock interval now := by
    apply IsWatched.run events _ intervalPositive apart goes
    rw [begun]
    exact isWatched_start intervalPositive (isStopped_run before unstopped)
  have timely : now.IsTimely := whole ▸ IsTimely.run _ nofun positive
  refine ⟨?_, ?_, ?_, ?_⟩
  · intro half waits came
    obtain ⟨sweeper, _, same, watches⟩ := watched
    have bound := watches.bounds half waits (clock_le_of_mem_arrivals events came)
    have ahead := watches.ahead
    rw [same, (window_run events started).trans width] at bound
    exact Nat.lt_of_lt_of_le ahead bound
  · intro eviction listed
    exact width ▸ lt_time_of_mem_evictions events listed
  · exact IsHalted.evictions_eq_nil further ⟨rfl, rfl⟩
  · intro milliseconds closed after
    exact makesUp_iff milliseconds timely

/-- A half that comes when the time to the next sweep is just the window. -/
def unlucky : List PairingEvent :=
  [.elapse 5000, .offer "up" .read (.v4 ⟨10, 0, 0, 1⟩), .elapse 5000, .elapse 9999]

/-- It is left by that sweep and waits for another interval but a millisecond. If the time then passes
three more sweeps, the first of these closes it. -/
theorem age_lt_of_swept_unlucky :
    let half : Half := ⟨"up", .v4 ⟨10, 0, 0, 1⟩, .read, 6000⟩
    let started := (run ([.elapse 1000] ++ [.start 10000]) (fresh 5000)).2
    let now := (run unlucky started).2
    half ∈ now.pairing.waiting ∧ now.pairing.clock = half.since + 14999 ∧
      now.pairing.clock < half.since + (5000 + 10000) ∧
      evictions [.elapse 30000] now = [⟨half, 50999⟩] ∧
      MakesUp (now.later 30000) [half] (now.elapse 30000).2 ∧
      evictions [.elapse 30000] (now.react .stop).2 = [] := by
  obtain ⟨bound, _, halted, makesUp⟩ := age_lt_of_swept 5000 10000 [.elapse 1000] unlucky
    [.elapse 30000] (by simp [unlucky]) (by decide)
  refine ⟨by decide, by decide, bound _ (by decide) (by decide), by decide, ?_, halted⟩
  exact (makesUp 30000 _ _).mpr (Prod.ext (by decide) rfl)

end SweptPairing

end SocksGateway
