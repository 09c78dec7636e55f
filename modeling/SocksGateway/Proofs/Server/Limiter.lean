import SocksGateway.Server.Limiter
import Mathlib.Data.List.Nodup

/-!
How many connections a limiter serves. Whatever the order in which connections ask to be admitted and
end, those that it serves and those for which it has room make up its limit.
-/

set_option autoImplicit false

namespace SocksGateway

/-- What happens at a limiter. -/
inductive AdmissionEvent where
  /-- A connection asks to be admitted, under this name. -/
  | grant (name : Nat)
  /-- The connection of this name ends. -/
  | release (name : Nat)
deriving DecidableEq, Repr, Inhabited

namespace Limiter

variable {limiter : Limiter}

theorem isUnlimited_iff : limiter.isUnlimited = true ↔ limiter.limit = 0 := beq_iff_eq

/-- A connection is admitted exactly if there is no limit or fewer are served than it allows. -/
theorem grant?_of_room (room : limiter.limit = 0 ∨ limiter.served < limiter.limit) :
    limiter.grant? = some { limiter with served := limiter.served + 1 } := by
  rw [grant?, if_pos (room.imp_left isUnlimited_iff.mpr)]

theorem grant?_of_full (limited : limiter.limit ≠ 0) (full : limiter.limit ≤ limiter.served) :
    limiter.grant? = none := by
  rw [grant?, if_neg]
  rintro (none | room)
  · exact limited (isUnlimited_iff.mp none)
  · omega

theorem available_of_limited (limited : limiter.limit ≠ 0) :
    limiter.available = some (limiter.limit - limiter.served) := by
  rw [available, if_neg (mt isUnlimited_iff.mp limited)]

theorem available_of_unlimited (unlimited : limiter.limit = 0) : limiter.available = none := by
  rw [available, if_pos (isUnlimited_iff.mpr unlimited)]

end Limiter

namespace Admissions

variable {admissions : Admissions} {name : Nat}

def react (event : AdmissionEvent) (admissions : Admissions) : Bool × Admissions :=
  match event with
  | .grant name => admissions.grant name
  | .release name => admissions.release name

/-- As many connections are served as names are known, each of them once, and no more than the limit. -/
structure IsCounted (limit : Nat) (admissions : Admissions) : Prop where
  bound : admissions.limiter.limit = limit
  served : admissions.limiter.served = admissions.names.length
  distinct : admissions.names.Nodup
  within : limit = 0 ∨ admissions.names.length ≤ limit

theorem release_of_mem (member : name ∈ admissions.names) :
    admissions.release name =
      (true, { limiter := admissions.limiter.release, names := admissions.names.erase name }) := by
  rw [release, if_pos (List.contains_iff_mem.mpr member)]

theorem release_of_not_mem (absent : name ∉ admissions.names) :
    admissions.release name = (false, admissions) := by
  rw [release, if_neg (mt List.contains_iff_mem.mp absent)]

/-- The connections served and the room that is left make up the limit. -/
theorem IsCounted.exists_available {limit : Nat} (counted : admissions.IsCounted limit)
    (limited : 0 < limit) :
    ∃ available, admissions.limiter.available = some available ∧
      admissions.names.length + available = limit := by
  refine ⟨limit - admissions.names.length, ?_, ?_⟩
  · rw [Limiter.available_of_limited (by rw [counted.bound]; omega), counted.bound, counted.served]
  · have within := counted.within
    omega

/-- The end of a connection makes room for one. -/
theorem IsCounted.release {limit : Nat} (counted : admissions.IsCounted limit)
    (member : name ∈ admissions.names) :
    (admissions.release name).2.IsCounted limit ∧
      (admissions.release name).2.names.length + 1 = admissions.names.length := by
  have one := List.length_erase_add_one member
  rw [release_of_mem member]
  refine ⟨⟨counted.bound, ?_, counted.distinct.erase name, ?_⟩, one⟩
  · simp only [Limiter.release, counted.served]
    omega
  · refine counted.within.imp_right fun within => ?_
    dsimp only
    omega

/-- One that is refused changes nothing. -/
theorem IsCounted.grant_of_full {limit : Nat} (counted : admissions.IsCounted limit)
    (limited : limit ≠ 0) (full : limit ≤ admissions.names.length) (name : Nat) :
    admissions.grant name = (false, admissions) := by
  have refused : admissions.limiter.grant? = none :=
    Limiter.grant?_of_full (counted.bound.symm ▸ limited)
      (by rw [counted.bound, counted.served]; exact full)
  rw [grant, refused]

/-- One that is admitted takes the place of another one of its name. -/
theorem grant_of_some {limiter : Limiter} (granted : admissions.limiter.grant? = some limiter)
    (name : Nat) :
    admissions.grant name =
      (true, { limiter := if name ∈ admissions.names then limiter.release else limiter
               names := name :: admissions.names.erase name }) := by
  rw [grant, granted]
  dsimp only
  split
  · rename_i member
    have ended : release name { admissions with limiter } =
        (true, { limiter := limiter.release, names := admissions.names.erase name }) :=
      release_of_mem member
    rw [ended]
  · rename_i absent
    have kept : release name { admissions with limiter } = (false, { admissions with limiter }) :=
      release_of_not_mem absent
    rw [kept, List.erase_of_not_mem absent]

theorem IsCounted.grant_of_room {limit : Nat} (counted : admissions.IsCounted limit)
    (room : limit = 0 ∨ admissions.names.length < limit) (name : Nat) :
    ∃ limiter, admissions.grant name =
        (true, { limiter, names := name :: admissions.names.erase name }) ∧
      IsCounted limit { limiter, names := name :: admissions.names.erase name } := by
  have granted : admissions.limiter.grant? =
      some { admissions.limiter with served := admissions.limiter.served + 1 } :=
    Limiter.grant?_of_room (by rw [counted.bound, counted.served]; exact room)
  refine ⟨_, grant_of_some granted name, ?_, ?_, ?_, ?_⟩
  · split <;> exact counted.bound
  · split
    · rename_i member
      have one := List.length_erase_add_one member
      simp only [Limiter.release, counted.served, List.length_cons]
      omega
    · rename_i absent
      simp only [counted.served, List.length_cons, List.erase_of_not_mem absent]
  · exact List.nodup_cons.mpr ⟨counted.distinct.not_mem_erase, counted.distinct.erase name⟩
  · refine room.imp_right fun below => ?_
    have fewer := List.length_erase_le (a := name) (l := admissions.names)
    simp only [List.length_cons]
    omega

end Admissions

/-- Admissions, with how many connections an observer has seen come and go. -/
structure Attendance where
  admissions : Admissions
  /-- How many connections were admitted. -/
  admitted : Nat := 0
  /-- How many of these have ended. -/
  ended : Nat := 0
deriving DecidableEq, Repr, Inhabited

namespace Attendance

variable {limit : Nat} {attendance : Attendance}

/-- Nothing has happened yet at a limiter. -/
def start (limiter : Limiter) : Attendance := { admissions := { limiter } }

def react (attendance : Attendance) (event : AdmissionEvent) : Attendance :=
  let (succeeds, admissions) := attendance.admissions.react event
  match event with
  | .grant name =>
    -- One that is admitted takes the place of another one of its name.
    let replaces := succeeds && attendance.admissions.names.contains name
    { admissions, admitted := attendance.admitted + succeeds.toNat
      ended := attendance.ended + replaces.toNat }
  | .release _ => { attendance with admissions, ended := attendance.ended + succeeds.toNat }

def run (attendance : Attendance) (events : List AdmissionEvent) : Attendance :=
  events.foldl react attendance

/-- Those that were admitted and have not ended are served, and no others. -/
structure IsBalanced (limit : Nat) (attendance : Attendance) : Prop where
  counted : attendance.admissions.IsCounted limit
  balance : attendance.admitted = attendance.ended + attendance.admissions.names.length

theorem isBalanced_react (event : AdmissionEvent) (balanced : attendance.IsBalanced limit) :
    (attendance.react event).IsBalanced limit := by
  obtain ⟨counted, balance⟩ := balanced
  cases event with
  | grant name =>
    by_cases room : limit = 0 ∨ attendance.admissions.names.length < limit
    · obtain ⟨limiter, granted, after⟩ := counted.grant_of_room room name
      simp only [react, Admissions.react, granted]
      refine ⟨after, ?_⟩
      by_cases member : name ∈ attendance.admissions.names
      · have one := List.length_erase_add_one member
        have replaces := List.contains_iff_mem.mpr member
        simp only [replaces, Bool.and_self, Bool.toNat_true, List.length_cons]
        omega
      · have alone : attendance.admissions.names.contains name = false :=
          Bool.eq_false_iff.mpr (mt List.contains_iff_mem.mp member)
        simp only [alone, Bool.and_false, Bool.toNat_true, Bool.toNat_false, List.length_cons,
          List.erase_of_not_mem member]
        omega
    · obtain ⟨limited, full⟩ := not_or.mp room
      simp only [react, Admissions.react, counted.grant_of_full limited (Nat.not_lt.mp full)]
      exact ⟨counted, balance⟩
  | release name =>
    simp only [react, Admissions.react]
    by_cases member : name ∈ attendance.admissions.names
    · obtain ⟨after, one⟩ := counted.release member
      refine ⟨after, ?_⟩
      rw [Admissions.release_of_mem member] at one ⊢
      dsimp only at one
      simp only [Bool.toNat_true]
      omega
    · rw [Admissions.release_of_not_mem member]
      exact ⟨counted, balance⟩

theorem isBalanced_run (events : List AdmissionEvent) (balanced : attendance.IsBalanced limit) :
    (attendance.run events).IsBalanced limit := by
  induction events generalizing attendance with
  | nil => exact balanced
  | cons event events ih => exact ih (isBalanced_react event balanced)

theorem isBalanced_start (limit : Nat) : (start { limit }).IsBalanced limit where
  counted := ⟨rfl, rfl, List.nodup_nil, .inr (Nat.zero_le limit)⟩
  balance := rfl

/-- At every time of every run, the connections served are those that were admitted and have not ended.
With a limit, they and the room that is left make up the limit, one more is admitted exactly if fewer
are served than the limit, one that is refused changes nothing, and each that ends makes room for one.
Without a limit every one is admitted. -/
theorem served_and_available (limit : Nat) (bounded : limit ≤ Limiter.largest)
    (events : List AdmissionEvent) :
    ∃ limiter, Limiter.ofLimit? limit = some limiter ∧
      let now := (start limiter).run events
      let names := now.admissions.names
      names.Nodup ∧ now.admitted = now.ended + names.length ∧
      (0 < limit →
        (∃ available, now.admissions.limiter.available = some available ∧
          names.length + available = limit) ∧
        (∀ name, if names.length < limit then
          (now.admissions.grant name).1 = true ∧
            (now.admissions.grant name).2.names = name :: names.erase name
          else now.admissions.grant name = (false, now.admissions)) ∧
        ∀ name, if name ∈ names then
          (now.admissions.release name).1 = true ∧
            (now.admissions.release name).2.limiter.available =
              now.admissions.limiter.available.map (· + 1)
          else now.admissions.release name = (false, now.admissions)) ∧
      (limit = 0 → now.admissions.limiter.available = none ∧
        ∀ name, (now.admissions.grant name).1 = true) := by
  refine ⟨{ limit }, if_pos bounded, ?_⟩
  intro now names
  obtain ⟨counted, balance⟩ := isBalanced_run events (isBalanced_start limit)
  refine ⟨counted.distinct, balance, ?_, ?_⟩
  · intro limited
    refine ⟨counted.exists_available limited, ?_, ?_⟩
    · intro name
      split
      · rename_i room
        obtain ⟨limiter, granted, -⟩ := counted.grant_of_room (.inr room) name
        rw [granted]
        exact ⟨rfl, rfl⟩
      · rename_i full
        exact counted.grant_of_full (Nat.ne_of_gt limited) (Nat.not_lt.mp full) name
    · intro name
      split
      · rename_i member
        obtain ⟨after, one⟩ := counted.release member
        obtain ⟨before, beforeIs, beforeSum⟩ := counted.exists_available limited
        obtain ⟨later, laterIs, laterSum⟩ := after.exists_available limited
        refine ⟨congrArg Prod.fst (Admissions.release_of_mem member), ?_⟩
        rw [beforeIs, laterIs, Option.map_some, Option.some.injEq]
        omega
      · rename_i absent
        exact Admissions.release_of_not_mem absent
  · intro unlimited
    refine ⟨Limiter.available_of_unlimited (counted.bound.trans unlimited), ?_⟩
    intro name
    obtain ⟨limiter, granted, -⟩ := counted.grant_of_room (.inl unlimited) name
    rw [granted]

/-- Of three connections two are admitted, and when one of them ends there is room for one. -/
theorem served_and_available_crowd :
    let now := (start { limit := 2 }).run [.grant 7, .grant 8, .grant 9, .release 7]
    2 ≤ Limiter.largest ∧ now.admissions.names = [8] ∧ now.admitted = 2 ∧ now.ended = 1 ∧
      now.admissions.limiter.available = some 1 ∧ (now.admissions.grant 9).1 = true := by
  intro now
  obtain ⟨limiter, made, -, -, limited, -⟩ := served_and_available 2 (by decide)
    [.grant 7, .grant 8, .grant 9, .release 7]
  cases made
  obtain ⟨⟨available, room, whole⟩, admits, -⟩ := limited (by decide)
  have names : now.admissions.names = [8] := by decide
  have one : available = 1 := by
    rw [names, List.length_singleton] at whole
    omega
  refine ⟨by decide, names, by decide, by decide, one ▸ room, ?_⟩
  have granted := admits 9
  rw [if_pos (by rw [names]; decide)] at granted
  exact granted.1

end Attendance

end SocksGateway
