import Mathlib.Data.List.Nodup
import SocksGateway.Proofs.Socks5.Gate

/-!
The selection of a method among authenticators in any order and number: what is offered has every
method once, by its earliest authenticator, and the least that a client shares with it is selected.
-/

set_option autoImplicit false

namespace SocksGateway.Socks5

namespace Authenticator

variable {registered : List Authenticator} {allowed offered : Bytes} {authenticator : Authenticator}

/-- Of the registered authenticators that have its method, it stands first. -/
def IsEarliest (registered : List Authenticator) (authenticator : Authenticator) : Prop :=
  ∃ before after, registered = before ++ authenticator :: after ∧
    ∀ other ∈ before, other.method ≠ authenticator.method

theorem isEarliest_iff :
    authenticator.IsEarliest registered ↔
      registered.find? (·.method = authenticator.method) = some authenticator := by
  simp only [List.find?_eq_some_iff_append, IsEarliest, decide_true, true_and,
    Bool.not_eq_true', decide_eq_false_iff_not, ne_eq]

/-- Where those of one method stand together in their order, no method is left twice. -/
theorem distinct_pairwise {given : List Authenticator}
    (sorted : given.Pairwise fun first second => first.method ≤ second.method) :
    (offering.distinct given).Pairwise fun first second => first.method < second.method := by
  induction given with
  | nil => exact .nil
  | cons first rest ih =>
    obtain ⟨least, sorted⟩ := List.pairwise_cons.mp sorted
    have strict := ih sorted
    unfold offering.distinct
    split
    · exact List.pairwise_singleton _ _
    · rename_i second others kept
      rw [kept] at strict
      obtain ⟨above, strict⟩ := List.pairwise_cons.mp strict
      split
      · rename_i same
        refine .cons ?_ strict
        intro other later
        rw [same]
        exact above other later
      · rename_i different
        have inside : second ∈ rest := by
          apply (distinct_sublist rest).subset
          rw [kept]
          exact List.mem_cons_self
        have below : first.method < second.method :=
          UInt8.lt_of_le_of_ne (least second inside) different
        refine .cons ?_ (.cons above strict)
        intro other later
        rcases List.mem_cons.mp later with rfl | later
        · exact below
        · exact UInt8.lt_trans below (above other later)

/-- What is dropped stands behind another of its method. -/
theorem find?_distinct (given : List Authenticator) (method : UInt8) :
    (offering.distinct given).find? (·.method = method) = given.find? (·.method = method) := by
  induction given with
  | nil => rfl
  | cons first rest ih =>
    have behind : (first :: rest).find? (·.method = method) =
        (first :: offering.distinct rest).find? (·.method = method) := by
      rw [List.find?_cons, List.find?_cons, ih]
    rw [behind, offering.distinct]
    split
    · rename_i none
      rw [none]
    · rename_i second others kept
      rw [kept]
      split
      · rename_i same
        rw [List.find?_cons, List.find?_cons, List.find?_cons, same]
        split <;> rfl
      · rfl

/-- Sorting by methods is stable, so that those of one method keep their order. -/
theorem filter_mergeSort (given : List Authenticator) (method : UInt8) :
    (given.mergeSort fun first second => first.method ≤ second.method).filter (·.method = method) =
      given.filter (·.method = method) := by
  have alike : (given.filter (·.method = method)).Pairwise
      fun first second => decide (first.method ≤ second.method) = true := by
    apply List.pairwise_of_forall_mem_list
    intro first inside second later
    have same := (List.mem_filter.mp inside).2
    have equal := (List.mem_filter.mp later).2
    rw [decide_eq_true_eq] at same equal ⊢
    exact UInt8.le_of_eq (same.trans equal.symm)
  have kept := (List.sublist_mergeSort method_le_trans method_le_total alike
    List.filter_sublist).filter (·.method = method)
  simp only [List.filter_filter, Bool.and_self] at kept
  exact (kept.eq_of_length ((List.mergeSort_perm given _).filter _).length_eq.symm).symm

/-- What stands for a method that is allowed is what stands first for it among all. -/
theorem find?_offering (registered : List Authenticator) (allowed : Bytes) (method : UInt8) :
    (offering registered allowed).find? (·.method = method) =
      if method ∈ allowed then registered.find? (·.method = method) else .none := by
  unfold offering
  rw [find?_distinct, ← List.head?_filter, filter_mergeSort, List.head?_filter, List.find?_filter]
  split
  · rename_i isAllowed
    congr 1
    funext authenticator
    rw [decide_eq_decide, List.contains_iff_mem, decide_eq_true_eq]
    exact and_iff_right_of_imp fun same => same ▸ isAllowed
  · rename_i isForbidden
    apply List.find?_eq_none.mpr
    intro authenticator _ both
    rw [decide_eq_true_eq, List.contains_iff_mem, decide_eq_true_eq] at both
    exact isForbidden (both.2 ▸ both.1)

theorem offering_strict (registered : List Authenticator) (allowed : Bytes) :
    (offering registered allowed).Pairwise fun first second => first.method < second.method :=
  distinct_pairwise (mergeSort_pairwise _)

theorem ascending_offering (registered : List Authenticator) (allowed : Bytes) :
    ((offering registered allowed).map method).Pairwise (· < ·) :=
  List.pairwise_map.mpr (offering_strict registered allowed)

theorem mem_map_offering_iff {number : UInt8} :
    number ∈ (offering registered allowed).map method ↔
      number ∈ registered.map method ∧ number ∈ allowed := by
  constructor
  · intro inside
    obtain ⟨authenticator, member, rfl⟩ := List.mem_map.mp inside
    obtain ⟨isRegistered, isAllowed⟩ := mem_offering member
    exact ⟨List.mem_map_of_mem isRegistered, isAllowed⟩
  · rintro ⟨inside, isAllowed⟩
    obtain ⟨authenticator, member, rfl⟩ := List.mem_map.mp inside
    obtain ⟨kept, present, same⟩ := exists_mem_offering member isAllowed
    exact List.mem_map.mpr ⟨kept, present, same⟩

/-- No two that are offered have the same method. -/
theorem eq_of_mem_offering {other : Authenticator}
    (member : authenticator ∈ offering registered allowed)
    (another : other ∈ offering registered allowed) (same : authenticator.method = other.method) :
    authenticator = other := by
  have distinct : ((offering registered allowed).map method).Nodup :=
    (ascending_offering registered allowed).imp UInt8.ne_of_lt
  exact List.inj_on_of_nodup_map distinct member another same

theorem mem_offering_iff :
    authenticator ∈ offering registered allowed ↔
      authenticator.IsEarliest registered ∧ authenticator.method ∈ allowed := by
  rw [isEarliest_iff]
  constructor
  · intro member
    have isAllowed := (mem_offering member).2
    refine ⟨?_, isAllowed⟩
    have same := find?_offering registered allowed authenticator.method
    rw [if_pos isAllowed] at same
    rw [← same]
    cases found : (offering registered allowed).find? (·.method = authenticator.method) with
    | none =>
      exact absurd (decide_eq_true rfl) (List.find?_eq_none.mp found authenticator member)
    | some other =>
      have equal := List.find?_some found
      rw [decide_eq_true_eq] at equal
      rw [eq_of_mem_offering (List.mem_of_find?_eq_some found) member equal]
  · rintro ⟨earliest, isAllowed⟩
    apply List.mem_of_find?_eq_some
    rw [find?_offering, if_pos isAllowed, earliest]

/-- Only what is in the two lists counts, not in which order or how often. -/
theorem offering_congr {permitted : Bytes} (same : ∀ method, method ∈ permitted ↔ method ∈ allowed) :
    offering registered permitted = offering registered allowed := by
  unfold offering
  congr 3
  funext authenticator
  rw [Bool.eq_iff_iff, List.contains_iff_mem, List.contains_iff_mem, same]

theorem select_congr {wanted : Bytes} (same : ∀ method, method ∈ wanted ↔ method ∈ offered) :
    select registered wanted = select registered offered := by
  unfold select
  congr 1
  funext authenticator
  rw [Bool.eq_iff_iff, List.contains_iff_mem, List.contains_iff_mem, same]

theorem select_offering_eq_some_iff :
    select (offering registered allowed) offered = some authenticator ↔
      authenticator.IsEarliest registered ∧ Selected registered allowed offered authenticator := by
  constructor
  · intro selected
    exact ⟨(mem_offering_iff.mp (List.mem_of_find?_eq_some selected)).1, selected_of_select selected⟩
  · rintro ⟨earliest, selected⟩
    obtain ⟨found, isSelected, same⟩ := exists_select_of_selected selected
    have member := mem_offering_iff.mpr ⟨earliest, selected.isAllowed⟩
    rw [isSelected, eq_of_mem_offering (List.mem_of_find?_eq_some isSelected) member same]

theorem select_offering_eq_none_iff :
    select (offering registered allowed) offered = Option.none ↔
      ∀ authenticator ∈ registered, authenticator.method ∈ allowed →
        authenticator.method ∉ offered := by
  constructor
  · intro missing authenticator member isAllowed
    exact not_offered_of_select missing member isAllowed
  · intro unacceptable
    cases selected : select (offering registered allowed) offered with
    | none => rfl
    | some authenticator =>
      obtain ⟨member, isAllowed, isOffered, _⟩ := selected_of_select selected
      exact absurd isOffered (unacceptable authenticator member isAllowed)

/-- The methods ascend strictly and are those that are both registered and allowed, each by its
earliest authenticator. Selected is the authenticator of the least method that is offered too, if there
is one. Neither depends on more than the members of the two lists of methods. -/
theorem selects_least_common (registered : List Authenticator) (allowed offered : Bytes) :
    ((offering registered allowed).map method).Pairwise (· < ·) ∧
      (∀ number, number ∈ (offering registered allowed).map method ↔
        number ∈ registered.map method ∧ number ∈ allowed) ∧
      (∀ authenticator, authenticator ∈ offering registered allowed ↔
        authenticator.IsEarliest registered ∧ authenticator.method ∈ allowed) ∧
      (∀ authenticator, select (offering registered allowed) offered = some authenticator ↔
        authenticator.IsEarliest registered ∧ Selected registered allowed offered authenticator) ∧
      (select (offering registered allowed) offered = Option.none ↔
        ∀ authenticator ∈ registered, authenticator.method ∈ allowed →
          authenticator.method ∉ offered) ∧
      ∀ permitted wanted : Bytes, (∀ method, method ∈ permitted ↔ method ∈ allowed) →
        (∀ method, method ∈ wanted ↔ method ∈ offered) →
          offering registered permitted = offering registered allowed ∧
            select (offering registered permitted) wanted =
              select (offering registered allowed) offered := by
  refine ⟨ascending_offering registered allowed, fun _ => mem_map_offering_iff,
    fun _ => mem_offering_iff, fun _ => select_offering_eq_some_iff, select_offering_eq_none_iff, ?_⟩
  intro permitted wanted samePermitted sameWanted
  have sameOffering : offering registered permitted = offering registered allowed :=
    offering_congr samePermitted
  refine ⟨sameOffering, ?_⟩
  rw [sameOffering, select_congr sameWanted]

/-- A password service that knows one user. -/
def serving (name : String) : Authenticator := .password fun user _ => user == name

/-- Of two password services the one that was registered first is asked. -/
theorem selects_least_common_twoServices :
    (∀ number, number ∈ [0, 2, 2] ↔ number ∈ ([2, 0] : Bytes)) ∧
      (∀ number, number ∈ [2, 2, 1] ↔ number ∈ ([1, 2] : Bytes)) ∧
      select (offering [serving "alice", .none, serving "bob"] [2, 0]) [1, 2] =
        some (serving "alice") ∧
      select (offering [serving "alice", .none, serving "bob"] [0, 2, 2]) [2, 2, 1] =
        some (serving "alice") := by
  have sameAllowed (number : UInt8) : number ∈ [0, 2, 2] ↔ number ∈ ([2, 0] : Bytes) := by
    simp only [List.mem_cons, List.not_mem_nil, or_false, or_self]
    exact or_comm
  have sameOffered (number : UInt8) : number ∈ [2, 2, 1] ↔ number ∈ ([1, 2] : Bytes) := by
    simp only [List.mem_cons, List.not_mem_nil, or_false, or_self_left]
    exact or_comm
  obtain ⟨_, _, _, selected, _, alike⟩ :=
    selects_least_common [serving "alice", .none, serving "bob"] [2, 0] [1, 2]
  have isFirst : select (offering [serving "alice", .none, serving "bob"] [2, 0]) [1, 2] =
      some (serving "alice") := by
    apply (selected (serving "alice")).mpr
    exact ⟨⟨[], _, rfl, nofun⟩, List.mem_cons_self, by decide, by decide, by decide⟩
  refine ⟨sameAllowed, sameOffered, isFirst, ?_⟩
  rw [(alike [0, 2, 2] [2, 2, 1] sameAllowed sameOffered).2, isFirst]

end Authenticator

end SocksGateway.Socks5
