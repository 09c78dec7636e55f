import SocksGateway.Proofs.Store.Durability
import Mathlib.Data.List.Nodup

/-!
Stores as maps. Each record has a key; what a store says for a key is what was recorded for it last,
however often something else was recorded, refused or not written in between.
-/

set_option autoImplicit false

namespace SocksGateway

namespace StoreStep

variable {kind : StoreKind} {store : Store kind.Record} {ε : Type}

/-- What the operations of a run bring, of which each may bring something with its outcome. -/
def collect (brings : {β : Type} → StoreOperation kind β → Except Failure β → List ε) :
    List (StoreStep kind) → Store kind.Record → List ε
  | [], _ => []
  | operate obstacle operation :: rest, store =>
    let (answer, after) := store.attempt obstacle operation.action
    brings operation answer ++ collect brings rest after
  | reopen :: rest, store => collect brings rest (store.perform Store.reopen).2

/-- What each operation leaves true of the records and of what was brought so far, a run leaves true. -/
theorem run_invariant {brings : {β : Type} → StoreOperation kind β → Except Failure β → List ε}
    (property : List kind.Record → List ε → Prop)
    (step : ∀ (store : Store kind.Record) (brought : List ε), property store.records brought →
      ∀ {β : Type} (obstacle : Option IoError) (operation : StoreOperation kind β),
        property (store.attempt obstacle operation.action).2.records
          (brought ++ brings operation (store.attempt obstacle operation.action).1))
    (opened : store.IsOpen) (first : property store.records []) (steps : List (StoreStep kind)) :
    property (run steps store).2.records (collect brings steps store) := by
  -- The induction on the steps needs what was brought before them.
  have onward (store : Store kind.Record) (brought : List ε) (opened : store.IsOpen)
      (before : property store.records brought) :
      property (run steps store).2.records (brought ++ collect brings steps store) := by
    induction steps generalizing store brought with
    | nil => rwa [collect, List.append_nil]
    | cons head rest ih =>
      cases head with
      | operate obstacle operation =>
        have next := ih _ _ (opened.attempt operation.settles obstacle)
          (step store brought before obstacle operation)
        rwa [List.append_assoc] at next
      | reopen =>
        rw [run, collect, opened.perform_reopen]
        exact ih store brought opened before
  exact onward store [] opened first

end StoreStep

/-- The keys and values of records, and what an operation with this outcome records for which key: a
value, or that there is none any more. -/
structure Ledger (kind : StoreKind) (κ ν : Type) where
  key : kind.Record → κ
  value : kind.Record → ν
  entries : {β : Type} → StoreOperation kind β → Except Failure β → List (κ × Option ν)

namespace Ledger

variable {kind : StoreKind} {κ ν : Type}

section

variable {ledger : Ledger kind κ ν} {records first last : List kind.Record} {record : kind.Record}

/-- No two records have one key. -/
def IsUnique (ledger : Ledger kind κ ν) (records : List kind.Record) : Prop :=
  (records.map ledger.key).Nodup

/-- Keys are unique where one record has a key of its own and the others have unique keys. -/
theorem isUnique_insert_iff : ledger.IsUnique (first ++ record :: last) ↔
    (∀ other ∈ first ++ last, ledger.key other ≠ ledger.key record) ∧
      ledger.IsUnique (first ++ last) := by
  unfold IsUnique
  rw [List.map_append, List.map_cons, List.nodup_middle, ← List.map_append, List.nodup_cons]
  simp only [List.mem_map, not_exists, not_and, ne_eq]

theorem IsUnique.split (unique : ledger.IsUnique records) (listed : record ∈ records) :
    ∃ first last, records = first ++ record :: last ∧
      ∀ other ∈ first ++ last, ledger.key other ≠ ledger.key record := by
  obtain ⟨first, last, rfl⟩ := List.append_of_mem listed
  exact ⟨first, last, rfl, (isUnique_insert_iff.mp unique).1⟩

end

variable [DecidableEq κ]

/-- What the last entry for a key says, or what there was at first. -/
def standing (initial : κ → Option ν) (entries : List (κ × Option ν)) (key : κ) : Option ν :=
  match (entries.filter fun entry => decide (entry.1 = key)).getLast? with
  | some entry => entry.2
  | none => initial key

variable {initial : κ → Option ν}

theorem standing_append (earlier later : List (κ × Option ν)) :
    standing initial (earlier ++ later) = standing (standing initial earlier) later := by
  funext key
  unfold standing
  rw [List.filter_append, List.getLast?_append]
  cases (later.filter fun entry => decide (entry.1 = key)).getLast? with
  | none => rfl
  | some entry => rfl

@[simp] theorem standing_singleton (key other : κ) (value : Option ν) :
    standing initial [(key, value)] other = if key = other then value else initial other := by
  by_cases same : key = other
  · simp only [standing, List.filter_cons, same, decide_true, if_true, List.filter_nil,
      List.getLast?_singleton]
  · simp only [standing, List.filter_cons, same, decide_false, Bool.false_eq_true, if_false,
      List.filter_nil, List.getLast?_nil]

theorem standing_of_forall_ne {entries : List (κ × Option ν)} {key : κ}
    (others : ∀ entry ∈ entries, entry.1 ≠ key) : standing initial entries key = initial key := by
  have none : (entries.filter fun entry => decide (entry.1 = key)) = [] := by
    simp only [List.filter_eq_nil_iff, decide_eq_true_eq]
    exact others
  rw [standing, none]
  rfl

variable {ledger : Ledger kind κ ν} {records first last : List kind.Record} {record : kind.Record}

/-- The value of the first record with the key. -/
def valueAt (ledger : Ledger kind κ ν) (records : List kind.Record) (key : κ) : Option ν :=
  (records.find? fun record => decide (ledger.key record = key)).map ledger.value

theorem valueAt_eq_none_iff {key : κ} :
    ledger.valueAt records key = none ↔ ∀ record ∈ records, ledger.key record ≠ key := by
  simp only [valueAt, Option.map_eq_none_iff, List.find?_eq_none, decide_eq_true_eq, ne_eq]

/-- A record with a key of its own adds its value to those of the others. -/
theorem valueAt_insert (alone : ∀ other ∈ first ++ last, ledger.key other ≠ ledger.key record)
    (key : κ) : ledger.valueAt (first ++ record :: last) key =
      if ledger.key record = key then some (ledger.value record)
      else ledger.valueAt (first ++ last) key := by
  unfold valueAt
  rw [List.find?_append, List.find?_append, List.find?_cons]
  by_cases same : ledger.key record = key
  · have before : first.find? (fun other => decide (ledger.key other = key)) = none := by
      simp only [List.find?_eq_none, decide_eq_true_eq]
      exact fun other listed => same ▸ alone other (List.mem_append_left _ listed)
    rw [before, decide_eq_true same, if_pos same]
    rfl
  · rw [decide_eq_false same, if_neg same]

/-- Without the records of one key, its value is gone and the others are left. -/
theorem valueAt_filter {keeps : kind.Record → Bool} {gone : κ}
    (others : ∀ record, keeps record = true ↔ ledger.key record ≠ gone) (key : κ) :
    ledger.valueAt (records.filter keeps) key =
      if gone = key then none else ledger.valueAt records key := by
  split
  · rename_i same
    refine valueAt_eq_none_iff.mpr fun record listed => ?_
    exact same ▸ (others record).mp (List.mem_filter.mp listed).2
  · rename_i different
    have passes : (fun record => decide (keeps record = true ∧ decide (ledger.key record = key) = true)) =
        fun record => decide (ledger.key record = key) := by
      funext record
      rw [Bool.eq_iff_iff, decide_eq_true_eq, decide_eq_true_eq, others, and_iff_right_iff_imp]
      exact fun found lost => different (lost.symm.trans found)
    rw [valueAt, List.find?_filter, passes, valueAt]

/-- Whatever is done, unique keys stay so, and the records have what was recorded. -/
def IsKept (ledger : Ledger kind κ ν) : Prop :=
  ∀ store : Store kind.Record, ledger.IsUnique store.records →
    ∀ {β : Type} (obstacle : Option IoError) (operation : StoreOperation kind β),
      ledger.IsUnique (store.attempt obstacle operation.action).2.records ∧
        ledger.valueAt (store.attempt obstacle operation.action).2.records =
          standing (ledger.valueAt store.records)
            (ledger.entries operation (store.attempt obstacle operation.action).1)

/-- After any run, the store has for each key what was recorded last. -/
theorem IsKept.run (kept : ledger.IsKept) {store : Store kind.Record} (opened : store.IsOpen)
    (unique : ledger.IsUnique store.records) (steps : List (StoreStep kind)) :
    ledger.IsUnique (StoreStep.run steps store).2.records ∧
      ledger.valueAt (StoreStep.run steps store).2.records =
        standing (ledger.valueAt store.records) (StoreStep.collect ledger.entries steps store) := by
  refine StoreStep.run_invariant
    (fun records entries => ledger.IsUnique records ∧
      ledger.valueAt records = standing (ledger.valueAt store.records) entries)
    ?_ opened ⟨unique, rfl⟩ steps
  intro current entries held _ obstacle operation
  obtain ⟨unique, values⟩ := kept current held.1 obstacle operation
  exact ⟨unique, by rw [values, held.2, standing_append]⟩

end Ledger

end SocksGateway
