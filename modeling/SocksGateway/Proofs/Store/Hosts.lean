import SocksGateway.Proofs.Store.Ledger

/-!
The store of private hosts as a map from names to addresses. All spellings of a name are one key, which
has the addresses that were recorded last, in their order.
-/

set_option autoImplicit false

namespace SocksGateway

theorem sameHost_iff {first second : String} :
    sameHost first second = true ↔ hostKey first = hostKey second :=
  beq_iff_eq

theorem sameHost_eq_false_iff {first second : String} :
    sameHost first second = false ↔ hostKey first ≠ hostKey second :=
  beq_eq_false_iff_ne

/-- Spellings of one host are equivalent. -/
theorem sameHost_equivalence : Equivalence fun first second => sameHost first second = true where
  refl _ := sameHost_iff.mpr rfl
  symm same := sameHost_iff.mpr (sameHost_iff.mp same).symm
  trans first second := sameHost_iff.mpr ((sameHost_iff.mp first).trans (sameHost_iff.mp second))

namespace HostStore

open Store

variable {store : HostStore} {obstacle : Option IoError} {name : String}

/-- What an operation on hosts records: the addresses of a host, or that it is gone. -/
def entries : {β : Type} → StoreOperation .hosts β → Except Failure β →
    List (List Char × Option (List Ip))
  | _, .addHost name addresses, .ok _ => [(hostKey name, some addresses)]
  | _, .removeHost name, .ok true => [(hostKey name, none)]
  | _, _, _ => []

/-- Addresses by the common form of all spellings of a name. -/
def hosts : Ledger .hosts (List Char) (List Ip) where
  key host := hostKey host.name
  value := HostRecord.addresses
  entries := entries

/-- There is a record of the host. -/
def Knows (store : HostStore) (name : String) : Prop :=
  ∃ host ∈ store.records, sameHost host.name name = true

theorem not_knows_iff : ¬ store.Knows name ↔
    ∀ host ∈ store.records, hosts.key host ≠ hostKey name := by
  simp only [Knows, not_exists, not_and, sameHost_iff, hosts, ne_eq]

/-- Its records are replaced by one behind those of the other hosts, or nothing changes. -/
theorem perform_add_cases (store : HostStore) (name : String) (addresses : List Ip) :
    (∃ file, hostKey name ≠ [] ∧ addresses ≠ [] ∧ store.file.obstacle = none ∧
      store.perform (add name addresses) =
        (.ok (), { records := without name store.records ++ [⟨name, addresses⟩], file })) ∨
    ∃ failure, (hostKey name = [] ∨ addresses = [] ∨ store.file.obstacle ≠ none) ∧
      store.perform (add name addresses) = (.error failure, store) := by
  unfold add
  dsimp only
  split
  · rename_i nameless
    exact .inr ⟨_, .inl (List.isEmpty_iff.mp nameless), perform_refuse_bind _ _⟩
  · rename_i named
    split
    · rename_i blank
      exact .inr ⟨_, .inr (.inl (List.isEmpty_iff.mp blank)), perform_refuse_bind _ _⟩
    · rename_i filled
      rw [List.isEmpty_iff] at named filled
      rw [perform_get_bind, perform_commit]
      split
      · rename_i file taken
        exact .inl ⟨file, named, filled, (DataFile.eq_of_write taken).1, rfl⟩
      · rename_i failure failed
        exact .inr ⟨_, .inr (.inr (DataFile.obstacle_of_write failed)), rfl⟩

/-- The records of the other hosts are left, or nothing changes. -/
theorem perform_remove_cases (store : HostStore) (name : String) :
    (∃ file, store.Knows name ∧ store.file.obstacle = none ∧ store.perform (remove name) =
      (.ok true, { records := without name store.records, file })) ∨
    (¬ store.Knows name ∧ store.perform (remove name) = (.ok false, store)) ∨
    ∃ failure, store.Knows name ∧ store.file.obstacle ≠ none ∧
      store.perform (remove name) = (.error failure, store) := by
  have known : (without name store.records).length = store.records.length ↔ ¬ store.Knows name := by
    simp only [without, List.length_filter_eq_length_iff, Bool.not_eq_true', Knows, not_exists,
      not_and, Bool.not_eq_true]
  unfold remove
  rw [perform_get_bind]
  dsimp only
  split
  · rename_i same
    exact .inr (.inl ⟨known.mp same, rfl⟩)
  · rename_i fewer
    rw [known, not_not] at fewer
    rw [perform_commit_bind]
    split
    · rename_i file taken
      exact .inl ⟨file, fewer, (DataFile.eq_of_write taken).1, rfl⟩
    · rename_i failure failed
      exact .inr (.inr ⟨_, fewer, DataFile.obstacle_of_write failed, rfl⟩)

/-- The reasons for which an operation on hosts fails. A name of dots is no name. -/
def MayFail (store : HostStore) (obstacle : Option IoError) :
    {β : Type} → StoreOperation .hosts β → Prop
  | _, .addHost name addresses => hostKey name = [] ∨ addresses = [] ∨ obstacle ≠ none
  | _, .removeHost name => store.Knows name ∧ obstacle ≠ none
  | _, _ => False

/-- What an operation on hosts answers, and the records after it. -/
inductive Effect (store : HostStore) (obstacle : Option IoError) :
    {β : Type} → StoreOperation .hosts β → Except Failure β → List HostRecord → Prop
  | refused {β : Type} {operation : StoreOperation .hosts β} (failure : Failure)
      (reason : store.MayFail obstacle operation) :
      Effect store obstacle operation (.error failure) store.records
  | recorded {name : String} {addresses : List Ip} (named : hostKey name ≠ [])
      (filled : addresses ≠ []) (clear : obstacle = none) :
      Effect store obstacle (.addHost name addresses) (.ok ())
        (without name store.records ++ [⟨name, addresses⟩])
  | removed {name : String} (knows : store.Knows name) (clear : obstacle = none) :
      Effect store obstacle (.removeHost name) (.ok true) (without name store.records)
  | absent {name : String} (unknown : ¬ store.Knows name) :
      Effect store obstacle (.removeHost name) (.ok false) store.records
  | found {name : String} :
      Effect store obstacle (.lookup name) (.ok (store.lookup name)) store.records
  | listed : Effect store obstacle .list (.ok store.records) store.records

theorem effect_attempt (store : HostStore) (obstacle : Option IoError) {β : Type}
    (operation : StoreOperation .hosts β) :
    Effect store obstacle operation (store.attempt obstacle operation.action).1
      (store.attempt obstacle operation.action).2.records := by
  let blocked : HostStore := { store with file := { store.file with obstacle } }
  change Effect store obstacle operation (blocked.perform operation.action).1
    (blocked.perform operation.action).2.records
  cases operation with
  | addHost name addresses =>
    obtain ⟨file, named, filled, clear, done⟩ | ⟨failure, reason, failed⟩ :=
      blocked.perform_add_cases name addresses
    · rw [StoreOperation.action, done]
      exact .recorded named filled clear
    · rw [StoreOperation.action, failed]
      exact .refused failure reason
  | removeHost name =>
    obtain ⟨file, knows, clear, done⟩ | ⟨unknown, same⟩ | ⟨failure, knows, blocks, failed⟩ :=
      blocked.perform_remove_cases name
    · rw [StoreOperation.action, done]
      exact .removed knows clear
    · rw [StoreOperation.action, same]
      exact .absent unknown
    · rw [StoreOperation.action, failed]
      exact .refused failure ⟨knows, blocks⟩
  | lookup name => exact .found
  | list => exact .listed

variable {β : Type} {operation : StoreOperation .hosts β} {answer : Except Failure β}
  {records : List HostRecord}

theorem entries_error (operation : StoreOperation .hosts β) (failure : Failure) :
    hosts.entries operation (.error failure) = [] := by
  cases operation <;> rfl

theorem mem_without {host : HostRecord} :
    host ∈ without name records ↔ host ∈ records ∧ hosts.key host ≠ hostKey name := by
  rw [without, List.mem_filter, Bool.not_eq_true', sameHost_eq_false_iff]
  rfl

theorem valueAt_without (records : List HostRecord) (name : String) (key : List Char) :
    hosts.valueAt (without name records) key =
      if hostKey name = key then none else hosts.valueAt records key := by
  refine Ledger.valueAt_filter (fun host => ?_) key
  rw [Bool.not_eq_true', sameHost_eq_false_iff]
  rfl

theorem Effect.isUnique (effect : Effect store obstacle operation answer records)
    (unique : hosts.IsUnique store.records) : hosts.IsUnique records := by
  have kept (name : String) : hosts.IsUnique (without name store.records) :=
    unique.sublist (List.filter_sublist.map _)
  cases effect with
  | @recorded name addresses =>
    refine Ledger.isUnique_insert_iff.mpr ?_
    rw [List.append_nil]
    exact ⟨fun host listed => (mem_without.mp listed).2, kept name⟩
  | @removed name => exact kept name
  | refused | absent | found | listed => exact unique

/-- The addresses of a host are those that were recorded. -/
theorem Effect.valueAt (effect : Effect store obstacle operation answer records) :
    hosts.valueAt records =
      Ledger.standing (hosts.valueAt store.records) (hosts.entries operation answer) := by
  funext key
  cases effect with
  | refused failure =>
    rw [entries_error]
    rfl
  | @recorded name addresses =>
    let newest : HostRecord := ⟨name, addresses⟩
    have recorded : hosts.entries (.addHost name addresses) (.ok ()) =
        [(hostKey name, some addresses)] := rfl
    have alone : ∀ host ∈ without name store.records ++ [], hosts.key host ≠ hosts.key newest := by
      rw [List.append_nil]
      exact fun host listed => (mem_without.mp listed).2
    have after : hosts.valueAt (without name store.records ++ [newest]) key =
        if hostKey name = key then some addresses
        else hosts.valueAt (without name store.records ++ []) key :=
      Ledger.valueAt_insert alone key
    rw [recorded, Ledger.standing_singleton, after, List.append_nil, valueAt_without]
    split
    · rfl
    · rfl
  | @removed name =>
    have recorded : hosts.entries (.removeHost name) (.ok true) = [(hostKey name, none)] := rfl
    rw [recorded, Ledger.standing_singleton, valueAt_without]
  | absent | found | listed => rfl

theorem hosts_isKept : hosts.IsKept := by
  intro store unique β obstacle operation
  have effect := effect_attempt store obstacle operation
  exact ⟨effect.isUnique unique, effect.valueAt⟩

/-- Every record has an address. -/
def IsFilled (records : List HostRecord) : Prop := ∀ host ∈ records, host.addresses ≠ []

theorem Effect.isFilled (effect : Effect store obstacle operation answer records)
    (filled : IsFilled store.records) : IsFilled records := by
  intro host listed
  cases effect with
  | recorded named given =>
    obtain kept | rfl := List.mem_append.mp listed |>.imp_right List.mem_singleton.mp
    · exact filled host (mem_without.mp kept).1
    · exact given
  | removed => exact filled host (mem_without.mp listed).1
  | refused | absent | found | listed => exact filled host listed

theorem isFilled_run (opened : store.IsOpen) (filled : IsFilled store.records)
    (steps : List (StoreStep .hosts)) : IsFilled (StoreStep.run steps store).2.records := by
  refine @StoreStep.run_invariant .hosts store _ hosts.entries (fun records _ => IsFilled records)
    ?_ opened filled steps
  intro current _ filled _ obstacle operation
  exact (effect_attempt current obstacle operation).isFilled filled

/-- A look-up gives the addresses of the key, none if there is no record. -/
theorem lookup_eq (store : HostStore) (name : String) :
    store.lookup name = (hosts.valueAt store.records (hostKey name)).getD [] := by
  have same : (fun host : HostRecord => sameHost host.name name) =
      fun host => decide (hosts.key host = hostKey name) := by
    funext host
    rw [Bool.eq_iff_iff, sameHost_iff, decide_eq_true_eq]
    rfl
  rw [lookup, HostRecord.lookup, Ledger.valueAt, ← same]
  cases store.records.find? fun host => sameHost host.name name with
  | none => rfl
  | some host => rfl

theorem lookup_ne_nil_iff (filled : IsFilled store.records) :
    store.lookup name ≠ [] ↔ store.Knows name := by
  unfold lookup HostRecord.lookup
  cases found : store.records.find? fun host => sameHost host.name name with
  | none =>
    refine iff_of_false (fun some => some rfl) ?_
    rintro ⟨host, listed, same⟩
    exact List.find?_eq_none.mp found host listed same
  | some host =>
    have same := List.find?_some found
    have listed := List.mem_of_find?_eq_some found
    exact iff_of_true (filled host listed) ⟨host, listed, same⟩

theorem key_of_mem_entries_add {addresses : List Ip} {answer : Except Failure Unit}
    {entry : List Char × Option (List Ip)}
    (listed : entry ∈ hosts.entries (.addHost name addresses) answer) : entry.1 = hostKey name := by
  cases answer with
  | error failure => cases listed
  | ok => rw [List.mem_singleton.mp listed]

theorem key_of_mem_entries_remove {answer : Except Failure Bool}
    {entry : List Char × Option (List Ip)}
    (listed : entry ∈ hosts.entries (.removeHost name) answer) : entry.1 = hostKey name := by
  cases answer with
  | error failure => cases listed
  | ok reported =>
    cases reported with
    | false => cases listed
    | true => rw [List.mem_singleton.mp listed]

theorem reported_iff_knows {reported : Bool}
    (answered : (store.attempt obstacle (remove name)).1 = .ok reported) :
    reported = true ↔ store.Knows name := by
  let blocked : HostStore := { store with file := { store.file with obstacle } }
  change (blocked.perform (remove name)).1 = .ok reported at answered
  obtain ⟨file, knows, _, done⟩ | ⟨unknown, same⟩ | ⟨failure, _, _, failed⟩ :=
    blocked.perform_remove_cases name
  · rw [done] at answered
    cases answered
    exact iff_of_true rfl knows
  · rw [same] at answered
    cases answered
    exact iff_of_false Bool.false_ne_true unknown
  · rw [failed] at answered
    cases answered

/-- What is recorded for one host leaves the addresses of the others. -/
theorem lookup_attempt_of_key_ne (unique : hosts.IsUnique store.records)
    (obstacle : Option IoError) (operation : StoreOperation .hosts β)
    (others : ∀ answer, ∀ entry ∈ hosts.entries operation answer, entry.1 ≠ hostKey name) :
    lookup (store.attempt obstacle operation.action).2 name = store.lookup name := by
  have values := (hosts_isKept store unique obstacle operation).2
  rw [lookup_eq, values, Ledger.standing_of_forall_ne (others _), ← lookup_eq]

/-- A store that was opened without hosts is a map on the spellings of their names, whatever is done to it
and whenever writing fails. It has one record at most for all spellings of a name; a look-up gives the
addresses that were recorded last, unless the host has been removed since; other hosts are left as they
are, the removal of a host reports whether it had addresses, and no operation fails without a reason. -/
theorem run_hosts {directory path : String} {content : Option String}
    (loaded : Store.load { directory, path, content } = .ok store) (blank : store.records = [])
    (steps : List (StoreStep .hosts)) :
    let current : HostStore := (StoreStep.run steps store).2
    let recorded := StoreStep.collect hosts.entries steps store
    Equivalence (fun first second => sameHost first second = true) ∧
      current.records.Pairwise (fun first second => sameHost first.name second.name = false) ∧
      (∀ name, current.lookup name =
        (Ledger.standing (fun _ => none) recorded (hostKey name)).getD []) ∧
      (∀ other name, sameHost other name = false → ∀ obstacle addresses,
        lookup (current.attempt obstacle (add other addresses)).2 name = current.lookup name ∧
          lookup (current.attempt obstacle (remove other)).2 name = current.lookup name) ∧
      (∀ name obstacle reported, (current.attempt obstacle (remove name)).1 = .ok reported →
        (reported = true ↔ current.lookup name ≠ [])) ∧
      ∀ {β : Type} (obstacle : Option IoError) (operation : StoreOperation .hosts β),
        Effect current obstacle operation (current.attempt obstacle operation.action).1
          (current.attempt obstacle operation.action).2.records := by
  intro current recorded
  have opened : store.IsOpen := isOpen_of_load rfl loaded
  have none : hosts.valueAt store.records = fun _ => none := by
    rw [blank]
    rfl
  have unique : hosts.IsUnique store.records := by
    rw [blank]
    exact List.nodup_nil
  have filled : IsFilled store.records := by
    rw [blank]
    exact fun _ listed => absurd listed List.not_mem_nil
  obtain ⟨distinct, values⟩ := hosts_isKept.run opened unique steps
  refine ⟨sameHost_equivalence, ?unique, ?last, ?others, ?reported, ?effects⟩
  case unique =>
    exact (List.pairwise_map.mp distinct).imp sameHost_eq_false_iff.mpr
  case last =>
    intro name
    rw [lookup_eq, values, none]
  case others =>
    intro other name different obstacle addresses
    rw [sameHost_eq_false_iff] at different
    refine ⟨lookup_attempt_of_key_ne distinct obstacle (.addHost other addresses) ?_,
      lookup_attempt_of_key_ne distinct obstacle (.removeHost other) ?_⟩
    · intro answer entry listed
      rwa [key_of_mem_entries_add listed]
    · intro answer entry listed
      rwa [key_of_mem_entries_remove listed]
  case reported =>
    intro name obstacle reported answered
    rw [lookup_ne_nil_iff (isFilled_run opened filled steps)]
    exact reported_iff_knows answered
  case effects =>
    intro β obstacle operation
    exact effect_attempt current obstacle operation

/-- A store without a file. -/
def nasStore : HostStore where
  records := []
  file := { directory := "data", path := "data/hosts.json" }

/-- A host is recorded in two spellings, and removed in a third while nothing can be written; a name of
dots is refused. -/
def nasSteps : List (StoreStep .hosts) :=
  [.operate none (.addHost "nas.lan" [.v4 ⟨10, 0, 0, 1⟩]),
    .operate none (.addHost ".." [.v4 ⟨10, 0, 0, 9⟩]),
    .operate none (.addHost "NAS.lan." [.v4 ⟨10, 0, 0, 3⟩, .v4 ⟨10, 0, 0, 2⟩]),
    .operate (some .alreadyExists) (.removeHost "Nas.Lan.."), .operate none (.removeHost ".")]

/-- The addresses that were recorded last are found in their order. -/
theorem run_hosts_nas :
    let current : HostStore := (StoreStep.run nasSteps nasStore).2
    Store.load nasStore.file = .ok nasStore ∧
      StoreStep.collect hosts.entries nasSteps nasStore =
        [("nas.lan".toList, some [.v4 ⟨10, 0, 0, 1⟩]),
          ("nas.lan".toList, some [.v4 ⟨10, 0, 0, 3⟩, .v4 ⟨10, 0, 0, 2⟩])] ∧
      current.records.Pairwise (fun first second => sameHost first.name second.name = false) ∧
      current.lookup "naS.lan" = [.v4 ⟨10, 0, 0, 3⟩, .v4 ⟨10, 0, 0, 2⟩] ∧ current.lookup ".." = [] ∧
      lookup (current.attempt none (remove "..")).2 "naS.lan" = current.lookup "naS.lan" ∧
      (current.attempt none (remove "nas.LAN")).1 = .ok true ∧ current.lookup "nas.LAN" ≠ [] := by
  intro current
  have loaded : Store.load nasStore.file = .ok nasStore := rfl
  have recorded : StoreStep.collect hosts.entries nasSteps nasStore =
      [("nas.lan".toList, some [.v4 ⟨10, 0, 0, 1⟩]),
        ("nas.lan".toList, some [.v4 ⟨10, 0, 0, 3⟩, .v4 ⟨10, 0, 0, 2⟩])] := rfl
  have removed : (current.attempt none (remove "nas.LAN")).1 = .ok true := rfl
  obtain ⟨_, unique, last, others, reported, _⟩ := run_hosts loaded rfl nasSteps
  refine ⟨loaded, recorded, unique, ?_, ?_, (others ".." "naS.lan" (by decide) none []).2, removed,
    (reported "nas.LAN" none true removed).mp rfl⟩
  · rw [last, recorded]
    rfl
  · rw [last, recorded]
    rfl

end HostStore

end SocksGateway
