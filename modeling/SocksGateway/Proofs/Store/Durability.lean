import SocksGateway.Proofs.Store.Networks
import SocksGateway.Proofs.Store.Records
import SocksGateway.Proofs.Store.Users

/-!
What is done to a store survives in its file. An operation writes the new records before it takes them
over, and what it wrote reads back; so an operation that fails changes nothing, and a store that is
opened again is the one that was there.
-/

set_option autoImplicit false

namespace SocksGateway

namespace Store

section

variable {α β γ : Type} [Recorded α]

/-- What may come of an operation: the store as it was, or other records that were written first. -/
inductive Settled (store : Store α) : Except Failure β × Store α → Prop
  | refused (failure : Failure) : Settled store (.error failure, store)
  | answered (value : β) : Settled store (.ok value, store)
  | written (value : β) (records : List α) (file : DataFile)
      (taken : store.file.write (render records) = .ok file) :
      Settled store (.ok value, { records, file })

/-- Whatever the store, an action fails and changes nothing, or writes what it changes. -/
def Settles (action : Action α β) : Prop := ∀ store, Settled store (store.perform action)

theorem settles_pure (value : β) : Settles (pure value : Action α β) :=
  fun _ => .answered value

theorem settles_refuse (text : String) : Settles (refuse text : Action α β) :=
  fun _ => .refused _

theorem settles_refuse_bind (text : String) (next : γ → Action α β) :
    Settles (refuse text >>= next) := by
  intro store
  rw [perform_refuse_bind]
  exact .refused _

theorem settles_get_bind {next : Store α → Action α β} (each : ∀ store, Settles (next store)) :
    Settles (get >>= next) := by
  intro store
  rw [perform_get_bind]
  exact each store store

theorem settles_commit (records : List α) : Settles (commit records) := by
  intro store
  rw [perform_commit]
  split
  · rename_i file taken
    exact .written () records file taken
  · exact .refused _

theorem settles_commit_bind_pure (records : List α) (value : β) :
    Settles (commit records >>= fun _ => pure value) := by
  intro store
  rw [perform_commit_bind]
  split
  · rename_i file taken
    exact .written value records file taken
  · exact .refused _

/-- Runs an action while something may be in the way of the file; the way is clear afterwards. -/
def attempt (store : Store α) (obstacle : Option IoError) (action : Action α β) :
    Except Failure β × Store α :=
  let (result, after) := perform { store with file := { store.file with obstacle } } action
  (result, { after with file := { after.file with obstacle := none } })

/-- What failed left the store as it was; what succeeded did so too, or the text in the file reads as
the records in memory. -/
def IsDurable (store : Store α) : Except Failure β × Store α → Prop
  | (.error _, after) => after = store
  | (.ok _, after) => after = store ∨
    ∃ text, after.file.read = some text ∧ parse? text = some after.records

/-- A store with a clear way to its file has the records that would be read from there. -/
structure IsOpen (store : Store α) : Prop where
  clear : store.file.obstacle = none
  loads : load store.file = .ok store

variable {store : Store α} {action : Action α β}

/-- An attempt leaves the store as it was, or with other records, which its file holds as well. -/
theorem Settles.attempt_cases (settles : Settles action) (clear : store.file.obstacle = none)
    (obstacle : Option IoError) :
    (∃ failure, store.attempt obstacle action = (.error failure, store)) ∨
    (∃ value, store.attempt obstacle action = (.ok value, store)) ∨
    ∃ value records, store.attempt obstacle action =
      (.ok value, { records, file := { store.file with content := some (render records) } }) := by
  have same : { store.file with obstacle := none } = store.file := by rw [← clear]
  have settled := settles { store with file := { store.file with obstacle } }
  unfold attempt
  generalize perform _ action = outcome at settled ⊢
  cases settled with
  | refused failure => exact .inl ⟨failure, by simp only [same]⟩
  | answered value => exact .inr (.inl ⟨value, by simp only [same]⟩)
  | written value records file taken =>
    obtain ⟨_, rfl⟩ := DataFile.eq_of_write taken
    exact .inr (.inr ⟨value, records, by simp only [clear]⟩)

theorem read_rendered {file : DataFile} (clear : file.obstacle = none) (records : List α) :
    { file with content := some (render records) }.read = some (render records) := by
  simp only [DataFile.read, clear, Option.isSome_none, Bool.false_eq_true, if_false]

theorem isDurable_attempt [Recorded.IsFaithful α] (settles : Settles action)
    (clear : store.file.obstacle = none) (obstacle : Option IoError) :
    store.IsDurable (store.attempt obstacle action) := by
  obtain ⟨failure, failed⟩ | ⟨value, kept⟩ | ⟨value, records, changed⟩ :=
    settles.attempt_cases clear obstacle
  · rw [failed, IsDurable]
  · rw [kept]
    exact .inl rfl
  · rw [changed]
    exact .inr ⟨render records, read_rendered clear records, parse?_render records⟩

theorem file_of_load {file : DataFile} (loaded : load file = .ok store) : store.file = file := by
  unfold load at loaded
  split at loaded
  · cases loaded
    rfl
  · split at loaded
    · cases loaded
      rfl
    · cases loaded

theorem isOpen_of_load {file : DataFile} (clear : file.obstacle = none)
    (loaded : load file = .ok store) : store.IsOpen := by
  obtain rfl := file_of_load loaded
  exact ⟨clear, loaded⟩

theorem isOpen_rendered [Recorded.IsFaithful α] {file : DataFile} (clear : file.obstacle = none)
    (records : List α) :
    IsOpen { records, file := { file with content := some (render records) } } where
  clear := clear
  loads := load_of_read (read_rendered clear records)

theorem IsOpen.attempt [Recorded.IsFaithful α] (opened : store.IsOpen) (settles : Settles action)
    (obstacle : Option IoError) : (store.attempt obstacle action).2.IsOpen := by
  obtain ⟨failure, failed⟩ | ⟨value, kept⟩ | ⟨value, records, changed⟩ :=
    settles.attempt_cases opened.clear obstacle
  · rw [failed]
    exact opened
  · rw [kept]
    exact opened
  · rw [changed]
    exact isOpen_rendered opened.clear records

/-- A store that is opened again is the one that was there. -/
theorem IsOpen.perform_reopen (opened : store.IsOpen) :
    store.perform reopen = (.ok (), store) := by
  unfold reopen
  rw [perform_get_bind, opened.loads]
  rfl

end

end Store

open Store

namespace UserStore

theorem settles_hashed_bind {β : Type} {next : String → Store.Action User β} (hashing : Hashing)
    (password : String) (each : ∀ passwordHash, Settles (next passwordHash)) :
    Settles (hashed hashing password >>= next) := by
  intro store
  obtain ⟨passwordHash, _, done⟩ | ⟨_, failure, failed⟩ :=
    perform_hashed_bind store hashing password next
  · rw [done]
    exact each passwordHash store
  · rw [failed]
    exact .refused failure

theorem settles_add (hashing : Hashing) (name password : String) :
    Settles (add hashing name password) := by
  unfold add
  split
  · exact settles_refuse_bind _ _
  · refine settles_hashed_bind hashing password fun passwordHash => ?_
    refine settles_get_bind fun store => ?_
    split
    · exact settles_refuse_bind _ _
    · exact settles_commit _

theorem settles_updatePassword (hashing : Hashing) (name password : String) :
    Settles (updatePassword hashing name password) := by
  refine settles_hashed_bind hashing password fun passwordHash => ?_
  refine settles_get_bind fun store => ?_
  split
  · exact settles_refuse_bind _ _
  · exact settles_commit _

theorem settles_delete (name : String) : Settles (delete name) := by
  refine settles_get_bind fun store => ?_
  dsimp only
  split
  · exact settles_pure false
  · exact settles_commit_bind_pure _ true

end UserStore

namespace NetworkStore

theorem settles_network_bind {β : Type} {next : PrivateNetwork → Store.Action PrivateNetwork β}
    (id : String) (each : ∀ found, Settles (next found)) : Settles (network id >>= next) := by
  intro store
  rw [perform_network_bind]
  split
  · rename_i found _
    exact each found store
  · exact .refused _

theorem settles_create (id name range : String) : Settles (create id name range) := by
  unfold create
  split
  · exact settles_refuse _
  · exact settles_get_bind fun store => settles_commit_bind_pure _ _

theorem settles_addMember (users : UserStore) (name id : String) :
    Settles (addMember users name id) := by
  unfold addMember
  split
  · exact settles_refuse _
  · refine settles_network_bind id fun found => ?_
    dsimp only
    split
    · exact settles_refuse_bind _ _
    · split
      · exact settles_refuse _
      · split
        · exact settles_refuse _
        · exact settles_get_bind fun store => settles_commit_bind_pure _ _

theorem settles_removeMember (name id : String) : Settles (removeMember name id) := by
  refine settles_network_bind id fun found => ?_
  dsimp only
  split
  · exact settles_pure false
  · exact settles_get_bind fun store => settles_commit_bind_pure _ true

end NetworkStore

namespace HostStore

theorem settles_add (name : String) (addresses : List Ip) : Settles (add name addresses) := by
  unfold add
  dsimp only
  split
  · exact settles_refuse_bind _ _
  · split
    · exact settles_refuse_bind _ _
    · exact settles_get_bind fun store => settles_commit _

theorem settles_remove (name : String) : Settles (remove name) := by
  refine settles_get_bind fun store => ?_
  dsimp only
  split
  · exact settles_pure false
  · exact settles_commit_bind_pure _ true

end HostStore

/-- The stores of the gateway. -/
inductive StoreKind where
  | users
  | networks
  | hosts

namespace StoreKind

abbrev Record : StoreKind → Type
  | users => User
  | networks => PrivateNetwork
  | hosts => HostRecord

instance : (kind : StoreKind) → Recorded kind.Record
  | users => inferInstanceAs (Recorded User)
  | networks => inferInstanceAs (Recorded PrivateNetwork)
  | hosts => inferInstanceAs (Recorded HostRecord)

instance : (kind : StoreKind) → Recorded.IsFaithful kind.Record
  | users => inferInstanceAs (Recorded.IsFaithful User)
  | networks => inferInstanceAs (Recorded.IsFaithful PrivateNetwork)
  | hosts => inferInstanceAs (Recorded.IsFaithful HostRecord)

end StoreKind

/-- What is done to a store of a kind, or asked of it, and the type of the answer. -/
inductive StoreOperation : StoreKind → Type → Type
  | addUser (hashing : UserStore.Hashing) (name password : String) : StoreOperation .users Unit
  | updatePassword (hashing : UserStore.Hashing) (name password : String) :
    StoreOperation .users Unit
  | deleteUser (name : String) : StoreOperation .users Bool
  | findUser (name : String) : StoreOperation .users (Option User)
  | verify (name password : String) : StoreOperation .users Bool
  | createNetwork (id name range : String) : StoreOperation .networks PrivateNetwork
  | addMember (users : UserStore) (name id : String) : StoreOperation .networks Member
  | removeMember (name id : String) : StoreOperation .networks Bool
  | findNetwork (id : String) : StoreOperation .networks (Option PrivateNetwork)
  | allows (name : String) (address : Ip) : StoreOperation .networks Bool
  | addHost (name : String) (addresses : List Ip) : StoreOperation .hosts Unit
  | removeHost (name : String) : StoreOperation .hosts Bool
  | lookup (name : String) : StoreOperation .hosts (List Ip)
  | list {kind : StoreKind} : StoreOperation kind (List kind.Record)

namespace StoreOperation

variable {kind : StoreKind} {β : Type}

def action : {kind : StoreKind} → {β : Type} → StoreOperation kind β → Store.Action kind.Record β
  | _, _, addUser hashing name password => UserStore.add hashing name password
  | _, _, updatePassword hashing name password => UserStore.updatePassword hashing name password
  | _, _, deleteUser name => UserStore.delete name
  | _, _, findUser name => return UserStore.find? (← get) name
  | _, _, verify name password => return UserStore.verify (← get) name password
  | _, _, createNetwork id name range => NetworkStore.create id name range
  | _, _, addMember users name id => NetworkStore.addMember users name id
  | _, _, removeMember name id => NetworkStore.removeMember name id
  | _, _, findNetwork id => return NetworkStore.find? (← get) id
  | _, _, allows name address => return NetworkStore.allows (← get) name address
  | _, _, addHost name addresses => HostStore.add name addresses
  | _, _, removeHost name => HostStore.remove name
  | _, _, lookup name => return HostStore.lookup (← get) name
  | _, _, list => return (← get).records

theorem settles (operation : StoreOperation kind β) : Settles operation.action := by
  cases operation with
  | addUser hashing name password => exact UserStore.settles_add hashing name password
  | updatePassword hashing name password =>
    exact UserStore.settles_updatePassword hashing name password
  | deleteUser name => exact UserStore.settles_delete name
  | createNetwork id name range => exact NetworkStore.settles_create id name range
  | addMember users name id => exact NetworkStore.settles_addMember users name id
  | removeMember name id => exact NetworkStore.settles_removeMember name id
  | addHost name addresses => exact HostStore.settles_add name addresses
  | removeHost name => exact HostStore.settles_remove name
  | findUser | verify | findNetwork | allows | lookup | list =>
    exact settles_get_bind fun _ => settles_pure _

end StoreOperation

/-- A moment in the life of a store. -/
inductive StoreStep (kind : StoreKind)
  /-- An operation, while this is in the way of the file. -/
  | operate {β : Type} (obstacle : Option IoError) (operation : StoreOperation kind β)
  | reopen

namespace StoreStep

variable {kind : StoreKind} {store : Store kind.Record}

/-- The answers of the operations, and the store after the last of the steps. -/
def run : List (StoreStep kind) → Store kind.Record →
    List ((β : Type) × Except Failure β) × Store kind.Record
  | [], store => ([], store)
  | operate obstacle operation :: rest, store =>
    let (answer, after) := store.attempt obstacle operation.action
    let (answers, last) := run rest after
    (⟨_, answer⟩ :: answers, last)
  | reopen :: rest, store => run rest (store.perform Store.reopen).2

theorem run_append (before later : List (StoreStep kind)) (store : Store kind.Record) :
    run (before ++ later) store =
      ((run before store).1 ++ (run later (run before store).2).1,
        (run later (run before store).2).2) := by
  induction before generalizing store with
  | nil => rfl
  | cons step rest ih =>
    cases step with
    | operate obstacle operation => simp only [List.cons_append, run, ih]
    | reopen => exact ih _

theorem isOpen_run (steps : List (StoreStep kind)) (opened : store.IsOpen) :
    (run steps store).2.IsOpen := by
  induction steps generalizing store with
  | nil => exact opened
  | cons step rest ih =>
    cases step with
    | operate obstacle operation => exact ih (opened.attempt operation.settles obstacle)
    | reopen =>
      rw [run, opened.perform_reopen]
      exact ih opened

/-- Whatever was done to a store that was read from a file, and whenever writing failed: the next
operation changes nothing or leaves its changes in the file, and no later answer tells whether the store
was opened again. -/
theorem run_durable {directory path : String} {content : Option String}
    (loaded : Store.load { directory, path, content } = .ok store)
    (before later : List (StoreStep kind)) {β : Type} (obstacle : Option IoError)
    (operation : StoreOperation kind β) :
    let current := (run before store).2
    current.IsDurable (current.attempt obstacle operation.action) ∧
      run (before ++ reopen :: later) store = run (before ++ later) store := by
  intro current
  have opened : current.IsOpen := isOpen_run before (isOpen_of_load rfl loaded)
  have again : run (reopen :: later) current = run later current := by
    rw [run, opened.perform_reopen]
  refine ⟨isDurable_attempt operation.settles opened.clear obstacle, ?_⟩
  rw [run_append, run_append, again]

/-- A network whose name has a quotation mark, a backslash, a line feed and a letter beyond ASCII. -/
def oddNetwork : PrivateNetwork :=
  ⟨"1", "\"\\\né", "10.0.0.0/30", [⟨"Ann", ⟨10, 0, 0, 1⟩⟩]⟩

/-- One joins this network, one cannot be removed, and the store is opened again between. -/
theorem run_durable_oddNetwork :
    let file : DataFile :=
      { directory := "data", path := "data/networks.json",
        content := some (Store.render [oddNetwork]) }
    let store : NetworkStore := { records := [oddNetwork], file }
    let users : UserStore := { records := [⟨"bob", ""⟩], file := default }
    let join : StoreStep .networks := operate none (.addMember users "BOB" "1")
    let ask : StoreStep .networks := operate none (.allows "bob" (.v4 ⟨10, 0, 0, 1⟩))
    let current : NetworkStore := (run [join] store).2
    Store.load file = .ok store ∧
      current.IsDurable (current.attempt (some .alreadyExists) (NetworkStore.removeMember "ann" "1")) ∧
      run [join, reopen, ask] store = run [join, ask] store ∧
      current.records = [{ oddNetwork with
        members := [⟨"Ann", ⟨10, 0, 0, 1⟩⟩, ⟨"bob", ⟨10, 0, 0, 2⟩⟩] }] := by
  intro file store users join ask current
  have loaded : Store.load file = .ok store := Store.load_of_read rfl
  have durable := @run_durable .networks store "data" "data/networks.json" file.content loaded
    [join] [ask] Bool (some .alreadyExists) (.removeMember "ann" "1")
  exact ⟨loaded, durable.1, durable.2, by decide +kernel⟩

end StoreStep

end SocksGateway
