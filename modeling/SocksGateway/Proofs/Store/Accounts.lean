import SocksGateway.Proofs.Store.Ledger

/-!
The store of users as a map from names to password hashes. However names are spelled, each belongs to one
user; so an operation affects that user alone, and a password is checked against the hash that was written
last for its name.
-/

set_option autoImplicit false

namespace SocksGateway.UserStore

open Store

variable {store : UserStore} {obstacle : Option IoError} {name : String}

/-- What an operation on users records: the hash of a new password, or that a user is gone. -/
def entries : {β : Type} → StoreOperation .users β → Except Failure β →
    List (List Char × Option String)
  | _, .addUser hashing name password, .ok _ | _, .updatePassword hashing name password, .ok _ =>
    [(Text.lowerAscii name, Bcrypt.hash? hashing.cost hashing.salt (Bytes.ofText password))]
  | _, .deleteUser name, .ok true => [(Text.lowerAscii name, none)]
  | _, _, _ => []

/-- Password hashes by names in lower case. -/
def accounts : Ledger .users (List Char) String where
  key user := Text.lowerAscii user.name
  value := User.passwordHash
  entries := entries

/-- The names that were added. -/
def additions : {β : Type} → StoreOperation .users β → Except Failure β → List String
  | _, .addUser _ name _, .ok _ => [name]
  | _, _, _ => []

/-- The reasons for which an operation on users fails. -/
def MayFail (store : UserStore) (obstacle : Option IoError) :
    {β : Type} → StoreOperation .users β → Prop
  | _, .addUser hashing name _ => name.isEmpty = true ∨ Bcrypt.isCost hashing.cost = false ∨
      store.Knows name ∨ obstacle ≠ none
  | _, .updatePassword hashing name _ => Bcrypt.isCost hashing.cost = false ∨ ¬ store.Knows name ∨
      obstacle ≠ none
  | _, .deleteUser name => store.Knows name ∧ obstacle ≠ none
  | _, _ => False

/-- This user is the only one of that name, between these others. -/
structure IsAlone (store : UserStore) (name : String) (first : List User) (user : User)
    (last : List User) : Prop where
  records : store.records = first ++ user :: last
  called : named name user = true
  others : ∀ other ∈ first ++ last, named name other = false

/-- What an operation on users answers, and the users after it. -/
inductive Effect (store : UserStore) (obstacle : Option IoError) :
    {β : Type} → StoreOperation .users β → Except Failure β → List User → Prop
  | refused {β : Type} {operation : StoreOperation .users β} (failure : Failure)
      (reason : store.MayFail obstacle operation) :
      Effect store obstacle operation (.error failure) store.records
  | added {hashing : Hashing} {name password passwordHash : String} (filled : name.isEmpty = false)
      (new : ¬ store.Knows name) (clear : obstacle = none)
      (hashed : Bcrypt.hash? hashing.cost hashing.salt (Bytes.ofText password) = some passwordHash) :
      Effect store obstacle (.addUser hashing name password) (.ok ())
        (store.records ++ [⟨name, passwordHash⟩])
  | updated {hashing : Hashing} {name password passwordHash : String} {first last : List User}
      {user : User} (alone : store.IsAlone name first user last) (clear : obstacle = none)
      (hashed : Bcrypt.hash? hashing.cost hashing.salt (Bytes.ofText password) = some passwordHash) :
      Effect store obstacle (.updatePassword hashing name password) (.ok ())
        (first ++ { user with passwordHash } :: last)
  | deleted {name : String} {first last : List User} {user : User}
      (alone : store.IsAlone name first user last) (clear : obstacle = none) :
      Effect store obstacle (.deleteUser name) (.ok true) (first ++ last)
  | absent {name : String} (unknown : ¬ store.Knows name) :
      Effect store obstacle (.deleteUser name) (.ok false) store.records
  | found {name : String} {answer : Option User}
      (exact : ∀ user, answer = some user ↔ user ∈ store.records ∧ named name user = true) :
      Effect store obstacle (.findUser name) (.ok answer) store.records
  | verified {name password : String} :
      Effect store obstacle (.verify name password) (.ok (store.verify name password)) store.records
  | listed : Effect store obstacle .list (.ok store.records) store.records

theorem named_iff {user : User} :
    named name user = true ↔ accounts.key user = Text.lowerAscii name :=
  Text.sameIgnoringCase_iff

theorem named_eq_false_iff {user : User} :
    named name user = false ↔ accounts.key user ≠ Text.lowerAscii name :=
  Text.sameIgnoringCase_eq_false_iff

theorem not_knows_iff : ¬ store.Knows name ↔
    ∀ user ∈ store.records, accounts.key user ≠ Text.lowerAscii name := by
  simp only [Knows, not_exists, not_and, named_iff, ne_eq]

theorem exists_isAlone (unique : accounts.IsUnique store.records) (knows : store.Knows name) :
    ∃ first user last, store.IsAlone name first user last := by
  obtain ⟨user, listed, called⟩ := knows
  obtain ⟨first, last, records, alone⟩ := unique.split listed
  refine ⟨first, user, last, records, called, fun other also => ?_⟩
  exact named_eq_false_iff.mpr (named_iff.mp called ▸ alone other also)

theorem IsAlone.key_ne {first last : List User} {user : User}
    (alone : store.IsAlone name first user last) :
    ∀ other ∈ first ++ last, accounts.key other ≠ accounts.key user := by
  intro other listed
  rw [named_iff.mp alone.called]
  exact named_eq_false_iff.mp (alone.others other listed)

theorem IsAlone.withHash {first last : List User} {user : User}
    (alone : store.IsAlone name first user last) (passwordHash : String) :
    withHash name passwordHash store.records = first ++ { user with passwordHash } :: last := by
  obtain ⟨records, called, others⟩ := alone
  rw [records]
  clear records
  induction first with
  | nil => exact if_pos called
  | cons head rest ih =>
    have elsewhere := others head List.mem_cons_self
    have after := ih fun other listed => others other (List.mem_cons_of_mem head listed)
    rw [List.cons_append, UserStore.withHash, elsewhere, if_neg Bool.false_ne_true, after]
    rfl

theorem IsAlone.filter {first last : List User} {user : User}
    (alone : store.IsAlone name first user last) :
    store.records.filter (fun other => !named name other) = first ++ last := by
  have others : (first ++ last).filter (fun other => !named name other) = first ++ last := by
    refine List.filter_eq_self.mpr fun other listed => ?_
    rw [alone.others other listed]
    rfl
  rw [alone.records, List.filter_append, List.filter_cons_of_neg (by rw [alone.called]; decide),
    ← List.filter_append, others]

theorem find?_eq_some_iff {user : User} (unique : accounts.IsUnique store.records) :
    find? store name = some user ↔ user ∈ store.records ∧ named name user = true := by
  constructor
  · intro found
    have called := List.find?_some found
    exact ⟨List.mem_of_find?_eq_some found, called⟩
  · rintro ⟨listed, called⟩
    obtain ⟨other, found⟩ := Option.isSome_iff_exists.mp (knows_iff_find?.mp ⟨user, listed, called⟩)
    have also := List.find?_some found
    have same := (named_iff.mp also).trans (named_iff.mp called).symm
    rw [found, List.inj_on_of_nodup_map unique (List.mem_of_find?_eq_some found) listed same]

/-- With unique names, operations have no other effects than these. -/
theorem effect_attempt (unique : accounts.IsUnique store.records) (obstacle : Option IoError)
    {β : Type} (operation : StoreOperation .users β) :
    Effect store obstacle operation (store.attempt obstacle operation.action).1
      (store.attempt obstacle operation.action).2.records := by
  let blocked : UserStore := { store with file := { store.file with obstacle } }
  change Effect store obstacle operation (blocked.perform operation.action).1
    (blocked.perform operation.action).2.records
  cases operation with
  | addUser hashing name password =>
    obtain ⟨passwordHash, file, filled, new, clear, hashed, done⟩ | ⟨failure, reason, failed⟩ :=
      blocked.perform_add_cases hashing name password
    · rw [StoreOperation.action, done]
      exact .added filled new clear hashed
    · rw [StoreOperation.action, failed]
      exact .refused failure reason
  | updatePassword hashing name password =>
    obtain ⟨passwordHash, file, knows, clear, hashed, done⟩ | ⟨failure, reason, failed⟩ :=
      blocked.perform_updatePassword_cases hashing name password
    · obtain ⟨first, user, last, alone⟩ := exists_isAlone unique knows
      have changed : withHash name passwordHash blocked.records = _ := alone.withHash passwordHash
      rw [StoreOperation.action, done, changed]
      exact .updated alone clear hashed
    · rw [StoreOperation.action, failed]
      exact .refused failure reason
  | deleteUser name =>
    obtain ⟨file, knows, clear, done⟩ | ⟨unknown, same⟩ | ⟨failure, knows, blocks, failed⟩ :=
      blocked.perform_delete_cases name
    · obtain ⟨first, user, last, alone⟩ := exists_isAlone unique knows
      have kept : blocked.records.filter (fun other => !named name other) = _ := alone.filter
      rw [StoreOperation.action, done, kept]
      exact .deleted alone clear
    · rw [StoreOperation.action, same]
      exact .absent unknown
    · rw [StoreOperation.action, failed]
      exact .refused failure ⟨knows, blocks⟩
  | findUser name =>
    exact .found fun user => find?_eq_some_iff unique
  | verify name password => exact .verified
  | list => exact .listed

theorem entries_error {β : Type} (operation : StoreOperation .users β) (failure : Failure) :
    accounts.entries operation (.error failure) = [] := by
  cases operation <;> rfl

variable {β : Type} {operation : StoreOperation .users β} {answer : Except Failure β}
  {users : List User}

theorem Effect.isUnique (effect : Effect store obstacle operation answer users)
    (unique : accounts.IsUnique store.records) : accounts.IsUnique users := by
  cases effect with
  | added filled new =>
    refine Ledger.isUnique_insert_iff.mpr ?_
    rw [List.append_nil]
    exact ⟨not_knows_iff.mp new, unique⟩
  | updated alone =>
    rw [alone.records] at unique
    obtain ⟨own, others⟩ := Ledger.isUnique_insert_iff.mp unique
    exact Ledger.isUnique_insert_iff.mpr ⟨own, others⟩
  | deleted alone =>
    rw [alone.records] at unique
    exact (Ledger.isUnique_insert_iff.mp unique).2
  | refused | absent | found | verified | listed => exact unique

theorem IsAlone.valueAt {first last : List User} {user : User}
    (alone : store.IsAlone name first user last) (key : List Char) :
    accounts.valueAt store.records key = if Text.lowerAscii name = key then some user.passwordHash
      else accounts.valueAt (first ++ last) key := by
  rw [alone.records, Ledger.valueAt_insert alone.key_ne, named_iff.mp alone.called]
  rfl

/-- The hash for a name is the one that was recorded. -/
theorem Effect.valueAt (effect : Effect store obstacle operation answer users) :
    accounts.valueAt users =
      Ledger.standing (accounts.valueAt store.records) (accounts.entries operation answer) := by
  funext key
  cases effect with
  | refused failure =>
    rw [entries_error]
    rfl
  | @added hashing name password passwordHash filled new clear hashed =>
    have recorded : accounts.entries (.addUser hashing name password) (.ok ()) =
        [(Text.lowerAscii name, some passwordHash)] := by
      rw [← hashed]
      rfl
    rw [recorded, Ledger.standing_singleton, Ledger.valueAt_insert, List.append_nil]
    · rfl
    · rw [List.append_nil]
      exact not_knows_iff.mp new
  | @updated hashing name password passwordHash first last user alone clear hashed =>
    have recorded : accounts.entries (.updatePassword hashing name password) (.ok ()) =
        [(Text.lowerAscii name, some passwordHash)] := by
      rw [← hashed]
      rfl
    have after : accounts.valueAt (first ++ { user with passwordHash } :: last) key =
        if accounts.key user = key then some passwordHash
        else accounts.valueAt (first ++ last) key :=
      Ledger.valueAt_insert alone.key_ne key
    rw [recorded, Ledger.standing_singleton, after, alone.valueAt, named_iff.mp alone.called]
    split
    · rfl
    · rfl
  | @deleted name first last user alone clear =>
    have recorded : accounts.entries (.deleteUser name) (.ok true) =
        [(Text.lowerAscii name, none)] := rfl
    rw [recorded, Ledger.standing_singleton, alone.valueAt]
    split
    · rename_i same
      refine Ledger.valueAt_eq_none_iff.mpr fun other listed => ?_
      rw [← same, ← named_iff.mp alone.called]
      exact alone.key_ne other listed
    · rfl
  | absent | found | verified | listed => rfl

theorem accounts_isKept : accounts.IsKept := by
  intro store unique β obstacle operation
  have effect := effect_attempt unique obstacle operation
  exact ⟨effect.isUnique unique, effect.valueAt⟩

/-- Nobody is called otherwise than somebody was before, or somebody who was added. -/
theorem Effect.names (effect : Effect store obstacle operation answer users) :
    ∀ user ∈ users, user.name ∈ store.records.map User.name ++ additions operation answer := by
  have kept {user : User} (listed : user ∈ store.records) :
      user.name ∈ store.records.map User.name ++ additions operation answer :=
    List.mem_append_left _ (List.mem_map_of_mem listed)
  intro user listed
  cases effect with
  | added =>
    obtain earlier | rfl := List.mem_append.mp listed |>.imp_right List.mem_singleton.mp
    · exact kept earlier
    · exact List.mem_append_right _ (List.mem_singleton_self _)
  | @updated hashing name password passwordHash first last same alone =>
    obtain before | later := List.mem_append.mp listed
    · exact kept (alone.records ▸ List.mem_append_left _ before)
    · obtain rfl | after := List.mem_cons.mp later
      · have itself : same ∈ store.records :=
          alone.records ▸ List.mem_append_right _ List.mem_cons_self
        have called := kept itself
        exact called
      · exact kept (alone.records ▸ List.mem_append_right _ (List.mem_cons_of_mem same after))
  | @deleted name first last gone alone =>
    refine kept (alone.records ▸ List.mem_append.mpr ?_)
    exact (List.mem_append.mp listed).imp_right (List.mem_cons_of_mem gone)
  | refused | absent | found | verified | listed => exact kept listed

theorem names_run (opened : store.IsOpen) (unique : accounts.IsUnique store.records)
    (steps : List (StoreStep .users)) :
    ∀ user ∈ (StoreStep.run steps store).2.records,
      user.name ∈ store.records.map User.name ++ StoreStep.collect additions steps store := by
  refine (StoreStep.run_invariant
    (fun users added => accounts.IsUnique users ∧
      ∀ user ∈ users, user.name ∈ store.records.map User.name ++ added)
    ?_ opened ⟨unique, ?_⟩ steps).2
  · intro current added before _ obstacle operation
    have effect := effect_attempt before.1 obstacle operation
    refine ⟨effect.isUnique before.1, fun user listed => ?_⟩
    rw [← List.append_assoc]
    obtain earlier | new := List.mem_append.mp (effect.names user listed)
    · obtain ⟨known, also, same⟩ := List.mem_map.mp earlier
      exact List.mem_append_left _ (same ▸ before.2 known also)
    · exact List.mem_append_right _ new
  · intro user listed
    rw [List.append_nil]
    exact List.mem_map_of_mem listed

theorem verify_eq (store : UserStore) (name password : String) : store.verify name password =
    (accounts.valueAt store.records (Text.lowerAscii name)).any
      (Bcrypt.verify (Bytes.ofText password)) := by
  have same : named name = fun user => decide (accounts.key user = Text.lowerAscii name) := by
    funext user
    rw [Bool.eq_iff_iff, named_iff, decide_eq_true_eq]
  rw [Ledger.valueAt, ← same, verify, find?]
  cases store.records.find? (named name) with
  | none => rfl
  | some user => rfl

/-- A store that was read from a file in which no two names are equal is a map, whatever is done to it and
whenever writing fails. Names stay different, and all are from the file or were added; passwords are
checked against the hash that was written last for the name, or was in the file, unless the user has been
deleted since; and the next operation affects the user of its name alone. -/
theorem run_accounts {directory path : String} {content : Option String}
    (loaded : Store.load { directory, path, content } = .ok store)
    (unique : accounts.IsUnique store.records) (steps : List (StoreStep .users)) :
    let current : UserStore := (StoreStep.run steps store).2
    let recorded := StoreStep.collect accounts.entries steps store
    accounts.IsUnique current.records ∧
      (∀ user ∈ current.records,
        user.name ∈ store.records.map User.name ++ StoreStep.collect additions steps store) ∧
      (∀ name password, current.verify name password =
        (Ledger.standing (accounts.valueAt store.records) recorded (Text.lowerAscii name)).any
          (Bcrypt.verify (Bytes.ofText password))) ∧
      (∀ password text, Bcrypt.Stored.parse? text = none → Bcrypt.verify password text = false) ∧
      ∀ {β : Type} (obstacle : Option IoError) (operation : StoreOperation .users β),
        Effect current obstacle operation (current.attempt obstacle operation.action).1
          (current.attempt obstacle operation.action).2.records := by
  intro current recorded
  have opened : store.IsOpen := isOpen_of_load rfl loaded
  obtain ⟨distinct, values⟩ := accounts_isKept.run opened unique steps
  refine ⟨distinct, names_run opened unique steps, ?_, ?_, ?_⟩
  · intro name password
    rw [verify_eq, values]
  · intro password text unusable
    rw [Bcrypt.verify, unusable]
  · intro β obstacle operation
    exact effect_attempt distinct obstacle operation

/-- The only user has a hash that cannot be used. -/
def annStore : UserStore where
  records := [⟨"Ann", "x"⟩]
  file :=
    { directory := "data", path := "data/users.json",
      content := some (Store.render ([⟨"Ann", "x"⟩] : List User)) }

/-- This user is not added again, nor deleted at once, but only after another is added. -/
def annSteps : List (StoreStep .users) :=
  let hashing : Hashing := { cost := 4, salt := [] }
  [.operate none (.addUser hashing "ann" "pw"), .operate (some .alreadyExists) (.deleteUser "ANN"),
    .operate none (.addUser hashing "bob" "pw"), .operate none (.deleteUser "aNN")]

/-- What is left is the other user, with the hash of the password. -/
theorem run_accounts_ann :
    let current : UserStore := (StoreStep.run annSteps annStore).2
    Store.load annStore.file = .ok annStore ∧ accounts.IsUnique annStore.records ∧
      StoreStep.collect accounts.entries annSteps annStore =
        [("bob".toList, Bcrypt.hash? 4 [] (Bytes.ofText "pw")), ("ann".toList, none)] ∧
      accounts.IsUnique current.records ∧ current.verify "Ann" "pw" = false ∧
      ∃ text, Bcrypt.hash? 4 [] (Bytes.ofText "pw") = some text ∧
        current.verify "BOB" "pw" = Bcrypt.verify (Bytes.ofText "pw") text := by
  intro current
  have loaded : Store.load annStore.file = .ok annStore := Store.load_of_read rfl
  have unique : accounts.IsUnique annStore.records := List.nodup_singleton _
  have recorded : StoreStep.collect accounts.entries annSteps annStore =
      [("bob".toList, Bcrypt.hash? 4 [] (Bytes.ofText "pw")), ("ann".toList, none)] := rfl
  obtain ⟨distinct, _, verdict, _⟩ := run_accounts loaded unique annSteps
  refine ⟨loaded, unique, recorded, distinct, ?_, ?_⟩
  · rw [verdict, recorded]
    rfl
  · obtain ⟨text, hashed⟩ : ∃ text, Bcrypt.hash? 4 [] (Bytes.ofText "pw") = some text :=
      ⟨_, if_pos rfl⟩
    refine ⟨text, hashed, ?_⟩
    rw [verdict, recorded, hashed]
    rfl

end SocksGateway.UserStore
