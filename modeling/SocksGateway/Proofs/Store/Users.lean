import SocksGateway.Proofs.Store.Perform
import SocksGateway.Store.Users
import Mathlib.Logic.Basic

/-!
The names of the users in a store. Adding a user brings one name more, another password leaves all names as
they are, and deleting takes out a name in all its spellings.
-/

set_option autoImplicit false

namespace SocksGateway

theorem Text.sameIgnoringCase_iff {first second : String} :
    sameIgnoringCase first second = true ↔ lowerAscii first = lowerAscii second :=
  beq_iff_eq

theorem Text.sameIgnoringCase_eq_false_iff {first second : String} :
    sameIgnoringCase first second = false ↔ lowerAscii first ≠ lowerAscii second :=
  beq_eq_false_iff_ne

namespace UserStore

open Store

variable {store : UserStore} {name other : String}

/-- Somebody has the name, in whatever spelling. -/
def Knows (store : UserStore) (name : String) : Prop :=
  ∃ user ∈ store.records, named name user = true

instance : Decidable (store.Knows name) :=
  inferInstanceAs (Decidable (∃ user ∈ store.records, named name user = true))

theorem Knows.spelled (knows : store.Knows name) (same : Text.sameIgnoringCase name other = true) :
    store.Knows other := by
  obtain ⟨user, listed, called⟩ := knows
  rw [Text.sameIgnoringCase_iff] at same
  exact ⟨user, listed, Text.sameIgnoringCase_iff.mpr
    ((Text.sameIgnoringCase_iff.mp called).trans same)⟩

theorem knows_of_find? {user : User} (found : find? store name = some user) :
    store.Knows user.name :=
  ⟨user, List.mem_of_find?_eq_some found, Text.sameIgnoringCase_iff.mpr rfl⟩

theorem knows_iff_find? : store.Knows name ↔ (find? store name).isSome = true := by
  rw [find?, List.find?_isSome]
  rfl

theorem not_knows_iff_find? : ¬ store.Knows name ↔ (find? store name).isNone = true := by
  rw [knows_iff_find?, Bool.not_eq_true, Option.isSome_eq_false_iff]

/-- What follows the hash of a password is done with it, or the store refuses. -/
theorem perform_hashed_bind {β : Type} (store : UserStore) (hashing : Hashing) (password : String)
    (next : String → Store.Action User β) :
    (∃ passwordHash,
      Bcrypt.hash? hashing.cost hashing.salt (Bytes.ofText password) = some passwordHash ∧
      store.perform (hashed hashing password >>= next) = store.perform (next passwordHash)) ∨
    Bcrypt.isCost hashing.cost = false ∧
      ∃ failure, store.perform (hashed hashing password >>= next) = (.error failure, store) := by
  unfold hashed
  split
  · rename_i passwordHash hash
    exact .inl ⟨passwordHash, hash, perform_pure_bind passwordHash next⟩
  · rename_i unhashed
    refine .inr ⟨?_, _, perform_refuse_bind _ next⟩
    unfold Bcrypt.hash? at unhashed
    split at unhashed
    · cases unhashed
    · rename_i cost
      exact Bool.eq_false_iff.mpr cost

/-- A user comes behind the others, or nothing changes. -/
theorem perform_add_cases (store : UserStore) (hashing : Hashing) (name password : String) :
    (∃ passwordHash file, name.isEmpty = false ∧ ¬ store.Knows name ∧ store.file.obstacle = none ∧
      Bcrypt.hash? hashing.cost hashing.salt (Bytes.ofText password) = some passwordHash ∧
      store.perform (add hashing name password) =
        (.ok (), { records := store.records ++ [⟨name, passwordHash⟩], file })) ∨
    ∃ failure, (name.isEmpty = true ∨ Bcrypt.isCost hashing.cost = false ∨ store.Knows name ∨
        store.file.obstacle ≠ none) ∧
      store.perform (add hashing name password) = (.error failure, store) := by
  unfold add
  split
  · rename_i blank
    exact .inr ⟨_, .inl blank, perform_refuse_bind _ _⟩
  · rename_i filled
    obtain ⟨passwordHash, hash, hashed⟩ | ⟨cost, failure, failed⟩ :=
      store.perform_hashed_bind hashing password _
    · rw [hashed, perform_get_bind]
      split
      · rename_i known
        exact .inr ⟨_, .inr (.inr (.inl (knows_iff_find?.mpr known))), perform_refuse_bind _ _⟩
      · rename_i unknown
        rw [perform_commit]
        split
        · rename_i file taken
          have clear := (DataFile.eq_of_write taken).1
          exact .inl ⟨passwordHash, file, Bool.eq_false_iff.mpr filled,
            fun known => unknown (knows_iff_find?.mp known), clear, hash, rfl⟩
        · rename_i failure failed
          exact .inr ⟨_, .inr (.inr (.inr (DataFile.obstacle_of_write failed))), rfl⟩
    · exact .inr ⟨failure, .inr (.inl cost), failed⟩

/-- A new name is added and found again, where the file can be written. -/
theorem find?_perform_add {hashing : Hashing} (filled : name.isEmpty = false)
    (cost : Bcrypt.isCost hashing.cost = true) (unknown : find? store name = none)
    (clear : store.file.obstacle = none) (password : String) :
    ∃ passwordHash, find? (store.perform (add hashing name password)).2 name =
      some ⟨name, passwordHash⟩ := by
  obtain ⟨passwordHash, hash⟩ : ∃ passwordHash,
      Bcrypt.hash? hashing.cost hashing.salt (Bytes.ofText password) = some passwordHash :=
    ⟨_, if_pos cost⟩
  have records : (store.perform (add hashing name password)).2.records =
      store.records ++ [⟨name, passwordHash⟩] := by
    simp only [add, hashed, filled, hash, Bool.false_eq_true, ↓reduceIte, perform_pure_bind,
      perform_get_bind, unknown, Option.isSome_none, perform_commit, DataFile.write, clear]
  have itself : named name ⟨name, passwordHash⟩ = true := Text.sameIgnoringCase_iff.mpr rfl
  refine ⟨passwordHash, ?_⟩
  rw [find?] at unknown
  rw [find?, records, List.find?_append, unknown, Option.none_or, List.find?_cons_of_pos itself]

/-- The first user of that name has another hash, or nothing changes. -/
theorem perform_updatePassword_cases (store : UserStore) (hashing : Hashing)
    (name password : String) :
    (∃ passwordHash file, store.Knows name ∧ store.file.obstacle = none ∧
      Bcrypt.hash? hashing.cost hashing.salt (Bytes.ofText password) = some passwordHash ∧
      store.perform (updatePassword hashing name password) =
        (.ok (), { records := withHash name passwordHash store.records, file })) ∨
    ∃ failure, (Bcrypt.isCost hashing.cost = false ∨ ¬ store.Knows name ∨
        store.file.obstacle ≠ none) ∧
      store.perform (updatePassword hashing name password) = (.error failure, store) := by
  unfold updatePassword
  obtain ⟨passwordHash, hash, hashed⟩ | ⟨cost, failure, failed⟩ :=
    store.perform_hashed_bind hashing password _
  · rw [hashed, perform_get_bind]
    split
    · rename_i unknown
      exact .inr ⟨_, .inr (.inl (not_knows_iff_find?.mpr unknown)), perform_refuse_bind _ _⟩
    · rename_i known
      rw [perform_commit]
      split
      · rename_i file taken
        have clear := (DataFile.eq_of_write taken).1
        refine .inl ⟨passwordHash, file, ?_, clear, hash, rfl⟩
        exact not_not.mp fun unknown => known (not_knows_iff_find?.mp unknown)
      · rename_i failure failed
        exact .inr ⟨_, .inr (.inr (DataFile.obstacle_of_write failed)), rfl⟩
  · exact .inr ⟨failure, .inl cost, failed⟩

/-- The users of other names are left, or nothing changes. -/
theorem perform_delete_cases (store : UserStore) (name : String) :
    (∃ file, store.Knows name ∧ store.file.obstacle = none ∧ store.perform (delete name) =
      (.ok true, { records := store.records.filter (fun user => !named name user), file })) ∨
    (¬ store.Knows name ∧ store.perform (delete name) = (.ok false, store)) ∨
    ∃ failure, store.Knows name ∧ store.file.obstacle ≠ none ∧
      store.perform (delete name) = (.error failure, store) := by
  have known : (store.records.filter fun user => !named name user).length = store.records.length ↔
      ¬ store.Knows name := by
    simp only [List.length_filter_eq_length_iff, Bool.not_eq_true', Knows, not_exists, not_and,
      Bool.not_eq_true]
  unfold delete
  rw [perform_get_bind]
  dsimp only
  split
  · rename_i same
    exact .inr (.inl ⟨known.mp same, rfl⟩)
  · rename_i fewer
    rw [known, not_not] at fewer
    rw [perform_commit_bind]
    split
    · rename_i file taken
      exact .inl ⟨file, fewer, (DataFile.eq_of_write taken).1, rfl⟩
    · rename_i failure failed
      exact .inr (.inr ⟨failure, fewer, DataFile.obstacle_of_write failed, rfl⟩)

theorem map_name_withHash (name passwordHash : String) (users : List User) :
    (withHash name passwordHash users).map User.name = users.map User.name := by
  induction users with
  | nil => rfl
  | cons user rest ih =>
    unfold withHash
    split
    · rfl
    · rw [List.map_cons, List.map_cons, ih]

theorem knows_iff_map : store.Knows name ↔
    ∃ spelling ∈ store.records.map User.name, Text.sameIgnoringCase spelling name = true := by
  simp only [Knows, named, List.mem_map, exists_exists_and_eq_and]

theorem Knows.add (knows : store.Knows other) (hashing : Hashing) (name password : String) :
    Knows (store.perform (UserStore.add hashing name password)).2 other := by
  obtain ⟨passwordHash, file, _, _, _, _, done⟩ | ⟨failure, _, failed⟩ :=
    store.perform_add_cases hashing name password
  · obtain ⟨user, listed, called⟩ := knows
    rw [done]
    exact ⟨user, List.mem_append_left _ listed, called⟩
  · rwa [failed]

theorem Knows.updatePassword (knows : store.Knows other) (hashing : Hashing)
    (name password : String) :
    Knows (store.perform (UserStore.updatePassword hashing name password)).2 other := by
  obtain ⟨passwordHash, file, _, _, _, done⟩ | ⟨failure, _, failed⟩ :=
    store.perform_updatePassword_cases hashing name password
  · rw [done, knows_iff_map, map_name_withHash]
    exact knows_iff_map.mp knows
  · rwa [failed]

/-- Deleting leaves all who are not called so. -/
theorem Knows.delete (knows : store.Knows other)
    (different : Text.sameIgnoringCase other name = false) :
    Knows (store.perform (UserStore.delete name)).2 other := by
  obtain ⟨file, _, _, done⟩ | ⟨_, same⟩ | ⟨failure, _, _, failed⟩ := store.perform_delete_cases name
  · obtain ⟨user, listed, called⟩ := knows
    refine ⟨user, ?_, called⟩
    rw [done, List.mem_filter, Bool.not_eq_true']
    refine ⟨listed, Bool.eq_false_iff.mpr ?_⟩
    intro deleted
    have same : Text.sameIgnoringCase other name = true :=
      Text.sameIgnoringCase_iff.mpr ((Text.sameIgnoringCase_iff.mp called).symm.trans
        (Text.sameIgnoringCase_iff.mp deleted))
    exact Bool.false_ne_true (different.symm.trans same)
  · rwa [same]
  · rwa [failed]

/-- Deleting leaves nobody who is called so, where the file can be written. -/
theorem not_knows_delete (clear : store.file.obstacle = none) (name : String) :
    ¬ Knows (store.perform (delete name)).2 name := by
  obtain ⟨file, _, _, done⟩ | ⟨unknown, same⟩ | ⟨failure, _, blocked, _⟩ :=
    store.perform_delete_cases name
  · rw [done]
    rintro ⟨user, listed, called⟩
    rw [List.mem_filter, Bool.not_eq_true'] at listed
    exact Bool.false_ne_true (listed.2.symm.trans called)
  · rwa [same]
  · exact absurd clear blocked

end UserStore

end SocksGateway
