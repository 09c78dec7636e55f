import SocksGateway.Proofs.Store.Durability
import SocksGateway.Proofs.Store.Membership
import SocksGateway.Store.Edit
import Mathlib.Data.List.Induction

/-!
Edits of a data directory, one after another. Each opens the stores that the last one left. Members of
networks are users for as long as nobody is deleted who is a member.
-/

set_option autoImplicit false

namespace SocksGateway

namespace DataDirectory

variable {directory : DataDirectory} {α β γ : Type} {kind : RecordKind}
  {store : Store β}

theorem put_content (directory : DataDirectory) (kind : RecordKind) :
    directory.put kind (directory.content kind) = directory := by
  have same : (fun each => if each = kind then directory.content kind else directory.content each) =
      directory.content := by
    funext each
    split
    · rename_i here
      rw [here]
    · rfl
  rw [put, same]

theorem file_put (directory : DataDirectory) (kind : RecordKind) (content : Option String) :
    (directory.put kind content).file kind = { directory.file kind with content } := by
  simp only [file, content_put_self]
  rfl

theorem file_put_of_ne {other : RecordKind} (different : other ≠ kind) (content : Option String) :
    (directory.put kind content).file other = directory.file other := by
  simp only [file, content_put_other directory kind other content different]
  rfl

/-- What a store wrote is what the next one that is opened there has. -/
theorem load_put_perform [Recorded β] [Recorded.IsFaithful β] {action : Store.Action β α}
    (loaded : Store.load (directory.file kind) = .ok store) (settles : Store.Settles action) :
    Store.load ((directory.put kind (store.perform action).2.file.content).file kind) =
      .ok (store.perform action).2 := by
  have here := Store.file_of_load loaded
  have settled := settles store
  generalize store.perform action = outcome at settled ⊢
  cases settled with
  | refused | answered =>
    have same : (directory.put kind store.file.content).file kind = directory.file kind := by
      rw [here]
      exact congrArg (DataDirectory.file · kind) (directory.put_content kind)
    exact (congrArg Store.load same).trans loaded
  | written value records file taken =>
    obtain ⟨clear, rfl⟩ := DataFile.eq_of_write taken
    have same : (directory.put kind (some (Store.render records))).file kind =
        { store.file with content := some (Store.render records) } := by
      rw [file_put, here]
    exact (congrArg Store.load same).trans (Store.load_of_read (Store.read_rendered clear records))

/-- What is done in a directory: what it gave, and the directory after it. -/
def perform (directory : DataDirectory) (action : Action α) : Except Failure α × DataDirectory :=
  action.run.run directory

theorem perform_bind (directory : DataDirectory) (action : Action α) (next : α → Action γ) :
    directory.perform (action >>= next) = match directory.perform action with
      | (.ok value, after) => after.perform (next value)
      | (.error failure, after) => (.error failure, after) := by
  unfold perform
  rw [ExceptT.run_bind, StateT.run_bind]
  obtain ⟨result, after⟩ := (action.run).run directory
  cases result with
  | ok value => rfl
  | error failure => rfl

theorem perform_openStore [Recorded β] (directory : DataDirectory) (kind : RecordKind) :
    directory.perform (openStore kind : Action (Store β)) =
      (Store.load (directory.file kind), directory) := by
  have got : directory.perform (get : Action DataDirectory) = (.ok directory, directory) := rfl
  unfold openStore
  rw [perform_bind, got]
  dsimp only
  cases (Store.load (directory.file kind) : Except Failure (Store β)) with
  | ok store => rfl
  | error failure => rfl

theorem perform_openStore_bind [Recorded β]
    (loaded : Store.load (directory.file kind) = .ok store) (next : Store β → Action γ) :
    directory.perform (openStore kind >>= next) = directory.perform (next store) := by
  rw [perform_bind, perform_openStore, loaded]

/-- Where nothing but an answer follows, the directory is as the action leaves it. -/
theorem snd_perform_bind {action : Action α} {next : α → Action γ}
    (quiet : ∀ value directory, (perform directory (next value)).2 = directory) :
    (directory.perform (action >>= next)).2 = (directory.perform action).2 := by
  rw [perform_bind]
  obtain ⟨result, after⟩ := directory.perform action
  cases result with
  | ok value => exact quiet value after
  | error failure => rfl

theorem snd_perform_adapt (adapt : Failure → Failure) (action : Action α) :
    (directory.perform (ExceptT.adapt adapt action)).2 = (directory.perform action).2 := rfl

theorem snd_perform_change (kind : RecordKind) (store : Store β) (action : Store.Action β α) :
    (directory.perform (change kind store action)).2 =
      directory.put kind (store.perform action).2.file.content := by
  unfold change
  generalize store.perform action = outcome
  obtain ⟨result, after⟩ := outcome
  cases result with
  | ok value => rfl
  | error failure => rfl

end DataDirectory

/-- Whether the edit is for making a user of that name a member. -/
def StoreEdit.Joins (name : String) : StoreEdit → Prop
  | .joinNetwork user _ => Text.sameIgnoringCase user name = true
  | _ => False

/-- The stores that edits of users and networks are about. -/
structure Stores where
  users : UserStore
  networks : NetworkStore

namespace Stores

variable {stores : Stores}

/-- What an edit does to the stores of users and networks. -/
def apply (stores : Stores) (random : Bytes) : StoreEdit → Stores
  | .addUser name password =>
    let hashing : UserStore.Hashing := { cost := StoreEdit.passwordCost, salt := random }
    if (UserStore.find? stores.users name).isSome then
      { stores with
        users := (stores.users.perform (UserStore.updatePassword hashing name password)).2 }
    else { stores with users := (stores.users.perform (UserStore.add hashing name password)).2 }
  | .deleteUser name =>
    { stores with users := (stores.users.perform (UserStore.delete name)).2 }
  | .createNetwork name range =>
    let id := NetworkStore.idOfRandom random
    { stores with networks := (stores.networks.perform (NetworkStore.create id name range)).2 }
  | .joinNetwork user network =>
    { stores with
      networks := (stores.networks.perform (NetworkStore.addMember stores.users user network)).2 }
  | .leaveNetwork user network =>
    { stores with
      networks := (stores.networks.perform (NetworkStore.removeMember user network)).2 }
  | .addHost .. => stores

/-- These are the stores that are opened in the directory. -/
structure AreIn (stores : Stores) (directory : DataDirectory) : Prop where
  users : Store.load (directory.file .users) = .ok stores.users
  networks : Store.load (directory.file .networks) = .ok stores.networks

variable {directory : DataDirectory}

open DataDirectory

theorem AreIn.putUsers {α : Type} {action : Store.Action User α} (areIn : stores.AreIn directory)
    (settles : Store.Settles action) :
    AreIn { stores with users := (stores.users.perform action).2 }
      (directory.put .users (stores.users.perform action).2.file.content) where
  users := load_put_perform areIn.users settles
  networks := by rw [file_put_of_ne (by decide), areIn.networks]

theorem AreIn.putNetworks {α : Type} {action : Store.Action PrivateNetwork α}
    (areIn : stores.AreIn directory) (settles : Store.Settles action) :
    AreIn { stores with networks := (stores.networks.perform action).2 }
      (directory.put .networks (stores.networks.perform action).2.file.content) where
  users := by rw [file_put_of_ne (by decide), areIn.users]
  networks := load_put_perform areIn.networks settles

theorem AreIn.putHosts (areIn : stores.AreIn directory) (content : Option String) :
    stores.AreIn (directory.put .hosts content) where
  users := by rw [file_put_of_ne (by decide), areIn.users]
  networks := by rw [file_put_of_ne (by decide), areIn.networks]

theorem AreIn.run (areIn : stores.AreIn directory) (random : Bytes) (edit : StoreEdit) :
    (stores.apply random edit).AreIn (edit.run random directory).2 := by
  change (stores.apply random edit).AreIn (directory.perform (edit.perform random)).2
  cases edit with
  | addUser name password =>
    rw [StoreEdit.perform, perform_openStore_bind areIn.users, apply]
    dsimp only
    split
    · rw [snd_perform_bind fun _ _ => rfl, snd_perform_change]
      exact areIn.putUsers (UserStore.settles_updatePassword _ name password)
    · rw [snd_perform_bind fun _ _ => rfl, snd_perform_change]
      exact areIn.putUsers (UserStore.settles_add _ name password)
  | deleteUser name =>
    rw [StoreEdit.perform, perform_openStore_bind areIn.users, snd_perform_bind, snd_perform_change]
    · exact areIn.putUsers (UserStore.settles_delete name)
    · intro found directory
      cases found <;> rfl
  | createNetwork name range =>
    rw [StoreEdit.perform, perform_openStore_bind areIn.networks, snd_perform_bind fun _ _ => rfl,
      snd_perform_change]
    exact areIn.putNetworks (NetworkStore.settles_create _ name range)
  | joinNetwork user network =>
    rw [StoreEdit.perform, perform_openStore_bind areIn.users, perform_openStore_bind areIn.networks,
      snd_perform_bind fun _ _ => rfl, snd_perform_adapt, snd_perform_change]
    exact areIn.putNetworks (NetworkStore.settles_addMember stores.users user network)
  | leaveNetwork user network =>
    rw [StoreEdit.perform, perform_openStore_bind areIn.networks, snd_perform_bind, snd_perform_change]
    · exact areIn.putNetworks (NetworkStore.settles_removeMember user network)
    · intro found directory
      cases found <;> rfl
  | addHost name addresses =>
    rw [StoreEdit.perform, perform_bind, perform_openStore]
    cases (Store.load (directory.file .hosts) : Except Failure HostStore) with
    | ok hosts =>
      dsimp only
      rw [snd_perform_bind fun _ _ => rfl, snd_perform_change]
      exact areIn.putHosts _
    | error failure => exact areIn

theorem AreIn.unique {other : Stores} (areIn : stores.AreIn directory)
    (others : other.AreIn directory) : other = stores := by
  obtain ⟨users, networks⟩ := stores
  obtain ⟨otherUsers, otherNetworks⟩ := other
  cases areIn.users.symm.trans others.users
  cases areIn.networks.symm.trans others.networks
  rfl

/-! ## Members and users -/

/-- Every member of a network is a user. -/
def IsNamed (stores : Stores) : Prop :=
  ∀ member, stores.networks.Seats member → stores.users.Knows member.name

/-- No member of a network has the name, in whatever spelling. -/
def IsFree (stores : Stores) (name : String) : Prop :=
  ∀ member, stores.networks.Seats member → Text.sameIgnoringCase member.name name = false

theorem networks_addUser (stores : Stores) (random : Bytes) (name password : String) :
    (stores.apply random (.addUser name password)).networks = stores.networks := by
  unfold Stores.apply
  dsimp only
  split
  · rfl
  · rfl

theorem networks_deleteUser (stores : Stores) (random : Bytes) (name : String) :
    (stores.apply random (.deleteUser name)).networks = stores.networks := rfl

theorem knows_addUser {other : String} (knows : stores.users.Knows other) (random : Bytes)
    (name password : String) : (stores.apply random (.addUser name password)).users.Knows other := by
  unfold Stores.apply
  dsimp only
  split
  · exact knows.updatePassword _ name password
  · exact knows.add _ name password

theorem IsNamed.apply {random : Bytes} {edit : StoreEdit} (named : stores.IsNamed)
    (safe : ∀ name, edit = .deleteUser name → stores.IsFree name) :
    (stores.apply random edit).IsNamed := by
  intro member seats
  cases edit with
  | addUser name password =>
    rw [networks_addUser] at seats
    exact knows_addUser (named member seats) random name password
  | deleteUser name => exact (named member seats).delete (safe name rfl member seats)
  | createNetwork name range => exact named member (NetworkStore.seats_of_create seats)
  | joinNetwork user network =>
    obtain earlier | ⟨found, known, called⟩ := NetworkStore.seats_of_addMember seats
    · exact named member earlier
    · rw [called]
      exact UserStore.knows_of_find? known
  | leaveNetwork user network => exact named member (NetworkStore.seats_of_removeMember seats)
  | addHost name addresses => exact named member seats

theorem IsFree.apply {name : String} {edit : StoreEdit} (free : stores.IsFree name)
    (random : Bytes) (absent : ¬ edit.Joins name) : (stores.apply random edit).IsFree name := by
  intro member seats
  cases edit with
  | addUser added password =>
    rw [networks_addUser] at seats
    exact free member seats
  | deleteUser deleted => exact free member seats
  | createNetwork name range => exact free member (NetworkStore.seats_of_create seats)
  | joinNetwork user network =>
    obtain earlier | ⟨found, known, called⟩ := NetworkStore.seats_of_addMember seats
    · exact free member earlier
    · -- The store of users may spell the name otherwise than the edit does.
      have spelled := List.find?_some known
      refine Bool.eq_false_iff.mpr fun same => absent ?_
      rw [called, Text.sameIgnoringCase_iff] at same
      exact Text.sameIgnoringCase_iff.mpr
        ((Text.sameIgnoringCase_iff.mp spelled).symm.trans same)
  | leaveNetwork user network => exact free member (NetworkStore.seats_of_removeMember seats)
  | addHost name addresses => exact free member seats

theorem IsFree.allows {name : String} (free : stores.IsFree name) (ip : Ip) :
    stores.networks.allows name ip = false := by
  refine Bool.eq_false_iff.mpr fun allowed => ?_
  obtain ⟨network, listed, grants⟩ := PrivateNetwork.anyJoins_iff.mp allowed
  obtain ⟨member, joined, same⟩ := grants.joined
  exact Bool.eq_false_iff.mp (free member ⟨network, listed, joined⟩) same

/-- Where there are members, nothing is in the way of the files. -/
theorem AreIn.clear {member : Member} (areIn : stores.AreIn directory)
    (seats : stores.networks.Seats member) : stores.users.file.obstacle = none := by
  rw [Store.file_of_load areIn.users]
  cases blocked : directory.obstacle with
  | none => exact blocked
  | some error =>
    obtain ⟨users, networks⟩ := stores
    have loaded := areIn.networks
    have nothing : (directory.file .networks).read = none := by
      simp only [DataFile.read, file, blocked, Option.isSome_some, if_true]
    rw [Store.load, nothing] at loaded
    cases loaded
    obtain ⟨network, listed, _⟩ := seats
    cases listed

/-- Members are users after a user was deleted only if that was no member. -/
theorem IsFree.of_isNamed_apply {random : Bytes} {name : String} (areIn : stores.AreIn directory)
    (named : (stores.apply random (.deleteUser name)).IsNamed) : stores.IsFree name := by
  intro member seats
  refine Bool.eq_false_iff.mpr fun same => ?_
  exact UserStore.not_knows_delete (areIn.clear seats) name ((named member seats).spelled same)

end Stores

/-- The property is one of the stores that are opened in the directory. -/
def DataDirectory.Holds (directory : DataDirectory) (property : Stores → Prop) : Prop :=
  ∃ stores, stores.AreIn directory ∧ property stores

namespace StoreEdit

open Stores

/-- The directory after these edits, each with its random octets. -/
def after (directory : DataDirectory) (edits : List (Bytes × StoreEdit)) : DataDirectory :=
  edits.foldl (fun directory (random, edit) => (edit.run random directory).2) directory

theorem after_nil (directory : DataDirectory) : after directory [] = directory := by
  unfold after
  rw [List.foldl_nil]

theorem after_cons (directory : DataDirectory) (random : Bytes) (edit : StoreEdit)
    (rest : List (Bytes × StoreEdit)) : after directory ((random, edit) :: rest) =
      after (edit.run random directory).2 rest := by
  unfold after
  rw [List.foldl_cons]

theorem after_append (directory : DataDirectory) (before later : List (Bytes × StoreEdit)) :
    after directory (before ++ later) = after (after directory before) later :=
  List.foldl_append

theorem areIn_start (path : String) (obstacle : Option IoError) :
    let start : DataDirectory := { path, obstacle }
    AreIn ⟨⟨[], start.file .users⟩, ⟨[], start.file .networks⟩⟩ start := by
  cases obstacle <;> exact ⟨rfl, rfl⟩

theorem holds_isFree_after {directory : DataDirectory} {name : String}
    (free : directory.Holds (·.IsFree name)) (later : List (Bytes × StoreEdit))
    (absent : ∀ step ∈ later, ¬ step.2.Joins name) : (after directory later).Holds (·.IsFree name) := by
  induction later generalizing directory with
  | nil => exact free
  | cons step rest ih =>
    obtain ⟨stores, areIn, free⟩ := free
    refine ih ⟨_, areIn.run step.1 step.2, ?_⟩ fun each listed =>
      absent each (List.mem_cons_of_mem step listed)
    exact free.apply step.1 (absent step List.mem_cons_self)

/-- Members are users at all times of a run if nobody is deleted while a member. -/
theorem holds_isNamed_after {directory : DataDirectory} {before : List (Bytes × StoreEdit)}
    (named : directory.Holds IsNamed)
    (safe : ∀ front random name, front ++ [(random, .deleteUser name)] <+: before →
      (after directory front).Holds (·.IsFree name)) : (after directory before).Holds IsNamed := by
  -- The last edit acts on stores that the edits before it left, where members were users.
  induction before using List.reverseRecOn with
  | nil => exact named
  | append_singleton front step ih =>
    obtain ⟨random, edit⟩ := step
    obtain ⟨stores, areIn, named⟩ := ih fun earlier random name deleted =>
      safe earlier random name (deleted.trans (List.prefix_append _ _))
    rw [after_append]
    refine ⟨_, areIn.run random edit, named.apply ?_⟩
    rintro name rfl
    obtain ⟨others, alsoIn, free⟩ := safe front random name List.prefix_rfl
    exact areIn.unique alsoIn ▸ free

/-- From an empty directory on, whatever the edits: the members of networks are users all the time exactly
if nobody is deleted while a member. And where nobody of a name is a member, nobody becomes one but by
joining, and the name gets to no assigned address. -/
theorem holds_isNamed_iff (path : String) (obstacle : Option IoError)
    (edits : List (Bytes × StoreEdit)) :
    let start : DataDirectory := { path, obstacle }
    ((∀ before, before <+: edits → (after start before).Holds IsNamed) ↔
      ∀ before random name, before ++ [(random, .deleteUser name)] <+: edits →
        (after start before).Holds (·.IsFree name)) ∧
    ∀ before later name, before ++ later = edits → (after start before).Holds (·.IsFree name) →
      (∀ step ∈ later, ¬ step.2.Joins name) →
        (after start edits).Holds fun stores =>
          stores.IsFree name ∧ ∀ ip, stores.networks.allows name ip = false := by
  intro start
  have nobody : start.Holds IsNamed :=
    ⟨_, areIn_start path obstacle, fun _ ⟨_, listed, _⟩ => absurd listed List.not_mem_nil⟩
  refine ⟨⟨?_, ?_⟩, ?_⟩
  · intro always before random name deleted
    obtain ⟨stores, areIn, _⟩ := always before ((List.prefix_append _ _).trans deleted)
    obtain ⟨others, alsoIn, named⟩ := always _ deleted
    -- What is opened after the deletion is what the deletion makes of the stores before it.
    rw [after_append] at alsoIn
    rw [(areIn.run random (.deleteUser name)).unique alsoIn] at named
    exact ⟨stores, areIn, .of_isNamed_apply areIn named⟩
  · intro safe before earlier
    exact holds_isNamed_after nobody fun front random name deleted =>
      safe front random name (deleted.trans earlier)
  · rintro before later name rfl free absent
    rw [after_append]
    obtain ⟨stores, areIn, free⟩ := holds_isFree_after free later absent
    exact ⟨stores, areIn, free, free.allows⟩

def zeros : Bytes := List.replicate 16 0

/-- A user joins a network and is deleted. -/
def farewell : List (Bytes × StoreEdit) :=
  [(zeros, .addUser "alice" "a"), (zeros, .createNetwork "lab" "10.1.0.0/24"),
    (zeros, .joinNetwork "alice" "00000000000040008000000000000000"), (zeros, .deleteUser "alice")]

/-- The membership outlives the user, and whoever gets the name next has it. -/
theorem not_isNamed_farewell :
    let start : DataDirectory := { path := "data" }
    ((after start farewell).Holds fun stores => ¬ stores.IsNamed) ∧
      (after start (farewell ++ [(zeros, .addUser "Alice" "b")])).Holds fun stores =>
        stores.networks.allows "Alice" (.v4 ⟨10, 1, 0, 1⟩) = true := by
  intro start
  let empty : Stores := ⟨⟨[], start.file .users⟩, ⟨[], start.file .networks⟩⟩
  let added := empty.apply zeros (.addUser "alice" "a")
  let joined := (added.apply zeros (.createNetwork "lab" "10.1.0.0/24")).apply zeros
    (.joinNetwork "alice" "00000000000040008000000000000000")
  let deleted := joined.apply zeros (.deleteUser "alice")
  obtain ⟨passwordHash, known⟩ : ∃ passwordHash,
      UserStore.find? added.users "alice" = some ⟨"alice", passwordHash⟩ :=
    UserStore.find?_perform_add rfl rfl rfl rfl "a"
  have records : joined.networks.records = [⟨"00000000000040008000000000000000", "lab", "10.1.0.0/24",
      [⟨"alice", ⟨10, 1, 0, 1⟩⟩]⟩] := by
    have same : added.networks = empty.networks := networks_addUser empty zeros "alice" "a"
    simp only [joined, Stores.apply, same]
    unfold NetworkStore.addMember
    simp only [known]
    rfl
  have seats : joined.networks.Seats ⟨"alice", ⟨10, 1, 0, 1⟩⟩ :=
    ⟨_, records ▸ List.mem_singleton_self _, List.mem_singleton_self _⟩
  have joinedIn := (((areIn_start "data" none).run zeros (.addUser "alice" "a")).run zeros
    (.createNetwork "lab" "10.1.0.0/24")).run zeros
    (.joinNetwork "alice" "00000000000040008000000000000000")
  have deletedIn := joinedIn.run zeros (.deleteUser "alice")
  have allowed : joined.networks.allows "Alice" (.v4 ⟨10, 1, 0, 1⟩) = true := by
    rw [NetworkStore.allows, records]
    decide
  have againIn := deletedIn.run zeros (.addUser "Alice" "b")
  simp only [farewell, List.cons_append, List.nil_append, after_cons, after_nil]
  refine ⟨⟨deleted, deletedIn, ?_⟩, deleted.apply zeros (.addUser "Alice" "b"), againIn, ?_⟩
  · intro named
    have free : joined.IsFree "alice" := .of_isNamed_apply joinedIn named
    have same : Text.sameIgnoringCase "alice" "alice" = true := Text.sameIgnoringCase_iff.mpr rfl
    exact Bool.false_ne_true ((free _ seats).symm.trans same)
  · dsimp only
    rw [networks_addUser, networks_deleteUser]
    exact allowed

end StoreEdit

end SocksGateway
