import SocksGateway.Proofs.Address.Range
import SocksGateway.Proofs.Address.Text
import SocksGateway.Proofs.Store.Perform
import SocksGateway.Store.Networks

/-!
The networks of a store in the course of time. Whatever was created, joined and left, and whatever
could not be written, the addresses of the members lie in the ranges of their networks.
-/

set_option autoImplicit false

namespace SocksGateway

namespace PrivateNetwork

variable {network : PrivateNetwork}

/-- What the search finds is free, and all that it has passed is assigned. -/
theorem leastFree_eq_some {count candidate : Nat} {address : Ipv4}
    (found : network.leastFree count candidate = some address) :
    ∃ number, candidate ≤ number ∧ number < candidate + count ∧ address = Ipv4.ofNat number ∧
      network.hasAddress address = false ∧
      ∀ smaller, candidate ≤ smaller → smaller < number →
        network.hasAddress (Ipv4.ofNat smaller) = true := by
  induction count generalizing candidate with
  | zero => cases found
  | succ count ih =>
    unfold leastFree at found
    split at found
    · rename_i taken
      obtain ⟨number, low, high, same, free, passed⟩ := ih found
      refine ⟨number, by omega, by omega, same, free, ?_⟩
      intro smaller least below
      obtain rfl | above := Nat.eq_or_lt_of_le least
      · exact taken
      · exact passed smaller above below
    · rename_i free
      cases found
      refine ⟨candidate, by omega, by omega, rfl, Bool.eq_false_iff.mpr free, ?_⟩
      intro smaller least below
      omega

theorem nextFree_eq_some {range : Cidr} {address : Ipv4}
    (found : network.nextFree range = some address) :
    range.Offers address ∧ network.hasAddress address = false := by
  obtain ⟨number, low, high, rfl, free, _⟩ := leastFree_eq_some found
  have whole := range.networkNumber_add_size_le
  have last : range.broadcastNumber = range.networkNumber + range.size - 1 := rfl
  have value := Ipv4.toNat_ofNat number (by omega)
  refine ⟨⟨?_, ?_⟩, free⟩
  · omega
  · omega

/-- The range of the network can be read, and it offers the addresses of all members. -/
def IsAssigned (network : PrivateNetwork) : Prop :=
  ∃ range, Cidr.parse? network.range = some range ∧
    ∀ member ∈ network.members, range.Offers member.address

theorem isAssigned_nil (id name : String) (range : Cidr) :
    IsAssigned ⟨id, name, range.text, []⟩ :=
  ⟨range, range.parse?_text, fun _ listed => absurd listed List.not_mem_nil⟩

theorem IsAssigned.append {range : Cidr} {member : Member} (assigned : network.IsAssigned)
    (parsed : Cidr.parse? network.range = some range)
    (found : network.nextFree range = some member.address) :
    IsAssigned { network with members := network.members ++ [member] } := by
  obtain ⟨_, again, offers⟩ := assigned
  cases parsed.symm.trans again
  refine ⟨range, parsed, ?_⟩
  intro each listed
  obtain earlier | rfl := List.mem_append.mp listed |>.imp_right List.mem_singleton.mp
  · exact offers each earlier
  · exact (nextFree_eq_some found).1

theorem IsAssigned.filter (assigned : network.IsAssigned) (keeps : Member → Bool) :
    IsAssigned { network with members := network.members.filter keeps } := by
  obtain ⟨range, parsed, offers⟩ := assigned
  exact ⟨range, parsed, fun member listed => offers member (List.mem_filter.mp listed).1⟩

end PrivateNetwork

namespace NetworkStore

open Store

variable {store : NetworkStore}

theorem mem_replaced {id : String} {network each : PrivateNetwork} {records : List PrivateNetwork}
    (listed : each ∈ replaced id network records) : each = network ∨ each ∈ records := by
  induction records with
  | nil => cases listed
  | cons head rest ih =>
    unfold replaced at listed
    split at listed
    · obtain rfl | later := List.mem_cons.mp listed
      · exact .inl rfl
      · exact .inr (List.mem_cons_of_mem head later)
    · obtain rfl | later := List.mem_cons.mp listed
      · exact .inr List.mem_cons_self
      · exact (ih later).imp_right (List.mem_cons_of_mem head)

/-- What follows the look for a network is done with it, or the store refuses. -/
theorem perform_network_bind {β : Type} (id : String)
    (next : PrivateNetwork → Store.Action PrivateNetwork β) :
    store.perform (network id >>= next) =
      match find? store id with
      | some found => store.perform (next found)
      | none => (.error { cause := .store ("Network '" ++ id ++ "' not found") }, store) := by
  unfold network
  rw [bind_assoc, perform_get_bind]
  cases find? store id with
  | some found => exact perform_pure_bind found next
  | none => exact perform_refuse_bind _ next

/-- A network without members comes behind the others, or nothing changes. -/
theorem perform_create_cases (store : NetworkStore) (id name range : String) :
    (∃ parsed file, Cidr.parse? range = some parsed ∧
      store.perform (create id name range) = (.ok ⟨id, name, parsed.text, []⟩,
        { records := store.records ++ [⟨id, name, parsed.text, []⟩], file })) ∨
    ∃ failure, store.perform (create id name range) = (.error failure, store) := by
  unfold create
  cases known : Cidr.parse? range with
  | none => exact .inr ⟨_, perform_refuse _⟩
  | some parsed =>
    dsimp only
    rw [perform_get_bind, perform_commit_bind]
    split
    · rename_i file _
      exact .inl ⟨parsed, file, rfl, rfl⟩
    · rename_i failure _
      exact .inr ⟨failure, rfl⟩

/-- A user who was no member gets an address that was free, or nothing changes. -/
theorem perform_addMember_cases (store : NetworkStore) (users : UserStore) (name id : String) :
    (∃ user found range address file, UserStore.find? users name = some user ∧
      find? store id = some found ∧ found.hasMember user.name = false ∧
      Cidr.parse? found.range = some range ∧ found.nextFree range = some address ∧
      store.perform (addMember users name id) = (.ok ⟨user.name, address⟩,
        { records := replaced id
            { found with members := found.members ++ [⟨user.name, address⟩] } store.records,
          file })) ∨
    ∃ failure, store.perform (addMember users name id) = (.error failure, store) := by
  unfold addMember
  cases known : UserStore.find? users name with
  | none => exact .inr ⟨_, perform_refuse _⟩
  | some user =>
    dsimp only
    rw [perform_network_bind]
    cases looked : find? store id with
    | none => exact .inr ⟨_, rfl⟩
    | some found =>
      dsimp only
      cases joined : found.hasMember user.name with
      | true => exact .inr ⟨_, perform_refuse_bind _ _⟩
      | false =>
        rw [if_neg Bool.false_ne_true]
        cases parsed : Cidr.parse? found.range with
        | none => exact .inr ⟨_, perform_refuse _⟩
        | some range =>
          dsimp only
          cases free : found.nextFree range with
          | none => exact .inr ⟨_, perform_refuse _⟩
          | some address =>
            dsimp only
            rw [perform_get_bind, perform_commit_bind]
            split
            · rename_i file _
              exact .inl ⟨user, found, range, address, file, rfl, rfl, joined, parsed, free, rfl⟩
            · rename_i failure _
              exact .inr ⟨failure, rfl⟩

theorem perform_removeMember_cases (store : NetworkStore) (name id : String) :
    (∃ found kept file, find? store id = some found ∧
      kept = found.members.filter (fun member => !Text.sameIgnoringCase member.name name) ∧
      kept.length ≠ found.members.length ∧
      store.perform (removeMember name id) = (.ok true,
        { records := replaced id { found with members := kept } store.records, file })) ∨
    (∃ found, find? store id = some found ∧ found.hasMember name = false ∧
      store.perform (removeMember name id) = (.ok false, store)) ∨
    ∃ failure, store.perform (removeMember name id) = (.error failure, store) := by
  unfold removeMember
  rw [perform_network_bind]
  cases looked : find? store id with
  | none => exact .inr (.inr ⟨_, rfl⟩)
  | some found =>
    dsimp only
    split
    · rename_i same
      refine .inr (.inl ⟨found, rfl, ?_, rfl⟩)
      simp only [List.length_filter_eq_length_iff, Bool.not_eq_true'] at same
      exact List.any_eq_false.mpr fun member listed => Bool.eq_false_iff.mp (same member listed)
    · rename_i fewer
      rw [perform_get_bind, perform_commit_bind]
      split
      · rename_i file _
        exact .inl ⟨found, _, file, rfl, rfl, fewer, rfl⟩
      · rename_i failure _
        exact .inr (.inr ⟨failure, rfl⟩)

/-- What happens to a store: its operations, with the users of that time, and obstacles that come in
the way of its file and go. -/
inductive Change where
  | create (id name range : String)
  | addMember (users : UserStore) (name id : String)
  | removeMember (name id : String)
  | obstruct (obstacle : Option IoError)

def Change.apply (store : NetworkStore) : Change → NetworkStore
  | create id name range => (store.perform (NetworkStore.create id name range)).2
  | addMember users name id => (store.perform (NetworkStore.addMember users name id)).2
  | removeMember name id => (store.perform (NetworkStore.removeMember name id)).2
  | obstruct obstacle => { store with file := { store.file with obstacle } }

/-- The store after these changes, where there was no network at first. -/
def after (file : DataFile) (changes : List Change) : NetworkStore :=
  changes.foldl Change.apply { records := [], file }

/-- What is true of networks without members, and stays true of those that somebody joins or leaves. -/
structure Change.Keeps (property : PrivateNetwork → Prop) : Prop where
  blank (id name : String) (range : Cidr) : property ⟨id, name, range.text, []⟩
  join {network : PrivateNetwork} {range : Cidr} {member : Member} (before : property network)
    (stranger : network.hasMember member.name = false)
    (parsed : Cidr.parse? network.range = some range)
    (found : network.nextFree range = some member.address) :
    property { network with members := network.members ++ [member] }
  leave {network : PrivateNetwork} (before : property network) (keeps : Member → Bool) :
    property { network with members := network.members.filter keeps }

theorem Change.Keeps.apply {property : PrivateNetwork → Prop} (kept : Keeps property)
    (change : Change) (before : ∀ network ∈ store.records, property network) :
    ∀ network ∈ (change.apply store).records, property network := by
  have replaced {id : String} {network : PrivateNetwork} (placed : property network) :
      ∀ each ∈ NetworkStore.replaced id network store.records, property each := by
    intro each listed
    obtain rfl | earlier := mem_replaced listed
    · exact placed
    · exact before each earlier
  cases change with
  | create id name range =>
    obtain ⟨parsed, file, _, done⟩ | ⟨failure, failed⟩ :=
      store.perform_create_cases id name range
    · rw [Change.apply, done]
      intro each listed
      obtain earlier | rfl := List.mem_append.mp listed |>.imp_right List.mem_singleton.mp
      · exact before each earlier
      · exact kept.blank id name parsed
    · rw [Change.apply, failed]
      exact before
  | addMember users name id =>
    obtain ⟨user, found, range, address, file, _, looked, stranger, parsed, free, done⟩ |
        ⟨failure, failed⟩ := store.perform_addMember_cases users name id
    · rw [Change.apply, done]
      have known : property found := before found (List.mem_of_find?_eq_some looked)
      exact replaced (kept.join known stranger parsed free)
    · rw [Change.apply, failed]
      exact before
  | removeMember name id =>
    obtain ⟨found, _, file, looked, rfl, _, done⟩ | ⟨_, _, _, same⟩ | ⟨failure, failed⟩ :=
      store.perform_removeMember_cases name id
    · rw [Change.apply, done]
      exact replaced (kept.leave (before found (List.mem_of_find?_eq_some looked)) _)
    · rw [Change.apply, same]
      exact before
    · rw [Change.apply, failed]
      exact before
  | obstruct obstacle => exact before

theorem Change.Keeps.after {property : PrivateNetwork → Prop} (kept : Keeps property)
    (file : DataFile) (changes : List Change) :
    ∀ network ∈ (NetworkStore.after file changes).records, property network := by
  have run (store : NetworkStore) (before : ∀ network ∈ store.records, property network) :
      ∀ network ∈ (changes.foldl Change.apply store).records, property network := by
    induction changes generalizing store with
    | nil => exact before
    | cons change rest ih => exact ih (change.apply store) (kept.apply change before)
  exact run _ fun _ listed => absurd listed List.not_mem_nil

/-- The addresses of all members are assigned from the ranges of their networks. -/
def IsAssigned (store : NetworkStore) : Prop := ∀ network ∈ store.records, network.IsAssigned

theorem isAssigned_after (file : DataFile) (changes : List Change) :
    (after file changes).IsAssigned :=
  Change.Keeps.after
    { blank := PrivateNetwork.isAssigned_nil
      join := fun before _ parsed found => before.append parsed found
      leave := fun before keeps => before.filter keeps }
    file changes

end NetworkStore

end SocksGateway
