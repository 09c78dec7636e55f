import SocksGateway.Proofs.Store.Networks
import Mathlib.Data.List.Nodup
import Mathlib.Data.List.Pairwise

/-!
Who is a member of what in the course of time. In every network, names and addresses belong to one member
each; a user reaches an address by sharing a network with it, and no longer once the membership has ended.
-/

set_option autoImplicit false

namespace SocksGateway

namespace PrivateNetwork

variable {network : PrivateNetwork}

theorem hasMember_iff {name : String} : network.hasMember name = true ↔
    ∃ member ∈ network.members, Text.sameIgnoringCase member.name name = true :=
  List.any_eq_true

theorem hasAddress_iff {address : Ipv4} : network.hasAddress address = true ↔
    ∃ member ∈ network.members, member.address = address := by
  simp only [hasAddress, List.any_eq_true, beq_iff_eq]

/-- The network makes the address one that the user reaches: both belong to members of it. -/
structure Grants (network : PrivateNetwork) (name : String) (ip : Ip) : Prop where
  joined : ∃ member ∈ network.members, Text.sameIgnoringCase member.name name = true
  assigned : ∃ member ∈ network.members, ip.canonical = .v4 member.address

theorem anyJoins_iff {networks : List PrivateNetwork} {name : String} {ip : Ip} :
    anyJoins networks name ip = true ↔ ∃ network ∈ networks, network.Grants name ip := by
  unfold anyJoins
  cases found : ip.toIpv4? with
  | none =>
    constructor
    · intro granted
      cases granted
    · -- An address without a four-octet form is nobody's.
      rintro ⟨network, _, grants⟩
      obtain ⟨member, _, same⟩ := grants.assigned
      rw [Ip.canonical_of_none found] at same
      rw [same] at found
      cases found
  | some short =>
    have assigned (network : PrivateNetwork) : network.hasAddress short = true ↔
        ∃ member ∈ network.members, ip.canonical = .v4 member.address := by
      rw [hasAddress_iff, Ip.canonical_of_some found]
      simp only [Ip.v4.injEq, eq_comm]
    simp only [List.any_eq_true, Bool.and_eq_true]
    constructor
    · rintro ⟨network, listed, joined, held⟩
      exact ⟨network, listed, hasMember_iff.mp joined, (assigned network).mp held⟩
    · rintro ⟨network, listed, joined, held⟩
      exact ⟨network, listed, hasMember_iff.mpr joined, (assigned network).mpr held⟩

/-- No two members share a name or an address, and the range offers all of these addresses. -/
structure IsOrderly (network : PrivateNetwork) : Prop where
  names : network.members.Pairwise fun first second =>
    Text.sameIgnoringCase first.name second.name = false
  addresses : (network.members.map Member.address).Nodup
  assigned : network.IsAssigned

theorem isOrderly_nil (id name : String) (range : Cidr) : IsOrderly ⟨id, name, range.text, []⟩ where
  names := .nil
  addresses := .nil
  assigned := isAssigned_nil id name range

theorem IsOrderly.append {range : Cidr} {member : Member} (orderly : network.IsOrderly)
    (stranger : network.hasMember member.name = false)
    (parsed : Cidr.parse? network.range = some range)
    (found : network.nextFree range = some member.address) :
    IsOrderly { network with members := network.members ++ [member] } where
  names := by
    refine List.pairwise_append.mpr ⟨orderly.names, List.pairwise_singleton _ _, ?_⟩
    intro earlier listed newcomer last
    obtain rfl := List.mem_singleton.mp last
    exact Bool.eq_false_iff.mpr fun same =>
      Bool.eq_false_iff.mp stranger (hasMember_iff.mpr ⟨earlier, listed, same⟩)
  addresses := by
    have free := (nextFree_eq_some found).2
    rw [List.map_append, List.map_singleton, ← List.concat_eq_append]
    refine orderly.addresses.concat ?_
    intro taken
    obtain ⟨earlier, listed, same⟩ := List.mem_map.mp taken
    exact Bool.eq_false_iff.mp free (hasAddress_iff.mpr ⟨earlier, listed, same⟩)
  assigned := orderly.assigned.append parsed found

theorem IsOrderly.filter (orderly : network.IsOrderly) (keeps : Member → Bool) :
    IsOrderly { network with members := network.members.filter keeps } where
  names := orderly.names.filter keeps
  addresses := orderly.addresses.sublist (List.filter_sublist.map Member.address)
  assigned := orderly.assigned.filter keeps

theorem IsOrderly.eq_of_name {first second : Member} (orderly : network.IsOrderly)
    (one : first ∈ network.members) (other : second ∈ network.members)
    (same : Text.lowerAscii first.name = Text.lowerAscii second.name) : first = second := by
  have distinct : (network.members.map fun member => Text.lowerAscii member.name).Nodup :=
    List.pairwise_map.mpr (orderly.names.imp beq_eq_false_iff_ne.mp)
  exact List.inj_on_of_nodup_map distinct one other same

end PrivateNetwork

namespace NetworkStore

open Store

variable {store : NetworkStore}

theorem isOrderly_after (file : DataFile) (changes : List Change) :
    ∀ network ∈ (after file changes).records, network.IsOrderly :=
  Change.Keeps.after
    { blank := PrivateNetwork.isOrderly_nil
      join := PrivateNetwork.IsOrderly.append
      leave := PrivateNetwork.IsOrderly.filter }
    file changes

/-! ## Members -/

/-- This is a member of a network. -/
def Seats (store : NetworkStore) (member : Member) : Prop :=
  ∃ network ∈ store.records, member ∈ network.members

variable {member : Member}

theorem Seats.of_replaced {id : String} {network : PrivateNetwork} {file : DataFile}
    (seats : Seats { records := replaced id network store.records, file } member) :
    member ∈ network.members ∨ store.Seats member := by
  obtain ⟨each, listed, joined⟩ := seats
  obtain rfl | earlier := mem_replaced listed
  · exact .inl joined
  · exact .inr ⟨each, earlier, joined⟩

theorem seats_of_create {id name range : String}
    (seats : Seats (store.perform (create id name range)).2 member) : store.Seats member := by
  obtain ⟨parsed, file, _, done⟩ | ⟨failure, failed⟩ := store.perform_create_cases id name range
  · rw [done] at seats
    obtain ⟨network, listed, joined⟩ := seats
    obtain earlier | rfl := List.mem_append.mp listed |>.imp_right List.mem_singleton.mp
    · exact ⟨network, earlier, joined⟩
    · cases joined
  · rwa [failed] at seats

/-- Who joins is a user, called as the store of users has the name. -/
theorem seats_of_addMember {users : UserStore} {name id : String}
    (seats : Seats (store.perform (addMember users name id)).2 member) :
    store.Seats member ∨ ∃ user, UserStore.find? users name = some user ∧ member.name = user.name := by
  obtain ⟨user, found, range, address, file, known, looked, _, _, _, done⟩ | ⟨failure, failed⟩ :=
    store.perform_addMember_cases users name id
  · rw [done] at seats
    obtain joined | earlier := Seats.of_replaced seats
    · obtain before | rfl := List.mem_append.mp joined |>.imp_right List.mem_singleton.mp
      · exact .inl ⟨found, List.mem_of_find?_eq_some looked, before⟩
      · exact .inr ⟨user, known, rfl⟩
    · exact .inl earlier
  · rw [failed] at seats
    exact .inl seats

theorem seats_of_removeMember {name id : String}
    (seats : Seats (store.perform (removeMember name id)).2 member) : store.Seats member := by
  obtain ⟨found, _, file, looked, rfl, _, done⟩ | ⟨_, _, _, kept⟩ | ⟨failure, failed⟩ :=
    store.perform_removeMember_cases name id
  · rw [done] at seats
    obtain joined | earlier := Seats.of_replaced seats
    · exact ⟨found, List.mem_of_find?_eq_some looked, (List.mem_filter.mp joined).1⟩
    · exact earlier
  · rwa [kept] at seats
  · rwa [failed] at seats

/-! ## Identifiers -/

/-- The identifier that a change gives to a new network. -/
def Change.created? : Change → Option String
  | create id _ _ => some id
  | addMember .. | removeMember .. | obstruct _ => none

theorem id_of_find? {id : String} {found : PrivateNetwork} (looked : find? store id = some found) :
    found.id = id := by
  have known := List.find?_some looked
  exact beq_iff_eq.mp known

/-- Other members of a network that was found leave its place as it is. -/
theorem map_id_replaced {id : String} {found : PrivateNetwork} (looked : find? store id = some found)
    (members : List Member) :
    (replaced id { found with members } store.records).map PrivateNetwork.id =
      store.records.map PrivateNetwork.id := by
  have same := id_of_find? looked
  induction store.records with
  | nil => rfl
  | cons head rest ih =>
    unfold replaced
    split
    · rename_i here
      rw [List.map_cons, List.map_cons, same, beq_iff_eq.mp here]
    · rw [List.map_cons, List.map_cons, ih]

theorem ids_apply (change : Change) :
    ((change.apply store).records.map PrivateNetwork.id).Sublist
      (store.records.map PrivateNetwork.id ++ change.created?.toList) := by
  have same : (store.records.map PrivateNetwork.id).Sublist
      (store.records.map PrivateNetwork.id ++ change.created?.toList) :=
    List.sublist_append_left _ _
  cases change with
  | create id name range =>
    obtain ⟨parsed, file, _, done⟩ | ⟨failure, failed⟩ := store.perform_create_cases id name range
    · rw [Change.apply, done, List.map_append]
      exact .refl _
    · rw [Change.apply, failed]
      exact same
  | addMember users name id =>
    obtain ⟨user, found, range, address, file, _, looked, _, _, _, done⟩ | ⟨failure, failed⟩ :=
      store.perform_addMember_cases users name id
    · rw [Change.apply, done, map_id_replaced looked]
      exact same
    · rw [Change.apply, failed]
      exact same
  | removeMember name id =>
    obtain ⟨found, _, file, looked, rfl, _, done⟩ | ⟨_, _, _, kept⟩ | ⟨failure, failed⟩ :=
      store.perform_removeMember_cases name id
    · rw [Change.apply, done, map_id_replaced looked]
      exact same
    · rw [Change.apply, kept]
      exact same
    · rw [Change.apply, failed]
      exact same
  | obstruct obstacle => exact same

theorem ids_after (file : DataFile) (changes : List Change) :
    ((after file changes).records.map PrivateNetwork.id).Sublist
      (changes.filterMap Change.created?) := by
  have run (store : NetworkStore) :
      ((changes.foldl Change.apply store).records.map PrivateNetwork.id).Sublist
        (store.records.map PrivateNetwork.id ++ changes.filterMap Change.created?) := by
    induction changes generalizing store with
    | nil =>
      rw [List.filterMap_nil, List.append_nil]
      exact .refl _
    | cons change rest ih =>
      have split : (change :: rest).filterMap Change.created? =
          change.created?.toList ++ rest.filterMap Change.created? := by
        rw [List.filterMap_cons]
        cases change.created? with
        | none => rfl
        | some id => rfl
      rw [split, ← List.append_assoc]
      exact (ih (change.apply store)).trans ((ids_apply change).append_right _)
  exact run { records := [], file }

/-! ## The end of a membership -/

theorem eq_of_id {records : List PrivateNetwork} {first second : PrivateNetwork}
    (distinct : (records.map PrivateNetwork.id).Nodup) (one : first ∈ records)
    (other : second ∈ records) (same : first.id = second.id) : first = second :=
  List.inj_on_of_nodup_map distinct one other same

theorem mem_replaced_self {id : String} {network : PrivateNetwork} {records : List PrivateNetwork}
    (known : id ∈ records.map PrivateNetwork.id) : network ∈ replaced id network records := by
  induction records with
  | nil => cases known
  | cons head rest ih =>
    unfold replaced
    split
    · exact List.mem_cons_self
    · rename_i elsewhere
      obtain rfl | later := List.mem_cons.mp known
      · exact absurd BEq.rfl elsewhere
      · exact List.mem_cons_of_mem head (ih later)

/-- Once a membership has ended, or where there was none, the network has no member of that name. -/
theorem not_hasMember_of_removeMember {name id : String} {removed : Bool} {after : NetworkStore}
    (distinct : (store.records.map PrivateNetwork.id).Nodup)
    (done : store.perform (removeMember name id) = (.ok removed, after)) :
    ∀ network ∈ after.records, network.id = id → network.hasMember name = false := by
  intro network listed same
  obtain ⟨found, kept, file, looked, rfl, _, changed⟩ | ⟨found, looked, absent, unchanged⟩ |
      ⟨failure, failed⟩ := store.perform_removeMember_cases name id
  · cases done.symm.trans changed
    have known := id_of_find? looked
    have here : id ∈ store.records.map PrivateNetwork.id :=
      known ▸ List.mem_map_of_mem (List.mem_of_find?_eq_some looked)
    -- No other network has this identifier, so it is the one that was put in place.
    rw [← map_id_replaced looked] at distinct
    rw [eq_of_id distinct listed (mem_replaced_self here) (same.trans known.symm)]
    refine List.any_eq_false.mpr fun member remains => Bool.eq_false_iff.mp ?_
    exact Bool.not_eq_true' _ ▸ (List.mem_filter.mp remains).2
  · cases done.symm.trans unchanged
    rwa [eq_of_id distinct listed (List.mem_of_find?_eq_some looked)
      (same.trans (id_of_find? looked).symm)]
  · cases done.symm.trans failed

/-- After any changes, in the course of which no two networks got one identifier: networks are orderly,
users reach the addresses that they share a network with, and where a membership has ended the network
grants nothing any more. -/
theorem membership_after (file : DataFile) (changes : List Change)
    (distinct : (changes.filterMap Change.created?).Nodup) :
    let store := after file changes
    (∀ network ∈ store.records, network.IsOrderly) ∧
      (∀ name ip, store.allows name ip = true ↔ ∃ network ∈ store.records, network.Grants name ip) ∧
      ∀ name id removed after, store.perform (removeMember name id) = (.ok removed, after) →
        ∀ network ∈ after.records, network.id = id → ∀ ip, ¬ network.Grants name ip := by
  intro store
  refine ⟨isOrderly_after file changes, fun name ip => PrivateNetwork.anyJoins_iff, ?_⟩
  intro name id removed after done network listed same ip grants
  have unique := distinct.sublist (ids_after file changes)
  have absent := not_hasMember_of_removeMember unique done network listed same
  exact Bool.eq_false_iff.mp absent (PrivateNetwork.hasMember_iff.mpr grants.joined)

/-- Two networks over one range: an address in the first is assigned again, and nobody gets into the
second while it cannot be written. -/
def rooms : List Change :=
  let users : UserStore := { records := [⟨"ann", ""⟩, ⟨"Bob", ""⟩, ⟨"carl", ""⟩], file := default }
  [.create "1" "lab" "10.0.0.0/29", .create "2" "home" "10.0.0.0/29", .addMember users "Ann" "1",
    .addMember users "bob" "1", .removeMember "ANN" "1", .addMember users "carl" "1",
    .obstruct (some .alreadyExists), .addMember users "ann" "2", .obstruct none]

/-- One member reaches the other in the long form of its address, until the membership ends. -/
theorem membership_after_rooms :
    let store := after default rooms
    let left := store.perform (removeMember "Carl" "1")
    store.records =
        [⟨"1", "lab", "10.0.0.0/29", [⟨"Bob", ⟨10, 0, 0, 2⟩⟩, ⟨"carl", ⟨10, 0, 0, 1⟩⟩]⟩,
          ⟨"2", "home", "10.0.0.0/29", []⟩] ∧
      (rooms.filterMap Change.created?).Nodup ∧ (∀ network ∈ store.records, network.IsOrderly) ∧
      (∃ network ∈ store.records, network.Grants "carl" (.v6 (.ofIpv4 ⟨10, 0, 0, 2⟩))) ∧
      left = (.ok true, left.2) ∧
      ∀ network ∈ left.2.records, network.id = "1" → ∀ ip, ¬ network.Grants "Carl" ip := by
  intro store left
  have distinct : (rooms.filterMap Change.created?).Nodup := by decide
  have done : left = (.ok true, left.2) := rfl
  obtain ⟨orderly, grants, ended⟩ := membership_after default rooms distinct
  exact ⟨by decide, distinct, orderly, (grants _ _).mp (by decide), done,
    ended "Carl" "1" true left.2 done⟩

end NetworkStore

end SocksGateway
