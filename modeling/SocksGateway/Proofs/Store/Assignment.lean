import SocksGateway.Proofs.Store.Membership
import SocksGateway.Proofs.Store.Users

/-!
Which address a new member gets. It is the least that lies strictly between the first and the last of the
range and that nobody has; so a network fills up in ascending order, admits as many users as there are
such addresses, and gives an address that became free away again before those above it.
-/

set_option autoImplicit false

namespace SocksGateway

/-- The address has the property, and none with a smaller number has it. -/
def Ipv4.IsFirst (property : Ipv4 → Prop) (ip : Ipv4) : Prop :=
  property ip ∧ ∀ other, property other → ip.toNat ≤ other.toNat

theorem Ipv4.IsFirst.unique {property : Ipv4 → Prop} {ip other : Ipv4} (first : IsFirst property ip)
    (second : IsFirst property other) : other = ip := by
  have same := Nat.le_antisymm (second.2 ip first.1) (first.2 other second.1)
  rw [← ofNat_toNat other, same, ofNat_toNat]

namespace Cidr

variable {range : Cidr}

/-- How many addresses lie strictly between the first and the last. -/
def capacity (range : Cidr) : Nat := Nat.pow 2 (32 - range.length) - 2

theorem broadcastNumber_lt (range : Cidr) : range.broadcastNumber < 4294967296 := by
  have whole := range.networkNumber_add_size_le
  have positive := range.size_pos
  unfold broadcastNumber
  omega

/-- Between the first and the last address lie as many as the range has, but these two. -/
theorem room_eq (range : Cidr) :
    range.broadcastNumber - (range.networkNumber + 1) = range.capacity := by
  have positive := range.size_pos
  have same : range.size = Nat.pow 2 (32 - range.length) := rfl
  unfold broadcastNumber capacity
  omega

/-- The address at a position among those that are offered. -/
def nth (range : Cidr) (position : Nat) : Ipv4 := Ipv4.ofNat (range.networkNumber + 1 + position)

theorem toNat_nth {position : Nat} (room : position < range.capacity) :
    (range.nth position).toNat = range.networkNumber + 1 + position := by
  have last := range.broadcastNumber_lt
  rw [← range.room_eq] at room
  exact Ipv4.toNat_ofNat _ (by omega)

theorem offers_nth {position : Nat} (room : position < range.capacity) :
    range.Offers (range.nth position) := by
  have value := toNat_nth room
  rw [← range.room_eq] at room
  exact ⟨by omega, by omega⟩

/-- Where both ends are kept among the numbers of addresses, the range offers the same. -/
theorem offers_iff_saturated {ip : Ipv4} : range.Offers ip ↔
    min (range.networkNumber + 1) 4294967295 ≤ ip.toNat ∧ ip.toNat ≤ range.broadcastNumber - 1 := by
  have last := range.broadcastNumber_lt
  unfold Offers
  omega

theorem Offers.exists_nth {ip : Ipv4} (offered : range.Offers ip) :
    ∃ position < range.capacity, ip = range.nth position := by
  obtain ⟨low, high⟩ := offered
  refine ⟨ip.toNat - (range.networkNumber + 1), ?_, ?_⟩
  · rw [← range.room_eq]
    omega
  · rw [nth, Nat.add_sub_cancel' low, Ipv4.ofNat_toNat]

/-- Ranges of two addresses or one offer none. -/
theorem not_offers_of_short {ip : Ipv4} (short : 31 ≤ range.length) : ¬ range.Offers ip := by
  intro offered
  obtain ⟨position, inside, _⟩ := offered.exists_nth
  have bound := range.length_le
  have few : Nat.pow 2 (32 - range.length) ≤ Nat.pow 2 1 :=
    Nat.pow_le_pow_right (by decide) (by omega)
  have two : Nat.pow 2 1 = 2 := rfl
  unfold capacity at inside
  omega

end Cidr

namespace PrivateNetwork

variable {network : PrivateNetwork} {range : Cidr}

/-- The range offers the address, and no member has it. -/
def IsVacant (network : PrivateNetwork) (range : Cidr) (address : Ipv4) : Prop :=
  range.Offers address ∧ ∀ member ∈ network.members, member.address ≠ address

theorem hasAddress_eq_false_iff {address : Ipv4} : network.hasAddress address = false ↔
    ∀ member ∈ network.members, member.address ≠ address := by
  rw [← Bool.not_eq_true, hasAddress_iff]
  simp only [not_exists, not_and, ne_eq]

/-- Where the search finds nothing, everything is assigned. -/
theorem leastFree_eq_none {count candidate : Nat}
    (nothing : network.leastFree count candidate = none) :
    ∀ number, candidate ≤ number → number < candidate + count →
      network.hasAddress (Ipv4.ofNat number) = true := by
  induction count generalizing candidate with
  | zero =>
    intro number low high
    omega
  | succ count ih =>
    unfold leastFree at nothing
    split at nothing
    · rename_i taken
      intro number low high
      obtain rfl | above := Nat.eq_or_lt_of_le low
      · exact taken
      · exact ih nothing number above (by omega)
    · cases nothing

/-- The next address is the least that is vacant. -/
theorem isFirst_of_nextFree {address : Ipv4} (found : network.nextFree range = some address) :
    Ipv4.IsFirst (network.IsVacant range) address := by
  obtain ⟨offered, free⟩ := nextFree_eq_some found
  obtain ⟨number, low, high, rfl, _, passed⟩ := leastFree_eq_some found
  have last := range.broadcastNumber_lt
  have value := Ipv4.toNat_ofNat number (by omega)
  refine ⟨⟨offered, hasAddress_eq_false_iff.mp free⟩, ?_⟩
  rintro other ⟨also, nobody⟩
  rw [value]
  by_contra below
  have taken := passed other.toNat also.1 (Nat.lt_of_not_le below)
  rw [Ipv4.ofNat_toNat, hasAddress_iff] at taken
  obtain ⟨member, listed, same⟩ := taken
  exact nobody member listed same

theorem nextFree_eq_none_iff : network.nextFree range = none ↔
    ∀ address, range.Offers address → ∃ member ∈ network.members, member.address = address := by
  constructor
  · intro nothing address offered
    obtain ⟨low, high⟩ := offered
    have taken := leastFree_eq_none nothing address.toNat low (by omega)
    rwa [Ipv4.ofNat_toNat, hasAddress_iff] at taken
  · intro full
    cases found : network.nextFree range with
    | none => rfl
    | some address =>
      obtain ⟨offered, nobody⟩ := (isFirst_of_nextFree found).1
      obtain ⟨member, listed, same⟩ := full address offered
      exact absurd same (nobody member listed)

theorem nextFree_eq_some_iff {address : Ipv4} : network.nextFree range = some address ↔
    Ipv4.IsFirst (network.IsVacant range) address := by
  refine ⟨isFirst_of_nextFree, ?_⟩
  intro first
  cases found : network.nextFree range with
  | none =>
    obtain ⟨member, listed, same⟩ := nextFree_eq_none_iff.mp found address first.1.1
    exact absurd same (first.1.2 member listed)
  | some other => rw [first.unique (isFirst_of_nextFree found)]

/-- Members at the first of the offered addresses leave the one behind these as the next. -/
theorem nextFree_of_ascending {count : Nat} (fits : count ≤ range.capacity)
    (ascending : network.members.map Member.address = (List.range count).map range.nth) :
    network.nextFree range = if count < range.capacity then some (range.nth count) else none := by
  have held (ip : Ipv4) : (∃ member ∈ network.members, member.address = ip) ↔
      ∃ position < count, range.nth position = ip := by
    rw [← List.mem_map, ascending, List.mem_map]
    simp only [List.mem_range]
  split
  · rename_i room
    refine nextFree_eq_some_iff.mpr ⟨⟨Cidr.offers_nth room, ?_⟩, ?_⟩
    · intro member listed same
      obtain ⟨position, earlier, same⟩ := (held _).mp ⟨member, listed, same⟩
      have value := congrArg Ipv4.toNat same
      rw [Cidr.toNat_nth room, Cidr.toNat_nth (by omega)] at value
      omega
    · rintro other ⟨offered, nobody⟩
      obtain ⟨position, inside, rfl⟩ := offered.exists_nth
      rw [Cidr.toNat_nth room, Cidr.toNat_nth inside]
      by_contra below
      obtain ⟨member, listed, same⟩ := (held (range.nth position)).mpr ⟨position, by omega, rfl⟩
      exact nobody member listed same
  · rename_i full
    refine nextFree_eq_none_iff.mpr fun address offered => ?_
    obtain ⟨position, inside, rfl⟩ := offered.exists_nth
    exact (held _).mpr ⟨position, by omega, rfl⟩

/-- The network when all members of that name have left. -/
def without (network : PrivateNetwork) (name : String) : PrivateNetwork :=
  { network with
    members := network.members.filter fun member => !Text.sameIgnoringCase member.name name }

/-- Who leaves an orderly network vacates an address, and nobody else does. -/
theorem IsOrderly.isVacant_without {name : String} {member : Member} {address : Ipv4}
    (orderly : network.IsOrderly) (parsed : Cidr.parse? network.range = some range)
    (listed : member ∈ network.members) (called : Text.sameIgnoringCase member.name name = true) :
    (network.without name).IsVacant range address ↔
      address = member.address ∨ network.IsVacant range address := by
  have remains {other : Member} : other ∈ (network.without name).members ↔
      other ∈ network.members ∧ Text.sameIgnoringCase other.name name = false := by
    rw [without, List.mem_filter, Bool.not_eq_true']
  constructor
  · rintro ⟨offered, nobody⟩
    by_cases vacated : address = member.address
    · exact .inl vacated
    · refine .inr ⟨offered, fun other also same => ?_⟩
      have gone : Text.sameIgnoringCase other.name name = true := by
        by_contra stays
        exact nobody other (remains.mpr ⟨also, Bool.eq_false_iff.mpr stays⟩) same
      rw [Text.sameIgnoringCase_iff] at gone called
      obtain rfl := orderly.eq_of_name also listed (gone.trans called.symm)
      exact vacated same.symm
  · rintro (rfl | ⟨offered, nobody⟩)
    · obtain ⟨_, again, offers⟩ := orderly.assigned
      cases parsed.symm.trans again
      refine ⟨offers member listed, fun other stays same => ?_⟩
      obtain ⟨also, different⟩ := remains.mp stays
      obtain rfl := List.inj_on_of_nodup_map orderly.addresses also listed same
      exact Bool.false_ne_true (different.symm.trans called)
    · exact ⟨offered, fun other stays => nobody other (remains.mp stays).1⟩

theorem IsOrderly.exists_isFirst_without {name : String} {member : Member}
    (orderly : network.IsOrderly) (parsed : Cidr.parse? network.range = some range)
    (listed : member ∈ network.members) (called : Text.sameIgnoringCase member.name name = true) :
    ∃ address, Ipv4.IsFirst (fun ip => ip = member.address ∨ network.IsVacant range ip) address ∧
      (network.without name).nextFree range = some address := by
  have vacant (address : Ipv4) : (network.without name).IsVacant range address ↔
      address = member.address ∨ network.IsVacant range address :=
    orderly.isVacant_without parsed listed called
  cases found : (network.without name).nextFree range with
  | none =>
    obtain ⟨offered, nobody⟩ := (vacant member.address).mpr (.inl rfl)
    obtain ⟨other, stays, same⟩ := nextFree_eq_none_iff.mp found member.address offered
    exact absurd same (nobody other stays)
  | some address =>
    refine ⟨address, ?_, rfl⟩
    have first := isFirst_of_nextFree found
    simpa only [Ipv4.IsFirst, vacant] using first

end PrivateNetwork

namespace NetworkStore

open Store

variable {store : NetworkStore} {id : String} {found : PrivateNetwork}

/-- What is put in the place of a network is found there. -/
theorem find?_replaced {network : PrivateNetwork} (looked : find? store id = some found)
    (same : network.id = id) :
    find? (store.holding (replaced id network store.records)) id = some network := by
  change store.records.find? (·.id == id) = some found at looked
  change (replaced id network store.records).find? (·.id == id) = some network
  generalize store.records = records at looked ⊢
  induction records with
  | nil => cases looked
  | cons head rest ih =>
    unfold replaced
    split
    · exact List.find?_cons_of_pos (beq_iff_eq.mpr same)
    · rename_i elsewhere
      simp only [List.find?_cons, Bool.eq_false_iff.mpr elsewhere] at looked ⊢
      exact ih looked

/-- A user who is no member yet gets the next address, if there is one. -/
theorem perform_addMember_of_stranger {users : UserStore} {name : String} {user : User}
    {range : Cidr} (clear : store.file.obstacle = none)
    (known : UserStore.find? users name = some user) (looked : find? store id = some found)
    (stranger : found.hasMember user.name = false) (parsed : Cidr.parse? found.range = some range) :
    store.perform (addMember users name id) = match found.nextFree range with
      | some address => (.ok ⟨user.name, address⟩, store.holding (replaced id
          { found with members := found.members ++ [⟨user.name, address⟩] } store.records))
      | none => (.error { cause := .store ("Network " ++ found.name ++ " has no free addresses") },
          store) := by
  simp only [addMember, known, perform_network_bind, looked, stranger, Bool.false_eq_true,
    ↓reduceIte, parsed]
  cases found.nextFree range with
  | none => exact perform_refuse _
  | some address =>
    dsimp only
    rw [perform_get_bind, perform_commit_bind_of_clear clear]
    rfl

/-! ## Networks that fill up -/

/-- The name of a user as the store of users has it. -/
def spelling (users : UserStore) (name : String) : String :=
  match UserStore.find? users name with
  | some user => user.name
  | none => name

/-- The member that a user becomes as the next after so many others. -/
def seat (users : UserStore) (range : Cidr) (position : Nat) (name : String) : Member :=
  ⟨spelling users name, range.nth position⟩

/-- What comes of an attempt to join a network behind so many others. -/
def admission (users : UserStore) (label : String) (range : Cidr) (position : Nat) (name : String) :
    Except Failure Member :=
  if position < range.capacity then .ok (seat users range position name)
  else .error { cause := .store ("Network " ++ label ++ " has no free addresses") }

/-- Makes users members of a network one after another: what came of it for each, and the store after
the last. -/
def enrol (users : UserStore) (id : String) :
    List String → NetworkStore → List (Except Failure Member) × NetworkStore
  | [], store => ([], store)
  | name :: rest, store =>
    let (answer, after) := store.perform (addMember users name id)
    let (answers, last) := enrol users id rest after
    (answer :: answers, last)

/-- These users have tried to join a network that was without members; those for whom there was an
address are in it. -/
structure HasSeated (store : NetworkStore) (users : UserStore) (id label : String) (range : Cidr)
    (names : List String) (network : PrivateNetwork) : Prop where
  looked : find? store id = some network
  label : network.name = label
  parsed : Cidr.parse? network.range = some range
  members : network.members = (names.take range.capacity).mapIdx (seat users range)

variable {users : UserStore} {label name : String} {range : Cidr} {names : List String}

theorem exists_user (knows : users.Knows name) :
    ∃ user, UserStore.find? users name = some user ∧ user.name = spelling users name ∧
      Text.lowerAscii user.name = Text.lowerAscii name := by
  obtain ⟨listed, member, called⟩ := knows
  cases found : UserStore.find? users name with
  | none => exact absurd called (List.find?_eq_none.mp found listed member)
  | some user =>
    have called := List.find?_some found
    exact ⟨user, rfl, by rw [spelling, found], Text.sameIgnoringCase_iff.mp called⟩

/-- Who is called otherwise than all before is no member yet. -/
theorem HasSeated.stranger (seated : HasSeated store users id label range names found)
    (known : ∀ other ∈ names ++ [name], users.Knows other)
    (others : ∀ other ∈ names, Text.sameIgnoringCase other name = false) :
    found.hasMember (spelling users name) = false := by
  refine List.any_eq_false.mpr fun member listed same => ?_
  rw [seated.members, List.mem_mapIdx] at listed
  obtain ⟨position, inside, rfl⟩ := listed
  generalize taken : (names.take range.capacity)[position] = other at same
  have before : other ∈ names := List.mem_of_mem_take (taken ▸ List.getElem_mem inside)
  obtain ⟨user, _, spelled, called⟩ := exists_user (known other (List.mem_append_left _ before))
  obtain ⟨second, _, secondSpelled, secondCalled⟩ :=
    exists_user (known name (List.mem_append_right _ (List.mem_singleton_self name)))
  have equal : Text.lowerAscii (spelling users other) = Text.lowerAscii (spelling users name) :=
    Text.sameIgnoringCase_iff.mp same
  rw [← spelled, ← secondSpelled, called, secondCalled, ← Text.sameIgnoringCase_iff] at equal
  exact Bool.false_ne_true ((others other before).symm.trans equal)

/-- The members have the first of the addresses that the range offers. -/
theorem HasSeated.nextFree (seated : HasSeated store users id label range names found) :
    found.nextFree range =
      if names.length < range.capacity then some (range.nth names.length) else none := by
  have ascending : found.members.map Member.address =
      (List.range (min range.capacity names.length)).map range.nth := by
    rw [seated.members]
    apply List.ext_getElem
    · simp only [List.length_map, List.length_mapIdx, List.length_take, List.length_range]
    · intro position _ _
      simp only [List.getElem_map, List.getElem_mapIdx, List.getElem_range, seat]
  rw [PrivateNetwork.nextFree_of_ascending (Nat.min_le_left _ _) ascending]
  by_cases room : names.length < range.capacity
  · rw [Nat.min_eq_right (Nat.le_of_lt room), if_pos room]
  · rw [Nat.min_eq_left (Nat.not_lt.mp room), if_neg (Nat.lt_irrefl _), if_neg room]

/-- One more tries to join, and gets the next address if there is one. -/
theorem HasSeated.join (seated : HasSeated store users id label range names found)
    (clear : store.file.obstacle = none) (known : ∀ other ∈ names ++ [name], users.Knows other)
    (others : ∀ other ∈ names, Text.sameIgnoringCase other name = false) :
    ∃ after network, store.perform (addMember users name id) =
        (admission users label range names.length name, after) ∧
      after.file.obstacle = none ∧
      HasSeated after users id label range (names ++ [name]) network := by
  obtain ⟨user, looked, spelled, _⟩ :=
    exists_user (known name (List.mem_append_right _ (List.mem_singleton_self name)))
  have performed := perform_addMember_of_stranger clear looked seated.looked
    (spelled ▸ seated.stranger known others) seated.parsed
  rw [seated.nextFree, spelled] at performed
  by_cases room : names.length < range.capacity
  · rw [if_pos room] at performed
    have same := id_of_find? seated.looked
    let joined := { found with members := found.members ++ [seat users range names.length name] }
    refine ⟨store.holding (replaced id joined store.records), joined, ?_, clear, ?_⟩
    · rw [performed, admission, if_pos room]
      rfl
    · refine ⟨find?_replaced seated.looked same, seated.label, seated.parsed, ?_⟩
      have fits : (names ++ [name]).length ≤ range.capacity := by
        rw [List.length_append]
        exact room
      rw [List.take_of_length_le fits, List.mapIdx_concat]
      simp only [joined, seated.members, List.take_of_length_le (Nat.le_of_lt room)]
  · rw [if_neg room] at performed
    refine ⟨store, found, ?_, clear, seated.looked, seated.label, seated.parsed, ?_⟩
    · rw [performed, admission, if_neg room, seated.label]
    · rw [List.take_append_of_le_length (Nat.not_lt.mp room)]
      exact seated.members

/-- Users of different names get the addresses in ascending order, and once these are exhausted they
get none. -/
theorem enrol_of_hasSeated {rest : List String}
    (seated : HasSeated store users id label range names found)
    (clear : store.file.obstacle = none) (known : ∀ name ∈ names ++ rest, users.Knows name)
    (distinct : (names ++ rest).Pairwise fun first second =>
      Text.sameIgnoringCase first second = false) :
    (enrol users id rest store).1 =
      rest.mapIdx fun position => admission users label range (names.length + position) := by
  -- By induction on those who are still to come; the others have been seated.
  induction rest generalizing names store found with
  | nil => rfl
  | cons name rest ih =>
    have split : names ++ name :: rest = names ++ [name] ++ rest := by
      rw [List.append_assoc, List.singleton_append]
    rw [split] at known distinct
    have earlier := (List.pairwise_append.mp distinct).1
    obtain ⟨after, network, joined, clearAfter, seatedAfter⟩ := seated.join clear
      (fun other listed => known other (List.mem_append_left _ listed))
      fun other listed => (List.pairwise_append.mp earlier).2.2 other listed name
        (List.mem_singleton_self name)
    have others := ih seatedAfter clearAfter known distinct
    rw [enrol, joined]
    dsimp only
    rw [others, List.mapIdx_cons, List.length_append]
    simp only [List.length_singleton, Nat.add_zero, Nat.add_assoc, Nat.add_comm 1]

/-- Of a new network, as many of these users become members as its range offers addresses. -/
theorem enrol_create {text : String} (clear : store.file.obstacle = none)
    (unused : find? store id = none) (parsed : Cidr.parse? text = some range)
    (known : ∀ name ∈ names, users.Knows name)
    (distinct : names.Pairwise fun first second => Text.sameIgnoringCase first second = false) :
    ∃ fresh, store.perform (create id label text) = (.ok ⟨id, label, range.text, []⟩, fresh) ∧
      (enrol users id names fresh).1 = names.mapIdx (admission users label range) := by
  let network : PrivateNetwork := ⟨id, label, range.text, []⟩
  have created : store.perform (create id label text) =
      (.ok network, store.holding (store.records ++ [network])) := by
    simp only [create, parsed, perform_get_bind, perform_commit_bind_of_clear clear]
    rfl
  have looked : find? (store.holding (store.records ++ [network])) id = some network := by
    rw [find?] at unused
    rw [find?, records_holding, List.find?_append, unused, Option.none_or]
    exact List.find?_cons_of_pos BEq.rfl
  have seated : HasSeated (store.holding (store.records ++ [network])) users id label range []
      network := ⟨looked, rfl, range.parse?_text, by rw [List.take_nil, List.mapIdx_nil]⟩
  have answers := enrol_of_hasSeated seated clear known distinct
  simp only [List.length_nil, Nat.zero_add] at answers
  exact ⟨_, created, answers⟩

/-! ## Networks that somebody leaves -/

/-- A member leaves, in whatever spelling. -/
theorem perform_removeMember_of_member {member : Member} (clear : store.file.obstacle = none)
    (looked : find? store id = some found) (listed : member ∈ found.members)
    (called : Text.sameIgnoringCase member.name name = true) :
    store.perform (removeMember name id) =
      (.ok true, store.holding (replaced id (found.without name) store.records)) := by
  have fewer : (found.without name).members.length ≠ found.members.length := by
    intro same
    have kept := List.length_filter_eq_length_iff.mp same member listed
    rw [called] at kept
    cases kept
  simp only [removeMember, perform_network_bind, looked]
  split
  · rename_i same
    exact absurd same fewer
  · rw [perform_get_bind, perform_commit_bind_of_clear clear]
    rfl

/-- The next who joins after somebody has left gets the least address of those that were free and the
one that became so. -/
theorem addMember_after_removeMember {member : Member} (clear : store.file.obstacle = none)
    (looked : find? store id = some found) (parsed : Cidr.parse? found.range = some range)
    (orderly : found.IsOrderly) (listed : member ∈ found.members)
    (spelled : Text.sameIgnoringCase member.name name = true) :
    ∃ left, store.perform (removeMember name id) = (.ok true, left) ∧
      ∀ users joiner user, UserStore.find? users joiner = some user →
        (found.without name).hasMember user.name = false →
        ∃ address last,
          Ipv4.IsFirst (fun ip => ip = member.address ∨ found.IsVacant range ip) address ∧
          left.perform (addMember users joiner id) = (.ok ⟨user.name, address⟩, last) := by
  refine ⟨_, perform_removeMember_of_member clear looked listed spelled, ?_⟩
  intro users joiner user called stranger
  let left := store.holding (replaced id (found.without name) store.records)
  have known : found.id = id := id_of_find? looked
  have kept : find? left id = some (found.without name) := find?_replaced looked known
  have clearAfter : left.file.obstacle = none := clear
  have joined := perform_addMember_of_stranger clearAfter called kept stranger parsed
  obtain ⟨address, first, free⟩ := orderly.exists_isFirst_without parsed listed spelled
  rw [free] at joined
  exact ⟨address, _, first, joined⟩

/-- Which addresses a range of any base and length yields. The next is the least that lies strictly between
its ends and that nobody has, and there is none only when somebody has each of these; so a new network
takes in users in ascending order until all are assigned, and an address that became free is assigned
again before those above it. -/
theorem assigns_least (range : Cidr) :
    (∀ ip, range.Offers ip → ip ≠ ⟨0, 0, 0, 0⟩ ∧ ip ≠ ⟨255, 255, 255, 255⟩ ∧
        min (range.networkNumber + 1) 4294967295 ≤ ip.toNat ∧
        ip.toNat ≤ range.broadcastNumber - 1) ∧
      (∀ network : PrivateNetwork,
        (∀ address, network.nextFree range = some address ↔
          Ipv4.IsFirst (network.IsVacant range) address) ∧
        (network.nextFree range = none ↔ ∀ address, range.Offers address →
          ∃ member ∈ network.members, member.address = address) ∧
        (31 ≤ range.length → network.nextFree range = none)) ∧
      (∀ (store : NetworkStore) (id : String), store.file.obstacle = none →
        (∀ users label text names, find? store id = none → Cidr.parse? text = some range →
          (∀ name ∈ names, UserStore.Knows users name) →
          names.Pairwise (fun first second => Text.sameIgnoringCase first second = false) →
          ∃ fresh, store.perform (create id label text) = (.ok ⟨id, label, range.text, []⟩, fresh) ∧
            (enrol users id names fresh).1 = names.mapIdx (admission users label range)) ∧
        ∀ found name, find? store id = some found → Cidr.parse? found.range = some range →
          found.IsOrderly → ∀ member ∈ found.members,
          Text.sameIgnoringCase member.name name = true →
          ∃ left, store.perform (removeMember name id) = (.ok true, left) ∧
            ∀ users joiner user, UserStore.find? users joiner = some user →
              (found.without name).hasMember user.name = false →
              ∃ address last,
                Ipv4.IsFirst (fun ip => ip = member.address ∨ found.IsVacant range ip) address ∧
                left.perform (addMember users joiner id) = (.ok ⟨user.name, address⟩, last)) ∧
      ∀ file changes, ∀ network ∈ (after file changes).records, network.IsOrderly := by
  refine ⟨?within, ?next, ?stores, isOrderly_after⟩
  case within =>
    intro ip offered
    have last := range.broadcastNumber_lt
    refine ⟨?_, ?_, Cidr.offers_iff_saturated.mp offered⟩
    · rintro rfl
      exact Nat.not_lt_zero _ offered.1
    · rintro rfl
      have below : 4294967295 < range.broadcastNumber := offered.2
      omega
  case next =>
    intro network
    refine ⟨fun _ => PrivateNetwork.nextFree_eq_some_iff, PrivateNetwork.nextFree_eq_none_iff, ?_⟩
    intro short
    exact PrivateNetwork.nextFree_eq_none_iff.mpr fun _ offered =>
      absurd offered (Cidr.not_offers_of_short short)
  case stores =>
    intro store id clear
    refine ⟨?_, ?_⟩
    · intro users label text names unused parsed known distinct
      exact enrol_create clear unused parsed known distinct
    · intro found name looked parsed orderly member listed spelled
      exact addMember_after_removeMember clear looked parsed orderly listed spelled

/-- Of three who want into a range of four addresses, the third has to wait until the first leaves. -/
theorem assigns_least_lab :
    let users : UserStore := { records := [⟨"ann", ""⟩, ⟨"Bob", ""⟩, ⟨"carl", ""⟩], file := default }
    let blank : NetworkStore := { records := [], file := default }
    let both := after default [.create "1" "lab" "10.0.0.2/30", .addMember users "ANN" "1",
      .addMember users "bob" "1"]
    (∃ fresh, blank.perform (create "1" "lab" "10.0.0.2/30") =
        (.ok ⟨"1", "lab", "10.0.0.2/30", []⟩, fresh) ∧
      (enrol users "1" ["ANN", "bob", "carl"] fresh).1 = [.ok ⟨"ann", ⟨10, 0, 0, 1⟩⟩,
        .ok ⟨"Bob", ⟨10, 0, 0, 2⟩⟩,
        .error { cause := .store "Network lab has no free addresses" }]) ∧
      ∃ left, both.perform (removeMember "Ann" "1") = (.ok true, left) ∧
        ∃ last, left.perform (addMember users "carl" "1") = (.ok ⟨"carl", ⟨10, 0, 0, 1⟩⟩, last) := by
  intro users blank both
  let range : Cidr := { base := ⟨10, 0, 0, 2⟩, length := 30 }
  obtain ⟨_, _, stores, orderly⟩ := assigns_least range
  refine ⟨?_, ?_⟩
  · obtain ⟨fresh, created, answers⟩ := (stores blank "1" rfl).1 users "lab" "10.0.0.2/30"
      ["ANN", "bob", "carl"] rfl (by decide) (by decide) (by decide)
    have spelled : range.text = "10.0.0.2/30" := by decide
    rw [spelled] at created
    exact ⟨fresh, created, answers.trans (by decide +kernel)⟩
  · let first : Member := ⟨"ann", ⟨10, 0, 0, 1⟩⟩
    let lab : PrivateNetwork := ⟨"1", "lab", "10.0.0.2/30", [first, ⟨"Bob", ⟨10, 0, 0, 2⟩⟩]⟩
    have listed : lab ∈ both.records := by decide
    obtain ⟨left, removed, next⟩ := (stores both "1" rfl).2 lab "Ann" rfl (by decide)
      (orderly _ _ lab listed) first List.mem_cons_self (by decide)
    obtain ⟨address, last, least, joined⟩ :=
      next users "carl" ⟨"carl", ""⟩ rfl (by decide)
    -- The first address that the range offers is that of the member who left.
    have start : first.address.toNat = range.networkNumber + 1 := by decide
    obtain rfl : first.address = address := least.unique ⟨.inl rfl, by
      rintro other (rfl | vacant)
      · exact Nat.le_refl _
      · exact Nat.le_trans (Nat.le_of_eq start) vacant.1.1⟩
    exact ⟨left, removed, last, joined⟩

end NetworkStore

end SocksGateway
