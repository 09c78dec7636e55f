import SocksGateway.Address.Cidr
import SocksGateway.Store.Users

/-!
Private networks: each has a range of addresses and members to whom addresses of it are assigned.
Users reach each other's addresses when they are members of one network.
-/

set_option autoImplicit false

namespace SocksGateway

structure Member where
  name : String
  address : Ipv4
deriving DecidableEq, Repr, Inhabited

structure PrivateNetwork where
  id : String
  name : String
  /-- The range in CIDR notation. -/
  range : String
  members : List Member
deriving DecidableEq, Repr, Inhabited

instance : Recorded Member where
  toValue member :=
    .record [("username", .text member.name), ("assigned_ip", .text member.address.text)]
  ofValue? value := do
    match ← Document.slots? Document.Json.dialect ["username", "assigned_ip"] value with
    | [name, address] =>
      return ⟨← Document.needed Document.text? name,
        ← Document.needed (fun given => (Document.text? given).bind Ipv4.parse?) address⟩
    | _ => none

instance : Recorded PrivateNetwork where
  toValue network := .record [("id", .text network.id), ("name", .text network.name),
    ("ip_range", .text network.range),
    ("members", .list (network.members.map Recorded.toValue))]
  ofValue? value := do
    match ← Document.slots? Document.Json.dialect ["id", "name", "ip_range", "members"] value with
    | [id, name, range, members] =>
      return ⟨← Document.needed Document.text? id, ← Document.needed Document.text? name,
        ← Document.needed Document.text? range,
        ← Document.defaulted [] (Document.list? Recorded.ofValue?) members⟩
    | _ => none

namespace PrivateNetwork

def hasMember (network : PrivateNetwork) (name : String) : Bool :=
  network.members.any fun member => Text.sameIgnoringCase member.name name

def hasAddress (network : PrivateNetwork) (address : Ipv4) : Bool :=
  network.members.any (·.address == address)

/-- Whether the user is a member of one of the networks in which the address is assigned. -/
def anyJoins (networks : List PrivateNetwork) (name : String) (address : Ip) : Bool :=
  match address.toIpv4? with
  | some short => networks.any fun network => network.hasMember name && network.hasAddress short
  | none => false

/-- The least of the `count` numbers from `candidate` on whose address is not assigned. -/
def leastFree (network : PrivateNetwork) : (count candidate : Nat) → Option Ipv4
  | 0, _ => none
  | count + 1, candidate =>
    if network.hasAddress (Ipv4.ofNat candidate) then leastFree network count (candidate + 1)
    else some (Ipv4.ofNat candidate)

/-- The least address strictly between the first and the last of the range that is not assigned. -/
def nextFree (network : PrivateNetwork) (range : Cidr) : Option Ipv4 :=
  let first := range.networkNumber + 1
  leastFree network (range.broadcastNumber - first) first

end PrivateNetwork

abbrev NetworkStore := Store PrivateNetwork

namespace NetworkStore

open Store

def find? (store : NetworkStore) (id : String) : Option PrivateNetwork :=
  store.records.find? (·.id == id)

/-- Records a network over a range behind the others. -/
def create (id name range : String) : Store.Action PrivateNetwork PrivateNetwork := do
  match Cidr.parse? range with
  | none => refuse ("Invalid IPv4 CIDR range: " ++ range)
  | some parsed =>
    let network : PrivateNetwork := { id, name, range := parsed.text, members := [] }
    commit ((← get).records ++ [network])
    return network

/-- The records with the first network of that id replaced. -/
def replaced (id : String) (network : PrivateNetwork) : List PrivateNetwork → List PrivateNetwork
  | [] => []
  | head :: rest => if head.id == id then network :: rest else head :: replaced id network rest

/-- The network of that id. -/
def network (id : String) : Store.Action PrivateNetwork PrivateNetwork := do
  match find? (← get) id with
  | some network => return network
  | none => refuse ("Network '" ++ id ++ "' not found")

/-- Makes a user a member, with the least free address of the network. -/
def addMember (users : UserStore) (name id : String) : Store.Action PrivateNetwork Member := do
  match UserStore.find? users name with
  | none => refuse ("User '" ++ name ++ "' not found")
  | some user =>
    let found ← network id
    if found.hasMember user.name then
      refuse ("User '" ++ user.name ++ "' is already a member of " ++ found.name)
    match Cidr.parse? found.range with
    | none => refuse ("Invalid IP range: " ++ found.range)
    | some range =>
      match found.nextFree range with
      | none => refuse ("Network " ++ found.name ++ " has no free addresses")
      | some address =>
        let member : Member := ⟨user.name, address⟩
        let joined := { found with members := found.members ++ [member] }
        commit (replaced id joined (← get).records)
        return member

/-- Ends a membership; says whether there was one. -/
def removeMember (name id : String) : Store.Action PrivateNetwork Bool := do
  let found ← network id
  let kept := found.members.filter fun member => !Text.sameIgnoringCase member.name name
  if kept.length = found.members.length then return false
  commit (replaced id { found with members := kept } (← get).records)
  return true

/-- Whether the user is a member of a network in which the address is assigned. -/
def allows (store : NetworkStore) (name : String) (address : Ip) : Bool :=
  PrivateNetwork.anyJoins store.records name address

/-- The identifier of sixteen random octets: 32 hexadecimal digits, in which the version and the
variant of a random identifier are marked. -/
def idOfRandom (octets : Bytes) : String :=
  let marked := octets.mapIdx fun position octet =>
    if position = 6 then (octet &&& 0x0f) ||| 0x40
    else if position = 8 then (octet &&& 0x3f) ||| 0x80
    else octet
  Hex.encode marked

end NetworkStore

end SocksGateway
