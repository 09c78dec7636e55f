import SocksGateway.Store.Directory
import SocksGateway.Store.Hosts
import SocksGateway.Store.Networks

/-!
Edits of the stores in a data directory, each of which opens what it needs and writes one file.
-/

set_option autoImplicit false

namespace SocksGateway

inductive StoreEdit where
  /-- Adds a user, or gives an existing one another password. -/
  | addUser (name password : String)
  | deleteUser (name : String)
  | createNetwork (name range : String)
  | joinNetwork (user network : String)
  | leaveNetwork (user network : String)
  /-- Records the addresses of a host, in place of those that it had. -/
  | addHost (name : String) (addresses : List Ip)
deriving DecidableEq, Repr, Inhabited

/-- What an edit led to. -/
inductive EditOutcome where
  | userAdded (name : String)
  | passwordUpdated (name : String)
  | userDeleted (name : String)
  | userMissing (name : String)
  | networkCreated (network : PrivateNetwork)
  | joined (member : Member)
  | left (user network : String)
  | notMember (user network : String)
  | hostRecorded (name : String) (addresses : List Ip)
deriving DecidableEq, Repr, Inhabited

def EditOutcome.message : EditOutcome → String
  | userAdded name => "Added user " ++ name
  | passwordUpdated name => "Updated password for " ++ name
  | userDeleted name => "Deleted user " ++ name
  | userMissing name => "No user named " ++ name
  | networkCreated network => "Created network " ++ network.name ++ " with id " ++ network.id
  | joined member => member.name ++ " joined with address " ++ member.address.text
  | left user network => user ++ " left " ++ network
  | notMember user network => user ++ " is not a member of " ++ network
  | hostRecorded name addresses =>
    "Recorded " ++ name ++ " -> [" ++ ", ".intercalate (addresses.map Ip.text) ++ "]"

namespace StoreEdit

open DataDirectory

/-- The effort that goes into the hash of a password. -/
def passwordCost : Nat := 12

/-- The kinds of records that an edit reads, in the order in which it opens their stores. -/
def kinds : StoreEdit → List RecordKind
  | addUser .. | deleteUser .. => [.users]
  | createNetwork .. | leaveNetwork .. => [.networks]
  | joinNetwork .. => [.users, .networks]
  | addHost .. => [.hosts]

/-- Carries out an edit. Sixteen random octets serve as the salt of a hash or as the identifier of
a network. -/
def perform (random : Bytes) : StoreEdit → DataDirectory.Action EditOutcome
  | addUser name password => do
    let users : UserStore ← openStore .users
    let hashing : UserStore.Hashing := { cost := passwordCost, salt := random }
    if (UserStore.find? users name).isSome then
      change .users users (UserStore.updatePassword hashing name password)
      return .passwordUpdated name
    else
      change .users users (UserStore.add hashing name password)
      return .userAdded name
  | deleteUser name => do
    let users : UserStore ← openStore .users
    if ← change .users users (UserStore.delete name) then return .userDeleted name
    else return .userMissing name
  | createNetwork name range => do
    let networks : NetworkStore ← openStore .networks
    let id := NetworkStore.idOfRandom random
    return .networkCreated (← change .networks networks (NetworkStore.create id name range))
  | joinNetwork user network => do
    let users : UserStore ← openStore .users
    let networks : NetworkStore ← openStore .networks
    let member ← ExceptT.adapt (·.within ("Failed to add " ++ user ++ " to " ++ network))
      (change .networks networks (NetworkStore.addMember users user network))
    return .joined member
  | leaveNetwork user network => do
    let networks : NetworkStore ← openStore .networks
    if ← change .networks networks (NetworkStore.removeMember user network) then
      return .left user network
    else return .notMember user network
  | addHost name addresses => do
    let hosts : HostStore ← openStore .hosts
    change .hosts hosts (HostStore.add name addresses)
    return .hostRecorded name addresses

/-- Carries out an edit in a directory: what it led to, and the directory after it. -/
def run (random : Bytes) (edit : StoreEdit) (directory : DataDirectory) :
    Except Failure EditOutcome × DataDirectory :=
  ((edit.perform random).run).run directory

end StoreEdit

end SocksGateway
