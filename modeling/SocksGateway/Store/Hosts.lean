import SocksGateway.Address.Reader
import SocksGateway.Store.Basic

/-!
Private host names and their addresses. Dots at the end of a name and the case of ASCII letters make
no difference.
-/

set_option autoImplicit false

namespace SocksGateway

structure HostRecord where
  name : String
  /-- In the order in which they answer a look-up. -/
  addresses : List Ip
deriving DecidableEq, Repr, Inhabited

/-- An address as a document holds it. -/
def Document.ip? (value : Document.Value) : Option Ip := (Document.text? value).bind Ip.parse?

instance : Recorded HostRecord where
  toValue host := .record [("hostname", .text host.name),
    ("addresses", .list (host.addresses.map fun ip => .text ip.text))]
  ofValue? value := do
    match ← Document.slots? Document.Json.dialect ["hostname", "addresses"] value with
    | [name, addresses] =>
      return ⟨← Document.needed Document.text? name,
        ← Document.needed (Document.list? Document.ip?) addresses⟩
    | _ => none

/-- What two spellings of one host name have in common. -/
def hostKey (name : String) : List Char :=
  ((name.toList.reverse.dropWhile (· == '.')).reverse).map Text.asciiLower

/-- Whether two names are spellings of one host name. -/
def sameHost (first second : String) : Bool := hostKey first == hostKey second

/-- The addresses in the first record of the host, none if there is no record. -/
def HostRecord.lookup (records : List HostRecord) (name : String) : List Ip :=
  match records.find? fun host => sameHost host.name name with
  | some host => host.addresses
  | none => []

abbrev HostStore := Store HostRecord

namespace HostStore

open Store

/-- The addresses of the host. -/
def lookup (store : HostStore) (name : String) : List Ip := HostRecord.lookup store.records name

/-- The records of all other hosts. -/
def without (name : String) (records : List HostRecord) : List HostRecord :=
  records.filter fun host => !sameHost host.name name

/-- Records a host behind the others, in place of its earlier records. -/
def add (name : String) (addresses : List Ip) : Store.Action HostRecord Unit := do
  if (hostKey name).isEmpty then refuse "Host name must not be empty"
  if addresses.isEmpty then refuse ("No addresses given for " ++ name)
  let store ← get
  commit (without name store.records ++ [⟨name, addresses⟩])

/-- Removes the records of a host; says whether there were any. -/
def remove (name : String) : Store.Action HostRecord Bool := do
  let store ← get
  let kept := without name store.records
  if kept.length = store.records.length then return false
  commit kept
  return true

end HostStore

end SocksGateway
