import SocksGateway.Bcrypt.Verify
import SocksGateway.Store.Basic

/-!
Users: names and password hashes. Names that differ only in the case of ASCII letters are one name.
-/

set_option autoImplicit false

namespace SocksGateway

structure User where
  name : String
  passwordHash : String
deriving DecidableEq, Repr, Inhabited

instance : Recorded User where
  toValue user := .record [("username", .text user.name), ("password", .text user.passwordHash)]
  ofValue? value := do
    match ← Document.slots? Document.Json.dialect ["username", "password"] value with
    | [name, passwordHash] =>
      return ⟨← Document.needed Document.text? name, ← Document.needed Document.text? passwordHash⟩
    | _ => none

abbrev UserStore := Store User

namespace UserStore

open Store

/-- Whether this is the user of that name. -/
def named (name : String) (user : User) : Bool := Text.sameIgnoringCase user.name name

def find? (store : UserStore) (name : String) : Option User := store.records.find? (named name)

/-- Randomness and effort that go into a new hash. -/
structure Hashing where
  cost : Nat
  salt : Bytes

/-- Hashes a new password. -/
def hashed (hashing : Hashing) (password : String) : Store.Action User String :=
  match Bcrypt.hash? hashing.cost hashing.salt (Bytes.ofText password) with
  | some text => pure text
  | none => refuse ("Failed to hash password: Cost needs to be between 4 and 31, got "
      ++ toString hashing.cost)

/-- Adds a user behind the others; the name must be new. -/
def add (hashing : Hashing) (name password : String) : Store.Action User Unit := do
  if name.isEmpty then refuse "Username must not be empty"
  let passwordHash ← hashed hashing password
  let store ← get
  if (find? store name).isSome then refuse ("User '" ++ name ++ "' already exists")
  commit (store.records ++ [⟨name, passwordHash⟩])

/-- The records with the hash of the first user of that name replaced. -/
def withHash (name passwordHash : String) : List User → List User
  | [] => []
  | user :: rest =>
    if named name user then { user with passwordHash } :: rest
    else user :: withHash name passwordHash rest

/-- Gives a user another password. -/
def updatePassword (hashing : Hashing) (name password : String) : Store.Action User Unit := do
  let passwordHash ← hashed hashing password
  let store ← get
  if (find? store name).isNone then refuse ("User '" ++ name ++ "' not found")
  commit (withHash name passwordHash store.records)

/-- Removes a user; says whether there was one. -/
def delete (name : String) : Store.Action User Bool := do
  let store ← get
  let kept := store.records.filter fun user => !named name user
  if kept.length = store.records.length then return false
  commit kept
  return true

/-- Whether the password is the one that was hashed for this name. -/
def verify (store : UserStore) (name password : String) : Bool :=
  match find? store name with
  | some user => Bcrypt.verify (Bytes.ofText password) user.passwordHash
  | none => false

end UserStore

end SocksGateway
