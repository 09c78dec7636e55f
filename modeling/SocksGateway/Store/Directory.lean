import SocksGateway.Store.Basic

/-!
The data directory: one file for each kind of record. What is done to one store changes the content
of its own file only.
-/

set_option autoImplicit false

namespace SocksGateway

/-- What the files of a data directory hold. -/
inductive RecordKind where
  | rules
  | users
  | networks
  | hosts
deriving DecidableEq, Repr, Inhabited

namespace RecordKind

def all : List RecordKind := [rules, users, networks, hosts]

def fileName : RecordKind → String
  | rules => "rules.json"
  | users => "users.json"
  | networks => "networks.json"
  | hosts => "hosts.json"

end RecordKind

structure DataDirectory where
  path : String
  /-- The texts of the files that exist. -/
  content : RecordKind → Option String := fun _ => none
  /-- Why nothing can be written, where something else is in the place of the directory. -/
  obstacle : Option IoError := none

namespace DataDirectory

/-- The path of a file in a directory. -/
def joined (directory name : String) : String :=
  if directory.isEmpty ∨ directory.endsWith "/" then directory ++ name
  else directory ++ "/" ++ name

/-- Slashes, and dots that stand for the directory itself, make no difference at the end of a path
whose characters are given from the last to the first. -/
def withoutEnd : List Char → List Char
  | ['/'] => ['/']
  | '/' :: rest => withoutEnd rest
  | '.' :: '/' :: rest => withoutEnd ('/' :: rest)
  | chars => chars

/-- The directory as messages name it. -/
def shownPath (path : String) : String :=
  String.ofList (withoutEnd path.toList.reverse).reverse

/-- One file of the directory. -/
def file (directory : DataDirectory) (kind : RecordKind) : DataFile where
  directory := shownPath directory.path
  path := joined directory.path kind.fileName
  content := directory.content kind
  obstacle := directory.obstacle

/-- The directory with another content of one file. -/
def put (directory : DataDirectory) (kind : RecordKind) (content : Option String) :
    DataDirectory :=
  { directory with
    content := fun each => if each = kind then content else directory.content each }

@[simp] theorem content_put_self (directory : DataDirectory) (kind : RecordKind)
    (content : Option String) : (directory.put kind content).content kind = content := by
  simp [put]

theorem content_put_other (directory : DataDirectory) (kind other : RecordKind)
    (content : Option String) (different : other ≠ kind) :
    (directory.put kind content).content other = directory.content other := by
  simp [put, different]

/-- What is done in a data directory: it may fail, and it leaves a directory behind either way. -/
abbrev Action (α : Type) := ExceptT Failure (StateM DataDirectory) α

/-- Opens the store of a kind. -/
def openStore {β : Type} [Recorded β] (kind : RecordKind) : Action (Store β) := do
  match Store.load ((← get).file kind) with
  | .ok store => return store
  | .error failure => throw failure

/-- Does something to an opened store; its file gets what the store wrote. -/
def change {α β : Type} (kind : RecordKind) (store : Store β) (action : Store.Action β α) :
    Action α := do
  let (result, after) := store.perform action
  modify (·.put kind after.file.content)
  match result with
  | .ok value => return value
  | .error failure => throw failure

end DataDirectory

end SocksGateway
