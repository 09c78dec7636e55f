import SocksGateway.Document.Json
import SocksGateway.Store.DataFile
import SocksGateway.Text.LowerCase

/-!
Stores: a list of records in memory that is also the content of a file. A change is written to the
file first; only then does it become the list in memory.
-/

set_option autoImplicit false

namespace SocksGateway

/-- How a record is written to a document and read from it. -/
class Recorded (α : Type) where
  toValue : α → Document.Value
  ofValue? : Document.Value → Option α

/-- Records and the file that keeps them. -/
structure Store (α : Type) where
  records : List α
  file : DataFile
deriving Repr

namespace Store

variable {α β : Type} [Recorded α]

/-- The text of a file that holds these records. -/
def render (records : List α) : String :=
  Document.Json.render (.list (records.map Recorded.toValue))

/-- The records in the text of a file; a blank text holds none. -/
def parse? (text : String) : Option (List α) :=
  if Text.isBlank text then some []
  else (Document.Json.parse? text).bind (Document.list? Recorded.ofValue?)

/-- Opens the store in a file; a missing file holds no records. -/
def load (file : DataFile) : Except Failure (Store α) :=
  match file.read with
  | none => .ok { records := [], file }
  | some text =>
    match parse? text with
    | some records => .ok { records, file }
    | none => .error { cause := .json, remarks := ["Failed to parse " ++ Text.quoted file.path] }

/-- What is done to a store: it may fail, and it leaves a store behind either way. -/
abbrev Action (α β : Type) := ExceptT Failure (StateM (Store α)) β

/-- Runs an action: its result and the store after it. -/
def perform (store : Store α) (action : Action α β) : Except Failure β × Store α :=
  action.run.run store

/-- Fails with a message about the store. -/
def refuse (text : String) : Action α β := throw { cause := .store text }

/-- Writes the records to the file and takes them over. -/
def commit (records : List α) : Action α Unit := do
  let store ← get
  match store.file.write (render records) with
  | .ok file => set { records, file : Store α }
  | .error failure => throw failure

/-- Reads the file again; the store stays as it is if that fails. -/
def reopen : Action α Unit := do
  let store ← get
  match load store.file with
  | .ok opened => set (opened : Store α)
  | .error failure => throw failure

end Store

end SocksGateway
