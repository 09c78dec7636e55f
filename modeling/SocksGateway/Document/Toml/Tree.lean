import SocksGateway.Document.Value

/-!
The tables of a TOML document while it is read. How a table came to be decides what may still be
added to it.
-/

set_option autoImplicit false

namespace SocksGateway.Document.Toml

/-- How a table came to be. -/
inductive Origin where
  /-- Its own header, or a row of an array of tables. -/
  | header
  /-- The header of a table inside it. -/
  | inner
  /-- A key with points. -/
  | key
deriving DecidableEq, Repr, Inhabited

/-- What a name stands for. -/
inductive Node where
  | value (value : Value)
  | table (origin : Origin) (entries : List (String × Node))
  /-- An array of tables: the earlier rows and the last. -/
  | rows (earlier : List (List (String × Node))) (last : List (String × Node))
deriving Repr, Inhabited

abbrev Entries := List (String × Node)

namespace Entries

def find? (entries : Entries) (name : String) : Option Node := entries.lookup name

/-- The entries with another node for a name that is there. -/
def replace (name : String) (node : Node) (entries : Entries) : Entries :=
  entries.map fun entry => if entry.1 == name then (name, node) else entry

/-- The entries with a new name. -/
def insert? (name : String) (node : Node) (entries : Entries) : Option Entries :=
  if (entries.find? name).isSome then none else some (entries ++ [(name, node)])

/-- Changes the table that a path leads to; of arrays of tables it takes the last row. Tables on the
way that do not exist come to be with the given origin, which is that of the path; one with a header
of its own is out of reach for keys. -/
def change (origin : Origin) (act : Origin → Entries → Option Entries) :
    (path : List String) → Origin → Entries → Option Entries
  | [], current, entries => act current entries
  | name :: path, _, entries =>
    match entries.find? name with
    | none => do
      let inner ← change origin act path origin []
      return entries ++ [(name, .table origin inner)]
    | some (.value _) => none
    | some (.rows earlier last) => do
      return entries.replace name (.rows earlier (← change origin act path .header last))
    | some (.table found inner) =>
      if origin = .key ∧ found = .header then none
      else do return entries.replace name (.table found (← change origin act path found inner))

/-- Sets a name at the end of a path of keys. Only tables that keys made take more from keys. -/
def set? (path : List String) (name : String) (value : Value) (entries : Entries) :
    Option Entries :=
  change .key (fun origin inner =>
    if (origin = .key) = (path ≠ []) then inner.insert? name (.value value) else none)
    path .header entries

/-- Sets a name, at the end of a path of keys, in the table that a path of headers leads to. -/
def setIn? (table path : List String) (name : String) (value : Value) (entries : Entries) :
    Option Entries :=
  change .inner (fun _ inner => inner.set? path name value) table .header entries

/-- Opens the table of a header. -/
def openTable? (path : List String) (name : String) (entries : Entries) : Option Entries :=
  change .inner (fun _ inner =>
    match inner.find? name with
    | none => inner.insert? name (.table .header [])
    | some (.table .inner found) => some (inner.replace name (.table .header found))
    | some _ => none) path .header entries

/-- Opens a new row of an array of tables. -/
def openRow? (path : List String) (name : String) (entries : Entries) : Option Entries :=
  change .inner (fun _ inner =>
    match inner.find? name with
    | none => inner.insert? name (.rows [] [])
    | some (.rows earlier last) => some (inner.replace name (.rows (earlier ++ [last]) []))
    | some _ => none) path .header entries

end Entries

mutual

/-- What a node holds. -/
def Node.toValue : Node → Value
  | .value value => value
  | .table _ entries => .record (valuesOf entries)
  | .rows earlier last => .list (recordsOf earlier ++ [.record (valuesOf last)])

def valuesOf : List (String × Node) → List (String × Value)
  | [] => []
  | (name, node) :: rest => (name, node.toValue) :: valuesOf rest

def recordsOf : List (List (String × Node)) → List Value
  | [] => []
  | entries :: rest => .record (valuesOf entries) :: recordsOf rest

end

end SocksGateway.Document.Toml
