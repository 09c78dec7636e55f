import SocksGateway.Document.Value

/-!
Reading records of known fields out of document values. A record is written with names, which may
stand in any order among unknown ones, or as a list of its fields in order.
-/

set_option autoImplicit false

namespace SocksGateway.Document

/-- How notations differ in what they let through. -/
structure Dialect where
  /-- A record written as a list may have more items than the record has fields. -/
  allowsExtraItems : Bool
  /-- The values that may stand for "no content" after the name of an alternative. -/
  isEmptyContent : Value → Bool

/-- What was given for each field, in the order of the fields. -/
abbrev Slots := List (Option Value)

/-- The value of a field among named entries; a field must not be given twice. -/
def slot? (entries : List (String × Value)) (name : String) : Option (Option Value) :=
  match entries.filter (·.1 == name) with
  | [] => some none
  | [(_, value)] => some (some value)
  | _ => none

/-- What a value gives for the fields `names`. -/
def slots? (dialect : Dialect) (names : List String) : Value → Option Slots
  | .record entries => names.mapM (slot? entries)
  | .list items =>
    if names.length < items.length && !dialect.allowsExtraItems then none
    else some ((List.range names.length).map fun position => items[position]?)
  | _ => none

/-- A field that must be given. -/
def needed {α : Type} (read : Value → Option α) (slot : Option Value) : Option α :=
  slot.bind read

/-- A field with a value for when it is not given. -/
def defaulted {α : Type} (default : α) (read : Value → Option α) : Option Value → Option α
  | none => some default
  | some value => read value

/-- A value that may be null. -/
def nullable {α : Type} (read : Value → Option α) : Value → Option (Option α)
  | .null => some none
  | value => (read value).map some

def text? : Value → Option String
  | .text value => some value
  | _ => none

def flag? : Value → Option Bool
  | .flag value => some value
  | _ => none

/-- An integer from zero up to, and not including, `limit`. -/
def natural? (limit : Nat) : Value → Option Nat
  | .integer (.ofNat value) => if value < limit then some value else none
  | _ => none

/-- An integer of 64 bits without a sign. -/
def word? : Value → Option Nat := natural? 0x10000000000000000

/-- An integer of 32 bits without a sign. -/
def halfWord? : Value → Option Nat := natural? 0x100000000

def list? {α : Type} (read : Value → Option α) : Value → Option (List α)
  | .list items => items.mapM read
  | _ => none

/-- The name of an alternative, alone or as the only entry of a record without content. -/
def alternative? (dialect : Dialect) : Value → Option String
  | .text name => some name
  | .record [(name, content)] => if dialect.isEmptyContent content then some name else none
  | _ => none

end SocksGateway.Document
