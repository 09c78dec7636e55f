import SocksGateway.Document.Fields
import SocksGateway.Document.Toml.Scalar
import SocksGateway.Document.Toml.Tree

/-!
TOML documents: lines with keys and values, under headers of tables.
-/

set_option autoImplicit false

namespace SocksGateway.Document.Toml

/-- Items to spare in a list that stands for a record are let through, and empty content is an empty
table or array. -/
def dialect : Dialect where
  allowsExtraItems := true
  isEmptyContent
    | .record [] => true
    | .list [] => true
    | _ => false

/-- A reader of values. -/
abbrev ValueReader := List Char → Option (Value × List Char)

/-- The items of an array, from behind its bracket or a comma. -/
def items (read : ValueReader) : (fuel : Nat) → List Char → Option (List Value × List Char)
  | 0, _ => none
  | fuel + 1, chars => do
    match ← skipFiller false chars with
    | ']' :: rest => return ([], rest)
    | chars => do
      let (item, rest) ← read chars
      match ← skipFiller false rest with
      | ',' :: rest => do
        let (later, rest) ← items read fuel rest
        return (item :: later, rest)
      | ']' :: rest => return ([item], rest)
      | _ => none

/-- A key, an equals sign and a value. -/
def pair (read : ValueReader) (chars : List Char) :
    Option ((List String × String × Value) × List Char) := do
  let (path, name, rest) ← key? chars
  match rest with
  | '=' :: rest => do
    let (value, rest) ← read (skipBlanks rest)
    return ((path, name, value), rest)
  | _ => none

/-- The pairs of a table on one line, from behind its brace or a comma. -/
def pairs (read : ValueReader) : (fuel : Nat) → Entries → List Char → Option (Entries × List Char)
  | 0, _, _ => none
  | fuel + 1, entries, chars => do
    let ((path, name, value), rest) ← pair read chars
    let entries ← entries.set? path name value
    match skipBlanks rest with
    | ',' :: rest => pairs read fuel entries rest
    | '\x7d' :: rest => return (entries, rest)
    | _ => none

/-- A value in which arrays and tables are nested at most `depth` deep. -/
def value : (depth : Nat) → ValueReader
  | depth, chars =>
    match chars with
    | '"' :: _ => (text? chars).map fun (text, rest) => (.text (String.ofList text), rest)
    | '\'' :: _ => (text? chars).map fun (text, rest) => (.text (String.ofList text), rest)
    | 't' :: 'r' :: 'u' :: 'e' :: rest => some (.flag true, rest)
    | 'f' :: 'a' :: 'l' :: 's' :: 'e' :: rest => some (.flag false, rest)
    | '[' :: rest =>
      match depth with
      | 0 => none
      | depth + 1 => (items (value depth) (rest.length + 1) rest).map fun (items, rest) =>
        (.list items, rest)
    | '\x7b' :: rest =>
      match depth with
      | 0 => none
      | depth + 1 =>
        match skipBlanks rest with
        | '\x7d' :: rest => some (.record [], rest)
        | rest => (pairs (value depth) (rest.length + 1) [] rest).map fun (entries, rest) =>
          (.record (valuesOf entries), rest)
    | _ => numberOrDate chars

/-- What the lines so far have come to, and the table that is open. -/
structure Reading where
  entries : Entries := []
  table : List String := []

/-- A header, from behind its brackets up to the closing ones. -/
def header? (closing : List Char) (chars : List Char) :
    Option (List String × String × List Char) := do
  let (path, name, rest) ← key? chars
  if rest.take closing.length = closing then return (path, name, rest.drop closing.length) else none

/-- What a line that is not blank adds, and what follows it. -/
def line? (reading : Reading) : List Char → Option (Reading × List Char)
  | '[' :: '[' :: rest => do
    let (path, name, rest) ← header? [']', ']'] rest
    let entries ← reading.entries.openRow? path name
    return ({ entries, table := path ++ [name] }, ← lineEnd? rest)
  | '[' :: rest => do
    let (path, name, rest) ← header? [']'] rest
    let entries ← reading.entries.openTable? path name
    return ({ entries, table := path ++ [name] }, ← lineEnd? rest)
  | chars => do
    let ((path, name, value), rest) ← pair (value (depthLimit - 1)) chars
    let entries ← reading.entries.setIn? reading.table path name value
    return ({ reading with entries }, ← lineEnd? rest)

/-- Reads lines, in no more than `fuel` turns. -/
def lines : (fuel : Nat) → Reading → List Char → Option Reading
  | 0, _, _ => none
  | fuel + 1, reading, chars =>
    match skipBlanks chars with
    | [] => some reading
    | '#' :: rest => (lineEnd? ('#' :: rest)).bind (lines fuel reading)
    | chars =>
      match newline? chars with
      | some rest => lines fuel reading rest
      | none => (line? reading chars).bind fun (reading, rest) => lines fuel reading rest

/-- The record that a document holds. A mark of its byte order may stand before it. -/
def parse? (text : String) : Option Value := do
  let chars := match text.toList with
    | '\ufeff' :: rest => rest
    | chars => chars
  let reading ← lines (chars.length + 1) {} chars
  return .record (valuesOf reading.entries)

end SocksGateway.Document.Toml
