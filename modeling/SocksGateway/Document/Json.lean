import SocksGateway.Document.Fields
import SocksGateway.Text.Hex

/-!
JSON: reading document values and writing them over indented lines.
-/

set_option autoImplicit false

namespace SocksGateway.Document.Json

/-- A record in a list has no item to spare, and null is the empty content. -/
def dialect : Dialect where
  allowsExtraItems := false
  isEmptyContent
    | .null => true
    | _ => false

/-! ## Reading -/

def isBlank (char : Char) : Bool :=
  char == ' ' || char == '\t' || char == '\n' || char == '\r'

def skipBlanks (chars : List Char) : List Char := chars.dropWhile isBlank

/-- The number of four hexadecimal digits. -/
def unit? (a b c d : Char) : Option Nat := do
  let a ← Hex.digitValue? a
  let b ← Hex.digitValue? b
  let c ← Hex.digitValue? c
  let d ← Hex.digitValue? d
  return ((a * 16 + b) * 16 + c) * 16 + d

def isHighHalf (unit : Nat) : Bool := 0xd800 ≤ unit && unit < 0xdc00

def isLowHalf (unit : Nat) : Bool := 0xdc00 ≤ unit && unit < 0xe000

/-- The character of two halves. -/
def joined (high low : Nat) : Char :=
  Char.ofNat (0x10000 + (high - 0xd800) * 0x400 + (low - 0xdc00))

/-- The character behind a backslash. -/
def shortEscape? : Char → Option Char
  | '"' => some '"'
  | '\\' => some '\\'
  | '/' => some '/'
  | 'b' => some '\x08'
  | 'f' => some '\x0c'
  | 'n' => some '\n'
  | 'r' => some '\r'
  | 't' => some '\t'
  | _ => none

/-- A part of a text: a character, or the number that an escape gives. -/
inductive Piece where
  | plain (char : Char)
  | unit (number : Nat)
deriving DecidableEq, Repr

/-- Reads a text from behind its opening quote to its closing one. -/
def pieces : List Char → Option (List Piece × List Char)
  | [] => none
  | '"' :: rest => some ([], rest)
  | '\\' :: 'u' :: a :: b :: c :: d :: rest =>
    match unit? a b c d with
    | none => none
    | some number => (pieces rest).map fun (later, after) => (.unit number :: later, after)
  | '\\' :: char :: rest =>
    match shortEscape? char with
    | none => none
    | some plain => (pieces rest).map fun (later, after) => (.plain plain :: later, after)
  | char :: rest =>
    if char.toNat < 32 ∨ char = '\\' then none
    else (pieces rest).map fun (later, after) => (.plain char :: later, after)

/-- The characters of a text; absent if an escape gives half a character without its other half. -/
def characters : List Piece → Option (List Char)
  | [] => some []
  | .plain char :: rest => (characters rest).map (char :: ·)
  | .unit number :: rest =>
    if isHighHalf number then
      match rest with
      | .unit low :: later =>
        if isLowHalf low then (characters later).map (joined number low :: ·) else none
      | _ => none
    else if isLowHalf number then none
    else (characters rest).map (Char.ofNat number :: ·)

/-- Reads a text from behind its opening quote, as far as its escapes make sense. -/
def textBody (chars : List Char) : Option (Option (List Char) × List Char) :=
  (pieces chars).map fun (body, after) => (characters body, after)

def isDigit (char : Char) : Bool := 48 ≤ char.toNat && char.toNat ≤ 57

def ofDigits (digits : List Char) : Nat :=
  digits.foldl (fun total digit => total * 10 + (digit.toNat - 48)) 0

/-- The digits at the head and what follows them. -/
def digits (chars : List Char) : List Char × List Char :=
  (chars.takeWhile isDigit, chars.dropWhile isDigit)

/-- What follows the integer part of a number: whether there was a fraction or an exponent, and the
characters after them. -/
def numberTail (chars : List Char) : Option (Bool × List Char) := do
  let (fraction, rest) ← match chars with
    | '.' :: rest =>
      let (places, rest) := digits rest
      if places.isEmpty then none else some (true, rest)
    | _ => some (false, chars)
  match rest with
  | mark :: rest' =>
    if mark = 'e' ∨ mark = 'E' then
      let unsigned := match rest' with
        | '+' :: later => later
        | '-' :: later => later
        | _ => rest'
      let (power, rest) := digits unsigned
      if power.isEmpty then none else some (true, rest)
    else some (fraction, rest)
  | [] => some (fraction, rest)

/-- A number; no zero stands before another digit, and minus zero is no integer. -/
def number (chars : List Char) : Option (Value × List Char) := do
  let (negative, unsigned) := match chars with
    | '-' :: rest => (true, rest)
    | _ => (false, chars)
  let (whole, rest) := digits unsigned
  if whole.isEmpty then none
  if whole.head? = some '0' ∧ 1 < whole.length then none
  let (fractional, rest) ← numberTail rest
  let size := ofDigits whole
  if fractional ∨ (negative ∧ size = 0) then return (.other, rest)
  return (.integer (if negative then -(size : Int) else size), rest)

/-- The characters after a given word. -/
def word? : (word chars : List Char) → Option (List Char)
  | [], chars => some chars
  | _, [] => none
  | expected :: word, char :: rest => if expected = char then word? word rest else none

/-- A record, unless the name of an entry is no text. -/
def recordOf (entries : List (Option String × Value)) : Value :=
  match entries.mapM fun (name, value) => name.map (·, value) with
  | some named => .record named
  | none => .other

def textOf : Option (List Char) → Value
  | some chars => .text (String.ofList chars)
  | none => .other

mutual

/-- Reads one value; `fuel` bounds the nesting and is never short when it is the text's length. -/
def value : (fuel : Nat) → List Char → Option (Value × List Char)
  | 0, _ => none
  | fuel + 1, chars =>
    match skipBlanks chars with
    | '"' :: rest => (textBody rest).map fun (body, after) => (textOf body, after)
    | '[' :: rest =>
      match skipBlanks rest with
      | ']' :: after => some (.list [], after)
      | _ => (items fuel rest).map fun (items, after) => (.list items, after)
    | '\x7b' :: rest =>
      match skipBlanks rest with
      | '\x7d' :: after => some (.record [], after)
      | _ => (entries fuel rest).map fun (entries, after) => (recordOf entries, after)
    | 't' :: rest => (word? ['r', 'u', 'e'] rest).map (.flag true, ·)
    | 'f' :: rest => (word? ['a', 'l', 's', 'e'] rest).map (.flag false, ·)
    | 'n' :: rest => (word? ['u', 'l', 'l'] rest).map (.null, ·)
    | chars => number chars

/-- Reads the items of a list, at least one, up to the closing bracket. -/
def items : (fuel : Nat) → List Char → Option (List Value × List Char)
  | 0, _ => none
  | fuel + 1, chars => do
    let (first, rest) ← value fuel chars
    match skipBlanks rest with
    | ',' :: rest =>
      let (others, after) ← items fuel rest
      return (first :: others, after)
    | ']' :: after => return ([first], after)
    | _ => none

/-- Reads the entries of a record, at least one, up to the closing brace. -/
def entries : (fuel : Nat) → List Char → Option (List (Option String × Value) × List Char)
  | 0, _ => none
  | fuel + 1, chars =>
    match skipBlanks chars with
    | '"' :: rest => do
      let (body, rest) ← textBody rest
      let name := body.map String.ofList
      match skipBlanks rest with
      | ':' :: rest =>
        let (content, rest) ← value fuel rest
        match skipBlanks rest with
        | ',' :: rest =>
          let (others, after) ← entries fuel rest
          return ((name, content) :: others, after)
        | '\x7d' :: after => return ([(name, content)], after)
        | _ => none
      | _ => none
    | _ => none

end

/-- The value of a text that holds one value and blanks around it. -/
def parse? (source : String) : Option Value :=
  let chars := source.toList
  match value (chars.length + 1) chars with
  | some (value, rest) => if (skipBlanks rest).isEmpty then some value else none
  | none => none

/-! ## Writing -/

/-- One character inside the quotes. -/
def writtenChar (char : Char) : List Char :=
  match char with
  | '"' => ['\\', '"']
  | '\\' => ['\\', '\\']
  | '\x08' => ['\\', 'b']
  | '\x0c' => ['\\', 'f']
  | '\n' => ['\\', 'n']
  | '\r' => ['\\', 'r']
  | '\t' => ['\\', 't']
  | _ => if char.toNat < 32 then '\\' :: 'u' :: Hex.padded 4 char.toNat else [char]

def writtenText (text : String) : List Char :=
  '"' :: text.toList.flatMap writtenChar ++ ['"']

/-- A new line, indented by two blanks for each level. -/
def newLine (level : Nat) : List Char := '\n' :: List.replicate (2 * level) ' '

/-- A comma, unless nothing follows. -/
def separator {α : Type} (rest : List α) : List Char := if rest.isEmpty then [] else [',']

mutual

/-- A value whose first line stands at `level`. -/
def written (level : Nat) : Value → List Char
  | .null => ['n', 'u', 'l', 'l']
  | .flag true => ['t', 'r', 'u', 'e']
  | .flag false => ['f', 'a', 'l', 's', 'e']
  | .integer value => (toString value).toList
  | .text value => writtenText value
  | .list items =>
    if items.isEmpty then ['[', ']']
    else '[' :: writtenItems (level + 1) items ++ newLine level ++ [']']
  | .record entries =>
    if entries.isEmpty then ['\x7b', '\x7d']
    else '\x7b' :: writtenEntries (level + 1) entries ++ newLine level ++ ['\x7d']
  | .other => ['n', 'u', 'l', 'l']

/-- Items on lines of their own, with commas between them. -/
def writtenItems (level : Nat) : List Value → List Char
  | [] => []
  | item :: rest =>
    newLine level ++ written level item ++ separator rest ++ writtenItems level rest

/-- Entries on lines of their own, with commas between them. -/
def writtenEntries (level : Nat) : List (String × Value) → List Char
  | [] => []
  | (name, content) :: rest =>
    newLine level ++ writtenText name ++ ':' :: ' ' :: written level content ++ separator rest
      ++ writtenEntries level rest

end

/-- The text of a value over indented lines. -/
def render (value : Value) : String := String.ofList (written 0 value)

end SocksGateway.Document.Json
