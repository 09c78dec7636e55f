import SocksGateway.Text.Hex

/-!
Blanks, comments, texts and keys of TOML. Each reader gives what it has read and the characters after
it.
-/

set_option autoImplicit false

namespace SocksGateway.Document.Toml

def isBlank (char : Char) : Bool := char == ' ' || char == '\t'

def skipBlanks (chars : List Char) : List Char := chars.dropWhile isBlank

/-- Whether a character may stand on a line: a tab, or anything that is no control character. -/
def isPrintable (char : Char) : Bool :=
  char == '\t' || (32 ≤ char.toNat && char.toNat != 127)

/-- What follows a line end. -/
def newline? : List Char → Option (List Char)
  | '\n' :: rest => some rest
  | '\r' :: '\n' :: rest => some rest
  | _ => none

/-- What follows the rest of a line: blanks, perhaps a comment, and a line end or the end. -/
def lineEnd? (chars : List Char) : Option (List Char) :=
  let rest := match skipBlanks chars with
    | '#' :: comment => comment.dropWhile isPrintable
    | other => other
  if rest.isEmpty then some [] else newline? rest

/-- What follows blanks, line ends and comments. -/
def skipFiller : (inComment : Bool) → List Char → Option (List Char)
  | _, [] => some []
  | _, '\n' :: rest => skipFiller false rest
  | _, '\r' :: '\n' :: rest => skipFiller false rest
  | true, char :: rest => if isPrintable char then skipFiller true rest else none
  | false, '#' :: rest => skipFiller true rest
  | false, char :: rest => if isBlank char then skipFiller false rest else some (char :: rest)

/-! ## Texts -/

/-- The character of a code point in hexadecimal digits. -/
def codePoint? (digits : List Char) : Option Char := do
  let values ← digits.mapM Hex.digitValue?
  let number := values.foldl (fun total digit => total * 16 + digit) 0
  if h : number.isValidChar then some (Char.ofNatAux number h) else none

/-- The character that an escape stands for, from behind its backslash. -/
def escaped? : List Char → Option (Char × List Char)
  | 'b' :: rest => some ('\x08', rest)
  | 't' :: rest => some ('\t', rest)
  | 'n' :: rest => some ('\n', rest)
  | 'f' :: rest => some ('\x0c', rest)
  | 'r' :: rest => some ('\r', rest)
  | '"' :: rest => some ('"', rest)
  | '\\' :: rest => some ('\\', rest)
  | 'u' :: rest => if rest.length < 4 then none else (codePoint? (rest.take 4)).map (·, rest.drop 4)
  | 'U' :: rest => if rest.length < 8 then none else (codePoint? (rest.take 8)).map (·, rest.drop 8)
  | _ => none

/-- A text in double quotes, from behind the first of them. -/
def quotedBody : (fuel : Nat) → List Char → Option (List Char × List Char)
  | 0, _ => none
  | _, [] => none
  | _ + 1, '"' :: rest => some ([], rest)
  | fuel + 1, '\\' :: rest => do
    let (char, rest) ← escaped? rest
    let (later, after) ← quotedBody fuel rest
    return (char :: later, after)
  | fuel + 1, char :: rest =>
    if isPrintable char then do
      let (later, after) ← quotedBody fuel rest
      return (char :: later, after)
    else none

/-- A text in single quotes, from behind the first of them: no escapes. -/
def literalBody : List Char → Option (List Char × List Char)
  | [] => none
  | '\'' :: rest => some ([], rest)
  | char :: rest =>
    if isPrintable char then (literalBody rest).map fun (later, after) => (char :: later, after)
    else none

/-- What follows a line end that a backslash hides, with all blanks and line ends behind it. -/
def hiddenNewline? (chars : List Char) : Option (List Char) := do
  let rest ← newline? (skipBlanks chars)
  return skipLines rest.length rest
where
  /-- Drops blanks and line ends. -/
  skipLines : Nat → List Char → List Char
    | 0, chars => chars
    | fuel + 1, chars =>
      let rest := skipBlanks chars
      match newline? rest with
      | some later => skipLines fuel later
      | none => rest

/-- The quotes at the end of a text over many lines: three of them end it, and up to two before those
belong to it. The result is how many belong to it and what follows. -/
def closing? (quote : Char) (chars : List Char) : Option (Nat × List Char) :=
  let count := (chars.takeWhile (· == quote)).length
  if count < 3 then none
  else if count < 6 then some (count - 3, chars.drop count)
  else some (2, chars.drop 5)

/-- A text over many lines in double quotes, from behind the first line end. -/
def longBody : (fuel : Nat) → List Char → Option (List Char × List Char)
  | 0, _ => none
  | fuel + 1, chars =>
    match closing? '"' chars with
    | some (count, after) => some (List.replicate count '"', after)
    | none =>
      match newline? chars, chars with
      | some rest, _ => (longBody fuel rest).map fun (later, after) => ('\n' :: later, after)
      | none, [] => none
      | none, '\\' :: rest =>
        match hiddenNewline? rest with
        | some rest => longBody fuel rest
        | none => do
          let (char, rest) ← escaped? rest
          let (later, after) ← longBody fuel rest
          return (char :: later, after)
      | none, char :: rest =>
        if isPrintable char then do
          let (later, after) ← longBody fuel rest
          return (char :: later, after)
        else none

/-- A text over many lines in single quotes, from behind the first line end. -/
def longLiteralBody : (fuel : Nat) → List Char → Option (List Char × List Char)
  | 0, _ => none
  | fuel + 1, chars =>
    match closing? '\'' chars with
    | some (count, after) => some (List.replicate count '\'', after)
    | none =>
      match newline? chars, chars with
      | some rest, _ => (longLiteralBody fuel rest).map fun (later, after) => ('\n' :: later, after)
      | none, [] => none
      | none, char :: rest =>
        if isPrintable char then do
          let (later, after) ← longLiteralBody fuel rest
          return (char :: later, after)
        else none

/-- Drops the line end directly behind the opening quotes of a text over many lines. -/
def afterOpening (chars : List Char) : List Char := (newline? chars).getD chars

/-- A text on one line. -/
def shortText? : List Char → Option (List Char × List Char)
  | '"' :: rest => quotedBody (rest.length + 1) rest
  | '\'' :: rest => literalBody rest
  | _ => none

/-- A text of any kind. -/
def text? : List Char → Option (List Char × List Char)
  | '"' :: '"' :: '"' :: rest => longBody (rest.length + 1) (afterOpening rest)
  | '\'' :: '\'' :: '\'' :: rest => longLiteralBody (rest.length + 1) (afterOpening rest)
  | chars => shortText? chars

/-! ## Keys -/

def isBare (char : Char) : Bool :=
  char.isAlphanum || char == '_' || char == '-'

/-- One part of a key. -/
def keyPart? (chars : List Char) : Option (String × List Char) :=
  match chars with
  | '"' :: _ => (shortText? chars).map fun (text, rest) => (String.ofList text, rest)
  | '\'' :: _ => (shortText? chars).map fun (text, rest) => (String.ofList text, rest)
  | _ =>
    let bare := chars.takeWhile isBare
    if bare.isEmpty then none else some (String.ofList bare, chars.dropWhile isBare)

/-- The parts of a key, with points between them and blanks around them. -/
def keyParts? : (fuel : Nat) → List Char → Option (List String × List Char)
  | 0, _ => none
  | fuel + 1, chars => do
    let (first, rest) ← keyPart? (skipBlanks chars)
    match skipBlanks rest with
    | '.' :: rest => do
      let (later, rest) ← keyParts? fuel rest
      return (first :: later, rest)
    | rest => return ([first], rest)

/-- Keys have fewer parts, and values are nested less deeply, than this. -/
def depthLimit : Nat := 80

/-- A key: its parts up to the last, and the last. -/
def key? (chars : List Char) : Option (List String × String × List Char) := do
  let (parts, rest) ← keyParts? (depthLimit - 1) chars
  return (parts.dropLast, parts.getLastD "", rest)

end SocksGateway.Document.Toml
