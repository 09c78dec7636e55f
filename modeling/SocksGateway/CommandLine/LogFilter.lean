import SocksGateway.Text.LowerCase

/-!
Log filters: directives with commas between them. A directive is a level, or names a part of the
program, a span in brackets or both, with a level of its own behind an equals sign.
-/

set_option autoImplicit false

namespace SocksGateway.LogFilter

def levels : List String :=
  ["off", "error", "warn", "info", "debug", "trace", "0", "1", "2", "3", "4", "5"]

def isLevel (chars : List Char) : Bool := levels.contains (Text.lower (String.ofList chars))

/-- The characters of names; beyond ASCII every character may be in one. -/
def isNameChar (char : Char) : Bool :=
  char.isAlphanum || char == '_' || char == ':' || char == '-' || 128 ≤ char.toNat

/-- What follows a name or a span at the head. -/
def afterPart : List Char → Option (List Char)
  | '[' :: rest =>
    match rest.dropWhile (· != ']') with
    | _ :: after => some after
    | [] => none
  | chars =>
    if (chars.takeWhile isNameChar).isEmpty then none else some (chars.dropWhile isNameChar)

/-- Whether this can follow the parts of a directive. -/
def isEnd : List Char → Bool
  | [] => true
  | '=' :: level => level.isEmpty || isLevel level
  | _ => false

def isDirective (chars : List Char) : Bool :=
  chars.isEmpty || isLevel chars ||
    (afterPart chars).any fun rest => isEnd rest || (afterPart rest).any isEnd

def isValid (text : String) : Bool :=
  (text.splitOn ",").all fun directive => isDirective directive.toList

end SocksGateway.LogFilter
