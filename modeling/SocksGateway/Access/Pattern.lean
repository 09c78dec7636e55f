import SocksGateway.Text.LowerCase

/-!
Patterns: a text with an asterisk at its head, its end or both, which stands for any characters
there. Case is ignored in ASCII letters.
-/

set_option autoImplicit false

namespace SocksGateway.Pattern

/-- What a pattern asks for: a core, and whether other characters may stand before and after. -/
structure Parts where
  openHead : Bool
  openEnd : Bool
  core : List Char
deriving DecidableEq, Repr

/-- Takes the asterisks off. A lone asterisk opens the head only. -/
def parts (pattern : List Char) : Parts :=
  let openHead := pattern.head? == some '*'
  let openEnd := 1 < pattern.length && pattern.getLast? == some '*'
  let core := if openHead then pattern.drop 1 else pattern
  { openHead, openEnd, core := if openEnd then core.dropLast else core }

/-- Whether the core stands somewhere in the input. -/
def occurs (core : List Char) : List Char → Bool
  | [] => core.isEmpty
  | char :: rest => core.isPrefixOf (char :: rest) || occurs core rest

/-- Whether a core is found where its parts allow it. -/
def Parts.admits (parts : Parts) (input : List Char) : Bool :=
  match parts.openHead, parts.openEnd with
  | true, true => occurs parts.core input
  | true, false => parts.core.isSuffixOf input
  | false, true => parts.core.isPrefixOf input
  | false, false => input == parts.core

/-- Whether the input has the form that the pattern describes. -/
def admits (pattern input : String) : Bool :=
  (parts (Text.lowerAscii pattern)).admits (Text.lowerAscii input)

end SocksGateway.Pattern
