import SocksGateway.Text.Letter

/-!
Lower-case forms: of ASCII letters alone, and of all letters. A capital sigma at the end of a
word becomes the final sigma.
-/

set_option autoImplicit false

namespace SocksGateway.Text

/-- An ASCII capital becomes small; every other character is kept. -/
def asciiLower (char : Char) : Char :=
  if 65 ≤ char.toNat ∧ char.toNat ≤ 90 then Char.ofNat (char.toNat + 32) else char

/-- The text with ASCII capitals made small. -/
def lowerAscii (text : String) : List Char := text.toList.map asciiLower

/-- Equality of texts up to the case of ASCII letters. -/
def sameIgnoringCase (first second : String) : Bool := lowerAscii first == lowerAscii second

/-- The lower-case letters of a letter taken by itself. -/
def lowerLetter (char : Char) : List Char :=
  if char = 'İ' then ['i', '\u0307']
  else
    match lowerRuns.find? fun run =>
        run.first ≤ char.toNat && (char.toNat - run.first) % run.stride == 0
          && (char.toNat - run.first) / run.stride < run.count with
    | some run => [Char.ofNat (Int.toNat (char.toNat + run.distance))]
    | none => [char]

/-- Whether the nearest character that is not passed over has a case. -/
def meetsCased (chars : List Char) : Bool :=
  match chars.dropWhile caseIgnorable.contains with
  | [] => false
  | char :: _ => cased.contains char

/-- Lower-case form of what follows `before`, given nearest first. -/
def lowerAfter : (before rest : List Char) → List Char
  | _, [] => []
  | before, char :: rest =>
    let lowered :=
      if char = 'Σ' then [if meetsCased before && !meetsCased rest then 'ς' else 'σ']
      else lowerLetter char
    lowered ++ lowerAfter (char :: before) rest

/-- The text in lower case. -/
def lower (text : String) : String := String.ofList (lowerAfter [] text.toList)

/-- White space, as it is trimmed from the ends of a text. -/
def blank : CodeSet where
  changes := [9, 14, 32, 33, 133, 134, 160, 161, 5760, 5761, 8192, 8203, 8232, 8234, 8239, 8240,
    8287, 8288, 12288, 12289]

/-- A text of nothing but white space. -/
def isBlank (text : String) : Bool := text.toList.all blank.contains

end SocksGateway.Text
