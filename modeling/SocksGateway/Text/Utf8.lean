import SocksGateway.Bytes

/-!
Reading octets as text where they need not be well formed: each ill-formed stretch becomes one
replacement character.
-/

set_option autoImplicit false

namespace SocksGateway.Utf8

/-- A character at the head of some octets, with the number of octets it takes. -/
def leadingChar? (bytes : Bytes) : Option (Char × Nat) :=
  match (bytes.take 4).toByteArray.utf8DecodeChar? 0 with
  | some char => some (char, char.utf8Size)
  | none => none

/-- The second octets that may follow a lead octet. -/
def secondRange (lead : UInt8) : UInt8 × UInt8 :=
  if lead = 0xe0 then (0xa0, 0xbf)
  else if lead = 0xed then (0x80, 0x9f)
  else if lead = 0xf0 then (0x90, 0xbf)
  else if lead = 0xf4 then (0x80, 0x8f)
  else (0x80, 0xbf)

/-- How many octets a lead octet announces after itself. -/
def announced (lead : UInt8) : Nat :=
  if 0xc2 ≤ lead ∧ lead ≤ 0xdf then 1
  else if 0xe0 ≤ lead ∧ lead ≤ 0xef then 2
  else if 0xf0 ≤ lead ∧ lead ≤ 0xf4 then 3
  else 0

/-- Length of the ill-formed stretch at the head: the longest beginning of a character, and at
least one octet. -/
def illFormedLength : Bytes → Nat
  | [] => 0
  | lead :: rest =>
    match announced lead, rest with
    | 0, _ => 1
    | _, [] => 1
    | more + 1, second :: others =>
      let (low, high) := secondRange lead
      if low ≤ second ∧ second ≤ high then
        2 + ((others.take more).takeWhile fun octet => 0x80 ≤ octet && octet ≤ 0xbf).length
      else 1

/-- Characters of at most `fuel` stretches. -/
def lossyChars : (fuel : Nat) → Bytes → List Char
  | 0, _ => []
  | _, [] => []
  | fuel + 1, bytes =>
    match leadingChar? bytes with
    | some (char, size) => char :: lossyChars fuel (bytes.drop size)
    | none => '\ufffd' :: lossyChars fuel (bytes.drop (illFormedLength bytes))

/-- The text of the octets, with a replacement character for each ill-formed stretch. -/
def lossy (bytes : Bytes) : String := String.ofList (lossyChars bytes.length bytes)

end SocksGateway.Utf8
