import SocksGateway.Bytes

/-!
Hexadecimal numerals in lower case: of numbers, with and without the `0x` mark, and of octet
strings.
-/

set_option autoImplicit false

namespace SocksGateway.Hex

/-- The digit for a value below sixteen. -/
def digit (value : Nat) : Char :=
  if value < 10 then Char.ofNat (48 + value) else Char.ofNat (87 + value)

/-- The value of a digit, in either case. -/
def digitValue? (char : Char) : Option Nat :=
  let code := char.toNat
  if 48 ≤ code ∧ code ≤ 57 then some (code - 48)
  else if 97 ≤ code ∧ code ≤ 102 then some (code - 87)
  else if 65 ≤ code ∧ code ≤ 70 then some (code - 55)
  else none

/-- The digits of a number without leading zeros. -/
def digits (value : Nat) : List Char :=
  if value < 16 then [digit value] else digits (value / 16) ++ [digit (value % 16)]

/-- The digits of a number, filled up with zeros to `width`. -/
def padded (width value : Nat) : List Char :=
  let plain := digits value
  List.replicate (width - plain.length) '0' ++ plain

/-- An octet as it stands in messages, for instance `0x0a`. -/
def ofByte (byte : UInt8) : String :=
  String.ofList ('0' :: 'x' :: padded 2 byte.toNat)

/-- A word as it stands in messages, for instance `0x000a`. -/
def ofWord (word : UInt16) : String :=
  String.ofList ('0' :: 'x' :: padded 4 word.toNat)

def encodeByte (byte : UInt8) : List Char :=
  [digit (byte.toNat / 16), digit (byte.toNat % 16)]

/-- Two digits for each octet. -/
def encode (bytes : Bytes) : String := String.ofList (bytes.flatMap encodeByte)

def decodeDigits? : List Char → Option Bytes
  | [] => some []
  | [_] => none
  | high :: low :: rest => do
    let highValue ← digitValue? high
    let lowValue ← digitValue? low
    let following ← decodeDigits? rest
    return UInt8.ofNat (highValue * 16 + lowValue) :: following

/-- The octets written by pairs of digits. -/
def decode? (text : String) : Option Bytes := decodeDigits? text.toList

theorem digitValue?_digit (value : Nat) (small : value < 16) :
    digitValue? (digit value) = some value := by
  revert value
  decide

end SocksGateway.Hex
