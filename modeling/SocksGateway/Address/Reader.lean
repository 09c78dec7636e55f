import SocksGateway.Address.Ip

/-!
Reading addresses from text. Each reader takes the characters still to be read and returns what
it found with the characters after it.
-/

set_option autoImplicit false

namespace SocksGateway

namespace Address

/-- A reader of a value at the head of some characters. -/
abbrev Reader (α : Type) := List Char → Option (α × List Char)

/-- The digits at the head, in the given base. -/
def leadingDigits (base : Nat) (chars : List Char) : List Nat :=
  match chars with
  | [] => []
  | char :: rest =>
    match Hex.digitValue? char with
    | some value => if value < base then value :: leadingDigits base rest else []
    | none => []

/-- A numeral below `limit` of at most `places` digits (any number if absent); a zero may stand
before other digits only where `padded` says so. -/
def numeral (base limit : Nat) (places : Option Nat) (padded : Bool) : Reader Nat := fun chars =>
  let digits := leadingDigits base chars
  let value := digits.foldl (fun total digit => total * base + digit) 0
  if digits.isEmpty then none
  else if places.any (· < digits.length) then none
  else if limit ≤ value then none
  else if !padded && digits.head? == some 0 && 1 < digits.length then none
  else some (value, chars.drop digits.length)

def given (char : Char) : Reader Unit
  | [] => none
  | head :: rest => if head = char then some ((), rest) else none

/-- Reads `inner`, after a colon unless it stands first. -/
def separated {α : Type} (first : Bool) (inner : Reader α) : Reader α := fun chars =>
  if first then inner chars
  else (given ':' chars).bind fun (_, rest) => inner rest

/-- One octet in decimal, without leading zeros. -/
def octet : Reader UInt8 := fun chars =>
  (numeral 10 256 (some 3) false chars).map fun (value, rest) => (UInt8.ofNat value, rest)

def ipv4 : Reader Ipv4 := fun chars => do
  let (a, rest) ← octet chars
  let (_, rest) ← given '.' rest
  let (b, rest) ← octet rest
  let (_, rest) ← given '.' rest
  let (c, rest) ← octet rest
  let (_, rest) ← given '.' rest
  let (d, rest) ← octet rest
  return (⟨a, b, c, d⟩, rest)

/-- One to four hexadecimal digits. -/
def group : Reader UInt16 := fun chars =>
  (numeral 16 65536 (some 4) true chars).map fun (value, rest) => (UInt16.ofNat value, rest)

/-- Up to `room` groups with colons between them, and whether they end in dotted notation, which
fills two of them. -/
def groups : (room : Nat) → (first : Bool) → List Char → List UInt16 × Bool × List Char
  | 0, _, chars => ([], false, chars)
  | room + 1, first, chars =>
    let dotted := if 0 < room then separated first ipv4 chars else none
    match dotted with
    | some (ip, rest) => ([Bytes.word ip.a ip.b, Bytes.word ip.c ip.d], true, rest)
    | none =>
      match separated first group chars with
      | some (value, rest) =>
        let (following, mixed, rest) := groups room false rest
        (value :: following, mixed, rest)
      | none => ([], false, chars)

/-- Eight groups, or fewer around one `::`, before which no dotted notation may stand. -/
def ipv6 : Reader Ipv6 := fun chars =>
  let (front, mixed, rest) := groups 8 true chars
  if front.length = 8 then some (Ipv6.ofGroups front, rest)
  else if mixed then none
  else do
    let (_, rest) ← given ':' rest
    let (_, rest) ← given ':' rest
    let (back, _, rest) := groups (7 - front.length) true rest
    let zeros := List.replicate (8 - front.length - back.length) 0
    return (Ipv6.ofGroups (front ++ zeros ++ back), rest)

/-- Reads the whole text with `reader`. -/
def whole? {α : Type} (reader : Reader α) (text : String) : Option α :=
  match reader text.toList with
  | some (value, []) => some value
  | _ => none

/-- A port in decimal. -/
def port : Reader UInt16 := fun chars =>
  (numeral 10 65536 none true chars).map fun (value, rest) => (UInt16.ofNat value, rest)

end Address

/-- Four octets with points between them. -/
def Ipv4.parse? (text : String) : Option Ipv4 := Address.whole? Address.ipv4 text

def Ipv6.parse? (text : String) : Option Ipv6 := Address.whole? Address.ipv6 text

/-- An address of either family. -/
def Ip.parse? (text : String) : Option Ip :=
  match Ipv4.parse? text with
  | some ip => some (.v4 ip)
  | none => (Ipv6.parse? text).map .v6

end SocksGateway
