import SocksGateway.Bcrypt.Blowfish

/-!
The bcrypt hash: a Blowfish key schedule repeated `2 ^ cost` times, then a fixed text encrypted with
the result. Hashes are written in an alphabet of 64 characters, six bits each.
-/

set_option autoImplicit false

namespace SocksGateway.Bcrypt

/-- A salt of nothing, for schedules that take none. -/
def noSalt : Array UInt8 := Array.replicate 16 0

/-- Alternating schedules with the password and the salt as keys. -/
def strengthened (password salt : Array UInt8) : (times : Nat) → Blowfish → Blowfish
  | 0, cipher => cipher
  | times + 1, cipher =>
    strengthened password salt times
      ((cipher.expand noSalt password).expand noSalt salt)

/-- Encrypts a block `times` times over. -/
def repeated (cipher : Blowfish) : (times : Nat) → (left right : UInt32) → UInt32 × UInt32
  | 0, left, right => (left, right)
  | times + 1, left, right =>
    let (left, right) := cipher.encrypt left right
    repeated cipher times left right

/-- The encrypted text: "OrpheanBeholderScryDoubt" in three blocks. -/
def plaintext : List (UInt32 × UInt32) :=
  [(0x4f727068, 0x65616e42), (0x65686f6c, 0x64657253), (0x63727944, 0x6f756274)]

def octetsOf (word : UInt32) : Bytes :=
  [(word >>> 24).toUInt8, (word >>> 16).toUInt8, (word >>> 8).toUInt8, word.toUInt8]

/-- What is hashed of a password: 72 octets of it and the zero octet that ends it. -/
def keyOf (password : Bytes) : Array UInt8 := ((password ++ [0]).take 72).toArray

/-- The 23 octets of a hash. -/
def digest (cost : Nat) (salt password : Bytes) : Bytes :=
  let key := keyOf password
  let saltOctets := salt.toArray
  let cipher := strengthened key saltOctets (Nat.pow 2 cost) (Blowfish.initial.expand saltOctets key)
  let blocks := plaintext.flatMap fun (left, right) =>
    let (left, right) := repeated cipher 64 left right
    octetsOf left ++ octetsOf right
  blocks.take 23

/-! ## The alphabet -/

/-- The character for six bits. -/
def letter (value : Nat) : Char :=
  if value = 0 then '.'
  else if value = 1 then '/'
  else if value < 28 then Char.ofNat (63 + value)
  else if value < 54 then Char.ofNat (69 + value)
  else Char.ofNat (value - 6)

/-- The six bits of a character. -/
def letterValue? (char : Char) : Option Nat :=
  let code := char.toNat
  if code = 46 then some 0
  else if code = 47 then some 1
  else if 65 ≤ code ∧ code ≤ 90 then some (code - 63)
  else if 97 ≤ code ∧ code ≤ 122 then some (code - 69)
  else if 48 ≤ code ∧ code ≤ 57 then some (code + 6)
  else none

/-- Three octets in four characters; a shorter rest takes one character more than it has octets. -/
def encode : Bytes → List Char
  | [] => []
  | [a] =>
    let bits := a.toNat * 16
    [letter (bits / 64), letter (bits % 64)]
  | [a, b] =>
    let bits := (a.toNat * 256 + b.toNat) * 4
    [letter (bits / 4096), letter (bits / 64 % 64), letter (bits % 64)]
  | a :: b :: c :: rest =>
    let bits := (a.toNat * 256 + b.toNat) * 256 + c.toNat
    letter (bits / 262144) :: letter (bits / 4096 % 64) :: letter (bits / 64 % 64)
      :: letter (bits % 64) :: encode rest

/-- The octets of a text in the alphabet. Bits left over at its end must be zero. -/
def decode? : List Char → Option Bytes
  | [] => some []
  | [_] => none
  | [p, q] => do
    let bits := (← letterValue? p) * 64 + (← letterValue? q)
    if bits % 16 ≠ 0 then none
    return [UInt8.ofNat (bits / 16)]
  | [p, q, r] => do
    let bits := ((← letterValue? p) * 64 + (← letterValue? q)) * 64 + (← letterValue? r)
    if bits % 4 ≠ 0 then none
    return [UInt8.ofNat (bits / 1024), UInt8.ofNat (bits / 4)]
  | p :: q :: r :: s :: rest => do
    let high := (← letterValue? p) * 64 + (← letterValue? q)
    let bits := (high * 64 + (← letterValue? r)) * 64 + (← letterValue? s)
    let following ← decode? rest
    return UInt8.ofNat (bits / 65536) :: UInt8.ofNat (bits / 256) :: UInt8.ofNat bits :: following

end SocksGateway.Bcrypt
