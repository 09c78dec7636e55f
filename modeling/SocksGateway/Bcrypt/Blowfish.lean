import SocksGateway.Bcrypt.Pi
import SocksGateway.Bytes

/-!
The Blowfish cipher with the key schedule that takes a salt.
-/

set_option autoImplicit false

namespace SocksGateway

/-- Subkeys and substitution boxes, the four boxes one behind the other. -/
structure Blowfish where
  subkeys : Array UInt32
  boxes : Array UInt32

namespace Blowfish

/-- The digits of π that fill the tables at first: 18 subkeys and four boxes of 256 words. -/
def digits : Array UInt32 := Pi.words 1042

def initial : Blowfish := ⟨digits.extract 0 18, digits.extract 18 1042⟩

/-- The round function. -/
def mix (cipher : Blowfish) (word : UInt32) : UInt32 :=
  let a := cipher.boxes.getD (word >>> 24).toNat 0
  let b := cipher.boxes.getD (256 + (word >>> 16 &&& 0xff).toNat) 0
  let c := cipher.boxes.getD (512 + (word >>> 8 &&& 0xff).toNat) 0
  let d := cipher.boxes.getD (768 + (word &&& 0xff).toNat) 0
  ((a + b) ^^^ c) + d

/-- Pairs of rounds from subkey `position` on. -/
def rounds (cipher : Blowfish) : (pairs position : Nat) → (left right : UInt32) → UInt32 × UInt32
  | 0, position, left, right =>
    (right ^^^ cipher.subkeys.getD (position + 1) 0, left ^^^ cipher.subkeys.getD position 0)
  | pairs + 1, position, left, right =>
    let left := left ^^^ cipher.subkeys.getD position 0
    let right := right ^^^ cipher.mix left
    let right := right ^^^ cipher.subkeys.getD (position + 1) 0
    let left := left ^^^ cipher.mix right
    rounds cipher pairs (position + 2) left right

/-- Sixteen rounds over one block. -/
def encrypt (cipher : Blowfish) (left right : UInt32) : UInt32 × UInt32 :=
  cipher.rounds 8 0 left right

/-- The word of four octets at `offset` of an endless repetition of the octets. -/
def cyclicWord (octets : Array UInt8) (offset : Nat) : UInt32 :=
  let octet (position : Nat) : UInt32 :=
    (octets.getD ((offset + position) % octets.size) 0).toUInt32
  octet 0 <<< 24 ||| octet 1 <<< 16 ||| octet 2 <<< 8 ||| octet 3

/-- Mixes a key into the subkeys. -/
def keyed (subkeys : Array UInt32) (key : Array UInt8) : Array UInt32 :=
  subkeys.mapIdx fun position subkey => subkey ^^^ cyclicWord key (4 * position)

/-- Replaces `count` pairs of subkeys from `position` on by a chain of encrypted blocks, into which
the words of `salt` are mixed. -/
def chainSubkeys (salt : Array UInt8) : (count position : Nat) → Blowfish → (left right : UInt32) →
    Blowfish × UInt32 × UInt32
  | 0, _, cipher, left, right => (cipher, left, right)
  | count + 1, position, cipher, left, right =>
    let saltLeft := cyclicWord salt (4 * position)
    let saltRight := cyclicWord salt (4 * position + 4)
    let (left, right) := cipher.encrypt (left ^^^ saltLeft) (right ^^^ saltRight)
    let ⟨subkeys, boxes⟩ := cipher
    let subkeys := (subkeys.setIfInBounds position left).setIfInBounds (position + 1) right
    chainSubkeys salt count (position + 2) ⟨subkeys, boxes⟩ left right

/-- The same for the boxes; the words of the salt go on where the subkeys left off. -/
def chainBoxes (salt : Array UInt8) : (count position : Nat) → Blowfish → (left right : UInt32) →
    Blowfish
  | 0, _, cipher, _, _ => cipher
  | count + 1, position, cipher, left, right =>
    let saltLeft := cyclicWord salt (4 * (18 + position))
    let saltRight := cyclicWord salt (4 * (18 + position) + 4)
    let (left, right) := cipher.encrypt (left ^^^ saltLeft) (right ^^^ saltRight)
    let ⟨subkeys, boxes⟩ := cipher
    let boxes := (boxes.setIfInBounds position left).setIfInBounds (position + 1) right
    chainBoxes salt count (position + 2) ⟨subkeys, boxes⟩ left right

/-- The key schedule: all subkeys and boxes are replaced. -/
def expand (salt key : Array UInt8) (cipher : Blowfish) : Blowfish :=
  let ⟨subkeys, boxes⟩ := cipher
  let (cipher, left, right) := chainSubkeys salt 9 0 ⟨keyed subkeys key, boxes⟩ 0 0
  chainBoxes salt 512 0 cipher left right

end Blowfish

end SocksGateway
