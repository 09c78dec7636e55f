import SocksGateway.Bcrypt.Hash

/-!
Password hashes as text: a version, a cost, a salt of 22 characters and a digest of 31, with dollar
signs between them.
-/

set_option autoImplicit false

namespace SocksGateway.Bcrypt

def isCost (cost : Nat) : Bool := 4 ≤ cost && cost ≤ 31

/-- A number with two digits at least. -/
def twoDigits (value : Nat) : String := if value < 10 then "0" ++ toString value else toString value

/-- The text of a new hash, if the cost is in bounds. -/
def hash? (cost : Nat) (salt password : Bytes) : Option String :=
  if isCost cost then
    some ("$2b$" ++ twoDigits cost ++ "$"
      ++ String.ofList (encode salt ++ encode (digest cost salt password)))
  else none

/-- The parts between dollar signs, empty ones left out. -/
def fields (text : String) : List (List Char) :=
  (text.toList.splitBy fun first second => (first == '$') == (second == '$')).filter
    fun part => part.head? != some '$'

/-- What a password is compared with. -/
structure Stored where
  cost : Nat
  salt : Bytes
  digest : Bytes
deriving DecidableEq, Repr

def versions : List (List Char) := [['2', 'y'], ['2', 'b'], ['2', 'a'], ['2', 'x']]

/-- A decimal number, which may have a plus sign. -/
def decimal? (chars : List Char) : Option Nat :=
  let digits := if chars.head? = some '+' then chars.drop 1 else chars
  if digits.isEmpty || !digits.all fun char => 48 ≤ char.toNat && char.toNat ≤ 57 then none
  else some (digits.foldl (fun total digit => total * 10 + (digit.toNat - 48)) 0)

/-- Reads the text of a hash. -/
def Stored.parse? (text : String) : Option Stored := do
  match fields text with
  | [version, cost, body] =>
    if !versions.contains version then none
    let cost ← decimal? cost
    if !isCost cost || body.length ≠ 53 then none
    let salt ← decode? (body.take 22)
    let digest ← decode? (body.drop 22)
    return { cost, salt, digest }
  | _ => none

/-- Whether the text is a usable hash, and of this password. -/
def verify (password : Bytes) (text : String) : Bool :=
  match Stored.parse? text with
  | some stored => digest stored.cost stored.salt password == stored.digest
  | none => false

end SocksGateway.Bcrypt
