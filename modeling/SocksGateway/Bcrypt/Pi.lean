/-!
The binary digits of π, by Machin's formula π = 16 arctan (1/5) - 4 arctan (1/239) in fixed-point
arithmetic.
-/

set_option autoImplicit false

namespace SocksGateway.Pi

/-- Sum of the terms `power / divisor`, with alternating signs: the power shrinks by `square` and
the divisor grows by two from term to term. -/
def alternating (square : Nat) : (fuel : Nat) → (power divisor : Nat) → Int
  | 0, _, _ => 0
  | fuel + 1, power, divisor =>
    if power = 0 then 0
    else (power / divisor : Nat) - alternating square fuel (power / square) (divisor + 2)

/-- The arctangent of `1 / inverse` in units of `1 / scale`, with an error of at most one unit for
each term. -/
def arctan (inverse scale : Nat) : Int :=
  alternating (inverse * inverse) scale.log2 (scale / inverse) 1

/-- Bits carried beyond the wanted ones, so that they come out exact. -/
def guardBits : Nat := 64

/-- The first `count` words of 32 bits after the binary point of π. -/
def words (count : Nat) : Array UInt32 :=
  let bits := 32 * count
  let scale := Nat.pow 2 (bits + guardBits)
  let pi := (16 * arctan 5 scale - 4 * arctan 239 scale).toNat
  let fraction := (pi % scale) >>> guardBits
  Array.ofFn fun position : Fin count =>
    UInt32.ofNat (fraction >>> (bits - 32 * (position.val + 1)))

end SocksGateway.Pi
