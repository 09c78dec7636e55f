import SocksGateway.Gss.Context

/-!
A security context by script: it expects given tokens in a given order, and protects messages by a
key that every octet is combined with.
-/

set_option autoImplicit false

namespace SocksGateway.Gss

/-- One token of a script. -/
structure Leg where
  expected : Bytes
  reply : Bytes
  /-- Whether the context is established with this token. -/
  isLast : Bool
deriving DecidableEq, Repr, Inhabited

/-- Combines each octet with the key; a wrapped message is repeated `count` times, and an empty one
is not unwrapped. -/
def Protection.masking (key : UInt8) (count : Nat) : Protection where
  wrap octets := some (List.replicate count (octets.map (· ^^^ key))).flatten
  unwrap octets := if octets = [] then none else some (octets.map (· ^^^ key))

/-- The context that takes the tokens of the legs, and no other. -/
def Context.ofLegs (principal : Option String) (protection : Protection) : List Leg → Context
  | [] => .awaiting (fun _ => []) fun _ => .refused
  | leg :: rest => .awaiting (fun _ => leg.reply) fun token =>
    if token = leg.expected then
      if leg.isLast then .established principal protection
      else ofLegs principal protection rest
    else .refused

end SocksGateway.Gss
